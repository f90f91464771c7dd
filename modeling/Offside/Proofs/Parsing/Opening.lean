import Offside.Proofs.Grammar.Opening
import Offside.Proofs.Parsing.Outcomes

namespace Offside

/-!
# Where a rule can fail

A rule fails at the place where it stands, and it never goes back.  So a rule that has taken
the token it has found in front of it can fail only behind that token, unless the nesting is
too deep for it.

What the grammar says of how an expression begins is true of every run.  It follows in front
of which tokens an expression is given up without looking any further, and in front of which
ones a `return` has no value.
-/

/-- The failure was raised by a parse that stood at the given place. -/
def Failure.RaisedAt (failure : Failure) (stream : TokenStream) : Prop :=
  ∃ progress : Progress, progress.stream = stream ∧
    ((∃ expected, failure = progress.unexpected expected) ∨
      ∃ kind part, failure = progress.missing kind part)

namespace Outcome

/-- Whatever has failed has failed at a place or further on, or it was nested too deeply. -/
def Blames (stream : TokenStream) (place : Nat) : Outcome → Prop
  | failed failure _ => failure.fault.isFatal = true ∨
    ∃ position, place ≤ position ∧ failure.RaisedAt (stream.moveTo position)
  | _ => True

/-- The current token was taken before anything could go wrong. -/
structure Enters (before : Progress) (outcome : Outcome) : Prop where
  blames : outcome.Blames before.stream (before.stream.position + 1)
  advances : outcome.Yields (fun after => before.stream.position < after.stream.position)
    fun after => before.stream.position < after.stream.position

/-- What comes of a rule is in keeping with how the rule begins.  The mark at the end of the
source is never taken. -/
def Begins (before : Progress) (outcome : Outcome) : Opening → Prop
  | .enters => before.stream.atEnd = false → outcome.Enters before
  | .refuses expected => ∃ failure, outcome = .failed failure before.diagnostics ∧
    (failure.fault.isFatal = true ∨ failure = before.unexpected expected)
  | .unknown => True

variable {stream : TokenStream} {place later : Nat} {before middle : Progress}
  {outcome : Outcome} {opening : Opening}

namespace Blames

theorem mono (blames : outcome.Blames stream later) (further : place ≤ later) :
    outcome.Blames stream place := by
  cases outcome with
  | failed failure diagnostics =>
      refine blames.imp_right ?_
      rintro ⟨position, beyond, raised⟩
      exact ⟨position, Nat.le_trans further beyond, raised⟩
  | _ => exact True.intro

/-- It does not matter where in the stream a parse has come to. -/
theorem of_course (course : before.Course middle)
    (blames : outcome.Blames middle.stream place) : outcome.Blames before.stream place := by
  rw [course.stream] at blames
  exact blames

theorem andThen {rest : Progress → Outcome} (courses : outcome.Courses before)
    (first : outcome.Blames before.stream before.stream.position)
    (second : ∀ middle, (rest middle).Blames middle.stream middle.stream.position) :
    (outcome.andThen rest).Blames before.stream before.stream.position := by
  cases outcome with
  | next middle => exact (of_course courses (second middle)).mono courses.position
  | leave after => exact True.intro
  | failed failure diagnostics => exact first

theorem map {change : Progress → Progress} (blames : outcome.Blames stream place) :
    (outcome.map change).Blames stream place := by
  cases outcome with
  | failed failure diagnostics => exact blames
  | _ => exact True.intro

theorem repeatRounds {round : Progress → Outcome}
    (courses : ∀ progress, (round progress).Courses progress)
    (each : ∀ progress, (round progress).Blames progress.stream progress.stream.position)
    (rounds : Nat) (progress : Progress) :
    (repeatRounds round rounds progress).Blames progress.stream
      progress.stream.position := by
  induction rounds generalizing progress with
  | zero => exact True.intro
  | succ rounds inductionHypothesis =>
      have course := courses progress
      have once := each progress
      unfold Offside.repeatRounds
      cases came : round progress with
      | next middle =>
          rw [came] at course
          exact (of_course course (inductionHypothesis middle)).mono course.position
      | leave after => exact True.intro
      | failed failure diagnostics =>
          rw [came] at once
          exact once

end Blames

theorem blames_unexpected (progress : Progress) (expected : List String) :
    (failed (progress.unexpected expected) progress.diagnostics).Blames progress.stream
      progress.stream.position :=
  .inr ⟨_, Nat.le_refl _, progress, rfl, .inl ⟨expected, rfl⟩⟩

theorem blames_charge (session : Session) (progress : Progress) :
    (progress.charge session).Blames progress.stream progress.stream.position := by
  unfold Progress.charge
  split
  · exact .inl rfl
  · exact True.intro

end Outcome

/-- By induction on the rule, with one case for each of its forms. -/
theorem Rule.run_blames {call : Surroundings → Nonterminal → Progress → Outcome}
    (courses : ∀ surroundings nonterminal progress,
      (call surroundings nonterminal progress).Courses progress)
    (calls : ∀ surroundings nonterminal progress,
      (call surroundings nonterminal progress).Blames progress.stream progress.stream.position)
    (rule : Rule) (surroundings : Surroundings) (progress : Progress) :
    (rule.run call surroundings progress).Blames progress.stream progress.stream.position := by
  induction rule generalizing surroundings progress with
  | seq first second one two =>
      exact .andThen (first.run_courses courses surroundings progress)
        (one surroundings progress) (two surroundings)
  | call nonterminal => exact calls surroundings nonterminal progress
  | node part kind rule inductionHypothesis =>
      exact (inductionHypothesis surroundings (progress.openNode kind)).map
  | choose condition yes no whenHeld otherwise =>
      unfold run
      split
      · exact whenHeld surroundings progress
      · exact otherwise surroundings progress
  | settle ambiguity first second either or =>
      have settled := Progress.Course.settle surroundings.session progress ambiguity
      unfold run
      dsimp only
      split
      · exact (Outcome.Blames.of_course settled (either surroundings _)).mono settled.position
      · exact (Outcome.Blames.of_course settled (or surroundings _)).mono settled.position
  | loop rule inductionHypothesis =>
      exact .repeatRounds (rule.run_courses courses surroundings)
        (inductionHypothesis surroundings) _ progress
  | nested rule inductionHypothesis =>
      exact (Outcome.Blames.andThen (progress.charge_courses surroundings.session)
        (Outcome.blames_charge surroundings.session progress)
        (inductionHypothesis surroundings)).map
  | chain rule inductionHypothesis => exact (inductionHypothesis surroundings progress).map
  | link => exact Outcome.blames_charge surroundings.session progress
  | withBraces allowed rule inductionHypothesis => exact inductionHypothesis _ progress
  | recover rule inductionHypothesis =>
      have inside := inductionHypothesis surroundings progress
      show (progress.recover (rule.run call surroundings progress)).Blames _ _
      cases came : rule.run call surroundings progress with
      | failed failure diagnostics =>
          unfold Progress.recover
          dsimp only
          split
          · rename_i fatal
            exact .inl fatal
          · exact True.intro
      | _ => exact True.intro
  | fail expected => exact Outcome.blames_unexpected progress expected
  | failMissing kind part =>
      exact .inr ⟨_, Nat.le_refl _, progress, rfl, .inr ⟨kind, part, rfl⟩⟩
  | _ => exact True.intro

theorem Nonterminal.run_blames (depth : Nat) (surroundings : Surroundings)
    (nonterminal : Nonterminal) (progress : Progress) :
    (Nonterminal.run depth surroundings nonterminal progress).Blames progress.stream
      progress.stream.position := by
  induction depth generalizing surroundings nonterminal progress with
  | zero => exact .inl rfl
  | succ depth inductionHypothesis =>
      exact Rule.run_blames (run_courses depth) inductionHypothesis nonterminal.rule
        surroundings progress

/-! ## How a rule begins -/

namespace Outcome.Begins

variable {outcome : Outcome} {before middle : Progress} {opening : Opening}

/-- What comes behind a rule can fail only further on. -/
theorem andThen {rest : Progress → Outcome} (courses : outcome.Courses before)
    (first : outcome.Begins before opening)
    (second : ∀ middle, (rest middle).Courses middle ∧
      (rest middle).Blames middle.stream middle.stream.position) :
    (outcome.andThen rest).Begins before opening := by
  cases opening with
  | enters =>
      intro inside
      have entered := first inside
      cases outcome with
      | next middle =>
          have moved : before.stream.position < middle.stream.position := entered.advances
          refine ⟨(Blames.of_course courses (second middle).2).mono moved, ?_⟩
          have onward := (second middle).1
          show (rest middle).Yields _ _
          cases came : rest middle with
          | next after =>
              rw [came] at onward
              exact Nat.lt_of_lt_of_le moved onward.position
          | leave after =>
              rw [came] at onward
              exact Nat.lt_of_lt_of_le moved onward.position
          | failed failure diagnostics => exact True.intro
      | leave after => exact entered
      | failed failure diagnostics => exact entered
  | refuses expected =>
      rcases first with ⟨failure, rfl, refused⟩
      exact ⟨failure, rfl, refused⟩
  | unknown => exact True.intro

/-- A change behind a rule that does not go back. -/
theorem map {change : Progress → Progress} (begins : outcome.Begins before opening)
    (same : ∀ after, (change after).stream = after.stream) :
    (outcome.map change).Begins before opening := by
  cases opening with
  | enters =>
      intro inside
      have entered := begins inside
      refine ⟨entered.blames.map, entered.advances.map (fun after moved => ?_)
        fun after moved => ?_⟩
      · rw [same]
        exact moved
      · rw [same]
        exact moved
  | refuses expected =>
      rcases begins with ⟨failure, rfl, refused⟩
      exact ⟨failure, rfl, refused⟩
  | unknown => exact True.intro

/-- What is built and how much is charged does not matter. -/
theorem of_same (begins : outcome.Begins middle opening)
    (stream : middle.stream = before.stream)
    (diagnostics : middle.diagnostics = before.diagnostics) :
    outcome.Begins before opening := by
  cases opening with
  | enters =>
      intro inside
      rw [← stream] at inside
      have entered := begins inside
      exact ⟨stream ▸ entered.blames, stream ▸ entered.advances⟩
  | refuses expected =>
      rcases begins with ⟨failure, rfl, refused⟩
      refine ⟨failure, by rw [diagnostics], refused.imp_right fun same => ?_⟩
      rw [same]
      unfold Progress.unexpected
      rw [stream]
  | unknown => exact True.intro

/-- Where the nesting is too deep, nothing begins. -/
theorem of_fatal {failure : Failure} (fatal : failure.fault.isFatal = true) :
    (failed failure before.diagnostics).Begins before opening := by
  cases opening with
  | enters => exact fun _ => ⟨.inl fatal, True.intro⟩
  | refuses expected => exact ⟨failure, rfl, .inl fatal⟩
  | unknown => exact True.intro

end Outcome.Begins

/-- By induction on the rule, with one case for each form of which something is said. -/
theorem Rule.run_begins {call : Surroundings → Nonterminal → Progress → Outcome}
    (courses : ∀ surroundings nonterminal progress,
      (call surroundings nonterminal progress).Courses progress)
    (blames : ∀ surroundings nonterminal progress,
      (call surroundings nonterminal progress).Blames progress.stream progress.stream.position)
    (calls : ∀ surroundings nonterminal progress,
      (call surroundings nonterminal progress).Begins progress
        (nonterminal.opening progress.stream.kind))
    (rule : Rule) (surroundings : Surroundings) (progress : Progress) :
    (rule.run call surroundings progress).Begins progress (rule.opening progress.stream) := by
  induction rule generalizing surroundings progress with
  | seq first second one two =>
      exact .andThen (first.run_courses courses surroundings progress)
        (one surroundings progress) fun middle =>
          ⟨second.run_courses courses surroundings middle,
            second.run_blames courses blames surroundings middle⟩
  | take =>
      intro inside
      refine ⟨True.intro, ?_⟩
      show progress.stream.position < progress.stream.advance.position
      rw [TokenStream.advance_eq_moveTo inside]
      exact Nat.lt_succ_self _
  | call nonterminal => exact calls surroundings nonterminal progress
  | node part kind rule inductionHypothesis =>
      have inside : (rule.run call surroundings (progress.openNode kind)).Begins progress
          (rule.opening progress.stream) :=
        (inductionHypothesis surroundings (progress.openNode kind)).of_same rfl rfl
      exact inside.map fun _ => rfl
  | choose condition yes no whenHeld otherwise =>
      cases condition with
      | ahead test =>
          unfold run opening
          show (if test progress.stream = true then _ else _ : Outcome).Begins progress _
          split
          · exact whenHeld surroundings progress
          · exact otherwise surroundings progress
      | first test => exact True.intro
      | bracesAllowed => exact True.intro
  | settle ambiguity first second either or =>
      have same := Progress.stream_settle surroundings.session progress ambiguity
      have eitherBegins := either surroundings (progress.settle surroundings.session ambiguity).2
      have orBegins := or surroundings (progress.settle surroundings.session ambiguity).2
      rw [same] at eitherBegins orBegins
      unfold opening
      split
      · rename_i both
        rw [both.1] at eitherBegins
        rw [both.2] at orBegins
        intro inside
        rw [← same] at inside
        have entered : (run call (.settle ambiguity first second) surroundings progress).Enters
            (progress.settle surroundings.session ambiguity).2 := by
          unfold run
          dsimp only
          split
          · exact eitherBegins inside
          · exact orBegins inside
        refine ⟨?_, ?_⟩
        · rw [← same]
          exact entered.blames
        · rw [← same]
          exact entered.advances
      · exact True.intro
  | nested rule inductionHypothesis =>
      unfold run Progress.charge
      dsimp only
      split
      · exact .of_fatal rfl
      · have inside : (rule.run call surroundings
            { progress with depth := progress.depth + 1 }).Begins progress
              (rule.opening progress.stream) :=
          (inductionHypothesis surroundings _).of_same rfl rfl
        exact inside.map fun _ => rfl
  | chain rule inductionHypothesis =>
      exact (inductionHypothesis surroundings progress).map fun _ => rfl
  | withBraces allowed rule inductionHypothesis => exact inductionHypothesis _ progress
  | fail expected => exact ⟨_, rfl, .inr rfl⟩
  | _ => exact True.intro

/-- A nonterminal begins as its kinds of tokens tell.  By induction on the number of
nonterminals that may be open. -/
theorem Nonterminal.run_begins (depth : Nat) (surroundings : Surroundings)
    (nonterminal : Nonterminal) (progress : Progress) :
    (Nonterminal.run depth surroundings nonterminal progress).Begins progress
      (nonterminal.opening progress.stream.kind) := by
  induction depth generalizing surroundings nonterminal progress with
  | zero => exact .of_fatal rfl
  | succ depth inductionHypothesis =>
      have begins := Rule.run_begins (run_courses depth) (run_blames depth)
        inductionHypothesis nonterminal.rule surroundings progress
      cases known : nonterminal.opening progress.stream.kind with
      | unknown => exact True.intro
      | _ =>
          rw [← known, ← nonterminal.opening_rule _ (by rw [known]; exact nofun)]
          exact begins

/-! ## Returning nothing -/

namespace Outcome

/-- The rule is done at a place and has reported nothing, unless it was nested too deeply. -/
def Passes (stream : TokenStream) (diagnostics : Array Diagnostic) : Outcome → Prop
  | next after => after.stream = stream ∧ after.diagnostics = diagnostics
  | leave _ => False
  | failed failure reports => failure.fault.isFatal = true ∧ reports = diagnostics

/-- The rule was given up at a place, unless it was nested too deeply. -/
def Fails (stream : TokenStream) : Outcome → Prop
  | failed failure _ => failure.fault.isFatal = true ∨ failure.RaisedAt stream
  | _ => False

variable {outcome : Outcome} {stream : TokenStream} {diagnostics : Array Diagnostic}
  {change : Progress → Progress}

theorem Passes.map (passes : outcome.Passes stream diagnostics)
    (same : ∀ after, (change after).stream = after.stream ∧
      (change after).diagnostics = after.diagnostics) :
    (outcome.map change).Passes stream diagnostics := by
  cases outcome with
  | next after => exact ⟨(same after).1.trans passes.1, (same after).2.trans passes.2⟩
  | leave after => exact passes
  | failed failure reports => exact passes

theorem Fails.map (fails : outcome.Fails stream) : (outcome.map change).Fails stream := by
  cases outcome with
  | failed failure reports => exact fails
  | _ => exact fails.elim

theorem Fails.andThen (fails : outcome.Fails stream) (rest : Progress → Outcome) :
    (outcome.andThen rest).Fails stream := by
  cases outcome with
  | failed failure reports => exact fails
  | _ => exact fails.elim

end Outcome

namespace Rule

variable (call : Surroundings → Nonterminal → Progress → Outcome) (surroundings : Surroundings)
  (progress : Progress)

/-- Of a choice the first alternative is run whose condition holds. -/
theorem run_cases (front : List (Condition × Rule)) {back : List (Condition × Rule)}
    {condition : Condition} {rule otherwise : Rule}
    (skipped : ∀ alternative ∈ front, alternative.1.holds surroundings progress = false)
    (met : condition.holds surroundings progress = true) :
    (cases (front ++ (condition, rule) :: back) otherwise).run call surroundings progress =
      rule.run call surroundings progress := by
  induction front with
  | nil => exact if_pos met
  | cons alternative front inductionHypothesis =>
      rw [List.forall_mem_cons] at skipped
      refine Eq.trans (if_neg ?_) (inductionHypothesis skipped.2)
      rw [skipped.1]
      exact Bool.false_ne_true

variable (atReturn : progress.stream.kind = .keyword .returnKw)
include atReturn

theorem run_keyword_return :
    (keyword .returnKw).run call surroundings progress = .next progress.take := by
  refine if_pos ?_
  show progress.stream.kind.isKeyword .returnKw = true
  rw [atReturn]
  rfl

theorem run_expressionStart_return : (expressionStart .anywhere).run call surroundings
    progress = returnExpression.run call surroundings progress := by
  refine run_cases call surroundings progress controlForms ?_ ?_
  · simp [controlForms, Condition.atKeyword, Condition.holds, TokenStream.isAtKeyword, atReturn,
      TokenKind.isKeyword]
  · simp [Condition.atKeyword, Condition.holds, TokenStream.isAtKeyword, atReturn,
      TokenKind.isKeyword]

/-- Without a value there is only the keyword. -/
theorem run_returnExpression (bare : progress.stream.advance.kind.startsExpression = false) :
    returnExpression.run call surroundings progress =
      .next ((progress.openNode .returnExpression).take.closeNode progress.builder none) := by
  have word := run_keyword_return call surroundings (progress.openNode .returnExpression)
    atReturn
  have nothing : (Condition.atKind TokenKind.startsExpression).holds surroundings
      (progress.openNode .returnExpression).take = false := bare
  simp [returnExpression, inOrder, Rule.optional, run, word, nothing, Outcome.andThen,
    Outcome.map]

/-- Nothing continues a `return`. -/
theorem run_chain_return (fresh : progress.builder = .new .blockItems)
    (bare : progress.stream.advance.kind.startsExpression = false) :
    (inOrder [expressionStart .anywhere,
        loop (inOrder [expressionStep .anywhere, link])]).run call surroundings progress =
      .next ((progress.openNode .returnExpression).take.closeNode progress.builder none) := by
  have started := (run_expressionStart_return call surroundings progress atReturn).trans
    (run_returnExpression call surroundings progress atReturn bare)
  have closed : (builtClass [.closed]).holds surroundings
      ((progress.openNode .returnExpression).take.closeNode progress.builder none) = true := by
    rw [fresh]
    rfl
  simp [inOrder, run, started, repeatRounds, expressionStep, closed, Outcome.andThen]

/-- By itself a `return` is an expression. -/
theorem run_operators_return (bare : progress.stream.advance.kind.startsExpression = false) :
    ((operators .anywhere).run call surroundings progress).Passes progress.stream.advance
      progress.diagnostics := by
  unfold operators run Progress.charge
  dsimp only
  split
  · exact ⟨rfl, rfl⟩
  · have inside := run_chain_return call surroundings
      (Progress.openNode { progress with depth := progress.depth + 1 } .blockItems)
      atReturn rfl bare
    refine Outcome.Passes.map (Outcome.Passes.map ?_ fun _ => ⟨rfl, rfl⟩) fun _ => ⟨rfl, rfl⟩
    rw [inside]
    exact ⟨rfl, rfl⟩

/-- What passes for a value is read as one, and there is none. -/
theorem run_expressionStart_misled
    (feigns : progress.stream.advance.kind.feignsExpression = true)
    (begins : ∀ progress, (call surroundings .expression progress).Begins progress
      (Nonterminal.expression.opening progress.stream.kind)) :
    ((expressionStart .anywhere).run call surroundings progress).Fails
      progress.stream.advance := by
  have word := run_keyword_return call surroundings (progress.openNode .returnExpression)
    atReturn
  have something : (Condition.atKind TokenKind.startsExpression).holds surroundings
      (progress.openNode .returnExpression).take = true := by
    show progress.stream.advance.kind.startsExpression = true
    rw [TokenKind.startsExpression_eq, feigns, Bool.or_true]
  have value := begins (progress.openNode .returnExpression).take
  rw [show (progress.openNode .returnExpression).take.stream.kind =
    progress.stream.advance.kind from rfl, Nonterminal.opening_of_feigns feigns] at value
  rcases value with ⟨failure, came, blamed⟩
  have raised : failure.fault.isFatal = true ∨ failure.RaisedAt progress.stream.advance :=
    blamed.imp_right fun same => ⟨_, rfl, .inl ⟨_, same⟩⟩
  rw [run_expressionStart_return call surroundings progress atReturn]
  simpa [returnExpression, inOrder, Rule.optional, run, word, something, came,
    Outcome.andThen, Outcome.map, Outcome.Fails] using raised

theorem run_operators_misled
    (feigns : progress.stream.advance.kind.feignsExpression = true)
    (begins : ∀ progress, (call surroundings .expression progress).Begins progress
      (Nonterminal.expression.opening progress.stream.kind)) :
    ((operators .anywhere).run call surroundings progress).Fails progress.stream.advance := by
  unfold operators run Progress.charge
  dsimp only
  split
  · exact .inl rfl
  · have inside := run_expressionStart_misled call surroundings
      (Progress.openNode { progress with depth := progress.depth + 1 } .blockItems) atReturn feigns
      begins
    exact (inside.andThen _).map.map

end Rule

/-- How the token in front of an expression decides what comes of it. -/
structure Outcome.FollowsFirstToken (before : Progress) (outcome : Outcome) : Prop where
  done : ∀ after, outcome = .next after → before.stream.kind.startsExpression = true
  enters : before.stream.kind.startsExpression = true →
    before.stream.kind.feignsExpression = false → outcome.Enters before
  fails : before.stream.kind.feignsExpression = true → outcome.Fails before.stream
  /-- Where nothing passes for a value, a `return` has none. -/
  bare : before.stream.kind = .keyword .returnKw →
    before.stream.advance.kind.startsExpression = false →
      outcome.Passes before.stream.advance before.diagnostics
  misled : before.stream.kind = .keyword .returnKw →
    before.stream.advance.kind.feignsExpression = true → outcome.Fails before.stream.advance

/-- Every token that an expression begins with passes for the beginning of one.  A token that
passes for it is taken before anything can go wrong, unless it is the sign of an annotation
or one of a few keywords, in front of which every expression is given up.  A `return` by
itself is an expression where nothing that follows passes for the beginning of one, and it is
given up where one of these tokens follows. -/
theorem expression_first_token (depth : Nat) (surroundings : Surroundings)
    (progress : Progress) :
    (Nonterminal.run depth surroundings .expression progress).FollowsFirstToken progress := by
  have begins := Nonterminal.run_begins depth surroundings .expression progress
  refine ⟨fun after came => ?_, fun starts other => ?_, fun feigns => ?_,
    fun atReturn bare => ?_, fun atReturn feigns => ?_⟩
  · by_cases first : progress.stream.kind.beginsExpression = true
    · rw [TokenKind.startsExpression_eq, first, Bool.true_or]
    · rw [show Nonterminal.expression.opening progress.stream.kind = .refuses ["expression"] from
        if_neg first] at begins
      rcases begins with ⟨failure, failed, _⟩
      cases came.symm.trans failed
  · rw [TokenKind.startsExpression_eq, other, Bool.or_false] at starts
    rw [Nonterminal.opening_of_begins starts] at begins
    refine begins ?_
    cases atEnd : progress.stream.atEnd with
    | false => rfl
    | true =>
        rw [show progress.stream.kind = .endOfFile from beq_iff_eq.mp atEnd] at starts
        cases starts
  · rw [Nonterminal.opening_of_feigns feigns] at begins
    rcases begins with ⟨failure, failed, blamed⟩
    rw [failed]
    exact blamed.imp_right fun same => ⟨progress, rfl, .inl ⟨_, same⟩⟩
  · match depth with
    | 0 | 1 => exact ⟨rfl, rfl⟩
    | depth + 2 =>
        exact (Rule.run_operators_return (Nonterminal.run depth) surroundings
          (progress.openNode .expression) atReturn bare).map fun _ => ⟨rfl, rfl⟩
  · match depth with
    | 0 | 1 => exact .inl rfl
    | depth + 2 =>
        exact (Rule.run_operators_misled (Nonterminal.run depth) surroundings
          (progress.openNode .expression) atReturn feigns
          (Nonterminal.run_begins depth surroundings .expression)).map

/-- The definition on the next line is taken for the value of the `return`. -/
example : ((parse "def f() = \x7b\n  return\n  let x = 1\n  x\n\x7d\n"
    .default).diagnostics.map Diagnostic.span) = [⟨23, 26⟩] := by decide +kernel

end Offside
