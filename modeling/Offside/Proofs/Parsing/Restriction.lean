import Offside.Proofs.Parsing.Braces
import Offside.Text.XidStart

namespace Offside

/-!
# Restricted parses

In the subject of a `match` a parse is restricted: a group in curly brackets is not taken
for an argument.  A restricted parse and a free one that begin alike go on alike until the
free one takes such a group for an argument.  From there on the free parse gives itself
away, because the call that it has built lies open in its tree, unless something has been
reported in the meantime or has ended up in faulty input.

What stands in brackets of its own is parsed freely in both cases.
-/

/-! ## Rules that never ask -/

/-- By induction on the rule, with one case for each of its forms. -/
theorem Rule.run_indifferent (call : Surroundings → Nonterminal → Progress → Outcome)
    {rule : Rule} (indifferent : rule.indifferent = true) (session : Session)
    (allowed other : Bool) (progress : Progress) :
    rule.run call ⟨session, allowed⟩ progress = rule.run call ⟨session, other⟩ progress := by
  induction rule generalizing progress with
  | seq first second one two =>
      rcases Bool.and_eq_true_iff.mp indifferent with ⟨former, latter⟩
      unfold run
      rw [one former, funext (two latter)]
  | call nonterminal => cases indifferent
  | node part kind rule inductionHypothesis =>
      unfold run
      rw [inductionHypothesis indifferent]
  | choose condition yes no whenHeld otherwise =>
      cases condition with
      | bracesAllowed => cases indifferent
      | _ =>
          rcases Bool.and_eq_true_iff.mp indifferent with ⟨former, latter⟩
          unfold run
          rw [whenHeld former, otherwise latter]
          rfl
  | settle ambiguity first second either or =>
      rcases Bool.and_eq_true_iff.mp indifferent with ⟨former, latter⟩
      unfold run
      dsimp only
      rw [either former, or latter]
  | loop rule inductionHypothesis =>
      unfold run
      rw [funext (inductionHypothesis indifferent)]
  | nested rule inductionHypothesis =>
      unfold run
      dsimp only
      rw [funext (inductionHypothesis indifferent)]
  | chain rule inductionHypothesis =>
      unfold run
      dsimp only
      rw [inductionHypothesis indifferent]
  | recover rule inductionHypothesis =>
      unfold run
      rw [inductionHypothesis indifferent]
  | _ => rfl

/-! ## Parses that go on alike -/

/-- A parse has given itself away since some point: something was reported, or faulty input
or a call with an argument in curly brackets lies open in what it has built. -/
def Progress.GivesAway (before after : Progress) : Prop :=
  after.builder.Exposes ∨ before.diagnostics.size < after.diagnostics.size

variable {before middle after : Progress} in
theorem Progress.GivesAway.of_continues (continues : before.Continues middle)
    (gives : middle.GivesAway after) : before.GivesAway after :=
  gives.imp_right (Nat.lt_of_le_of_lt continues.reports)

/-- What gives itself away inside of a node does so around it. -/
theorem Progress.GivesAway.closeNode {progress inner : Progress} {kind : NodeKind}
    (lies : kind.encloses = false)
    (upholds : (progress.openNode kind).builder.Upholds inner.builder false)
    (gives : (progress.openNode kind).GivesAway inner) (part : Option FieldName) :
    progress.GivesAway (inner.closeNode progress.builder part) := by
  refine gives.imp_left fun exposes => exposes_closeNode exposes ?_ progress.builder part
  rcases upholds.kind with same | changed
  · rw [same]
    exact lies
  · exact changed.2

/-- Faulty input in place of what was given up is there to be seen, unless something was
reported. -/
theorem Progress.givesAway_addFaulty {before : Progress} {failure : Failure}
    {diagnostics : Array Diagnostic} (reports : before.diagnostics.size ≤ diagnostics.size)
    (ended : before.stream.atEnd = true → failure.reported = false) :
    before.GivesAway (before.restarted failure diagnostics).addFaulty := by
  cases reported : failure.reported with
  | false =>
      refine .inr ?_
      rw [diagnostics_addFaulty, size_restarted diagnostics reported]
      exact Nat.lt_succ_of_le reports
  | true =>
      refine .inl (exposes_addFaulty ?_)
      rw [stream_restarted]
      simpa [reported] using ended

namespace Outcome

/-- What comes of a rule gives itself away, or else there is nothing left to be seen. -/
abbrev GivesAway (before : Progress) (outcome : Outcome) : Prop :=
  outcome.Yields before.GivesAway before.GivesAway

/-- A restricted parse has come to the same as a free one, or the free one has given itself
away. -/
def GoesAlike (before : Progress) (restricted free : Outcome) : Prop :=
  restricted = free ∨ free.GivesAway before

variable {before middle : Progress} {rule : Rule} {restricted free outcome : Outcome}
  {fixed : Bool}

theorem GivesAway.of_continues (continues : before.Continues middle)
    (gives : outcome.GivesAway middle) : outcome.GivesAway before :=
  gives.mono (fun _ => .of_continues continues) fun _ => .of_continues continues

/-- What has given itself away once does so for good. -/
theorem GivesAway.onward (gives : before.GivesAway middle)
    (continues : outcome.Continues middle rule) (upholds : outcome.Upholds middle.builder fixed) :
    outcome.GivesAway before := by
  have further : ∀ after : Progress, middle.Continues after →
      middle.builder.Upholds after.builder fixed → before.GivesAway after := by
    intro after onward kept
    rcases gives with exposes | reported
    · exact .inl (kept.exposes exposes)
    · exact .inr (Nat.lt_of_lt_of_le reported onward.reports)
  cases outcome with
  | next after => exact further after continues upholds
  | leave after => exact further after continues.2 upholds
  | failed failure diagnostics => exact True.intro

namespace GoesAlike

theorem of_continues (continues : before.Continues middle)
    (alike : GoesAlike middle restricted free) : GoesAlike before restricted free :=
  alike.imp_right (GivesAway.of_continues continues)

theorem andThen {rest other : Progress → Outcome} {second : Rule}
    (once : GoesAlike before restricted free) (continues : free.Continues before rule)
    (further : ∀ middle, GoesAlike middle (rest middle) (other middle))
    (continuesThere : ∀ middle, (other middle).Continues middle second)
    (upholdsThere : ∀ middle, (other middle).Upholds middle.builder fixed) :
    GoesAlike before (restricted.andThen rest) (free.andThen other) := by
  rcases once with rfl | gives
  · cases restricted with
    | next middle => exact of_continues continues (further middle)
    | leave after => exact .inl rfl
    | failed failure diagnostics => exact .inl rfl
  · refine .inr ?_
    cases free with
    | next middle => exact .onward gives (continuesThere middle) (upholdsThere middle)
    | leave after => exact gives
    | failed failure diagnostics => exact True.intro

theorem map {change : Progress → Progress} (alike : GoesAlike middle restricted free)
    (changes : ∀ after, middle.GivesAway after → before.GivesAway (change after)) :
    GoesAlike before (restricted.map change) (free.map change) := by
  rcases alike with rfl | gives
  · exact .inl rfl
  · exact .inr (gives.map changes changes)

theorem repeatRounds {round other : Progress → Outcome}
    (alike : ∀ progress, GoesAlike progress (round progress) (other progress))
    (continues : ∀ progress, (other progress).Continues progress rule)
    (upholds : ∀ progress, (other progress).Upholds progress.builder fixed) (rounds : Nat)
    (progress : Progress) :
    GoesAlike progress (repeatRounds round rounds progress)
      (repeatRounds other rounds progress) := by
  induction rounds generalizing progress with
  | zero => exact .inl rfl
  | succ rounds inductionHypothesis =>
      have once := alike progress
      have onward := continues progress
      unfold Offside.repeatRounds
      cases came : other progress with
      | next middle =>
          rw [came] at once onward
          rcases once with same | gives
          · rw [same]
            exact of_continues onward (inductionHypothesis middle)
          · exact .inr (.onward gives
              (Continues.repeatRounds continues rounds middle : Continues middle .done _)
              (upholds_repeatRounds upholds rounds middle))
      | leave after =>
          rw [came] at once
          rcases once with same | gives
          · exact .inl (by rw [same])
          · exact .inr gives
      | failed failure diagnostics => exact .inr True.intro

theorem recover (alike : GoesAlike before restricted free)
    (continues : free.Continues before rule) :
    GoesAlike before (before.recover restricted) (before.recover free) := by
  rcases alike with rfl | gives
  · exact .inl rfl
  · refine .inr ?_
    cases free with
    | failed failure diagnostics =>
        unfold Progress.recover
        dsimp only
        split
        · exact True.intro
        · exact Progress.givesAway_addFaulty continues.1 continues.2
    | _ => exact gives

end GoesAlike
end Outcome

/-- By induction on the rule, with one case for each of its forms. -/
theorem Rule.run_alike {call : Surroundings → Nonterminal → Progress → Outcome}
    (calls : OpenCalls call)
    (alike : ∀ session nonterminal progress, Outcome.GoesAlike progress
      (call ⟨session, false⟩ nonterminal progress) (call ⟨session, true⟩ nonterminal progress))
    {rule : Rule} (upholds : rule.upholds false = true) (guarded : rule.guarded = true)
    (session : Session) (progress : Progress) :
    Outcome.GoesAlike progress (rule.run call ⟨session, false⟩ progress)
      (rule.run call ⟨session, true⟩ progress) := by
  have continues := fun (rule : Rule) (progress : Progress) =>
    rule.run_continues calls.continues ⟨session, true⟩ progress
  have upheld := fun {rule : Rule} (upholds : rule.upholds false = true) (progress : Progress) =>
    run_upholds calls.upholds upholds ⟨session, true⟩ progress
  induction rule generalizing progress with
  | seq first second one two =>
      rcases Bool.and_eq_true_iff.mp upholds with ⟨upholdsFirst, upholdsSecond⟩
      rcases Bool.and_eq_true_iff.mp guarded with ⟨guardedFirst, guardedSecond⟩
      exact .andThen (one upholdsFirst guardedFirst progress) (continues first progress)
        (two upholdsSecond guardedSecond) (continues second) (upheld upholdsSecond)
  | call nonterminal => exact alike session nonterminal progress
  | node part kind rule inductionHypothesis =>
      rcases Bool.or_eq_true_iff.mp guarded with never | asks
      · have indifferent : (node part kind rule).indifferent = true := never
        exact .inl (run_indifferent call indifferent session false true progress)
      · rcases Bool.and_eq_true_iff.mp asks with ⟨both, guardedInside⟩
        rcases Bool.and_eq_true_iff.mp both with ⟨apart, upholdsInside⟩
        have lies : kind.encloses = false := by simpa using apart
        have built := upheld upholdsInside (progress.openNode kind)
        unfold run
        dsimp only
        rcases inductionHypothesis upholdsInside guardedInside (progress.openNode kind) with
          same | gives
        · exact .inl (by rw [same])
        · refine .inr ?_
          cases came : rule.run call ⟨session, true⟩ (progress.openNode kind) with
          | next inner =>
              rw [came] at gives built
              exact gives.closeNode lies built part
          | leave inner =>
              rw [came] at gives built
              exact gives.closeNode lies built part
          | failed failure diagnostics => exact True.intro
  | choose condition yes no whenHeld otherwise =>
      rcases Bool.and_eq_true_iff.mp upholds with ⟨upholdsYes, upholdsNo⟩
      cases condition with
      | bracesAllowed =>
          exact .inr ((run_callsWithBraces calls guarded ⟨session, true⟩ progress).mono
            (fun _ => .inl) fun _ => False.elim)
      | _ =>
          rcases Bool.and_eq_true_iff.mp guarded with ⟨guardedYes, guardedNo⟩
          unfold run Condition.holds
          dsimp only
          split
          · exact whenHeld upholdsYes guardedYes progress
          · exact otherwise upholdsNo guardedNo progress
  | settle ambiguity first second either or =>
      rcases Bool.and_eq_true_iff.mp upholds with ⟨upholdsFirst, upholdsSecond⟩
      rcases Bool.and_eq_true_iff.mp guarded with ⟨guardedFirst, guardedSecond⟩
      have settled := Progress.Continues.settle session progress ambiguity
      unfold run
      dsimp only
      split
      · exact .of_continues settled (either upholdsFirst guardedFirst _)
      · exact .of_continues settled (or upholdsSecond guardedSecond _)
  | loop rule inductionHypothesis =>
      exact .repeatRounds (inductionHypothesis upholds guarded) (continues rule)
        (upheld upholds) _ progress
  | nested rule inductionHypothesis =>
      unfold run Progress.charge
      dsimp only
      split
      · exact .inl rfl
      · have inside := inductionHypothesis upholds guarded
          { progress with depth := progress.depth + 1 }
        exact inside.map fun _ => id
  | chain rule inductionHypothesis =>
      exact (inductionHypothesis upholds guarded progress).map fun _ => id
  | recover rule inductionHypothesis =>
      exact (inductionHypothesis upholds guarded progress).recover (continues rule progress)
  | _ => exact .inl rfl

/-- By induction on the number of nonterminals that may be open. -/
theorem Nonterminal.run_alike (depth : Nat) (session : Session) (nonterminal : Nonterminal)
    (progress : Progress) :
    Outcome.GoesAlike progress (Nonterminal.run depth ⟨session, false⟩ nonterminal progress)
      (Nonterminal.run depth ⟨session, true⟩ nonterminal progress) := by
  induction depth generalizing session nonterminal progress with
  | zero => exact .inl rfl
  | succ depth inductionHypothesis =>
      exact Rule.run_alike (run_openCalls depth) inductionHypothesis
        (nonterminal.rule_upholds false) nonterminal.rule_guarded session progress

/-- A nonterminal whose rule never asks comes to the same in restricted and in free parses. -/
theorem Nonterminal.run_indifferent {nonterminal : Nonterminal}
    (indifferent : nonterminal.rule.indifferent = true) (depth : Nat) (session : Session)
    (progress : Progress) :
    Nonterminal.run depth ⟨session, false⟩ nonterminal progress =
      Nonterminal.run depth ⟨session, true⟩ nonterminal progress := by
  cases depth with
  | zero => rfl
  | succ depth => exact Rule.run_indifferent _ indifferent session false true progress

theorem Outcome.map_eq_next {outcome : Outcome} {change : Progress → Progress} {after : Progress}
    (came : outcome.map change = .next after) :
    ∃ inner, outcome = .next inner ∧ change inner = after := by
  cases outcome with
  | next inner => exact ⟨inner, rfl, Outcome.next.inj came⟩
  | leave inner => cases came
  | failed failure diagnostics => cases came

/-- A node that is read without a report in a free parse is the same one in a restricted parse,
unless it gives itself away. -/
theorem Rule.run_node_alike {depth : Nat} {session : Session} {progress after : Progress}
    {kind : NodeKind} {rule : Rule} (lies : kind.encloses = false)
    (upholds : ∀ fixed, rule.upholds fixed = true) (guarded : rule.guarded = true)
    (came : (node none kind rule).run (Nonterminal.run depth) ⟨session, true⟩ progress =
      .next after)
    (quiet : after.diagnostics = progress.diagnostics) :
    ∃ inner : Node, inner.kind = kind ∧ after.builder = progress.builder.push inner ∧
      (inner.exposes = false →
        (node none kind rule).run (Nonterminal.run depth) ⟨session, false⟩ progress =
          .next after) := by
  have upheld := run_upholds (Nonterminal.run_upholds depth) (upholds true) ⟨session, true⟩
    (progress.openNode kind)
  have alike := run_alike (Nonterminal.run_openCalls depth) (Nonterminal.run_alike depth)
    (upholds false) guarded session (progress.openNode kind)
  unfold run at came ⊢
  dsimp only at came ⊢
  rcases Outcome.map_eq_next came with ⟨inner, inside, rfl⟩
  rw [inside] at upheld alike
  have same : inner.builder.finish.kind = kind := upheld.kind_eq
  refine ⟨inner.builder.finish, same, rfl, fun covered => ?_⟩
  rcases alike with equal | exposes | reported
  · rw [equal]
    rfl
  · have shown : inner.builder.finish.exposes = true :=
      Node.exposes_of_children (by rw [same, lies]) exposes
    rw [covered] at shown
    cases shown
  · exact absurd (congrArg Array.size quiet) (Nat.ne_of_gt reported)

theorem Nonterminal.run_templateBody {depth : Nat} {session : Session} {progress after : Progress}
    (came : Nonterminal.run depth ⟨session, true⟩ .templateBody progress = .next after)
    (quiet : after.diagnostics = progress.diagnostics) :
    ∃ body : Node, body.kind = .templateBody ∧ after.builder = progress.builder.push body ∧
      (body.exposes = false →
        Nonterminal.run depth ⟨session, false⟩ .templateBody progress = .next after) := by
  cases depth with
  | zero => cases came
  | succ depth =>
      have charged : ∀ allowed, Nonterminal.run (depth + 1) ⟨session, allowed⟩ .templateBody
          progress = ((progress.charge session).andThen ((Rule.node none .templateBody
            (Rule.enclosedItems .block)).run (Nonterminal.run depth) ⟨session, allowed⟩)).map
              fun inner => { inner with depth := progress.depth } := fun _ => rfl
      rw [charged] at came ⊢
      rcases Outcome.map_eq_next came with ⟨inner, inside, rfl⟩
      unfold Progress.charge at inside ⊢
      split at inside
      · cases inside
      · rename_i room
        rcases Rule.run_node_alike rfl (fun _ => rfl) rfl inside quiet with
          ⟨body, kind, pushed, same⟩
        refine ⟨body, kind, pushed, fun covered => ?_⟩
        rw [if_neg room]
        exact congrArg (Outcome.map _) (same covered)

/-- Blocks, indented or not, case blocks and arguments come to the same in the subject of a
`match` and elsewhere, whatever they hold.  The body of a class or the like does so if it is
read without a report elsewhere, and if neither faulty input nor a call with an argument in
curly brackets lies open in it. -/
theorem restriction_ends_in_brackets (depth : Nat) (session : Session) (progress : Progress) :
    (∀ nonterminal ∈ [Nonterminal.block, .caseBlock, .arguments],
      Nonterminal.run depth ⟨session, false⟩ nonterminal progress =
        Nonterminal.run depth ⟨session, true⟩ nonterminal progress) ∧
    Rule.indentedBlock.run (Nonterminal.run depth) ⟨session, false⟩ progress =
      Rule.indentedBlock.run (Nonterminal.run depth) ⟨session, true⟩ progress ∧
    ∀ after, Nonterminal.run depth ⟨session, true⟩ .templateBody progress = .next after →
      after.diagnostics = progress.diagnostics →
      ∃ body : Node, body.kind = .templateBody ∧ after.builder = progress.builder.push body ∧
        (body.exposes = false →
          Nonterminal.run depth ⟨session, false⟩ .templateBody progress = .next after) := by
  refine ⟨?_, Rule.run_indifferent _ rfl session false true progress, fun after came quiet => ?_⟩
  · simp only [List.forall_mem_cons]
    exact ⟨Nonterminal.run_indifferent rfl depth session progress,
      Nonterminal.run_indifferent rfl depth session progress,
      Nonterminal.run_indifferent rfl depth session progress, List.forall_mem_nil _⟩
  · exact Nonterminal.run_templateBody came quiet

/-- A block lies in the arguments of a call, so it makes no difference. -/
theorem restriction_ends_in_brackets_method :
    let start := Progress.start (.ofList (lex "\x7b def g() = h(\x7b 1 \x7d) \x7d" 4).tokens)
      .blockItems
    ∃ after, after.stream.atEnd = true ∧
      Nonterminal.run 40 ⟨⟨128, false⟩, true⟩ .templateBody start = .next after ∧
      Nonterminal.run 40 ⟨⟨128, false⟩, false⟩ .templateBody start = .next after := by
  intro start
  have checked : ((Nonterminal.run 40 ⟨⟨128, false⟩, true⟩ .templateBody start).done?.any
      fun after => after.diagnostics.isEmpty && after.stream.atEnd &&
        !Element.expose after.builder.children.toList) = true := by decide +kernel
  rcases (Option.any_eq_true _ _).mp checked with ⟨after, done, holds⟩
  simp only [Bool.and_eq_true, Array.isEmpty_iff, Bool.not_eq_true'] at holds
  rcases holds with ⟨⟨quiet, atEnd⟩, covered⟩
  have came := Outcome.done?_eq_some.mp done
  rcases (restriction_ends_in_brackets 40 ⟨128, false⟩ start).2.2 after came quiet with
    ⟨body, kind, pushed, same⟩
  have shown : ¬ body.kind.isHidden = true := by
    rw [kind]
    exact Bool.false_ne_true
  rw [pushed, Builder.children_push_of_shown _ shown] at covered
  exact ⟨after, atEnd, came, same (Bool.or_eq_false_iff.mp covered).1⟩

/-- A call that lies open in the body of a class is not read in the subject of a `match`. -/
example : ((parse
    "def f() = match new A \x7b def g() = h \x7b 1 \x7d \x7d \x7b case _ => 0 \x7d\n"
    .default).diagnostics.map Diagnostic.span) = [⟨36, 37⟩] := by decide +kernel

end Offside
