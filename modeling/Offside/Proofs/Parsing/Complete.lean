import Offside.Parsed
import Offside.Proofs.Grammar.Definitions

namespace Offside

/-!
# A parse reads its whole stream

Since every rule of the grammar is neutral, so is the run of every nonterminal, at
whatever depth the nesting guard cuts it off.  At the outermost level each round
takes at least one token: a separator, a definition or faulty input.  So the rounds
that are allowed last to the end of the source, and the tree holds every token of
the stream.
-/

open Rule Assertion

/-! ## Nonterminals -/

/-- The grammar itself builds no node of faulty input. -/
theorem Nonterminal.rule_buildsConstructs : ∀ nonterminal : Nonterminal,
    nonterminal.rule.buildsConstructs = true := by
  decide +kernel

/-- By induction on the number of nonterminals that may be open. -/
theorem Nonterminal.run_neutral (depth : Nat) : NeutralCalls (Nonterminal.run depth) := by
  induction depth with
  | zero =>
      intro surroundings nonterminal progress stack
      exact .tooDeep progress _
  | succ depth inductionHypothesis =>
      intro surroundings nonterminal progress stack
      have meets := nonterminal.rule_neutral stack nonterminal.rule_buildsConstructs
        (Nonterminal.run depth) inductionHypothesis surroundings progress stack
        ⟨rfl, True.intro⟩
      exact meets.weaken (fun _ _ holds => holds.1) fun _ _ => id

/-- A definition closes what it opens and takes at least one token. -/
theorem Nonterminal.derive_definition (surroundings : Surroundings) (progress : Progress)
    (stack : List Delimiter) :
    (Nonterminal.derive surroundings .definition progress).Meets surroundings.session progress
      stack (fun stream opened => opened = stack ∧
        stream.left.length < progress.stream.left.length) never := by
  unfold Nonterminal.derive
  cases Nonterminal.perLevel * (surroundings.session.maxDepth + 1) with
  | zero => exact .tooDeep progress _
  | succ depth =>
      exact definition_takes stack progress.stream.left.length
        (Nonterminal.rule_buildsConstructs .definition) (Nonterminal.run depth)
        (Nonterminal.run_neutral depth) surroundings progress stack
        ⟨⟨rfl, True.intro⟩, Nat.le_refl _⟩

namespace Progress

variable {session : Session}

/-! ## The outermost level -/

theorem skipSeparators_reaches (session : Session) (progress : Progress)
    (stack : List Delimiter) :
    progress.Reaches session stack progress.skipSeparators (level stack) := by
  fun_induction skipSeparators progress with
  | case1 progress separator atEnd => exact .refl rfl
  | case2 progress separator before inductionHypothesis =>
      have plain := TokenKind.isPlain_of_isSeparator separator
      have inside : progress.stream.atEnd = false := by simpa using before
      have stepped : Nesting.loose.step stack progress.stream.current.kind = some stack :=
        Nesting.step_of_inert _ (TokenKind.isInert_of_isPlain plain)
      have read : Nesting.loose.readHeld stack [.sound progress.stream.current] =
          some stack := by
        rw [Nesting.readHeld, stepped]
        rfl
      exact .of_advance (.take inside (TokenKind.isError_of_isPlain plain)) read
        inductionHypothesis
  | case3 progress other => exact .refl rfl

theorem Reaches.left_le {before after : Progress} {stack : List Delimiter}
    {ensures : Assertion} (reached : before.Reaches session stack after ensures) :
    after.stream.left.length ≤ before.stream.left.length := by
  rcases reached with ⟨held, inner, step, read, holds⟩
  have counted := congrArg List.length step.tokens
  rw [List.length_append] at counted
  omega

/-- Faulty input takes at least one token. -/
theorem GivesUp.addFaulty_reaches {before : Progress} {failure : Failure}
    {diagnostics : Array Diagnostic} (given : before.GivesUp session failure diagnostics)
    (inside : before.stream.atEnd = false) (stack : List Delimiter) :
    before.Reaches session stack (before.restarted failure diagnostics).addFaulty
      fun stream opened => opened = stack ∧
        stream.left.length < before.stream.left.length := by
  rcases given.addFaulty inside with ⟨tokens, nonempty, step⟩
  refine ⟨[.faulty tokens], stack, step, rfl, rfl, ?_⟩
  have counted := congrArg List.length step.tokens
  rw [List.length_append, Stretch.allTokens_cons, List.length_append] at counted
  have positive : 0 < tokens.length := List.length_pos_iff.mpr nonempty
  have same : (Stretch.faulty tokens).tokens.length = tokens.length := rfl
  omega

/-- Before the end of the source something is taken, whether it is a definition or not. -/
theorem definition_meets (session : Session) (progress : Progress)
    (inside : progress.stream.atEnd = false) (stack : List Delimiter) :
    (progress.definition session).Meets session progress stack
      (fun stream opened => opened = stack ∧
        stream.left.length < progress.stream.left.length) never := by
  unfold definition
  split
  · have meets := Nonterminal.derive_definition ⟨session, true⟩ progress stack
    unfold recover
    cases outcome : Nonterminal.derive ⟨session, true⟩ .definition progress with
    | next after =>
        rw [outcome] at meets
        exact meets
    | leave after =>
        rw [outcome] at meets
        exact meets
    | failed failure diagnostics =>
        rw [outcome] at meets
        dsimp only
        split
        · exact meets
        · exact meets.addFaulty_reaches inside stack
  · have given : progress.GivesUp session (progress.unexpected ["definition"])
        progress.diagnostics := .unexpected progress _
    exact given.addFaulty_reaches inside stack

/-- With a round for each token the definitions are read to the end of the source.
Going too deep ends the rounds early, and the rest of the source with them. -/
theorem definitions_reaches (session : Session) (count : Nat) (progress : Progress)
    (enough : progress.stream.left.length < count) :
    progress.Reaches session [] (progress.definitions session count)
      fun stream opened => opened = [] ∧ stream.atEnd = true := by
  induction count generalizing progress with
  | zero => omega
  | succ count inductionHypothesis =>
      -- Separators take no round, but they leave no more tokens than there were.
      have skipped := skipSeparators_reaches session progress []
      have fewer := skipped.left_le
      rcases skipped with ⟨held, inner, step, read, same⟩
      cases same
      refine .of_advance step read ?_
      unfold definitions
      dsimp only
      by_cases ended : progress.skipSeparators.stream.atEnd = true
      · rw [if_pos ended]
        exact .refl ⟨rfl, ended⟩
      · have inside : progress.skipSeparators.stream.atEnd = false := by simpa using ended
        rw [if_neg ended]
        have meets := definition_meets session _ inside []
        cases outcome : progress.skipSeparators.definition session with
        | next after =>
            rw [outcome] at meets
            rcases meets with ⟨taken, opened, stepThere, readThere, same, less⟩
            cases same
            exact .of_advance stepThere readThere (inductionHypothesis after (by omega))
        | leave after =>
            rw [outcome] at meets
            rcases meets with ⟨taken, opened, stepThere, readThere, impossible⟩
            cases impossible
        | failed failure diagnostics =>
            -- The rest is faulty input, so no rounds are needed for it.
            rw [outcome] at meets
            rcases GivesUp.addRest meets inside with ⟨tokens, nonempty, stepThere, atEnd⟩
            exact ⟨[.faulty tokens], [], stepThere, rfl, rfl, atEnd⟩

end Progress

/-! ## The whole stream -/

/-- What a finished parse has to show for its stream: its tree holds all tokens, they
are nested where they are sound, and faults are both reported and visible. -/
structure Parsed.Covers (parsed : Parsed) (session : Session) (stream : TokenStream)
    (held : List Stretch) : Prop where
  stretches : parsed.root.stretches = held ++ [.sound stream.ending]
  tokens : Stretch.allTokens held = stream.body.toList
  nested : Nesting.loose.readHeld [] held = some []
  sound : ∀ token, Stretch.sound token ∈ held → token.kind.isError = false
  accounted : Accounted session stream held parsed.diagnostics

namespace TokenStream

/-- At its end a stream that ends once has no tokens left. -/
theorem left_of_atEnd {stream : TokenStream} (endsOnce : stream.EndsOnce)
    (atEnd : stream.atEnd = true) : stream.left = [] := by
  rcases Nat.lt_or_ge stream.position stream.body.size with inside | beyond
  · exact absurd (beq_iff_eq.mp atEnd) (endsOnce.kind_ne inside)
  · unfold left
    rw [List.drop_eq_nil_of_le]
    simpa using beyond

theorem current_of_left_nil {stream : TokenStream} (nothing : stream.left = []) :
    stream.current = stream.ending := by
  have beyond : stream.body.size ≤ stream.position := by
    have counted := congrArg List.length nothing
    unfold left at counted
    rw [List.length_drop, Array.length_toList, List.length_nil] at counted
    omega
  exact stream.tokenAt_of_size_le _ beyond

end TokenStream

theorem parseStream_covers (session : Session) {stream : TokenStream}
    (atStart : stream.position = 0) (endsOnce : stream.EndsOnce) :
    ∃ held, (parseStream session stream).Covers session stream held := by
  have allLeft : stream.left = stream.body.toList := by
    unfold TokenStream.left
    rw [atStart, List.drop_zero]
  have enough : (Progress.start stream .compilationUnit).stream.left.length <
      stream.size + 1 := by
    show stream.left.length < stream.size + 1
    rw [allLeft, Array.length_toList]
    unfold TokenStream.size
    omega
  rcases Progress.definitions_reaches session _ _ enough with
    ⟨held, opened, step, read, same, atEnd⟩
  cases same
  unfold parseStream
  dsimp only
  generalize (Progress.start stream .compilationUnit).definitions session (stream.size + 1) =
    ended at step atEnd
  have endsOnceThere : ended.stream.EndsOnce := by
    rw [step.stream]
    exact endsOnce
  have nothing := TokenStream.left_of_atEnd endsOnceThere atEnd
  have last : ended.stream.current = stream.ending := by
    rw [TokenStream.current_of_left_nil nothing, step.stream]
    rfl
  refine ⟨held, ?_, ?_, read, step.sound, ?_⟩
  · have kept : ended.take.builder.kind ≠ .error := step.kind nofun
    rw [Builder.stretches_finish kept]
    unfold Progress.take
    rw [Builder.stretches_pushToken, step.builder, last]
    rfl
  · have moved := step.tokens
    rw [nothing, List.append_nil] at moved
    rw [← moved]
    exact allLeft
  · rcases step.reports with ⟨reports, added, accounted⟩
    have all : ended.take.diagnostics.toList = reports := added
    rw [all]
    exact accounted

end Offside
