import Offside.Proofs.Grammar.Rounds
import Offside.Proofs.Parsing.Prefix

namespace Offside

/-!
# Nonterminals in a longer source

What goes well in a source goes the same way when another source follows.  This is shown
for each form of rule, and for the few constructs that ask about the end of the source in
a way of their own: the items of a body without brackets, an operand that may be missing
behind `return`, and the annotations in front of a definition.
-/

open TokenStream (Continues)

namespace Rule

variable {stream other : TokenStream} {depth : Nat}

theorem andThen_eq_next {outcome : Outcome} {rest : Progress → Outcome} {after : Progress}
    (comes : outcome.andThen rest = .next after) :
    ∃ middle, outcome = .next middle ∧ rest middle = .next after := by
  cases outcome with
  | next middle => exact ⟨middle, rfl, comes⟩
  | leave middle => cases comes
  | failed failure diagnostics => cases comes

/-! ## Constructs that ask about the end -/

/-- No item follows the end of the source in a body without brackets. -/
theorem bareRound_ended (continues : stream.Continues other) (surroundings there : Surroundings)
    {before : Progress} (within : before.Within stream)
    (ended : before.stream.position = stream.body.size) :
    bareRound.run (Nonterminal.run depth) there (before.onto other) =
      (bareRound.run (Nonterminal.run depth) surroundings before).onto other := by
  have goesOn := within.continues continues
  have atEnd : before.stream.position = before.stream.body.size := ended.trans within.size.symm
  have none : before.stream.kind.isSeparator = false := by
    rw [before.stream.kind_ended atEnd]
    rfl
  have left : bareRound.run (Nonterminal.run depth) surroundings before = .leave before :=
    if_neg (Bool.eq_false_iff.mp none)
  rw [left]
  unfold bareRound Rule.run
  split
  · rename_i separator
    have stays := goesOn.bodyGoesOn_eq_false atEnd separator before.lastKind?
    have resolved : (before.onto other).stream.resolve (before.onto other).lastKind?
        .bodySequence = some false := congrArg some stays
    unfold Rule.run Progress.settle
    rw [resolved]
    rfl
  · rfl

/-- Behind `return` the end of the source is the end of the line. -/
theorem returnExpression_carries (continues : stream.Continues other)
    (calls : (Rule.call .expression).Carries stream other (Nonterminal.run depth) True True) :
    returnExpression.Carries stream other (Nonterminal.run depth) True False := by
  refine .node _ _ fun surroundings there before after fits within comes spotless concerns => ?_
  let value := Rule.optional (.atKind TokenKind.startsExpression) (.call .expression)
  have goesOn := within.continues continues
  have size := within.size
  have course := (Rule.run_courses (Nonterminal.run_courses depth) _ surroundings before).of_comes
    comes
  have forward := course.position
  have inside : before.stream.position < stream.body.size := by
    rcases concerns with inside | ⟨inside, _⟩ | ⟨_, impossible⟩
    · omega
    · exact inside
    · exact impossible.elim
  have asked := goesOn.isAtKeyword (size ▸ inside) .returnKw
  have runs : ∀ surroundings (progress : Progress), (inOrder [keyword .returnKw, value]).run
      (Nonterminal.run depth) surroundings progress =
      ((if progress.stream.isAtKeyword .returnKw then .next progress.take
        else .failed (progress.unexpected [quoteSpelling Keyword.returnKw.spelling])
          progress.diagnostics : Outcome).andThen
        ((inOrder [value]).run (Nonterminal.run depth) surroundings)) := fun _ _ => rfl
  rw [runs] at comes
  rw [runs, runs, show (before.onto other).stream.isAtKeyword _ = _ from asked]
  split at comes
  · rename_i held
    have returns : before.stream.kind = .keyword .returnKw := beq_iff_eq.mp held
    have notEnded : before.stream.atEnd = false := by
      show (before.stream.kind == .endOfFile) = false
      rw [returns]
      rfl
    have moved : before.take.stream = before.stream.moveTo (before.stream.position + 1) :=
      TokenStream.advance_eq_moveTo notEnded
    have withinThere := within.of_course (.take before)
    rw [if_pos held, if_pos held]
    show (inOrder [value]).run _ there (before.onto other).take =
      ((inOrder [value]).run _ surroundings before.take).onto other
    rw [within.take continues notEnded]
    rcases Nat.lt_or_eq_of_le withinThere.bounded with further | ended
    · have nothing : done.Carries stream other (Nonterminal.run depth) True True := .done
      have carries := Carries.seq continues
        (.choose continues (Condition.agrees_atKind TokenKind.startsExpression) calls nothing)
        nothing
      refine carries surroundings there before.take after fits withinThere comes spotless ?_
      exact .inr (.inl ⟨further, True.intro, .inr ⟨⟨True.intro, True.intro⟩, True.intro⟩⟩)
    · rw [moved] at ended
      have last : before.stream.position + 1 = before.stream.body.size := ended.trans size.symm
      have separator := goesOn.separated _ last (by
        rw [show (before.stream.tokenAt before.stream.position).kind = _ from returns]
        rfl)
      have none : before.take.stream.kind.startsExpression = false := by
        rw [before.take.stream.kind_ended ?_]
        · rfl
        · rw [moved]
          exact last
      have noneThere : (before.take.onto other).stream.kind.startsExpression = false := by
        show (other.tokenAt (before.take.stream.position + 0)).kind.startsExpression = false
        rw [moved]
        show (other.tokenAt (before.stream.position + 1)).kind.startsExpression = false
        rw [last]
        rw [show (other.tokenAt before.stream.body.size).kind = _ from separator]
        rfl
      have skips : ∀ (surroundings : Surroundings) (progress : Progress),
          progress.stream.kind.startsExpression = false →
          (inOrder [value]).run (Nonterminal.run depth) surroundings progress =
            .next progress := by
        intro surroundings progress none
        show Outcome.andThen (if progress.stream.kind.startsExpression then _ else _) _ = _
        rw [none]
        rfl
      rw [skips there _ noneThere, skips surroundings _ none]
      rfl
  · rcases comes with impossible | impossible <;> cases impossible

/-! ## All rules -/

/-- By induction on the rule, with one case for each of its forms. -/
theorem run_carries (continues : stream.Continues other)
    (calls : ∀ nonterminal, (Rule.call nonterminal).Carries stream other (Nonterminal.run depth)
      (nonterminal.takes = true) (nonterminal.takes = true))
    (rule : Rule) (advances : rule.Advances) (loops : rule.LoopsGetOn) :
    rule.Carries stream other (Nonterminal.run depth) rule.Arrives rule.Rests := by
  have always : ∀ first second : Rule, (first.alwaysTakes && second.alwaysTakes) = true →
      ((first.takes false && second.takes false) &&
        (first.takes true && second.takes true)) = true := by
    intro first second both
    have parts := Bool.and_eq_true_iff.mp both
    have one := Bool.and_eq_true_iff.mp parts.1
    have two := Bool.and_eq_true_iff.mp parts.2
    rw [one.1, one.2, two.1, two.2]
    rfl
  induction rule with
  | done => exact .done
  | seq first second one two =>
      rcases List.forall_mem_append.mp loops with ⟨former, latter⟩
      exact (Carries.seq continues (one advances.1 former)
        (two advances.2 latter)).weaken continues id id
  | take => exact .take continues
  | call nonterminal => exact calls nonterminal
  | node part kind rule inductionHypothesis =>
      by_cases returns : Rule.node part kind rule = returnExpression
      · have expression : (Rule.call .expression).Carries stream other (Nonterminal.run depth)
            True True := (calls .expression).weaken continues (fun _ => rfl) fun _ => .inr rfl
        have carries := returnExpression_carries continues expression
        rw [← returns] at carries
        refine carries.weaken continues (fun _ => True.intro) fun _ => .inl ?_
        rw [returns]
        rfl
      · exact (Carries.node part kind (inductionHypothesis advances loops)).weaken continues
          (fun arrives => arrives.resolve_left returns) .inr
  | become kind => exact .rebuild (fun _ _ => rfl) fun _ => rfl
  | nameFirst part => exact .rebuild (fun _ _ => rfl) fun _ => rfl
  | wrap kind => exact .rebuild (fun _ _ => rfl) fun _ => rfl
  | choose condition yes no whenHeld otherwise =>
      rcases List.forall_mem_append.mp loops with ⟨former, latter⟩
      have chosen := Carries.choose continues advances.1
        (whenHeld advances.2.1 former) (otherwise advances.2.2 latter)
      have ended : Rule.choose condition yes no = bareRound →
          ∀ surroundings there before, surroundings.Fits there → before.Within stream →
            before.stream.position = stream.body.size →
              (Rule.choose condition yes no).run (Nonterminal.run depth) there
                (before.onto other) = ((Rule.choose condition yes no).run
                  (Nonterminal.run depth) surroundings before).onto other := by
        intro bare surroundings there before _ within
        rw [bare]
        exact bareRound_ended continues surroundings there within
      refine (chosen.orAtEnd ended).weaken continues id fun rests => ?_
      · rcases rests with both | quiet | looksBack | bare
        · exact .inl (always yes no both)
        · exact .inr (.inl (.inl quiet))
        · exact .inr (.inl (.inr looksBack))
        · exact .inr (.inr bare)
  | settle ambiguity first second either or =>
      rcases List.forall_mem_append.mp loops with ⟨former, latter⟩
      refine (Carries.settle continues (either advances.1 former)
        (or advances.2 latter)).weaken continues id fun rests => ?_
      exact rests.imp (always first second) id
  | loop rule inductionHypothesis =>
      rcases List.forall_mem_cons.mp loops with ⟨round, below⟩
      exact (inductionHypothesis advances below).loop continues
        fun _ _ _ _ came _ => round.position_lt came
  | leave => exact .leave
  | nested rule inductionHypothesis => exact (inductionHypothesis advances loops).nested
  | chain rule inductionHypothesis => exact (inductionHypothesis advances loops).chain
  | link => exact .link
  | withBraces allowed rule inductionHypothesis =>
      exact (inductionHypothesis advances loops).withBraces allowed
  | recover rule inductionHypothesis =>
      exact (inductionHypothesis advances loops).recover continues
  | reject expected => exact .reject continues expected
  | fail expected => exact .fail expected
  | failMissing kind part => exact .failMissing kind part

/-! ## Definitions -/

theorem run_cases_otherwise {alternatives : List (Condition × Rule)} {otherwise : Rule}
    {surroundings : Surroundings} {progress : Progress}
    (none : ∀ alternative ∈ alternatives, alternative.1.holds surroundings progress = false) :
    (Rule.cases alternatives otherwise).run (Nonterminal.run depth) surroundings progress =
      otherwise.run (Nonterminal.run depth) surroundings progress := by
  induction alternatives with
  | nil => rfl
  | cons alternative rest inductionHypothesis =>
      rw [List.forall_mem_cons] at none
      exact (if_neg (Bool.eq_false_iff.mp none.1)).trans (inductionHypothesis none.2)

/-- No declaration begins with a separator. -/
theorem not_separator_of_declaration {surroundings : Surroundings} {before after : Progress}
    (comes : (declaration.run (Nonterminal.run depth) surroundings before).Comes after) :
    before.stream.kind.isSeparator = false := by
  rw [Bool.eq_false_iff]
  intro separator
  have words : ∀ word, (Condition.atKeyword word).holds surroundings before = false := by
    intro word
    show before.stream.kind.isKeyword word = false
    generalize before.stream.kind = kind at separator
    cases kind <;> first | rfl | cases separator
  have noModifier : before.stream.kind.isModifier = false := by
    generalize before.stream.kind = kind at separator
    cases kind <;> first | rfl | cases separator
  have fails : annotatable.run (Nonterminal.run depth) surroundings before =
      .failed (before.unexpected definitionKeywords) before.diagnostics := by
    unfold annotatable
    rw [run_cases_otherwise ?_]
    · rfl
    · simp only [List.forall_mem_cons]
      exact ⟨words _, words _, words _, words _, words _, words _, words _, words _, words _,
        nofun⟩
  have skips : declaration.run (Nonterminal.run depth) surroundings before =
      (inOrder
        [choose alreadyAnnotated annotatable <|
          Rule.cases
            [(.atKeyword .modKw, moduleDefinition),
             (.atKeyword .useKw, useDeclaration),
             (.atKeyword .importKw, importDeclaration)]
            annotatable]).run (Nonterminal.run depth) surroundings before := by
    show Outcome.andThen (if before.stream.kind.isModifier then _ else .next before) _ = _
    rw [noModifier]
    rfl
  have failed : declaration.run (Nonterminal.run depth) surroundings before =
      .failed (before.unexpected definitionKeywords) before.diagnostics := by
    rw [skips]
    show Outcome.andThen (if _ then _ else _) _ = _
    split
    · rw [fails]
      rfl
    · rw [run_cases_otherwise ?_, fails]
      · rfl
      · simp only [List.forall_mem_cons]
        exact ⟨words _, words _, words _, nofun⟩
  rw [failed] at comes
  rcases comes with impossible | impossible <;> cases impossible

/-- Where an annotation is done, a separator that stands there does not belong to it.  At the
end of the source that cannot be told, so no separator may stand there. -/
theorem annotation_run (continues : stream.Continues other)
    (marks : annotationMark.Carries stream other (Nonterminal.run depth) True True)
    {surroundings there : Surroundings} (fits : surroundings.Fits there)
    {before after : Progress} (within : before.Within stream)
    (comes : annotation.run (Nonterminal.run depth) surroundings before = .next after)
    (spotless : after.Spotless) (inside : after.stream.position < stream.body.size)
    (apart : after.stream.kind.isSeparator = false) :
    annotation.run (Nonterminal.run depth) there (before.onto other) =
      .next (after.onto other) := by
  have courses := Rule.run_courses (Nonterminal.run_courses depth)
  let divider := Rule.optional separatedDefinition take
  have divides : ∀ surroundings progress, (inOrder [divider]).run (Nonterminal.run depth)
      surroundings progress = if separatedDefinition.holds surroundings progress then
        .next progress.take else .next progress := by
    intro surroundings progress
    show Outcome.andThen (if _ then _ else _) _ = _
    split <;> rfl
  rcases andThen_eq_next comes with ⟨middle, first, rest⟩
  have begins := courses annotationMark surroundings before
  have ends := courses (inOrder [divider]) surroundings middle
  rw [first] at begins
  change (inOrder [divider]).run _ surroundings middle = _ at rest
  rw [rest] at ends
  have withinThere := within.of_course begins
  have onward := ends.position
  have goesOn := withinThere.continues continues
  have size := withinThere.size
  have same := marks surroundings there before middle fits within (.inl first)
    (ends.spotless spotless) (.inl (by omega))
  have asked : separatedDefinition.holds there (middle.onto other) =
      separatedDefinition.holds surroundings middle := by
    show ((middle.onto other).stream.kind.isSeparator && _) =
      (middle.stream.kind.isSeparator && _)
    rw [goesOn.kind_eq (by omega)]
    cases separator : middle.stream.kind.isSeparator with
    | false => rfl
    | true =>
        by_cases last : middle.stream.position + 1 < stream.body.size
        · rw [goesOn.definitionStartsAt (by omega)]
        · have none : separatedDefinition.holds surroundings middle = false := by
            show (_ && middle.stream.definitionStartsAt 1) = false
            rw [middle.stream.definitionStartsAt_ended (by omega), Bool.and_false]
          have stopped : Outcome.next middle = .next after := by
            rw [← rest, divides, none]
            rfl
          cases stopped
          exact absurd (separator.symm.trans apart) nofun
  show Outcome.andThen (annotationMark.run _ there (before.onto other)) _ = _
  rw [same, first]
  show (inOrder [divider]).run _ there (middle.onto other) = _
  rw [divides] at rest
  rw [divides, asked]
  split at rest
  · rename_i held
    cases rest
    rw [if_pos held, withinThere.take continues spotless.not_atEnd]
  · rename_i none
    cases rest
    rw [if_neg none]

/-- The annotations in front of a definition, by induction on the number of rounds. -/
theorem annotations_run (continues : stream.Continues other)
    (marks : annotationMark.Carries stream other (Nonterminal.run depth) True True)
    {surroundings there : Surroundings} (fits : surroundings.Fits there)
    {before after : Progress} (within : before.Within stream) {rounds roundsThere : Nat}
    (comes : repeatRounds ((choose (.atMark .atSign) annotation leave).run
      (Nonterminal.run depth) surroundings) rounds before = .next after)
    (spotless : after.Spotless) (inside : after.stream.position < stream.body.size)
    (apart : after.stream.kind.isSeparator = false)
    (enough : stream.body.size < before.stream.position + rounds)
    (more : rounds ≤ roundsThere) :
    repeatRounds ((choose (.atMark .atSign) annotation leave).run (Nonterminal.run depth) there)
      roundsThere (before.onto other) = .next (after.onto other) := by
  have courses := Rule.run_courses (Nonterminal.run_courses depth)
  induction rounds generalizing before roundsThere with
  | zero =>
      have bounded := within.bounded
      omega
  | succ rounds inductionHypothesis =>
      obtain ⟨left, rfl⟩ : ∃ left, roundsThere = left + 1 := ⟨roundsThere - 1, by omega⟩
      have whole := Outcome.Courses.repeatRounds
        (courses (choose (.atMark .atSign) annotation leave) surroundings) (rounds + 1) before
      rw [comes] at whole
      have within' := whole.position
      have goesOn := within.continues continues
      have size := within.size
      have asked : (before.onto other).stream.isAtMark .atSign = before.stream.isAtMark .atSign :=
        goesOn.isAtMark (by omega) _
      have taken := run_takes_nonterminals annotation depth surroundings
        (within.sound continues)
      have begins := courses annotation surroundings before
      have rounded : ∀ surroundings (progress : Progress),
          (choose (.atMark .atSign) annotation leave).run (Nonterminal.run depth) surroundings
            progress = if progress.stream.isAtMark .atSign then
              annotation.run (Nonterminal.run depth) surroundings progress
            else .leave progress := fun _ _ => rfl
      rw [repeatRounds, rounded] at comes ⊢
      rw [asked]
      cases marked : before.stream.isAtMark .atSign with
      | false =>
          rw [marked] at comes
          cases comes
          rfl
      | true =>
          rw [marked, if_pos rfl] at comes
          cases came : annotation.run (Nonterminal.run depth) surroundings before with
          | next middle =>
              rw [came] at comes taken begins
              dsimp only at comes
              have behind := Outcome.Courses.repeatRounds
                (courses (choose (.atMark .atSign) annotation leave) surroundings) rounds middle
              rw [comes] at behind
              have spotlessThere := behind.spotless spotless
              have onward := behind.position
              have forward := taken spotlessThere rfl
              have apartThere : middle.stream.kind.isSeparator = false := by
                rw [Bool.eq_false_iff]
                intro separator
                have stops : middle.stream.isAtMark .atSign = false := by
                  show middle.stream.kind.isMark .atSign = false
                  generalize middle.stream.kind = kind at separator
                  cases kind with
                  | punctuation mark => cases mark <;> first | rfl | cases separator
                  | _ => rfl
                have ended : after = middle := by
                  cases rounds with
                  | zero => exact (Outcome.next.inj comes).symm
                  | succ rounds =>
                      rw [repeatRounds, rounded, stops] at comes
                      exact (Outcome.next.inj comes).symm
                rw [ended, separator] at apart
                cases apart
              rw [if_pos rfl, annotation_run continues marks fits within came spotlessThere
                (by omega) apartThere]
              exact inductionHypothesis (within.of_course begins) comes (by omega) (by omega)
          | leave middle =>
              rw [came] at taken
              exact absurd (taken.1 : annotation.stays = false) nofun
          | failed failure diagnostics =>
              rw [came] at comes
              cases comes

/-- The loops of a definition are those of its annotations and of its declaration. -/
theorem definition_loopsGetOn :
    (whenever (.atMark .atSign) annotation).LoopsGetOn ∧ declaration.LoopsGetOn :=
  List.forall_mem_append.mp (Nonterminal.rule_getsOn .definition).2

theorem annotationMark_loopsGetOn : annotationMark.LoopsGetOn := by
  have rounds := (List.forall_mem_cons.mp definition_loopsGetOn.1).2
  exact (List.forall_mem_append.mp (List.forall_mem_append.mp rounds).1).1

/-- A definition goes on with its declaration, so its annotations are over before the end of
the source. -/
theorem definition_carries (continues : stream.Continues other)
    (calls : ∀ nonterminal, (Rule.call nonterminal).Carries stream other (Nonterminal.run depth)
      (nonterminal.takes = true) (nonterminal.takes = true)) :
    definition.Carries stream other (Nonterminal.run depth) True True := by
  have marks : annotationMark.Carries stream other (Nonterminal.run depth) True True := by
    refine (run_carries continues calls annotationMark annotationMark_advances.1
      annotationMark_loopsGetOn).weaken continues (fun _ => annotationMark_advances.2)
        fun _ => .inl rfl
  have declares : declaration.Carries stream other (Nonterminal.run depth) True True :=
    (run_carries continues calls declaration declaration_arrives.1
      definition_loopsGetOn.2).weaken continues (fun _ => declaration_arrives.2)
        fun _ => .inl declaration_takes
  have courses := Rule.run_courses (Nonterminal.run_courses depth)
  let annotated := whenever (.atMark .atSign) annotation
  have parts : (seq annotated declaration).Carries stream other (Nonterminal.run depth)
      True True := by
    intro surroundings there before after fits within comes spotless _
    have size := within.size
    have bounded := within.bounded
    have longer := continues.size
    unfold Rule.run at comes ⊢
    have begins := courses annotated surroundings before
    cases came : annotated.run (Nonterminal.run depth) surroundings before with
    | next middle =>
        rw [came] at comes begins
        have withinThere := within.of_course begins
        have ends := (courses declaration surroundings middle).of_comes comes
        have taken := (run_takes_nonterminals declaration depth surroundings
          (withinThere.sound continues)).of_comes comes spotless declaration_takes
        have boundedThere := (withinThere.of_course ends).bounded
        have same : annotated.run (Nonterminal.run depth) there (before.onto other) =
            .next (middle.onto other) := by
          refine annotations_run continues marks fits within came (ends.spotless spotless)
            (by omega) (not_separator_of_declaration comes) ?_ ?_
          · unfold TokenStream.remaining TokenStream.size
            omega
          · show _ ≤ other.body.size + 1 - before.stream.position + 1
            unfold TokenStream.remaining TokenStream.size
            omega
        rw [same]
        exact declares surroundings there middle after fits withinThere comes spotless
          (.inr (.inl ⟨by omega, True.intro⟩))
    | leave middle => exact absurd came (Outcome.Takes.repeatRounds_ne_leave _ _ _ _)
    | failed failure diagnostics =>
        rw [came] at comes
        rcases comes with impossible | impossible <;> cases impossible
  rw [definition_parts]
  exact .nested (.node none .functionDefinition parts)

end Rule

/-! ## Nonterminals -/

theorem Nonterminal.rule_alwaysTakes (nonterminal : Nonterminal)
    (takes : nonterminal.takes = true) : nonterminal.rule.alwaysTakes = true := by
  cases nonterminal with
  | alternatives place => cases place <;> rfl
  | primaryPattern place => cases place <;> rfl
  | items place => cases place <;> first | rfl | cases takes
  | operators place => cases place <;> rfl
  | _ => rfl

/-- By induction on the number of nonterminals that may be open. -/
theorem Nonterminal.run_carries {stream other : TokenStream} (continues : stream.Continues other)
    (depth : Nat) (nonterminal : Nonterminal) :
    (Rule.call nonterminal).Carries stream other (Nonterminal.run depth)
      (nonterminal.takes = true) (nonterminal.takes = true) := by
  induction depth generalizing nonterminal with
  | zero => exact .of_not_comes fun _ _ _ _ comes => by rcases comes with none | none <;> cases none
  | succ depth inductionHypothesis =>
      have carries : nonterminal.rule.Carries stream other (Nonterminal.run depth)
          (nonterminal.takes = true) False := by
        by_cases defines : nonterminal = .definition
        · subst defines
          exact (Rule.definition_carries continues inductionHypothesis).weaken continues
            (fun _ => True.intro) False.elim
        · have advances := nonterminal.rule_advances defines
          exact (Rule.run_carries continues inductionHypothesis nonterminal.rule
            advances.1 nonterminal.rule_getsOn.2).weaken continues advances.2 False.elim
      have whole : nonterminal.rule.Carries stream other (Nonterminal.run depth)
          (nonterminal.takes = true) (nonterminal.takes = true) :=
        carries.weaken continues id fun takes => .inl (nonterminal.rule_alwaysTakes takes)
      exact whole

end Offside
