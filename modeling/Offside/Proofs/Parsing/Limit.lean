import Offside.Proofs.Parsing.Containment
import Offside.Proofs.Parsing.Succession
import Offside.Text.XidStart

namespace Offside

/-!
# The limit of nesting

A parse asks for its limit of nesting only where it charges a level, and the only
answer that makes a difference ends the parse.  So a parse that does not come to its
limit is the same under every higher one.  A parse that does come to its limit is the
same up to the definition at fault: that definition and everything behind it become one
node of faulty input.

A rule that is given up because it nests too deeply passes through every recovery, so
it does not matter what the recovered parts of the grammar are.  All of this is true of
every rule whatsoever.
-/

/-! ## Parses with a higher limit -/

/-- Of two parses of the same tokens the second one may nest deeper. -/
structure Session.Within (session deeper : Session) : Prop where
  maxDepth : session.maxDepth ≤ deeper.maxDepth
  lexerComplained : deeper.lexerComplained = session.lexerComplained

/-- The circumstances of a rule in two parses of which the second one may nest deeper. -/
structure Surroundings.Within (surroundings deeper : Surroundings) : Prop where
  session : surroundings.session.Within deeper.session
  bracesAllowed : deeper.bracesAllowed = surroundings.bracesAllowed

namespace Outcome

/-- The rule was given up and the parse ends with it. -/
def EndsParse : Outcome → Prop
  | failed failure _ => failure.fault.isFatal = true
  | _ => False

/-- What comes of a rule comes of it under a higher limit as well, unless it ends the
parse. -/
def Persists (outcome there : Outcome) : Prop := outcome.EndsParse ∨ there = outcome

namespace Persists

variable {outcome there : Outcome}

theorem refl (outcome : Outcome) : outcome.Persists outcome := .inr rfl

theorem andThen {rest restThere : Progress → Outcome} (first : outcome.Persists there)
    (second : ∀ progress, (rest progress).Persists (restThere progress)) :
    (outcome.andThen rest).Persists (there.andThen restThere) := by
  rcases first with ends | same
  · cases outcome with
    | next progress => exact ends.elim
    | leave progress => exact ends.elim
    | failed failure diagnostics => exact .inl ends
  · rw [same]
    cases outcome with
    | next progress => exact second progress
    | leave progress => exact refl _
    | failed failure diagnostics => exact refl _

theorem map (change : Progress → Progress) (persists : outcome.Persists there) :
    (outcome.map change).Persists (there.map change) := by
  rcases persists with ends | same
  · cases outcome with
    | next progress => exact ends.elim
    | leave progress => exact ends.elim
    | failed failure diagnostics => exact .inl ends
  · rw [same]
    exact refl _

/-- Only what does not end the parse is recovered from. -/
theorem recover (before : Progress) (persists : outcome.Persists there) :
    (before.recover outcome).Persists (before.recover there) := by
  rcases persists with ends | same
  · cases outcome with
    | next progress => exact ends.elim
    | leave progress => exact ends.elim
    | failed failure diagnostics =>
        left
        unfold Progress.recover
        dsimp only
        rw [if_pos (show failure.fault.isFatal = true from ends)]
        exact ends
  · rw [same]
    exact refl _

theorem repeatRounds {round roundThere : Progress → Outcome}
    (each : ∀ progress, (round progress).Persists (roundThere progress)) (rounds : Nat)
    (progress : Progress) :
    (repeatRounds round rounds progress).Persists
      (repeatRounds roundThere rounds progress) := by
  induction rounds generalizing progress with
  | zero => exact refl _
  | succ rounds inductionHypothesis =>
      unfold Offside.repeatRounds
      rcases each progress with ends | same
      · cases outcome : round progress with
        | next after => rw [outcome] at ends; exact ends.elim
        | leave after => rw [outcome] at ends; exact ends.elim
        | failed failure diagnostics => rw [outcome] at ends; exact .inl ends
      · rw [same]
        cases round progress with
        | next after => exact inductionHypothesis after
        | leave after => exact refl _
        | failed failure diagnostics => exact refl _

end Persists
end Outcome

namespace Progress

variable {session deeper : Session}

/-- A level that is left under the lower limit is left under the higher one. -/
theorem charge_persists (within : session.Within deeper) (progress : Progress) :
    (progress.charge session).Persists (progress.charge deeper) := by
  have maxDepth := within.maxDepth
  unfold charge
  by_cases reached : session.maxDepth ≤ progress.depth
  · rw [if_pos reached]
    exact .inl rfl
  · rw [if_neg reached, if_neg (by omega)]
    exact .refl _

theorem settle_eq (within : session.Within deeper) (progress : Progress)
    (ambiguity : Ambiguity) :
    progress.settle deeper ambiguity = progress.settle session ambiguity := by
  unfold settle
  rw [within.lexerComplained]

end Progress

/-- By induction on the rule.  Charging a level is the only step that looks at the limit. -/
theorem Rule.run_persists {call callThere : Surroundings → Nonterminal → Progress → Outcome}
    (calls : ∀ surroundings deeper nonterminal progress, surroundings.Within deeper →
      (call surroundings nonterminal progress).Persists
        (callThere deeper nonterminal progress))
    (rule : Rule) {surroundings deeper : Surroundings} (within : surroundings.Within deeper)
    (progress : Progress) :
    (rule.run call surroundings progress).Persists
      (rule.run callThere deeper progress) := by
  induction rule generalizing surroundings deeper progress with
  | done => exact .refl _
  | seq first second one two =>
      exact (one within progress).andThen fun middle => two within middle
  | take => exact .refl _
  | call nonterminal => exact calls surroundings deeper nonterminal progress within
  | node part kind rule inductionHypothesis =>
      exact (inductionHypothesis within (progress.openNode kind)).map _
  | become kind => exact .refl _
  | nameFirst part => exact .refl _
  | wrap kind => exact .refl _
  | choose condition yes no whenHeld otherwise =>
      have asked : condition.holds deeper progress = condition.holds surroundings progress := by
        cases condition with
        | ahead test => rfl
        | first test => rfl
        | bracesAllowed => exact within.bracesAllowed
      unfold run
      rw [asked]
      split
      · exact whenHeld within progress
      · exact otherwise within progress
  | settle ambiguity first second either or =>
      unfold run
      rw [Progress.settle_eq within.session]
      dsimp only
      split
      · exact either within _
      · exact or within _
  | loop rule inductionHypothesis =>
      exact .repeatRounds (fun middle => inductionHypothesis within middle) _ progress
  | leave => exact .refl _
  | nested rule inductionHypothesis =>
      exact ((Progress.charge_persists within.session progress).andThen
        fun middle => inductionHypothesis within middle).map _
  | chain rule inductionHypothesis => exact (inductionHypothesis within progress).map _
  | link => exact Progress.charge_persists within.session progress
  | withBraces allowed rule inductionHypothesis =>
      have allowing : ({ surroundings with bracesAllowed := allowed } : Surroundings).Within
          { deeper with bracesAllowed := allowed } := ⟨within.session, rfl⟩
      exact inductionHypothesis allowing progress
  | recover rule inductionHypothesis => exact (inductionHypothesis within progress).recover _
  | reject expected => exact .refl _
  | fail expected => exact .refl _
  | failMissing kind part => exact .refl _

/-- More nonterminals may be open as well.  By induction on their number. -/
theorem Nonterminal.run_persists {depth depthThere : Nat} (enough : depth ≤ depthThere)
    (surroundings deeper : Surroundings) (nonterminal : Nonterminal) (progress : Progress)
    (within : surroundings.Within deeper) :
    (Nonterminal.run depth surroundings nonterminal progress).Persists
      (Nonterminal.run depthThere deeper nonterminal progress) := by
  induction depth generalizing depthThere surroundings deeper nonterminal progress with
  | zero => exact .inl rfl
  | succ depth inductionHypothesis =>
      cases depthThere with
      | zero => omega
      | succ depthThere =>
          exact Rule.run_persists (inductionHypothesis (by omega)) nonterminal.rule within
            progress

namespace Progress

/-- A definition is read alike under a higher limit, unless it ends the parse. -/
theorem definition_persists {session deeper : Session} (within : session.Within deeper)
    (progress : Progress) :
    (progress.definition session).Persists (progress.definition deeper) := by
  have maxDepth := within.maxDepth
  have enough : Nonterminal.perLevel * (session.maxDepth + 1) ≤
      Nonterminal.perLevel * (deeper.maxDepth + 1) := Nat.mul_le_mul_left _ (by omega)
  unfold definition
  split
  · have derived := Nonterminal.run_persists enough ⟨session, true⟩ ⟨deeper, true⟩ .definition
      progress ⟨within, rfl⟩
    exact derived.recover progress
  · exact .refl _

end Progress

/-! ## Reports that do not end the parse -/

namespace Outcome

/-- No report has ended the parse so far.  If the rule was given up because of the limit,
that is left to be reported. -/
def GoesOn (session : Session) : Outcome → Prop
  | next progress => ¬ EndedEarly progress.diagnostics.toList
  | leave progress => ¬ EndedEarly progress.diagnostics.toList
  | failed failure diagnostics => ¬ EndedEarly diagnostics.toList ∧
      (failure.fault.isFatal = true →
        failure.fault = .nestingTooDeep session.maxDepth ∧ failure.reported = false)

variable {session : Session} {outcome : Outcome}

theorem GoesOn.andThen {rest : Progress → Outcome} (goesOn : outcome.GoesOn session)
    (further : ∀ progress, ¬ EndedEarly progress.diagnostics.toList →
      (rest progress).GoesOn session) : (outcome.andThen rest).GoesOn session := by
  cases outcome with
  | next progress => exact further progress goesOn
  | leave progress => exact goesOn
  | failed failure diagnostics => exact goesOn

theorem GoesOn.map {change : Progress → Progress} (goesOn : outcome.GoesOn session)
    (same : ∀ progress, (change progress).diagnostics = progress.diagnostics) :
    (outcome.map change).GoesOn session := by
  cases outcome with
  | next progress =>
      show ¬ EndedEarly (change progress).diagnostics.toList
      rw [same]
      exact goesOn
  | leave progress =>
      show ¬ EndedEarly (change progress).diagnostics.toList
      rw [same]
      exact goesOn
  | failed failure diagnostics => exact goesOn

end Outcome

theorem not_endedEarly_append {front back : List Diagnostic} :
    ¬ EndedEarly (front ++ back) ↔ ¬ EndedEarly front ∧ ¬ EndedEarly back := by
  unfold EndedEarly
  simp only [List.mem_append, not_exists, not_and]
  grind

theorem not_endedEarly_singleton {fault : GrammaticalFault} {span : Span}
    (recoverable : ¬ fault.isFatal = true) :
    ¬ EndedEarly [.grammatical fault span] := by
  rintro ⟨diagnostic, member, fatal⟩
  rw [List.mem_singleton.mp member] at fatal
  cases fault with
  | nestingTooDeep limit => exact recoverable rfl
  | _ => cases fatal

namespace Progress

variable {progress : Progress}

theorem recoverable_unexpected (progress : Progress) (expected : List String) :
    ¬ (progress.unexpected expected).fault.isFatal = true := Bool.false_ne_true

theorem not_endedEarly_restarted {failure : Failure} {diagnostics : Array Diagnostic}
    (before : Progress) (recoverable : ¬ failure.fault.isFatal = true)
    (goesOn : ¬ EndedEarly diagnostics.toList) :
    ¬ EndedEarly (before.restarted failure diagnostics).addFaulty.diagnostics.toList := by
  rw [diagnostics_addFaulty, diagnostics_restarted, not_endedEarly_append]
  refine ⟨goesOn, ?_⟩
  split
  · rintro ⟨diagnostic, member, _⟩
    cases member
  · exact not_endedEarly_singleton recoverable

theorem recover_goesOn {session : Session} {outcome : Outcome} (before : Progress)
    (goesOn : outcome.GoesOn session) : (before.recover outcome).GoesOn session := by
  cases outcome with
  | next progress => exact goesOn
  | leave progress => exact goesOn
  | failed failure diagnostics =>
      unfold recover
      dsimp only
      split
      · exact goesOn
      · exact not_endedEarly_restarted before (by assumption) goesOn.1

theorem charge_goesOn (session : Session)
    (goesOn : ¬ EndedEarly progress.diagnostics.toList) :
    (progress.charge session).GoesOn session := by
  unfold charge
  split
  · exact ⟨goesOn, fun _ => ⟨rfl, rfl⟩⟩
  · exact goesOn

theorem settle_goesOn (session : Session) (ambiguity : Ambiguity)
    (goesOn : ¬ EndedEarly progress.diagnostics.toList) :
    ¬ EndedEarly (progress.settle session ambiguity).2.diagnostics.toList := by
  unfold settle
  split
  · exact goesOn
  · dsimp only
    split
    · exact goesOn
    · rw [show (progress.report _ _).diagnostics.toList = _ from Array.toList_push,
        not_endedEarly_append]
      exact ⟨goesOn, not_endedEarly_singleton Bool.false_ne_true⟩

theorem repeatRounds_goesOn {session : Session} {round : Progress → Outcome}
    (each : ∀ progress, ¬ EndedEarly progress.diagnostics.toList →
      (round progress).GoesOn session) (rounds : Nat)
    (goesOn : ¬ EndedEarly progress.diagnostics.toList) :
    (repeatRounds round rounds progress).GoesOn session := by
  induction rounds generalizing progress with
  | zero => exact goesOn
  | succ rounds inductionHypothesis =>
      have once := each progress goesOn
      unfold repeatRounds
      cases outcome : round progress with
      | next after =>
          rw [outcome] at once
          exact inductionHypothesis once
      | leave after =>
          rw [outcome] at once
          exact once
      | failed failure diagnostics =>
          rw [outcome] at once
          exact once

end Progress

/-- A rule reports nothing that ends the parse: it is given up instead.  By induction on
the rule. -/
theorem Rule.run_goesOn {session : Session}
    {call : Surroundings → Nonterminal → Progress → Outcome}
    (calls : ∀ surroundings nonterminal progress, surroundings.session = session →
      ¬ EndedEarly progress.diagnostics.toList →
      (call surroundings nonterminal progress).GoesOn session)
    (rule : Rule) {surroundings : Surroundings} (same : surroundings.session = session)
    {progress : Progress} (goesOn : ¬ EndedEarly progress.diagnostics.toList) :
    (rule.run call surroundings progress).GoesOn session := by
  induction rule generalizing surroundings progress with
  | done => exact goesOn
  | seq first second one two =>
      exact (one same goesOn).andThen fun middle reached => two same reached
  | take => exact goesOn
  | call nonterminal => exact calls surroundings nonterminal progress same goesOn
  | node part kind rule inductionHypothesis =>
      have opened : ¬ EndedEarly (progress.openNode kind).diagnostics.toList := goesOn
      exact (inductionHypothesis same opened).map fun _ => rfl
  | become kind => exact goesOn
  | nameFirst part => exact goesOn
  | wrap kind => exact goesOn
  | choose condition yes no whenHeld otherwise =>
      unfold run
      split
      · exact whenHeld same goesOn
      · exact otherwise same goesOn
  | settle ambiguity first second either or =>
      have settled := Progress.settle_goesOn surroundings.session ambiguity goesOn
      unfold run
      dsimp only
      split
      · exact either same settled
      · exact or same settled
  | loop rule inductionHypothesis =>
      exact Progress.repeatRounds_goesOn
        (fun middle reached => inductionHypothesis same reached) _ goesOn
  | leave => exact goesOn
  | nested rule inductionHypothesis =>
      subst same
      have charged := Progress.charge_goesOn surroundings.session goesOn
      have inside := charged.andThen fun middle reached => inductionHypothesis rfl reached
      unfold run
      exact inside.map fun _ => rfl
  | chain rule inductionHypothesis =>
      exact (inductionHypothesis same goesOn).map fun _ => rfl
  | link =>
      rw [← same]
      exact Progress.charge_goesOn surroundings.session goesOn
  | withBraces allowed rule inductionHypothesis =>
      have allowing : ({ surroundings with bracesAllowed := allowed } : Surroundings).session =
          session := same
      exact inductionHypothesis allowing goesOn
  | recover rule inductionHypothesis =>
      exact Progress.recover_goesOn progress (inductionHypothesis same goesOn)
  | reject expected =>
      exact Progress.not_endedEarly_restarted progress
        (progress.recoverable_unexpected expected) goesOn
  | fail expected =>
      exact ⟨goesOn, fun fatal => absurd fatal (progress.recoverable_unexpected expected)⟩
  | failMissing kind part => exact ⟨goesOn, fun fatal => absurd fatal Bool.false_ne_true⟩

theorem Nonterminal.run_goesOn {session : Session} (depth : Nat)
    (surroundings : Surroundings) (nonterminal : Nonterminal) (progress : Progress)
    (same : surroundings.session = session)
    (goesOn : ¬ EndedEarly progress.diagnostics.toList) :
    (Nonterminal.run depth surroundings nonterminal progress).GoesOn session := by
  induction depth generalizing surroundings nonterminal progress with
  | zero =>
      subst same
      exact ⟨goesOn, fun _ => ⟨rfl, rfl⟩⟩
  | succ depth inductionHypothesis =>
      exact Rule.run_goesOn inductionHypothesis nonterminal.rule same goesOn

/-! ## The outermost level -/

namespace Progress

/-- The children that have been built so far. -/
def built (progress : Progress) : List Element := progress.builder.children.toList

variable {session deeper : Session} {progress : Progress}

theorem built_closeNode (inner : Progress) (outer : Builder) (part : Option FieldName) :
    outer.children.toList <+: (inner.closeNode outer part).built := by
  have pushed : (inner.closeNode outer part).builder.children =
      (outer.push inner.builder.finish).children := by
    cases part with
    | none => rfl
    | some part => exact Builder.children_pushField _ _ _
  unfold built
  rw [pushed]
  by_cases hidden : inner.builder.finish.kind.isHidden = true
  · rw [Builder.children_push_of_hidden _ hidden]
    exact List.prefix_append _ _
  · rw [Builder.children_push_of_shown _ hidden]
    exact List.prefix_append _ _

theorem built_addFaulty (progress : Progress) : progress.built <+: progress.addFaulty.built := by
  unfold addFaulty
  dsimp only
  split
  · exact List.prefix_refl _
  · exact built_closeNode _ _ _

theorem built_restarted (before : Progress) (failure : Failure)
    (diagnostics : Array Diagnostic) :
    (before.restarted failure diagnostics).built = before.built :=
  congrArg (fun builder : Builder => builder.children.toList) (builder_restarted _ _ _)

theorem built_addRest (progress : Progress) : progress.built <+: progress.addRest.built := by
  unfold addRest
  dsimp only
  split
  · exact List.prefix_refl _
  · exact built_closeNode _ _ _

theorem built_skipSeparators (progress : Progress) :
    progress.built <+: progress.skipSeparators.built := by
  fun_induction skipSeparators progress with
  | case1 progress separator atEnd => exact List.prefix_refl _
  | case2 progress separator before inductionHypothesis =>
      refine List.IsPrefix.trans ?_ inductionHypothesis
      unfold built take Builder.pushToken
      rw [Array.toList_push]
      exact List.prefix_append _ _
  | case3 progress other => exact List.prefix_refl _

/-- A definition adds to the tree, if anything comes of it. -/
theorem built_definition (session : Session) {after : Progress}
    (comes : progress.definition session = .next after ∨
      progress.definition session = .leave after) : progress.built <+: after.built := by
  unfold definition at comes
  split at comes
  · have derived : Nonterminal.derive ⟨session, true⟩ .definition progress =
        Nonterminal.run (Nonterminal.perLevel * session.maxDepth + 3 + 1) ⟨session, true⟩
          .definition progress := rfl
    rw [derived, Nonterminal.run_definition] at comes
    split at comes
    · rcases comes with impossible | impossible
      · cases impossible
      · cases impossible
    · generalize Rule.definitionParts.run _ _ _ = outcome at comes
      cases outcome with
      | next inner =>
          rcases comes with same | impossible
          · cases same
            exact built_closeNode inner progress.builder none
          · cases impossible
      | leave inner =>
          rcases comes with impossible | same
          · cases impossible
          · cases same
            exact built_closeNode inner progress.builder none
      | failed failure diagnostics =>
          unfold recover at comes
          dsimp only [Outcome.map] at comes
          split at comes
          · rcases comes with impossible | impossible
            · cases impossible
            · cases impossible
          · rcases comes with same | impossible
            · cases same
              have added := built_addFaulty (progress.restarted failure diagnostics)
              rw [built_restarted] at added
              exact added
            · cases impossible
  · rcases comes with same | impossible
    · cases same
      have added := built_addFaulty
        (progress.restarted (progress.unexpected ["definition"]) progress.diagnostics)
      rw [built_restarted] at added
      exact added
    · cases impossible

/-- What a round finds in the tree stays there. -/
theorem built_definitions_succ {session : Session} {count : Nat}
    (further : ∀ done : Progress, done.built <+: (done.definitions session count).built)
    (progress : Progress) :
    progress.skipSeparators.built <+: (progress.definitions session (count + 1)).built := by
  rw [definitions_succ]
  split
  · exact List.prefix_refl _
  · split
    · rename_i done comes
      exact (built_definition session (.inl comes)).trans (further done)
    · rename_i done comes
      exact (built_definition session (.inr comes)).trans (further done)
    · rename_i failure diagnostics comes
      have added := built_addRest (progress.skipSeparators.restarted failure diagnostics)
      rw [built_restarted] at added
      exact added

/-- Definitions only add to the tree. -/
theorem built_definitions (session : Session) (count : Nat) (progress : Progress) :
    progress.built <+: (progress.definitions session count).built := by
  induction count generalizing progress with
  | zero => exact List.prefix_refl _
  | succ count inductionHypothesis =>
      exact (built_skipSeparators progress).trans
        (built_definitions_succ inductionHypothesis progress)

theorem diagnostics_skipSeparators (progress : Progress) :
    progress.skipSeparators.diagnostics = progress.diagnostics := by
  fun_induction skipSeparators progress with
  | case1 progress separator atEnd => rfl
  | case2 progress separator before inductionHypothesis => exact inductionHypothesis
  | case3 progress other => rfl

theorem definition_goesOn (session : Session)
    (goesOn : ¬ EndedEarly progress.diagnostics.toList) :
    (progress.definition session).GoesOn session := by
  unfold definition
  split
  · exact recover_goesOn progress
      (Nonterminal.run_goesOn _ ⟨session, true⟩ .definition progress rfl goesOn)
  · exact not_endedEarly_restarted progress (progress.recoverable_unexpected ["definition"])
      goesOn

/-- A parse has ended at a definition that nests too deeply.  A parse with a higher limit
has come to the same definition in the same way and has gone further. -/
structure EndedAt (session : Session) (ready : Progress) (failure : Failure)
    (diagnostics : Array Diagnostic) (ended further : Progress) : Prop where
  inside : ready.stream.atEnd = false
  fault : failure.fault = .nestingTooDeep session.maxDepth
  reported : failure.reported = false
  goesOn : ¬ EndedEarly diagnostics.toList
  ended : ended = (ready.restarted failure diagnostics).addRest
  further : ready.built <+: further.built

/-- The definitions of a source are read alike under a higher limit, or they end at one of
them.  By induction on the number of rounds. -/
theorem definitions_persist (within : session.Within deeper) (count : Nat)
    (goesOn : ¬ EndedEarly progress.diagnostics.toList) :
    (progress.definitions deeper count = progress.definitions session count ∧
      ¬ EndedEarly (progress.definitions session count).diagnostics.toList) ∨
    ∃ ready failure diagnostics, EndedAt session ready failure diagnostics
      (progress.definitions session count) (progress.definitions deeper count) := by
  induction count generalizing progress with
  | zero => exact .inl ⟨rfl, goesOn⟩
  | succ count inductionHypothesis =>
      have ready : ¬ EndedEarly progress.skipSeparators.diagnostics.toList := by
        rw [diagnostics_skipSeparators]
        exact goesOn
      by_cases atEnd : progress.skipSeparators.stream.atEnd = true
      · rw [definitions_succ, definitions_succ, if_pos atEnd, if_pos atEnd]
        exact .inl ⟨rfl, ready⟩
      · have persists := definition_persists within progress.skipSeparators
        have once := definition_goesOn session ready
        have kept := built_definitions_succ (built_definitions deeper count) progress
        cases comes : progress.skipSeparators.definition session with
        | next done =>
            rw [comes] at persists once
            rw [definitions_succ, definitions_succ, if_neg atEnd, if_neg atEnd, comes,
              persists.resolve_left id]
            exact inductionHypothesis once
        | leave done =>
            rw [comes] at persists once
            rw [definitions_succ, definitions_succ, if_neg atEnd, if_neg atEnd, comes,
              persists.resolve_left id]
            exact inductionHypothesis once
        | failed failure diagnostics =>
            have fatal := isFatal_of_definition comes
            rw [comes] at once
            have inside : progress.skipSeparators.stream.atEnd = false := by simpa using atEnd
            refine .inr ⟨progress.skipSeparators, failure, diagnostics, inside,
              (once.2 fatal).1, (once.2 fatal).2, once.1, ?_, kept⟩
            rw [definitions_succ, if_neg atEnd, comes]

end Progress

/-! ## The whole source -/

namespace Progress

variable {progress : Progress}

/-- The rest of a source is one more child, which holds nothing but tokens. -/
theorem built_addRest_eq (inside : progress.stream.atEnd = false) :
    ∃ faulty, progress.addRest.built = progress.built ++ [.node faulty] ∧
      faulty.kind = .error ∧ faulty.IsFlat ∧ faulty.tokens ≠ [] := by
  rcases takeAll_collects (progress.openNode .error) with ⟨tokens, collects, some⟩
  have nonempty : tokens ≠ [] := some inside
  have children : (progress.openNode .error).takeAll.builder.children.toList =
      tokens.map .token := collects.children.trans (List.nil_append _)
  have finished : (progress.openNode .error).takeAll.builder.finish.tokens = tokens := by
    rw [Builder.tokens_finish]
    unfold Builder.tokens
    rw [children, Element.tokens_map_token]
  have kept : (progress.openNode .error).takeAll.builder.isEmpty = false := by
    unfold Builder.isEmpty
    rw [← Array.isEmpty_toList, children, List.isEmpty_map]
    exact List.isEmpty_eq_false_iff.mpr nonempty
  have kind : (progress.openNode .error).takeAll.builder.finish.kind = .error := collects.kind
  refine ⟨(progress.openNode .error).takeAll.builder.finish, ?_, kind, ?_, ?_⟩
  · unfold addRest
    dsimp only
    rw [kept]
    refine Builder.children_push_of_shown _ ?_
    rw [kind]
    exact Bool.false_ne_true
  · unfold Node.IsFlat
    rw [finished]
    exact children
  · rw [finished]
    exact nonempty

end Progress

/-- A parse was cut off at its limit.  In front of the definition that nests too deeply its
tree is that of a parse with a higher limit, and what is left of the tokens is faulty. -/
structure Parsed.CutOff (parsed further : Parsed) (limit : Nat) (front : List Element)
    (faulty : Node) (ending : Token) : Prop where
  children : parsed.root.children = front ++ [.node faulty, .token ending]
  further : front <+: further.root.children
  kind : faulty.kind = .error
  flat : faulty.IsFlat
  nonempty : faulty.tokens ≠ []
  ending : ending.kind = .endOfFile
  /-- Of everything that is reported, one thing has ended the parse. -/
  reported : ∃ span, (parsed.diagnostics.filter fun diagnostic =>
    diagnostic.severity == .fatal) = [.grammatical (.nestingTooDeep limit) span]

theorem filter_fatal_of_not_endedEarly {diagnostics : List Diagnostic}
    (goesOn : ¬ EndedEarly diagnostics) :
    (diagnostics.filter fun diagnostic => diagnostic.severity == .fatal) = [] := by
  rw [List.filter_eq_nil_iff]
  intro diagnostic member fatal
  exact goesOn ⟨diagnostic, member, beq_iff_eq.mp fatal⟩

/-- A parse of a stream is the same under a higher limit, or it was cut off. -/
theorem parseStream_persists {session deeper : Session} (within : session.Within deeper)
    (stream : TokenStream) :
    (parseStream deeper stream = parseStream session stream ∧
      ¬ EndedEarly (parseStream session stream).diagnostics) ∨
    ∃ front faulty ending, (parseStream session stream).CutOff (parseStream deeper stream)
      session.maxDepth front faulty ending := by
  have nothing : ¬ EndedEarly (Progress.start stream .compilationUnit).diagnostics.toList := by
    rintro ⟨diagnostic, member, _⟩
    cases member
  have persists := Progress.definitions_persist within (stream.size + 1) nothing
  unfold parseStream
  dsimp only
  generalize (Progress.start stream .compilationUnit).definitions session (stream.size + 1) =
    ended at persists ⊢
  generalize (Progress.start stream .compilationUnit).definitions deeper (stream.size + 1) =
    further at persists ⊢
  rcases persists with ⟨same, goesOn⟩ | ⟨ready, failure, diagnostics, endedAt⟩
  · rw [same]
    exact .inl ⟨rfl, goesOn⟩
  · have inside : (ready.restarted failure diagnostics).stream.atEnd = false := by
      rw [Progress.stream_restarted]
      exact endedAt.inside
    rcases Progress.built_addRest_eq inside with ⟨faulty, built, kind, flat, nonempty⟩
    rcases Progress.addRest_moves inside with ⟨_, _, _, kept, atEnd⟩
    have taken : ∀ progress : Progress, progress.take.builder.finish.children =
        progress.built ++ [.token progress.stream.current] := fun progress => Array.toList_push
    refine .inr ⟨ready.built, faulty, ended.stream.current, ?_, ?_, kind, flat, nonempty, ?_, ?_⟩
    · show ended.take.builder.finish.children = _
      rw [taken, endedAt.ended, built, Progress.built_restarted, List.append_assoc]
      rfl
    · show _ <+: further.take.builder.finish.children
      rw [taken]
      exact endedAt.further.trans (List.prefix_append _ _)
    · rw [endedAt.ended]
      exact beq_iff_eq.mp atEnd
    · refine ⟨failure.span, ?_⟩
      show List.filter _ ended.diagnostics.toList = _
      rw [endedAt.ended, kept, Progress.diagnostics_restarted, List.filter_append,
        filter_fatal_of_not_endedEarly endedAt.goesOn, endedAt.reported, endedAt.fault]
      rfl

theorem not_endedEarly_lex [XidStart] (source : String) (tabWidth : Nat) :
    ¬ EndedEarly (lex source tabWidth).diagnostics := by
  rintro ⟨diagnostic, member, fatal⟩
  have lexical := lex_reports source tabWidth diagnostic member
  unfold Diagnostic.severity at fatal
  generalize diagnostic.fault = fault at lexical fatal
  cases fault with
  | lexical inner => cases fatal
  | grammatical inner => cases lexical

/-- The reports of the lexer and their order make no difference to what ends a parse. -/
theorem filter_fatal_parse [XidStart] {source : String} {options : ParseOptions}
    {fatal : Diagnostic}
    (reported : ((parsedAlone source options).diagnostics.filter fun diagnostic =>
      diagnostic.severity == .fatal) = [fatal]) :
    ((parse source options).diagnostics.filter fun diagnostic =>
      diagnostic.severity == .fatal) = [fatal] := by
  have perm := (diagnostics_perm source options).filter fun diagnostic =>
    diagnostic.severity == .fatal
  rw [List.filter_append, filter_fatal_of_not_endedEarly (not_endedEarly_lex _ _), reported]
    at perm
  exact List.perm_singleton.mp perm

/-- The limit of nesting shows only where it ends a parse.  A parse that does not come to
its limit is the same under every higher one.  A parse that does come to it reports that
once; what it has built in front is there under every higher limit, and the tokens that
are left make one node of faulty input in front of the mark at the end. -/
theorem parse_limit [XidStart] (source : String) (tabWidth : Nat) {limit deeper : Nat}
    (lower : limit ≤ deeper) :
    ((parse source ⟨tabWidth, limit⟩).isPartial = false →
      parse source ⟨tabWidth, deeper⟩ = parse source ⟨tabWidth, limit⟩) ∧
    ((parse source ⟨tabWidth, limit⟩).isPartial = true →
      ∃ front faulty ending,
        (parse source ⟨tabWidth, limit⟩).CutOff (parse source ⟨tabWidth, deeper⟩) limit front
          faulty ending ∧
        (lex source tabWidth).tokens = Element.tokens front ++ faulty.tokens ++ [ending]) := by
  have within : (sessionOf source ⟨tabWidth, limit⟩).Within
      (sessionOf source ⟨tabWidth, deeper⟩) := ⟨lower, rfl⟩
  rcases parseStream_persists within (.ofList (lex source tabWidth).tokens) with
    ⟨same, goesOn⟩ | ⟨front, faulty, ending, cutOff⟩
  · refine ⟨fun _ => ?_, fun early => ?_⟩
    · exact congrArg (fun parsed => Parsed.mk parsed.root
        (sortDiagnostics ((lex source tabWidth).diagnostics ++ parsed.diagnostics))) same
    · rcases Parsed.isPartial_iff.mp early with ⟨diagnostic, member, fatal⟩
      have perm := diagnostics_perm source ⟨tabWidth, limit⟩
      exact absurd ⟨diagnostic, perm.mem_iff.mp member, fatal⟩
        (not_endedEarly_append.mpr ⟨not_endedEarly_lex source tabWidth, goesOn⟩)
  · rcases cutOff.reported with ⟨span, alone⟩
    have reported := filter_fatal_parse alone
    refine ⟨fun whole => ?_, fun _ => ⟨front, faulty, ending, ?_, ?_⟩⟩
    · have early : EndedEarly (parse source ⟨tabWidth, limit⟩).diagnostics := by
        have member : Diagnostic.grammatical (.nestingTooDeep limit) span ∈ List.filter _ _ :=
          reported.symm ▸ List.mem_singleton_self _
        exact ⟨_, (List.mem_filter.mp member).1, rfl⟩
      rw [Parsed.isPartial_iff.mpr early] at whole
      cases whole
    · exact ⟨cutOff.children, cutOff.further, cutOff.kind, cutOff.flat, cutOff.nonempty,
        cutOff.ending, span, reported⟩
    · have tokens := parseStream_tokens (sessionOf source ⟨tabWidth, limit⟩)
        (lex_early source tabWidth)
      rw [completed_lex, Node.tokens_eq_children, cutOff.children, Element.tokens_append,
        Element.tokens_cons_node, Element.tokens_cons_token, Element.tokens_nil] at tokens
      rw [← tokens, List.append_assoc]

/-- With one level of nesting the brackets of `f` are too deep, and `g` is lost with them. -/
theorem parse_limit_brackets :
    1 ≤ 9 ∧ (parse "def e = 1\ndef f() = (1)\ndef g() = 1\n" ⟨4, 1⟩).isPartial = true ∧
    (∃ front faulty ending,
      (parse "def e = 1\ndef f() = (1)\ndef g() = 1\n" ⟨4, 1⟩).CutOff
        (parse "def e = 1\ndef f() = (1)\ndef g() = 1\n" ⟨4, 9⟩) 1 front faulty ending ∧
      (lex "def e = 1\ndef f() = (1)\ndef g() = 1\n" 4).tokens =
        Element.tokens front ++ faulty.tokens ++ [ending]) ∧
    (parse "def e = 1\ndef f() = (1)\ndef g() = 1\n" ⟨4, 9⟩).isPartial = false ∧
    parse "def e = 1\ndef f() = (1)\ndef g() = 1\n" ⟨4, 128⟩ =
      parse "def e = 1\ndef f() = (1)\ndef g() = 1\n" ⟨4, 9⟩ := by
  have early : (parse "def e = 1\ndef f() = (1)\ndef g() = 1\n" ⟨4, 1⟩).isPartial = true := by
    decide +kernel
  have whole : (parse "def e = 1\ndef f() = (1)\ndef g() = 1\n" ⟨4, 9⟩).isPartial = false := by
    decide +kernel
  exact ⟨by decide, early, (parse_limit _ 4 (by decide)).2 early, whole,
    (parse_limit _ 4 (by decide)).1 whole⟩

end Offside
