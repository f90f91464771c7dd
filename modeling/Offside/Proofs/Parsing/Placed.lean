import Offside.Proofs.Parsing.Complete
import Offside.Proofs.Parsing.Gathering
import Offside.Proofs.Tree.Places

namespace Offside

/-!
# Faulty input stands where it was gathered

A parse gathers faulty input at a position of the stream, and what it has gathered
becomes a node at some place of the tree.  The place is the position, as long as every
token is taken where the stream stands.  A rule that took a token at the end of the
source would add it without moving on, so what a rule keeps is only that the stream
has not moved further than the tokens reach.  In the end the two are the same, and then
they were the same all along.

Nothing is said of a parse that was ended early, because its last node of faulty input
was not gathered but takes in whatever is left.
-/

namespace Progress

/-! ## Places and positions -/

/-- A parse has not moved further over the stream than the tokens reach that the node
under construction holds, of which the first stood at `base`.  If they reach exactly
as far, the nodes of faulty input below it are as they should be. -/
structure Placed (stream : TokenStream) (base : Nat) (progress : Progress) : Prop where
  sameStream : progress.stream = stream.moveTo progress.stream.position
  kind : progress.builder.kind ≠ .error
  reaches : progress.stream.position ≤ base + progress.builder.tokens.length
  faults : progress.stream.position = base + progress.builder.tokens.length →
    ∀ place ∈ progress.builder.faults base,
      place.2.IsFlat ∧ stream.Gathered place.1 place.2.tokens

namespace Placed

variable {stream : TokenStream} {base : Nat} {progress before after inner : Progress}

/-- What is said depends on the stream and on the children that are built. -/
theorem of_same (placed : before.Placed stream base) (same : after.stream = before.stream)
    (children : after.builder.children = before.builder.children)
    (kind : after.builder.kind ≠ .error) : after.Placed stream base := by
  have tokens : after.builder.tokens = before.builder.tokens :=
    congrArg (fun children : Array Element => Element.tokens children.toList) children
  have faults : after.builder.faults base = before.builder.faults base :=
    congrArg (fun children : Array Element => Element.faults base children.toList) children
  refine ⟨?_, kind, ?_, ?_⟩
  · rw [same]
    exact placed.sameStream
  · rw [same, tokens]
    exact placed.reaches
  · rw [same, tokens, faults]
    exact placed.faults

theorem take (placed : progress.Placed stream base) : progress.take.Placed stream base := by
  have tokens : progress.take.builder.tokens.length = progress.builder.tokens.length + 1 := by
    unfold Progress.take
    rw [Builder.tokens_pushToken, List.length_append]
    rfl
  have faults : progress.take.builder.faults base = progress.builder.faults base :=
    Builder.faults_pushToken _ _ _
  have reaches := placed.reaches
  by_cases atEnd : progress.stream.atEnd = true
  · have stays : progress.take.stream = progress.stream := by
      show progress.stream.advance = progress.stream
      unfold TokenStream.advance
      exact if_pos atEnd
    refine ⟨?_, placed.kind, ?_, fun exactly => ?_⟩
    · rw [stays]
      exact placed.sameStream
    · rw [stays, tokens]
      omega
    · rw [stays, tokens] at exactly
      omega
  · have moved : progress.take.stream =
        progress.stream.moveTo (progress.stream.position + 1) :=
      TokenStream.advance_eq_moveTo (by simpa using atEnd)
    have position : progress.take.stream.position = progress.stream.position + 1 := by
      rw [moved, TokenStream.position_moveTo]
    refine ⟨?_, placed.kind, ?_, ?_⟩
    · rw [moved, placed.sameStream]
      rfl
    · rw [position, tokens]
      omega
    · rw [position, tokens, faults]
      exact fun exactly => placed.faults (by omega)

/-- A finished node is added to the node around it. -/
theorem push (placed : before.Placed stream base) (node : Node) {position : Nat}
    (reaches : position ≤ before.stream.position + node.tokens.length)
    (faults : position = before.stream.position + node.tokens.length →
      ∀ place ∈ node.faults before.stream.position,
        place.2.IsFlat ∧ stream.Gathered place.1 place.2.tokens)
    (moved : after.stream = stream.moveTo position)
    (children : after.builder.children = (before.builder.push node).children)
    (kind : after.builder.kind ≠ .error) : after.Placed stream base := by
  have around := placed.reaches
  have tokens : after.builder.tokens = before.builder.tokens ++ node.tokens := by
    rw [← Builder.tokens_push]
    exact congrArg (fun children : Array Element => Element.tokens children.toList) children
  have all : after.builder.faults base =
      before.builder.faults base ++ node.faults (base + before.builder.tokens.length) := by
    rw [← Builder.faults_push]
    exact congrArg (fun children : Array Element => Element.faults base children.toList) children
  refine ⟨by rw [moved]; rfl, kind, ?_, ?_⟩
  · rw [moved, TokenStream.position_moveTo, tokens, List.length_append]
    omega
  · rw [moved, TokenStream.position_moveTo, tokens, List.length_append, all]
    intro exactly place member
    have outside : before.stream.position = base + before.builder.tokens.length := by omega
    rcases List.mem_append.mp member with earlier | inside
    · exact placed.faults outside place earlier
    · rw [← outside] at inside
      exact faults (by omega) place inside

theorem openNode (placed : progress.Placed stream base) {kind : NodeKind}
    (kept : kind ≠ .error) : (progress.openNode kind).Placed stream progress.stream.position where
  sameStream := placed.sameStream
  kind := kept
  reaches := Nat.le_add_right _ _
  faults := by
    intro _ place member
    have nothing : (progress.openNode kind).builder.faults progress.stream.position = [] :=
      Element.faults_nil _
    rw [nothing] at member
    cases member

/-- The node that was opened last is finished. -/
theorem closeNode (placed : progress.Placed stream base)
    (built : inner.Placed stream progress.stream.position) (part : Option FieldName) :
    (inner.closeNode progress.builder part).Placed stream base := by
  have reaches := built.reaches
  have faults := built.faults
  rw [← Builder.tokens_finish] at reaches faults
  rw [← Builder.faults_finish _ _ built.kind] at faults
  refine placed.push _ reaches faults built.sameStream ?_ ?_
  · cases part with
    | none => rfl
    | some part => exact Builder.children_pushField _ _ _
  · cases part with
    | none => exact (Builder.kind_push _ _).symm ▸ placed.kind
    | some part => exact (Builder.kind_pushField _ _ _).symm ▸ placed.kind

theorem wrap (placed : progress.Placed stream base) {kind : NodeKind} (kept : kind ≠ .error) :
    (progress.wrap kind).Placed stream base := by
  have empty : ({ progress with
      stream := stream.moveTo base, builder := .new progress.builder.kind } :
        Progress).Placed stream base := by
    refine ⟨rfl, placed.kind, Nat.le_add_right _ _, fun _ place member => ?_⟩
    have nothing : (Builder.new progress.builder.kind).faults base = [] := Element.faults_nil _
    rw [nothing] at member
    cases member
  have reaches := placed.reaches
  have faults := placed.faults
  refine empty.push ({ progress.builder with kind := kind } : Builder).finish reaches ?_
    placed.sameStream rfl ((Builder.kind_push _ _).symm ▸ placed.kind)
  rw [Builder.faults_finish _ _ kept]
  exact faults

/-- Faulty input becomes a node of its own. -/
theorem addFaulty (placed : progress.Placed stream base) :
    progress.addFaulty.Placed stream base := by
  rcases gather_gathered (progress.openNode .error) 0 with ⟨tokens, collects, gathered⟩
  have moved : ((progress.openNode .error).gather 0).stream =
      stream.moveTo (progress.stream.position + tokens.length) := by
    rw [collects.stream]
    show progress.stream.moveTo _ = _
    rw [placed.sameStream]
    rfl
  have children : ((progress.openNode .error).gather 0).builder.children.toList =
      tokens.map .token := collects.children.trans (List.nil_append _)
  have finished : ((progress.openNode .error).gather 0).builder.finish.tokens = tokens := by
    rw [Builder.tokens_finish]
    unfold Builder.tokens
    rw [children, Element.tokens_map_token]
  unfold Progress.addFaulty
  dsimp only
  split
  · rename_i empty
    have none : tokens = [] := by
      have same : ((progress.openNode .error).gather 0).builder.children.toList = [] := by
        simpa [Builder.isEmpty] using empty
      rw [children] at same
      exact List.map_eq_nil_iff.mp same
    rw [none] at moved
    refine placed.of_same ?_ rfl placed.kind
    exact moved.trans placed.sameStream.symm
  · refine placed.push ((progress.openNode .error).gather 0).builder.finish ?_ ?_ moved rfl
      ((Builder.kind_push _ _).symm ▸ placed.kind)
    · exact Nat.le_of_eq (by rw [finished])
    · intro _ place member
      have faulty : ((progress.openNode .error).gather 0).builder.finish.kind = .error :=
        collects.kind
      have flat : ((progress.openNode .error).gather 0).builder.finish.IsFlat := by
        unfold Node.IsFlat
        rw [finished]
        exact children
      rw [Node.faults_of_error _ faulty flat, List.mem_singleton] at member
      rw [member]
      dsimp only
      rw [finished]
      have there : (progress.openNode .error).stream = stream.moveTo progress.stream.position :=
        placed.sameStream
      rw [there] at gathered
      exact ⟨flat, gathered.of_moveTo⟩

end Placed
end Progress

/-! ## Running the grammar -/

namespace Outcome

/-- What comes of a rule is placed.  If it was given up because it is fatal, the lexer
has not reported it. -/
def Placed (stream : TokenStream) (base : Nat) : Outcome → Prop
  | next progress => progress.Placed stream base
  | leave progress => progress.Placed stream base
  | failed failure _ => failure.fault.isFatal = true → failure.reported = false

variable {stream : TokenStream} {base inside : Nat} {outcome : Outcome}

theorem Placed.andThen {rest : Progress → Outcome} (placed : outcome.Placed stream base)
    (further : ∀ progress, progress.Placed stream base → (rest progress).Placed stream base) :
    (outcome.andThen rest).Placed stream base := by
  cases outcome with
  | next progress => exact further progress placed
  | leave progress => exact placed
  | failed failure diagnostics => exact placed

theorem Placed.map {change : Progress → Progress} (placed : outcome.Placed stream inside)
    (changes : ∀ progress, progress.Placed stream inside →
      (change progress).Placed stream base) : (outcome.map change).Placed stream base := by
  cases outcome with
  | next progress => exact changes progress placed
  | leave progress => exact changes progress placed
  | failed failure diagnostics => exact placed

theorem Placed.recover {before : Progress} (started : before.Placed stream base)
    (placed : outcome.Placed stream base) : (before.recover outcome).Placed stream base := by
  cases outcome with
  | next progress => exact placed
  | leave progress => exact placed
  | failed failure diagnostics =>
      unfold Progress.recover
      dsimp only
      split
      · exact placed
      · have restarted : (before.restarted failure diagnostics).Placed stream base :=
          started.of_same (Progress.stream_restarted _ _ _)
            (congrArg Builder.children (Progress.builder_restarted _ _ _))
            ((Progress.builder_restarted before failure diagnostics).symm ▸ started.kind)
        exact restarted.addFaulty

end Outcome

namespace Progress.Placed

variable {stream : TokenStream} {base : Nat} {progress : Progress}

theorem reportFailure (placed : progress.Placed stream base) (failure : Failure) :
    (progress.reportFailure failure).Placed stream base := by
  unfold Progress.reportFailure
  split
  · exact placed
  · exact placed.of_same rfl rfl placed.kind

/-- A level of nesting is charged, or there is none left. -/
theorem charge (placed : progress.Placed stream base) (session : Session) :
    (progress.charge session).Placed stream base := by
  unfold Progress.charge
  split
  · exact fun _ => rfl
  · exact placed.of_same rfl rfl placed.kind

theorem settle (placed : progress.Placed stream base) (session : Session)
    (ambiguity : Ambiguity) : (progress.settle session ambiguity).2.Placed stream base := by
  unfold Progress.settle
  split
  · exact placed
  · dsimp only
    split
    · exact placed
    · exact placed.of_same rfl rfl placed.kind

theorem repeatRounds {round : Progress → Outcome}
    (each : ∀ progress, progress.Placed stream base → (round progress).Placed stream base)
    (rounds : Nat) (placed : progress.Placed stream base) :
    (repeatRounds round rounds progress).Placed stream base := by
  induction rounds generalizing progress with
  | zero => exact placed
  | succ rounds inductionHypothesis =>
      have once := each progress placed
      unfold Offside.repeatRounds
      cases outcome : round progress with
      | next after =>
          rw [outcome] at once
          exact inductionHypothesis once
      | leave after =>
          rw [outcome] at once
          exact once
      | failed failure diagnostics =>
          rw [outcome] at once
          exact once

end Progress.Placed

/-- Whatever a rule does, its nodes of faulty input stand where they were gathered.
By induction on the rule, with one case for each of its forms. -/
theorem Rule.run_placed {stream : TokenStream}
    {call : Surroundings → Nonterminal → Progress → Outcome}
    (calls : ∀ surroundings nonterminal progress base, progress.Placed stream base →
      (call surroundings nonterminal progress).Placed stream base)
    (rule : Rule) (builds : rule.buildsConstructs = true) (surroundings : Surroundings)
    {progress : Progress} {base : Nat} (placed : progress.Placed stream base) :
    (rule.run call surroundings progress).Placed stream base := by
  induction rule generalizing surroundings progress base with
  | done => exact placed
  | seq first second one two =>
      rcases Bool.and_eq_true_iff.mp builds with ⟨buildsFirst, buildsSecond⟩
      exact (one buildsFirst surroundings placed).andThen fun middle reached =>
        two buildsSecond surroundings reached
  | take => exact placed.take
  | call nonterminal => exact calls surroundings nonterminal progress base placed
  | node part kind rule inductionHypothesis =>
      rcases Bool.and_eq_true_iff.mp builds with ⟨construct, buildsInside⟩
      have kept : kind ≠ .error := bne_iff_ne.mp construct
      exact (inductionHypothesis buildsInside surroundings (placed.openNode kept)).map
        fun inner built => placed.closeNode built part
  | become kind => exact placed.of_same rfl rfl (bne_iff_ne.mp builds)
  | nameFirst part =>
      exact placed.of_same rfl (Builder.children_attach _ _ _)
        ((Builder.kind_attach _ _ _).symm ▸ placed.kind)
  | wrap kind => exact placed.wrap (bne_iff_ne.mp builds)
  | choose condition yes no whenHeld otherwise =>
      rcases Bool.and_eq_true_iff.mp builds with ⟨buildsYes, buildsNo⟩
      unfold run
      split
      · exact whenHeld buildsYes surroundings placed
      · exact otherwise buildsNo surroundings placed
  | settle ambiguity first second either or =>
      rcases Bool.and_eq_true_iff.mp builds with ⟨buildsFirst, buildsSecond⟩
      have settled := placed.settle surroundings.session ambiguity
      unfold run
      dsimp only
      split
      · exact either buildsFirst surroundings settled
      · exact or buildsSecond surroundings settled
  | loop rule inductionHypothesis =>
      exact Progress.Placed.repeatRounds
        (fun middle reached => inductionHypothesis builds surroundings reached) _ placed
  | leave => exact placed
  | nested rule inductionHypothesis =>
      have charged := placed.charge surroundings.session
      refine (charged.andThen fun middle reached =>
        inductionHypothesis builds surroundings reached).map fun inner reached => ?_
      exact reached.of_same rfl rfl reached.kind
  | chain rule inductionHypothesis =>
      exact (inductionHypothesis builds surroundings placed).map fun inner reached =>
        reached.of_same rfl rfl reached.kind
  | link => exact placed.charge surroundings.session
  | withBraces allowed rule inductionHypothesis => exact inductionHypothesis builds _ placed
  | recover rule inductionHypothesis =>
      exact .recover placed (inductionHypothesis builds surroundings placed)
  | reject expected => exact (placed.reportFailure _).addFaulty
  | fail expected => exact fun fatal => by cases fatal
  | failMissing kind part => exact fun fatal => by cases fatal

theorem Nonterminal.run_placed {stream : TokenStream} (depth : Nat) :
    ∀ surroundings nonterminal progress base, progress.Placed stream base →
      (Nonterminal.run depth surroundings nonterminal progress).Placed stream base := by
  induction depth with
  | zero => exact fun surroundings nonterminal progress base placed _ => rfl
  | succ depth inductionHypothesis =>
      intro surroundings nonterminal progress base placed
      exact Rule.run_placed inductionHypothesis nonterminal.rule
        nonterminal.rule_buildsConstructs surroundings placed

/-! ## The outermost level -/

namespace Progress.Placed

variable {stream : TokenStream} {base : Nat} {progress : Progress}

theorem skipSeparators (placed : progress.Placed stream base) :
    progress.skipSeparators.Placed stream base := by
  fun_induction Progress.skipSeparators progress with
  | case1 progress separator atEnd => exact placed
  | case2 progress separator before inductionHypothesis => exact inductionHypothesis placed.take
  | case3 progress other => exact placed

theorem definition (placed : progress.Placed stream base) (session : Session) :
    (progress.definition session).Placed stream base := by
  unfold Progress.definition
  split
  · exact .recover placed (Nonterminal.run_placed _ _ _ _ _ placed)
  · exact (placed.reportFailure _).addFaulty

end Progress.Placed

/-- Whether something that was reported has ended the parse. -/
def EndedEarly (diagnostics : List Diagnostic) : Prop :=
  ∃ diagnostic ∈ diagnostics, diagnostic.severity = .fatal

theorem Parsed.isPartial_iff {parsed : Parsed} :
    parsed.isPartial = true ↔ EndedEarly parsed.diagnostics := by
  unfold isPartial EndedEarly
  simp only [List.any_eq_true, beq_iff_eq]

namespace Progress

/-- Only a fatal failure is not recovered from. -/
theorem isFatal_of_recover {before : Progress} {outcome : Outcome} {failure : Failure}
    {diagnostics : Array Diagnostic}
    (passed : before.recover outcome = .failed failure diagnostics) :
    failure.fault.isFatal = true := by
  cases outcome with
  | failed inner reports =>
      unfold recover at passed
      dsimp only at passed
      split at passed
      · cases passed
        assumption
      · cases passed
  | _ => cases passed

theorem isFatal_of_definition {session : Session} {progress : Progress} {failure : Failure}
    {diagnostics : Array Diagnostic}
    (passed : progress.definition session = .failed failure diagnostics) :
    failure.fault.isFatal = true := by
  unfold definition at passed
  split at passed
  · exact isFatal_of_recover passed
  · cases passed

theorem severity_of_isFatal {fault : GrammaticalFault} (fatal : fault.isFatal = true) :
    (Fault.grammatical fault).severity = .fatal := by
  cases fault <;> first | rfl | cases fatal

/-- Definitions are placed unless the parse was ended early. -/
theorem definitions_placed {stream : TokenStream} {base : Nat} (session : Session) (count : Nat)
    {progress : Progress} (placed : progress.Placed stream base) :
    (progress.definitions session count).Placed stream base ∨
      EndedEarly (progress.definitions session count).diagnostics.toList := by
  induction count generalizing progress with
  | zero => exact Or.inl placed
  | succ count inductionHypothesis =>
      have ready := placed.skipSeparators
      unfold definitions
      dsimp only
      by_cases ended : progress.skipSeparators.stream.atEnd = true
      · rw [if_pos ended]
        exact Or.inl ready
      · have inside : progress.skipSeparators.stream.atEnd = false := by simpa using ended
        have result := ready.definition session
        rw [if_neg ended]
        cases outcome : progress.skipSeparators.definition session with
        | next after =>
            rw [outcome] at result
            exact inductionHypothesis result
        | leave after =>
            rw [outcome] at result
            exact inductionHypothesis result
        | failed failure diagnostics =>
            rw [outcome] at result
            have fatal := isFatal_of_definition outcome
            have unreported : failure.reported = false := result fatal
            have restartedInside :
                (progress.skipSeparators.restarted failure diagnostics).stream.atEnd = false := by
              rw [stream_restarted]
              exact inside
            rcases addRest_moves restartedInside with ⟨tokens, _, _, kept, _⟩
            refine Or.inr ⟨.grammatical failure.fault failure.span, ?_,
              severity_of_isFatal fatal⟩
            show _ ∈
              (progress.skipSeparators.restarted failure diagnostics).addRest.diagnostics.toList
            rw [kept, diagnostics_restarted, unreported]
            exact List.mem_append_right _ (List.mem_singleton.mpr rfl)

end Progress

/-! ## The whole stream -/

/-- In a parse that was not ended early, the nodes of faulty input are flat, and their
tokens were gathered where the nodes stand. -/
theorem parseStream_gathered (session : Session) {stream : TokenStream}
    (atStart : stream.position = 0)
    (whole : (parseStream session stream).isPartial = false) :
    ∀ place ∈ (parseStream session stream).root.faults 0,
      place.2.IsFlat ∧ stream.Gathered place.1 place.2.tokens := by
  have started : (Progress.start stream .compilationUnit).Placed stream 0 := by
    refine ⟨rfl, nofun, ?_, fun _ place member => ?_⟩
    · show stream.position ≤ _
      rw [atStart]
      exact Nat.zero_le _
    · have nothing : (Builder.new .compilationUnit).faults 0 = [] := Element.faults_nil 0
      rw [show (Progress.start stream .compilationUnit).builder.faults 0 = [] from nothing]
        at member
      cases member
  have enough : (Progress.start stream .compilationUnit).stream.left.length <
      stream.size + 1 := by
    show (stream.body.toList.drop stream.position).length < stream.size + 1
    rw [List.length_drop, Array.length_toList]
    unfold TokenStream.size
    omega
  rcases Progress.definitions_reaches session _ _ enough with ⟨held, opened, step, _, _, _⟩
  have placed := Progress.definitions_placed session (stream.size + 1) started
  unfold parseStream at whole ⊢
  dsimp only at whole ⊢
  generalize (Progress.start stream .compilationUnit).definitions session (stream.size + 1) =
    ended at step placed whole ⊢
  rcases placed with placed | early
  · have reached : ended.stream.position = 0 + ended.builder.tokens.length := by
      have holds : ended.builder.tokens = Stretch.allTokens held := by
        unfold Builder.tokens
        rw [Element.tokens_eq]
        exact congrArg Stretch.allTokens step.builder
      have position := step.position
      rw [show (Progress.start stream .compilationUnit).stream.position = 0 from atStart]
        at position
      rw [position, holds]
    have kept : ended.take.builder.kind ≠ .error := placed.take.kind
    have same : ended.take.builder.faults 0 = ended.builder.faults 0 :=
      Builder.faults_pushToken _ _ _
    rw [Builder.faults_finish _ _ kept, same]
    exact placed.faults reached
  · have partly : (⟨ended.take.builder.finish, ended.take.diagnostics.toList⟩ :
        Parsed).isPartial = true := Parsed.isPartial_iff.mpr early
    rw [whole] at partly
    cases partly

end Offside
