import Offside.Parsed
import Offside.Proofs.Grammar.Edited
import Offside.Proofs.Tree.Map

namespace Offside

/-!
# A parse of edited texts

A parse moves tokens into a tree and does not read the texts of strings on the way.  If
those texts are edited, the same rules are run and the same faults are found in the same
places, and the tree is the same tree with the texts edited.
-/

variable (edit : String → String)

namespace Builder

/-- Editing texts moves nothing. -/
theorem spanOf_edited (children : List Element) :
    spanOf (children.map (Element.map id (Token.mapText edit))) = spanOf children := by
  have spans : ∀ child : Element,
      (Element.map id (Token.mapText edit) child).span = child.span := by
    intro child
    cases child with
    | node inner => exact inner.span_map id (Token.mapText edit)
    | token leaf => rfl
  cases children with
  | nil => rfl
  | cons child rest => simp [spanOf, spans, Function.comp_def]

@[simp]
theorem finish_edited (builder : Builder) :
    (builder.map id (Token.mapText edit)).finish =
      builder.finish.map id (Token.mapText edit) :=
  (builder.map_finish id (Token.mapText edit) (spanOf_edited edit)).symm

end Builder

namespace Progress

/-- A parse that has come equally far over the edited texts. -/
def mapText (progress : Progress) : Progress :=
  { progress with
    stream := progress.stream.mapText edit
    builder := progress.builder.map id (Token.mapText edit) }

variable (progress : Progress)

@[simp]
theorem stream_mapText : (progress.mapText edit).stream = progress.stream.mapText edit := rfl

@[simp]
theorem depth_mapText : (progress.mapText edit).depth = progress.depth := rfl

@[simp]
theorem builder_mapText :
    (progress.mapText edit).builder = progress.builder.map id (Token.mapText edit) := rfl

@[simp]
theorem diagnostics_mapText :
    (progress.mapText edit).diagnostics = progress.diagnostics := rfl

/-! ## Steps -/

@[simp]
theorem take_mapText : (progress.mapText edit).take = progress.take.mapText edit := by
  simp [take, mapText]

@[simp]
theorem reportFailure_mapText (failure : Failure) :
    (progress.mapText edit).reportFailure failure =
      (progress.reportFailure failure).mapText edit := by
  unfold reportFailure
  rw [apply_ite (mapText edit)]
  rfl

@[simp]
theorem unexpected_mapText (expected : List String) :
    (progress.mapText edit).unexpected expected = progress.unexpected expected := by
  simp [unexpected]

@[simp]
theorem missing_mapText (kind : NodeKind) (part : FieldName) :
    (progress.mapText edit).missing kind part = progress.missing kind part := by
  simp [missing]

@[simp]
theorem tooDeep_mapText (limit : Nat) :
    (progress.mapText edit).tooDeep limit = progress.tooDeep limit := by
  simp [tooDeep]

@[simp]
theorem openNode_mapText (kind : NodeKind) :
    (progress.mapText edit).openNode kind = (progress.openNode kind).mapText edit := by
  simp [openNode, mapText]

@[simp]
theorem closeNode_mapText (outer : Builder) (part : Option FieldName) :
    (progress.mapText edit).closeNode (outer.map id (Token.mapText edit)) part =
      (progress.closeNode outer part).mapText edit := by
  cases part <;> simp [closeNode, mapText]

@[simp]
theorem wrap_mapText (kind : NodeKind) :
    (progress.mapText edit).wrap kind = (progress.wrap kind).mapText edit := by
  have inner := Builder.finish_edited edit { progress.builder with kind := kind }
  simp only [wrap, mapText, Builder.map_push, Builder.map_new, ← inner]
  rfl

/-- The kinds of children stay. -/
theorem kind_edited (child : Option Element) :
    (((child.map (Element.map id (Token.mapText edit))).bind Element.node?).map Node.kind) =
      (child.bind Element.node?).map Node.kind := by
  cases child with
  | none => rfl
  | some child => simp [Function.comp_def]

@[simp]
theorem firstKind?_mapText : (progress.mapText edit).firstKind? = progress.firstKind? := by
  unfold firstKind?
  rw [builder_mapText, Builder.children_map, Array.getElem?_map, kind_edited]

@[simp]
theorem lastKind?_mapText : (progress.mapText edit).lastKind? = progress.lastKind? := by
  unfold lastKind?
  rw [builder_mapText, Builder.children_map, Array.back?_map, kind_edited]

/-! ## Faulty input -/

@[simp]
theorem depthBehind_mapText (depth : Nat) (kind : TokenKind) :
    depthBehind depth (kind.mapText edit) = depthBehind depth kind := by
  simp [depthBehind]

/-- By induction on the tokens that are left. -/
@[simp]
theorem gather_mapText (depth : Nat) :
    (progress.mapText edit).gather depth = (progress.gather depth).mapText edit := by
  fun_induction progress.gather depth with
  | case1 progress depth atEnd =>
      rw [gather]
      simp [atEnd]
  | case2 progress depth before stops =>
      rw [gather]
      simp_all
  | case3 progress depth before goesOn inductionHypothesis =>
      rw [gather]
      simp_all

@[simp]
theorem takeAll_mapText : (progress.mapText edit).takeAll = progress.takeAll.mapText edit := by
  fun_induction Progress.takeAll progress with
  | case1 progress atEnd =>
      rw [takeAll]
      simp [atEnd]
  | case2 progress before inductionHypothesis =>
      rw [takeAll]
      simp [before, inductionHypothesis]

/-- What was gathered becomes a node, if it is anything. -/
theorem dropOrClose_mapText (gathered : Progress) :
    (if (gathered.mapText edit).builder.isEmpty then
        { gathered.mapText edit with builder := (progress.mapText edit).builder }
      else (gathered.mapText edit).closeNode (progress.mapText edit).builder none) =
      (if gathered.builder.isEmpty then { gathered with builder := progress.builder }
        else gathered.closeNode progress.builder none).mapText edit := by
  rw [builder_mapText, builder_mapText, closeNode_mapText, Builder.isEmpty_map,
    apply_ite (mapText edit)]
  rfl

@[simp]
theorem addFaulty_mapText :
    (progress.mapText edit).addFaulty = progress.addFaulty.mapText edit := by
  unfold addFaulty
  rw [openNode_mapText, gather_mapText]
  exact dropOrClose_mapText edit progress _

@[simp]
theorem addRest_mapText : (progress.mapText edit).addRest = progress.addRest.mapText edit := by
  unfold addRest
  rw [openNode_mapText, takeAll_mapText]
  exact dropOrClose_mapText edit progress _

/-- An ambiguity is settled alike. -/
theorem settle_mapText (session : Session) (ambiguity : Ambiguity) :
    (progress.mapText edit).settle session ambiguity =
      ((progress.settle session ambiguity).1,
        (progress.settle session ambiguity).2.mapText edit) := by
  unfold settle
  rw [lastKind?_mapText, stream_mapText, TokenStream.resolve_mapText,
    TokenStream.current_mapText]
  split
  · rfl
  · split <;> rfl

end Progress

/-! ## Running the grammar -/

open Progress (mapText)

namespace Outcome

variable (outcome : Outcome)

theorem andThen_mapText {rest : Progress → Outcome}
    (further : ∀ progress : Progress,
      rest (progress.mapText edit) = (rest progress).map (mapText edit)) :
    (outcome.map (mapText edit)).andThen rest = (outcome.andThen rest).map (mapText edit) := by
  cases outcome with
  | next progress => exact further progress
  | leave progress => rfl
  | failed failure diagnostics => rfl

theorem map_mapText {change changeThere : Progress → Progress}
    (changes : ∀ progress : Progress,
      changeThere (progress.mapText edit) = (change progress).mapText edit) :
    (outcome.map (mapText edit)).map changeThere = (outcome.map change).map (mapText edit) := by
  cases outcome with
  | next progress => exact congrArg next (changes progress)
  | leave progress => exact congrArg leave (changes progress)
  | failed failure diagnostics => rfl

end Outcome

theorem Progress.charge_mapText (session : Session) (progress : Progress) :
    (progress.mapText edit).charge session = (progress.charge session).map (mapText edit) := by
  unfold charge
  rw [depth_mapText, tooDeep_mapText, apply_ite (Outcome.map (mapText edit))]
  rfl

theorem Progress.recover_mapText (before : Progress) (outcome : Outcome) :
    (before.mapText edit).recover (outcome.map (mapText edit)) =
      (before.recover outcome).map (mapText edit) := by
  cases outcome with
  | next progress => rfl
  | leave progress => rfl
  | failed failure diagnostics =>
      have restarted := reportFailure_mapText edit { before with diagnostics := diagnostics }
        failure
      have added := congrArg addFaulty restarted
      rw [addFaulty_mapText] at added
      unfold recover Outcome.map
      dsimp only
      split
      · rfl
      · exact congrArg Outcome.next added

theorem repeatRounds_mapText {round : Progress → Outcome}
    (each : ∀ progress : Progress,
      round (progress.mapText edit) = (round progress).map (mapText edit))
    (rounds : Nat) (progress : Progress) :
    repeatRounds round rounds (progress.mapText edit) =
      (repeatRounds round rounds progress).map (mapText edit) := by
  induction rounds generalizing progress with
  | zero => rfl
  | succ rounds inductionHypothesis =>
      unfold repeatRounds
      rw [each]
      cases round progress with
      | next progress => exact inductionHypothesis progress
      | leave progress => rfl
      | failed failure diagnostics => rfl

theorem Condition.IsBlind.holds_mapText {condition : Condition} (blind : condition.IsBlind)
    (surroundings : Surroundings) (progress : Progress) :
    condition.holds surroundings (progress.mapText edit) =
      condition.holds surroundings progress := by
  cases condition with
  | ahead test => exact blind edit progress.stream
  | first test => simp [holds]
  | bracesAllowed => rfl

/-- A rule does the same with edited texts.  By induction on the rule, with one case for
each of its forms. -/
theorem Rule.run_mapText {call : Surroundings → Nonterminal → Progress → Outcome}
    (calls : ∀ surroundings nonterminal (progress : Progress),
      call surroundings nonterminal (progress.mapText edit) =
        (call surroundings nonterminal progress).map (mapText edit))
    (rule : Rule) (asks : rule.Asks Condition.IsBlind) (surroundings : Surroundings)
    (progress : Progress) :
    rule.run call surroundings (progress.mapText edit) =
      (rule.run call surroundings progress).map (mapText edit) := by
  induction rule generalizing surroundings progress with
  | done => rfl
  | seq first second inductionFirst inductionSecond =>
      unfold Rule.run
      rw [inductionFirst asks.1]
      exact Outcome.andThen_mapText edit _ (inductionSecond asks.2 surroundings)
  | take => exact congrArg Outcome.next (progress.take_mapText edit)
  | call nonterminal => exact calls surroundings nonterminal progress
  | node part kind rule inductionHypothesis =>
      unfold Rule.run
      rw [Progress.openNode_mapText, inductionHypothesis asks]
      exact Outcome.map_mapText edit _ fun inner => inner.closeNode_mapText edit _ part
  | become kind => rfl
  | nameFirst part =>
      unfold Rule.run
      simp [Outcome.map, mapText]
  | wrap kind => exact congrArg Outcome.next (progress.wrap_mapText edit kind)
  | choose condition yes no inductionYes inductionNo =>
      unfold Rule.run
      rw [asks.1.holds_mapText, inductionYes asks.2.1, inductionNo asks.2.2,
        apply_ite (Outcome.map (mapText edit))]
  | settle ambiguity first second inductionFirst inductionSecond =>
      unfold Rule.run
      rw [Progress.settle_mapText]
      dsimp only
      rw [inductionFirst asks.1, inductionSecond asks.2, apply_ite (Outcome.map (mapText edit))]
  | loop rule inductionHypothesis =>
      unfold Rule.run
      rw [Progress.stream_mapText, TokenStream.remaining_mapText]
      exact repeatRounds_mapText edit (inductionHypothesis asks surroundings) _ progress
  | leave => rfl
  | nested rule inductionHypothesis =>
      unfold Rule.run
      dsimp only
      rw [Progress.charge_mapText,
        Outcome.andThen_mapText edit _ (inductionHypothesis asks surroundings)]
      exact Outcome.map_mapText edit _ fun inner => rfl
  | chain rule inductionHypothesis =>
      unfold Rule.run
      dsimp only
      rw [inductionHypothesis asks]
      exact Outcome.map_mapText edit _ fun inner => rfl
  | link => exact progress.charge_mapText edit surroundings.session
  | withBraces allowed rule inductionHypothesis => exact inductionHypothesis asks _ progress
  | recover rule inductionHypothesis =>
      unfold Rule.run
      rw [inductionHypothesis asks]
      exact progress.recover_mapText edit _
  | reject expected =>
      unfold Rule.run
      rw [Progress.unexpected_mapText, Progress.reportFailure_mapText,
        Progress.addFaulty_mapText]
      rfl
  | fail expected =>
      unfold Rule.run
      rw [Progress.unexpected_mapText]
      rfl
  | failMissing kind part =>
      unfold Rule.run
      rw [Progress.missing_mapText]
      rfl

/-- Nonterminals do the same with edited texts, by induction on how many may be open. -/
theorem Nonterminal.run_mapText (depth : Nat) (surroundings : Surroundings)
    (nonterminal : Nonterminal) (progress : Progress) :
    run depth surroundings nonterminal (progress.mapText edit) =
      (run depth surroundings nonterminal progress).map (mapText edit) := by
  induction depth generalizing surroundings nonterminal progress with
  | zero =>
      unfold run
      rw [Progress.tooDeep_mapText]
      rfl
  | succ depth inductionHypothesis =>
      exact Rule.run_mapText edit inductionHypothesis nonterminal.rule nonterminal.rule_blind
        surroundings progress

/-! ## Whole sources -/

namespace Progress

theorem skipSeparators_mapText (progress : Progress) :
    (progress.mapText edit).skipSeparators = progress.skipSeparators.mapText edit := by
  fun_induction Progress.skipSeparators progress with
  | case1 progress separator atEnd =>
      rw [skipSeparators]
      simp [separator, atEnd]
  | case2 progress separator before inductionHypothesis =>
      rw [skipSeparators]
      simp [separator, before, inductionHypothesis]
  | case3 progress other =>
      rw [skipSeparators]
      simp [other]

theorem definition_mapText (session : Session) (progress : Progress) :
    (progress.mapText edit).definition session =
      (progress.definition session).map (mapText edit) := by
  unfold definition Nonterminal.derive
  rw [stream_mapText, TokenStream.definitionStartsAt_mapText, Nonterminal.run_mapText,
    recover_mapText, unexpected_mapText, reportFailure_mapText, addFaulty_mapText,
    apply_ite (Outcome.map (mapText edit))]
  rfl

theorem definitions_mapText (session : Session) (count : Nat) (progress : Progress) :
    (progress.mapText edit).definitions session count =
      (progress.definitions session count).mapText edit := by
  induction count generalizing progress with
  | zero => rfl
  | succ count inductionHypothesis =>
      unfold definitions
      dsimp only
      rw [skipSeparators_mapText, stream_mapText, TokenStream.atEnd_mapText, definition_mapText]
      split
      · rfl
      · cases progress.skipSeparators.definition session with
        | next done => exact inductionHypothesis done
        | leave done => exact inductionHypothesis done
        | failed failure diagnostics =>
            have restarted := reportFailure_mapText edit
              { progress.skipSeparators with diagnostics := diagnostics } failure
            have added := congrArg addRest restarted
            rw [addRest_mapText] at added
            exact added

end Progress

/-- Parsing edited texts edits the tree, and the reports stay as they are. -/
theorem parseStream_mapText (session : Session) (stream : TokenStream) :
    parseStream session (stream.mapText edit) =
      ⟨(parseStream session stream).root.map id (Token.mapText edit),
        (parseStream session stream).diagnostics⟩ := by
  have started : Progress.start (stream.mapText edit) .compilationUnit =
      (Progress.start stream .compilationUnit).mapText edit := by
    simp [Progress.start, mapText]
  unfold parseStream
  dsimp only
  rw [started, TokenStream.size_mapText, Progress.definitions_mapText, Progress.take_mapText,
    Progress.builder_mapText, Builder.finish_edited]
  rfl

end Offside
