import Offside.Proofs.Grammar.Neutral
import Offside.Proofs.Parsing.Transfer
import Offside.Proofs.Tree.Places

namespace Offside

/-!
# The same definitions of other tokens

On the outermost level a parse only ever adds to its tree.  So a parse that has read
something else in front may go on with the tokens of another source just as a parse of
that source begins: from there on the two build the same definitions and report the same
faults.

The first token needs a closer look where the two parses see different things in front
of it.  A definition keyword or a modifier settles the matter: until it is taken, only
its kind is asked for.
-/

namespace Rule

/-- What stands in the node of a definition. -/
def definitionParts : Rule :=
  inOrder
    [whenever (.atMark .atSign) <| inOrder
       [annotationMark,
        optional
          (.ahead fun stream => stream.kind.isSeparator && stream.definitionStartsAt 1)
          take],
     optional (.atKind TokenKind.isModifier) modifiers,
     choose alreadyAnnotated annotatable <|
       cases
         [(.atKeyword .modKw, moduleDefinition),
          (.atKeyword .useKw, useDeclaration),
          (.atKeyword .importKw, importDeclaration)]
         annotatable]

theorem definitionParts_local : definitionParts.Asks Condition.IsLocal :=
  Nonterminal.rule_local .definition

end Rule

/-! ## Two trees that grow alike -/

namespace Builder

/-- Two trees stay related when children with the same outline are added to both. -/
structure GrowAlike (related : Builder → Builder → Prop) : Prop where
  pushToken {outer outerThere : Builder} {token tokenThere : Token}
    (before : related outer outerThere) (outline : tokenThere.outline = token.outline) :
    related (outer.pushToken token) (outerThere.pushToken tokenThere)
  push {outer outerThere : Builder} {node nodeThere : Node}
    (before : related outer outerThere) (outline : nodeThere.outline = node.outline) :
    related (outer.push node) (outerThere.push nodeThere)

/-- Two trees with the same outline. -/
def SameOutline (outer outerThere : Builder) : Prop := outerThere.outline = outer.outline

theorem growAlike_sameOutline : GrowAlike SameOutline where
  pushToken before outline := by
    unfold SameOutline
    rw [outline_pushToken, outline_pushToken, before, outline]
  push before outline := by
    unfold SameOutline
    rw [outline_push, outline_push, before, outline]

/-- One tree has some children more in front. -/
def HasInFront (front : List Element) (outer outerThere : Builder) : Prop :=
  outerThere.children.toList.map Element.outline =
    front ++ outer.children.toList.map Element.outline

theorem growAlike_hasInFront (front : List Element) : GrowAlike (HasInFront front) where
  pushToken {outer _ token _} before outline := by
    unfold HasInFront Builder.pushToken
    rw [Array.toList_push, Array.toList_push, List.map_append, List.map_append, before,
      List.append_assoc]
    exact congrArg (fun token => front ++ (outer.children.toList.map Element.outline ++
      [Element.token token])) outline
  push {outer _ node nodeThere} before outline := by
    unfold HasInFront at *
    have kinds : nodeThere.kind = node.kind := by
      rw [← nodeThere.kind_outline, outline, node.kind_outline]
    by_cases hidden : node.kind.isHidden = true
    · have inner : nodeThere.children.map Element.outline =
          node.children.map Element.outline := by
        rw [← nodeThere.children_outline, outline, node.children_outline]
      rw [children_push_of_hidden _ hidden, List.map_append, ← inner,
        children_push_of_hidden _ (kinds ▸ hidden), List.map_append, before,
        List.append_assoc]
    · rw [children_push_of_shown _ hidden, List.map_append,
        children_push_of_shown _ (kinds ▸ hidden), List.map_append, before,
        List.append_assoc]
      exact congrArg (fun node => front ++ (outer.children.toList.map Element.outline ++
        [Element.node node])) outline

end Builder

namespace Progress

/-! ## The outermost level -/

/-- Two parses on the outermost level, whose trees are related in some way.  One of them
may have read something else in front. -/
structure TracksBehind (related : Builder → Builder → Prop) (stream other : TokenStream)
    (start : Nat) (likeness : Likeness) (first second : Progress) : Prop where
  here : first.stream = stream.moveTo first.stream.position
  there : second.stream = other.moveTo (start + first.stream.position)
  depth : second.depth = first.depth
  builders : related first.builder second.builder
  reports : likeness.Reports first.diagnostics second.diagnostics

namespace TracksBehind

variable {related : Builder → Builder → Prop} {stream other : TokenStream} {start : Nat}
  {likeness : Likeness} {first second : Progress}

theorem sameKinds (reappears : stream.Reappears other start likeness)
    (tracks : first.TracksBehind related stream other start likeness second) :
    first.stream.SameKinds second.stream := by
  rw [tracks.here, tracks.there]
  exact reappears.sameKinds first.stream.position

/-- With the same node under construction the two parses are as similar as can be. -/
theorem withBuilder (tracks : first.TracksBehind related stream other start likeness second)
    (builder : Builder) :
    ({ first with builder := builder } : Progress).Tracks stream other start likeness
      { second with builder := builder } :=
  ⟨tracks.here, tracks.there, tracks.depth, rfl, tracks.reports⟩

/-- What two parses add to their trees. -/
theorem of_tracks {inner innerThere : Progress} {outer outerThere : Builder}
    (tracks : inner.Tracks stream other start likeness innerThere)
    (builders : related outer outerThere) :
    ({ inner with builder := outer } : Progress).TracksBehind related stream other start
      likeness { innerThere with builder := outerThere } :=
  ⟨tracks.here, tracks.there, tracks.depth, builders, tracks.reports⟩

theorem take (grow : Builder.GrowAlike related)
    (reappears : stream.Reappears other start likeness)
    (tracks : first.TracksBehind related stream other start likeness second) :
    first.take.TracksBehind related stream other start likeness second.take := by
  have taken := (tracks.withBuilder (.new .error)).take reappears
  have tokens : second.stream.current.outline = first.stream.current.outline :=
    congrArg (Token.bare · (.empty 0)) (tracks.sameKinds reappears).kind.symm
  exact of_tracks taken (grow.pushToken tracks.builders tokens)

theorem reportFailure (tracks : first.TracksBehind related stream other start likeness second)
    {failure failureThere : Failure} (agrees : failure.Agrees likeness failureThere) :
    (first.reportFailure failure).TracksBehind related stream other start likeness
      (second.reportFailure failureThere) := by
  have reported := (tracks.withBuilder (.new .error)).reportFailure agrees
  have kept : ∀ (progress : Progress) (failure : Failure),
      progress.reportFailure failure =
        { ({ progress with builder := .new .error } : Progress).reportFailure failure with
          builder := progress.builder } := by
    intro progress failure
    unfold Progress.reportFailure
    split <;> rfl
  rw [kept first, kept second]
  exact of_tracks reported tracks.builders

/-- Adding a node with everything that was taken meanwhile, unless there is none. -/
theorem addNode (grow : Builder.GrowAlike related) {inner innerThere : Progress}
    (tracks : first.TracksBehind related stream other start likeness second)
    (gathered : inner.Tracks stream other start likeness innerThere) :
    (if inner.builder.isEmpty then { inner with builder := first.builder }
      else inner.closeNode first.builder none).TracksBehind related stream other start likeness
        (if innerThere.builder.isEmpty then { innerThere with builder := second.builder }
          else innerThere.closeNode second.builder none) := by
  rw [isEmpty_eq gathered.outline]
  split
  · exact of_tracks gathered tracks.builders
  · refine of_tracks gathered (grow.push tracks.builders ?_)
    rw [Builder.outline_finish, Builder.outline_finish, gathered.outline]

/-- Before the end a node of faulty input takes at least one token. -/
theorem addFaulty (grow : Builder.GrowAlike related)
    (reappears : stream.Reappears other start likeness)
    (tracks : first.TracksBehind related stream other start likeness second)
    (inside : first.stream.atEnd = false) :
    first.addFaulty.TracksBehind related stream other start likeness second.addFaulty ∧
      first.stream.position < first.addFaulty.stream.position := by
  have gathered := Tracks.gather reappears 0 ((tracks.withBuilder (.new .error)))
  have further := gathered.2.2 rfl inside
  refine ⟨tracks.addNode grow gathered.1, ?_⟩
  unfold Progress.addFaulty
  dsimp only
  split
  · exact further
  · exact further

theorem addRest (grow : Builder.GrowAlike related)
    (reappears : stream.Reappears other start likeness)
    (tracks : first.TracksBehind related stream other start likeness second) :
    first.addRest.TracksBehind related stream other start likeness second.addRest :=
  tracks.addNode grow ((tracks.withBuilder (.new .error)).takeAll reappears)

theorem skipSeparators (grow : Builder.GrowAlike related)
    (reappears : stream.Reappears other start likeness)
    (tracks : first.TracksBehind related stream other start likeness second) :
    first.skipSeparators.TracksBehind related stream other start likeness
        second.skipSeparators ∧
      first.stream.position ≤ first.skipSeparators.stream.position := by
  fun_induction Progress.skipSeparators first generalizing second with
  | case1 first separator atEnd =>
      have same := tracks.sameKinds reappears
      rw [Progress.skipSeparators.eq_def second, ← same.kind, if_pos separator,
        dif_pos (same.atEnd ▸ atEnd)]
      exact ⟨tracks, Nat.le_refl _⟩
  | case2 first separator before inductionHypothesis =>
      have same := tracks.sameKinds reappears
      have rest := inductionHypothesis (tracks.take grow reappears)
      rw [Progress.skipSeparators.eq_def second, ← same.kind, if_pos separator,
        dif_neg (same.atEnd ▸ before)]
      exact ⟨rest.1, Nat.le_trans (position_take_le first) rest.2⟩
  | case3 first other =>
      rw [Progress.skipSeparators.eq_def second, ← (tracks.sameKinds reappears).kind,
        if_neg other]
      exact ⟨tracks, Nat.le_refl _⟩

end TracksBehind
end Progress

/-! ## The first token -/

namespace Rule

/-- The rule does the same in two parses wherever they stand.  Whatever comes of it, it
has taken a token. -/
def TracksAnywhere (stream other : TokenStream) (start : Nat) (likeness : Likeness)
    (call : Surroundings → Nonterminal → Progress → Outcome) (rule : Rule) : Prop :=
  ∀ surroundings first second, first.Tracks stream other start likeness second →
    (rule.run call surroundings first).Tracks stream other start likeness
      (rule.run call surroundings second)

namespace TracksAnywhere

variable {stream other : TokenStream} {start : Nat} {likeness : Likeness}
  {call : Surroundings → Nonterminal → Progress → Outcome} {rule yes no rest : Rule}

theorem fail (reappears : stream.Reappears other start likeness) (expected : List String) :
    (Rule.fail expected).TracksAnywhere stream other start likeness call :=
  fun _ _ _ tracks => .failed (tracks.unexpected reappears expected) tracks.reports

/-- A choice by the kind of the current token, which is known where a rule is chosen. -/
theorem choose (reappears : stream.Reappears other start likeness)
    {holds : TokenKind → Bool}
    (whenHeld : ∀ surroundings first second,
      first.Tracks stream other start likeness second → holds first.stream.kind = true →
      (yes.run call surroundings first).Tracks stream other start likeness
        (yes.run call surroundings second))
    (otherwise : no.TracksAnywhere stream other start likeness call) :
    (Rule.choose (.atKind holds) yes no).TracksAnywhere stream other start likeness call := by
  intro surroundings first second tracks
  have same : holds second.stream.kind = holds first.stream.kind :=
    congrArg holds (tracks.kind_eq reappears)
  show Outcome.Tracks _ _ _ _ (if holds first.stream.kind = true then _ else _)
    (if holds second.stream.kind = true then _ else _)
  rw [same]
  split
  · rename_i held
    exact whenHeld surroundings first second tracks held
  · exact otherwise surroundings first second tracks

theorem chooseKeyword (reappears : stream.Reappears other start likeness) {word : Keyword}
    (whenHeld : yes.TracksAnywhere stream other start likeness call)
    (otherwise : no.TracksAnywhere stream other start likeness call) :
    (Rule.choose (.atKeyword word) yes no).TracksAnywhere stream other start likeness call :=
  .choose reappears (fun surroundings first second tracks _ =>
    whenHeld surroundings first second tracks) otherwise

/-- In front of a token that does not end the source, taking it goes on behind it. -/
theorem take_tracks (reappears : stream.Reappears other start likeness)
    {first second : Progress} (tracks : first.Tracks stream other start likeness second)
    (inside : first.stream.atEnd = false) :
    Outcome.Tracks stream other start likeness (.next first.take) (.next second.take) := by
  have near := likeness.onset_le
  have moves : first.take.stream.position = first.stream.position + 1 :=
    congrArg TokenStream.position (TokenStream.advance_eq_moveTo inside)
  exact .next (tracks.take reappears) (by omega)

theorem takeKeyword (reappears : stream.Reappears other start likeness) (word : Keyword)
    (otherwise : no.TracksAnywhere stream other start likeness call) :
    (Rule.choose (.atKeyword word) Rule.take no).TracksAnywhere stream other start likeness
      call := by
  refine .choose reappears (fun surroundings first second tracks held => ?_) otherwise
  refine take_tracks reappears tracks ?_
  rw [TokenStream.atEnd_eq_false_iff, TokenKind.eq_of_isKeyword held]
  exact nofun

theorem seq (reappears : stream.Reappears other start likeness)
    (calls : ∀ surroundings nonterminal first second,
      first.Tracks stream other start likeness second → likeness.onset ≤ first.stream.position →
      (call surroundings nonterminal first).Tracks stream other start likeness
        (call surroundings nonterminal second))
    (opens : rule.TracksAnywhere stream other start likeness call)
    (asks : rest.Asks Condition.IsLocal) :
    (Rule.seq rule rest).TracksAnywhere stream other start likeness call :=
  fun surroundings first second tracks =>
    (opens surroundings first second tracks).andThen fun _ _ tracks begun =>
      Rule.run_tracks reappears calls rest asks surroundings tracks begun

theorem becomeThen {kind : NodeKind}
    (opens : rule.TracksAnywhere stream other start likeness call) :
    (Rule.seq (Rule.become kind) rule).TracksAnywhere stream other start likeness call := by
  intro surroundings first second tracks
  refine opens surroundings _ _ (tracks.of_same rfl rfl tracks.depth ?_ tracks.reports)
  exact congrArg (fun builder : Builder => { builder with kind := kind }) tracks.outline

variable (reappears : stream.Reappears other start likeness)
  (calls : ∀ surroundings nonterminal first second,
    first.Tracks stream other start likeness second → likeness.onset ≤ first.stream.position →
    (call surroundings nonterminal first).Tracks stream other start likeness
      (call surroundings nonterminal second))

include reappears calls

/-- Behind its annotations and modifiers a definition is told apart by a keyword. -/
theorem annotatable (asks : Rule.annotatable.Asks Condition.IsLocal) :
    Rule.annotatable.TracksAnywhere stream other start likeness call := by
  have keyword : ∀ {word : Keyword},
      (Rule.keyword word).TracksAnywhere stream other start likeness call :=
    takeKeyword reappears _ (.fail reappears _)
  rcases asks with ⟨-, ⟨-, -, enums⟩, -, ⟨-, -, classes⟩, -, ⟨-, -, instances⟩, -,
    ⟨-, -, effects⟩, -, ⟨-, -, relations⟩, -, ⟨-, -, types⟩, -, ⟨-, -, lets⟩, -, -, -,
    ⟨-, functions⟩, -⟩
  have bindings : letDefinition.TracksAnywhere stream other start likeness call :=
    .becomeThen (.seq reappears calls (takeKeyword reappears _ (takeKeyword reappears _
      (.fail reappears _))) lets)
  refine .chooseKeyword reappears (.becomeThen (.seq reappears calls keyword enums)) ?_
  refine .chooseKeyword reappears (.becomeThen (.seq reappears calls keyword classes)) ?_
  refine .chooseKeyword reappears (.becomeThen (.seq reappears calls keyword instances)) ?_
  refine .chooseKeyword reappears (.becomeThen (.seq reappears calls keyword effects)) ?_
  refine .chooseKeyword reappears (.becomeThen (.seq reappears calls keyword relations)) ?_
  refine .chooseKeyword reappears (.becomeThen (.seq reappears calls keyword types)) ?_
  refine .chooseKeyword reappears bindings (.chooseKeyword reappears bindings ?_)
  exact .chooseKeyword reappears (.seq reappears calls keyword functions) (.fail reappears _)

end TracksAnywhere

/-- Nothing is repeated where the condition for it does not hold. -/
theorem run_whenever_of_not (call : Surroundings → Nonterminal → Progress → Outcome)
    {condition : Condition} {surroundings : Surroundings} {progress : Progress}
    (not : condition.holds surroundings progress = false) (rule : Rule) :
    (whenever condition rule).run call surroundings progress = .next progress := by
  unfold whenever run
  have once : (choose condition rule leave).run call surroundings progress =
      .leave progress := by
    unfold run
    rw [not]
    rfl
  rw [repeatRounds, once]

section FirstToken

variable {stream other : TokenStream} {start : Nat} {likeness : Likeness}
  {call : Surroundings → Nonterminal → Progress → Outcome}
  (reappears : stream.Reappears other start likeness)
  (calls : ∀ surroundings nonterminal first second,
    first.Tracks stream other start likeness second → likeness.onset ≤ first.stream.position →
    (call surroundings nonterminal first).Tracks stream other start likeness
      (call surroundings nonterminal second))

include reappears

include calls in
/-- A row of modifiers of which the first one is there. -/
theorem modifiers_tracks {surroundings : Surroundings} {first second : Progress}
    (tracks : first.Tracks stream other start likeness second)
    (modifier : first.stream.kind.isModifier = true) :
    (modifiers.run call surroundings first).Tracks stream other start likeness
      (modifiers.run call surroundings second) := by
  have inside : first.stream.atEnd = false :=
    TokenStream.atEnd_eq_false_iff.mpr
      (TokenKind.ne_endOfFile_of_isPlain (TokenKind.isPlain_of_isModifier modifier))
  have modifierThere : second.stream.kind.isModifier = true := by
    rw [tracks.kind_eq reappears]
    exact modifier
  have opened := tracks.openNode .modifiers
  have taken := TracksAnywhere.take_tracks reappears opened inside
  -- The first round takes the modifier; the others begin behind it.
  have rounds : ∀ progress : Progress, progress.stream.kind.isModifier = true →
      (whenever (.atKind TokenKind.isModifier) take).run call surroundings progress =
        repeatRounds ((choose (.atKind TokenKind.isModifier) take leave).run call surroundings)
          progress.stream.remaining progress.take := by
    intro progress modifier
    have once : (choose (.atKind TokenKind.isModifier) take leave).run call surroundings
        progress = .next progress.take := by
      unfold run
      rw [show (Condition.atKind TokenKind.isModifier).holds surroundings progress = true from
        modifier]
      rfl
    unfold whenever run
    rw [repeatRounds, once]
  have behind := rounds (first.openNode .modifiers) modifier
  have behindThere := rounds (second.openNode .modifiers) modifierThere
  unfold modifiers run
  dsimp only
  rw [behind, behindThere, (tracks.openNode .modifiers).remaining_eq reappears]
  cases taken with
  | next taken begun =>
      refine Outcome.Tracks.map (taken.repeatRounds (fun inner innerThere tracks begun =>
        Rule.run_tracks reappears calls _ ?_ surroundings tracks begun) _ begun) ?_
      · exact ⟨Condition.isLocal_atKind _, True.intro, True.intro⟩
      · exact fun inner innerThere tracksThere =>
          ⟨tracksThere.closeNode tracks.outline none, rfl⟩

include calls in
/-- The parts of a definition, in front of a definition keyword or a modifier. -/
theorem definitionParts_tracks {surroundings : Surroundings} {first second : Progress}
    (tracks : first.Tracks stream other start likeness second)
    (starts : first.stream.kind.startsDefinition = true)
    (nothing : first.firstKind? = none) :
    (definitionParts.run call surroundings first).Tracks stream other start likeness
      (definitionParts.run call surroundings second) := by
  rcases definitionParts_local with ⟨-, -, ⟨-, annotated, -, ⟨-, -, modules⟩, -,
    ⟨-, -, uses⟩, -, ⟨-, -, imports⟩, -⟩, -⟩
  have kinds := tracks.kind_eq reappears
  have noMark : ∀ {progress : Progress}, progress.stream.kind = first.stream.kind →
      (Condition.atMark .atSign).holds surroundings progress = false := by
    intro progress same
    show progress.stream.kind.isMark .atSign = false
    rw [same]
    generalize first.stream.kind = kind at starts
    cases kind <;> first | rfl | cases starts
  have keyword : ∀ {word : Keyword},
      (Rule.keyword word).TracksAnywhere stream other start likeness call :=
    .takeKeyword reappears _ (.fail reappears _)
  have declared : (cases [(.atKeyword .modKw, moduleDefinition),
      (.atKeyword .useKw, useDeclaration), (.atKeyword .importKw, importDeclaration)]
        annotatable).TracksAnywhere stream other start likeness call := by
    refine .chooseKeyword reappears (.becomeThen (.seq reappears calls keyword modules)) ?_
    refine .chooseKeyword reappears (.becomeThen (.seq reappears calls keyword uses)) ?_
    exact .chooseKeyword reappears (.becomeThen (.seq reappears calls keyword imports))
      (.annotatable reappears calls annotated)
  show Outcome.Tracks _ _ _ _ (Outcome.andThen _ _) (Outcome.andThen _ _)
  rw [run_whenever_of_not call (noMark rfl), run_whenever_of_not call (noMark kinds)]
  show Outcome.Tracks _ _ _ _ (Outcome.andThen (if first.stream.kind.isModifier = true then _
    else _) _) (Outcome.andThen (if second.stream.kind.isModifier = true then _ else _) _)
  rw [kinds]
  cases modifier : first.stream.kind.isModifier with
  | true =>
      refine (modifiers_tracks reappears calls tracks modifier).andThen
        fun inner innerThere tracks begun => ?_
      exact Rule.run_tracks reappears calls _ definitionParts_local.2.2 surroundings tracks
        begun
  | false =>
      have unannotated : ∀ {progress : Progress}, progress.firstKind? = none →
          alreadyAnnotated.holds surroundings progress = false := by
        intro progress nothing
        show progress.firstKind?.any _ = false
        rw [nothing]
        rfl
      have nothingThere : second.firstKind? = none :=
        (Progress.firstKind?_eq tracks.outline).trans nothing
      show Outcome.Tracks _ _ _ _
        (Outcome.andThen (if alreadyAnnotated.holds surroundings first = true then _ else _) _)
        (Outcome.andThen (if alreadyAnnotated.holds surroundings second = true then _ else _) _)
      rw [unannotated nothing, unannotated nothingThere]
      refine Outcome.Tracks.andThen (declared surroundings first second tracks)
        fun inner innerThere tracks begun => .next tracks begun

end FirstToken
end Rule

/-! ## The outermost level -/

/-- What comes of a definition in two parses on the outermost level. -/
inductive Outcome.TracksBehind (related : Builder → Builder → Prop)
    (stream other : TokenStream) (start : Nat) (likeness : Likeness) : Outcome → Outcome → Prop
  | next {first second : Progress}
      (tracks : first.TracksBehind related stream other start likeness second)
      (begun : likeness.onset ≤ first.stream.position) :
      TracksBehind related stream other start likeness (.next first) (.next second)
  | leave {first second : Progress}
      (tracks : first.TracksBehind related stream other start likeness second)
      (begun : likeness.onset ≤ first.stream.position) :
      TracksBehind related stream other start likeness (.leave first) (.leave second)
  | failed {failure failureThere : Failure} {diagnostics diagnosticsThere : Array Diagnostic}
      (agrees : failure.Agrees likeness failureThere)
      (reports : likeness.Reports diagnostics diagnosticsThere) :
      TracksBehind related stream other start likeness (.failed failure diagnostics)
        (.failed failureThere diagnosticsThere)

/-- A definition is a node, one level of nesting deeper. -/
theorem Nonterminal.run_definition (depth : Nat) (surroundings : Surroundings)
    (progress : Progress) :
    Nonterminal.run (depth + 1) surroundings .definition progress =
      if surroundings.session.maxDepth ≤ progress.depth then
        .failed (progress.tooDeep surroundings.session.maxDepth) progress.diagnostics
      else
        (Rule.definitionParts.run (Nonterminal.run depth) surroundings
          (({ progress with depth := progress.depth + 1 } : Progress).openNode
            .functionDefinition)).map fun inner =>
              { inner.closeNode progress.builder none with depth := progress.depth } := by
  show (Outcome.andThen (progress.charge surroundings.session)
    ((Rule.node none .functionDefinition Rule.definitionParts).run _ _)).map _ = _
  unfold Progress.charge
  split
  · rfl
  · show (Outcome.map _ (Rule.definitionParts.run (Nonterminal.run depth) surroundings
      (({ progress with depth := progress.depth + 1 } : Progress).openNode
        .functionDefinition))).map _ = _
    generalize Rule.definitionParts.run (Nonterminal.run depth) surroundings
      (({ progress with depth := progress.depth + 1 } : Progress).openNode
        .functionDefinition) = outcome
    cases outcome <;> rfl

namespace Progress.TracksBehind

variable {related : Builder → Builder → Prop} {stream other : TokenStream} {start : Nat}
  {likeness : Likeness} {first second : Progress} (grow : Builder.GrowAlike related)
  (reappears : stream.Reappears other start likeness)

include grow reappears

/-- A definition is read alike, also where it begins with the first token. -/
theorem derive_definition (session : Session)
    (tracks : first.TracksBehind related stream other start likeness second)
    (ready : likeness.onset ≤ first.stream.position ∨ first.stream.kind.startsDefinition = true) :
    (Nonterminal.derive ⟨session, true⟩ .definition first).TracksBehind related stream other
      start likeness (Nonterminal.derive ⟨session, true⟩ .definition second) := by
  have fresh := tracks.withBuilder (.new .functionDefinition)
  unfold Nonterminal.derive
  show Outcome.TracksBehind _ _ _ _ _ (Nonterminal.run
    (Nonterminal.perLevel * session.maxDepth + 3 + 1) _ _ _) (Nonterminal.run
      (Nonterminal.perLevel * session.maxDepth + 3 + 1) _ _ _)
  rw [Nonterminal.run_definition, Nonterminal.run_definition, tracks.depth]
  split
  · exact .failed (fresh.tooDeep reappears _) tracks.reports
  · have opened : (({ first with depth := first.depth + 1 } : Progress).openNode
          .functionDefinition).Tracks stream other start likeness
        (({ second with depth := first.depth + 1 } : Progress).openNode
          .functionDefinition) :=
      fresh.of_same rfl rfl rfl rfl tracks.reports
    have calls := Nonterminal.run_tracks reappears (Nonterminal.perLevel * session.maxDepth + 3)
    have parts : (Rule.definitionParts.run
          (Nonterminal.run (Nonterminal.perLevel * session.maxDepth + 3)) ⟨session, true⟩
          (({ first with depth := first.depth + 1 } : Progress).openNode
            .functionDefinition)).Tracks stream other start likeness
        (Rule.definitionParts.run
          (Nonterminal.run (Nonterminal.perLevel * session.maxDepth + 3)) ⟨session, true⟩
          (({ second with depth := first.depth + 1 } : Progress).openNode
            .functionDefinition)) := by
      rcases ready with begun | starts
      · exact Rule.run_tracks reappears calls _ Rule.definitionParts_local _ opened begun
      · exact Rule.definitionParts_tracks reappears calls opened starts rfl
    have closes : ∀ {inner innerThere : Progress},
        inner.Tracks stream other start likeness innerThere →
        ({ inner.closeNode first.builder none with depth := first.depth } :
            Progress).TracksBehind related stream other start likeness
          { innerThere.closeNode second.builder none with depth := first.depth } := by
      intro inner innerThere within
      have reset : ({ inner with depth := first.depth } : Progress).Tracks stream other start
          likeness { innerThere with depth := first.depth } :=
        within.of_same rfl rfl rfl within.outline within.reports
      refine of_tracks reset (grow.push tracks.builders ?_)
      rw [Builder.outline_finish, Builder.outline_finish, within.outline]
    generalize Rule.definitionParts.run _ _ (({ first with depth := first.depth + 1 } :
      Progress).openNode .functionDefinition) = came at parts ⊢
    generalize Rule.definitionParts.run _ _ (({ second with depth := first.depth + 1 } :
      Progress).openNode .functionDefinition) = cameThere at parts ⊢
    cases parts with
    | next within begun => exact .next (closes within) begun
    | leave within begun => exact .leave (closes within) begun
    | failed agrees reports => exact .failed agrees reports

/-- Faulty input takes the place of a definition that was given up. -/
theorem restarted (tracks : first.TracksBehind related stream other start likeness second)
    (inside : first.stream.atEnd = false) {failure failureThere : Failure}
    {diagnostics diagnosticsThere : Array Diagnostic}
    (agrees : failure.Agrees likeness failureThere)
    (reports : likeness.Reports diagnostics diagnosticsThere) :
    Outcome.TracksBehind related stream other start likeness
      (.next (({ first with diagnostics := diagnostics } : Progress).reportFailure
        failure).addFaulty)
      (.next (({ second with diagnostics := diagnosticsThere } : Progress).reportFailure
        failureThere).addFaulty) := by
  have again : ({ first with diagnostics := diagnostics } : Progress).TracksBehind related
      stream other start likeness { second with diagnostics := diagnosticsThere } :=
    ⟨tracks.here, tracks.there, tracks.depth, tracks.builders, reports⟩
  have added := (again.reportFailure agrees).addFaulty grow reappears
    (by rw [stream_reportFailure]; exact inside)
  have near := likeness.onset_le
  exact .next added.1 (by omega)

/-- Before the end, one round on the outermost level is alike. -/
theorem definition (session : Session)
    (tracks : first.TracksBehind related stream other start likeness second)
    (inside : first.stream.atEnd = false)
    (ready : likeness.onset ≤ first.stream.position ∨ first.stream.kind.startsDefinition = true) :
    (first.definition session).TracksBehind related stream other start likeness
      (second.definition session) := by
  unfold Progress.definition
  rw [← (tracks.sameKinds reappears).definitionStartsAt]
  split
  · have came := tracks.derive_definition grow reappears session ready
    generalize Nonterminal.derive ⟨session, true⟩ .definition first = outcome at came ⊢
    generalize Nonterminal.derive ⟨session, true⟩ .definition second = outcomeThere at came ⊢
    cases came with
    | next tracks begun => exact .next tracks begun
    | leave tracks begun => exact .leave tracks begun
    | failed agrees reports =>
        unfold Progress.recover
        dsimp only
        rw [agrees.fault]
        split
        · exact .failed agrees reports
        · exact tracks.restarted grow reappears inside agrees reports
  · have unexpected := (tracks.withBuilder (.new .error)).unexpected reappears ["definition"]
    exact tracks.restarted grow reappears inside unexpected tracks.reports

/-- The definitions of a source are read alike behind something else.  By induction on
the number of rounds. -/
theorem definitions (session : Session) (count : Nat)
    (tracks : first.TracksBehind related stream other start likeness second)
    (ready : likeness.onset ≤ first.stream.position ∨ first.stream.kind.startsDefinition = true) :
    (first.definitions session count).TracksBehind related stream other start likeness
      (second.definitions session count) := by
  induction count generalizing first second with
  | zero => exact tracks
  | succ count inductionHypothesis =>
      have skipped := tracks.skipSeparators grow reappears
      have readyThere : likeness.onset ≤ first.skipSeparators.stream.position ∨
          first.skipSeparators.stream.kind.startsDefinition = true := by
        rcases ready with begun | starts
        · exact .inl (Nat.le_trans begun skipped.2)
        · have other : ¬ first.stream.kind.isSeparator = true := by
            generalize first.stream.kind = kind at starts
            cases kind <;> first | cases starts | (intro separator; cases separator)
          rw [Progress.skipSeparators, if_neg other]
          exact .inr starts
      unfold Progress.definitions
      dsimp only
      rw [← (skipped.1.sameKinds reappears).atEnd]
      split
      · exact skipped.1
      · rename_i before
        have came := skipped.1.definition grow reappears session (by simpa using before) readyThere
        generalize first.skipSeparators.definition session = outcome at came ⊢
        generalize second.skipSeparators.definition session = outcomeThere at came ⊢
        cases came with
        | next tracks begun => exact inductionHypothesis tracks (.inl begun)
        | leave tracks begun => exact inductionHypothesis tracks (.inl begun)
        | @failed failure failureThere diagnostics diagnosticsThere agrees reports =>
            have again : ({ first.skipSeparators with diagnostics := diagnostics } :
                Progress).TracksBehind related stream other start likeness
                  { second.skipSeparators with diagnostics := diagnosticsThere } :=
              ⟨skipped.1.here, skipped.1.there, skipped.1.depth, skipped.1.builders, reports⟩
            exact (again.reportFailure agrees).addRest grow reappears

end Progress.TracksBehind
end Offside
