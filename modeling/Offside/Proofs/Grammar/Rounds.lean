import Offside.Proofs.Grammar.Neutral
import Offside.Proofs.Grammar.Filling

namespace Offside

/-!
# Loops come to an end by themselves

A loop is given one round more than there are tokens left.  It would need more only if some of
its rounds did not get on, for the rounds that do take a token each.

Whether a rule gets on can mostly be read off its form, but not if something goes wrong: a token
is not taken at the end of the source, and there is nothing to recover with either.  There the
questions that were asked in front of it have to be taken into account.  As long as nothing has
been taken they keep their answers, and some of the answers show that the source has not ended.
-/

namespace Condition

/-- The answer shows that there is a token left. -/
def ShowsToken (answer : Bool) (condition : Condition) : Prop :=
  ∀ stream, condition.Shows answer stream → stream.atEnd = false

theorem showsToken_atKind {holds : TokenKind → Bool} (ended : holds .endOfFile = false) :
    (atKind holds).ShowsToken true := by
  intro stream shown
  rw [TokenStream.atEnd_eq_false_iff]
  intro isEnd
  change holds stream.kind = true at shown
  rw [isEnd, ended] at shown
  cases shown

@[simp]
theorem showsToken_atKeyword (word : Keyword) : (atKeyword word).ShowsToken true :=
  showsToken_atKind rfl

@[simp]
theorem showsToken_atMark (mark : Punctuation) : (atMark mark).ShowsToken true :=
  showsToken_atKind rfl

@[simp]
theorem showsToken_atSeparator : atSeparator.ShowsToken true := showsToken_atKind rfl

@[simp]
theorem showsToken_atMarks (marks : List Punctuation) : (atMarks marks).ShowsToken true := by
  intro stream shown
  rcases List.any_eq_true.mp shown with ⟨mark, _, found⟩
  exact showsToken_atMark mark stream found

/-- The kinds of tokens that the grammar asks for. -/
@[simp]
theorem showsToken_kinds :
    (atKind TokenKind.isIdentifier).ShowsToken true ∧
      (atKind TokenKind.isOperator).ShowsToken true ∧
      (atKind TokenKind.isName).ShowsToken true ∧
      (atKind TokenKind.isModifier).ShowsToken true ∧
      (atKind TokenKind.isInteger).ShowsToken true ∧
      (atKind TokenKind.isFloat).ShowsToken true ∧
      (atKind TokenKind.isCharacter).ShowsToken true ∧
      (atKind TokenKind.isPlainString).ShowsToken true ∧
      (atKind TokenKind.isBoolean).ShowsToken true ∧
      (atKind TokenKind.isLiteral).ShowsToken true ∧
      (atKind TokenKind.isStringStart).ShowsToken true ∧
      (atKind TokenKind.isStringMiddle).ShowsToken true ∧
      (atKind TokenKind.isStringEnd).ShowsToken true ∧
      (atKind (· == .indent)).ShowsToken true ∧
      (atKind (· == .outdent)).ShowsToken true ∧
      (atKind Rule.isNamespaceWildcard).ShowsToken true ∧
      (atKind fun kind => kind.isPlainLiteral || kind.isBoolean).ShowsToken true := by
  refine ⟨?_, ?_, ?_, ?_, ?_, ?_, ?_, ?_, ?_, ?_, ?_, ?_, ?_, ?_, ?_, ?_, ?_⟩ <;>
    exact showsToken_atKind rfl

@[simp]
theorem isSome_test?_atKeyword (word : Keyword) : (atKeyword word).test?.isSome = true := rfl

/-- A question that first asks whether some mark is there. -/
theorem showsToken_of_mark {mark : Punctuation} {test : TokenStream → Bool}
    (asks : ∀ stream : TokenStream, test stream = true → stream.isAtMark mark = true) :
    (ahead test).ShowsToken true :=
  fun stream shown => showsToken_atMark mark stream (asks stream shown)

@[simp]
theorem showsToken_isAtDot (follower : TokenKind → Bool) :
    (ahead fun stream => stream.isAtDot follower).ShowsToken true :=
  showsToken_of_mark fun _ shown => (Bool.and_eq_true_iff.mp shown).1

@[simp]
theorem showsToken_markOnLine (mark : Punctuation) :
    (Rule.markOnLine mark).ShowsToken true :=
  showsToken_of_mark fun _ shown => (Bool.and_eq_true_iff.mp shown).1

/-- Nothing is wanted any more where the source has ended. -/
theorem showsToken_of_atEnd {test : TokenStream → Bool}
    (asks : ∀ stream : TokenStream, stream.atEnd = true → test stream = true) :
    (ahead test).ShowsToken false := by
  intro stream shown
  rw [Bool.eq_false_iff]
  intro ended
  exact absurd (shown.symm.trans (asks stream ended)) Bool.false_ne_true

@[simp]
theorem showsToken_atMarkOrEnd (mark : Punctuation) :
    (atMarkOrEnd mark).ShowsToken false :=
  showsToken_of_atEnd fun _ ended => Bool.or_eq_true_iff.mpr (.inr ended)

@[simp]
theorem showsToken_itemsEnd (place : ItemsPlace) :
    (Rule.itemsEnd place).ShowsToken false :=
  showsToken_of_atEnd fun stream ended => by
    show (stream.atEnd || _ || _ || _) = true
    rw [ended]
    rfl

end Condition

/-! ## What is known of the tokens ahead -/

/-- The questions were answered like that. -/
def Answered (known : List (Condition × Bool)) (stream : TokenStream) : Prop :=
  ∀ fact ∈ known, fact.1.Shows fact.2 stream

/-- Some answer shows that there is a token left. -/
def KnowsToken (known : List (Condition × Bool)) : Prop :=
  ∃ fact ∈ known, fact.1.ShowsToken fact.2

section Known

variable {known : List (Condition × Bool)} {stream : TokenStream} {condition : Condition}
  {answer : Bool}

theorem answered_cons (shows : condition.Shows answer stream) (answered : Answered known stream) :
    Answered ((condition, answer) :: known) stream :=
  List.forall_mem_cons.mpr ⟨shows, answered⟩

@[simp]
theorem knowsToken_nil : KnowsToken [] ↔ False :=
  iff_false_intro fun ⟨_, member, _⟩ => List.not_mem_nil member

@[simp]
theorem knowsToken_cons :
    KnowsToken ((condition, answer) :: known) ↔
      condition.ShowsToken answer ∨ KnowsToken known := by
  unfold KnowsToken
  simp only [List.mem_cons, exists_eq_or_imp]

theorem KnowsToken.not_atEnd (knows : KnowsToken known) (answered : Answered known stream) :
    stream.atEnd = false := by
  rcases knows with ⟨fact, member, shows⟩
  exact shows stream (answered fact member)

end Known

namespace Rule

/-! ## What can be read off a rule -/

/-- Whether the rule is never done, because it leaves the loop around it or fails. -/
def halts : Rule → Bool
  | leave | fail _ | failMissing _ _ => true
  | seq first second => first.halts || second.halts
  | choose _ first second | settle _ first second => first.halts && second.halts
  | node _ _ rule | nested rule | chain rule | withBraces _ rule => rule.halts
  | _ => false

/-- What is known behind the rule, if it took nothing. -/
def knows : Rule → (known : List (Condition × Bool)) → List (Condition × Bool)
  | seq first second, known => second.knows (first.knows known)
  | choose condition yes no, known =>
    if yes.halts then no.knows ((condition, false) :: known)
    else if no.halts then yes.knows ((condition, true) :: known)
    else known
  | node _ _ rule, known | nested rule, known | chain rule, known | withBraces _ rule, known =>
    rule.knows known
  | _, known => known

/-- The rule takes a token on each way on which it is done or, if that is asked for, on which
it leaves the loop around it. -/
def GetsOn : Rule → (known : List (Condition × Bool)) → (leaving : Bool) → Prop
  | take, known, leaving | reject _, known, leaving => leaving = true ∨ KnowsToken known
  | done, _, leaving | become _, _, leaving | nameFirst _, _, leaving | wrap _, _, leaving
  | link, _, leaving => leaving = true
  | leave, _, leaving => leaving = false
  | fail _, _, _ | failMissing _ _, _, _ => True
  | call nonterminal, _, leaving => leaving = true ∨ nonterminal.takes = true
  | seq first second, known, false =>
    first.GetsOn known false ∨ second.GetsOn (first.knows known) false
  | seq first second, known, true =>
    first.GetsOn known true ∧
      (first.GetsOn known false ∨ second.GetsOn (first.knows known) true)
  | choose condition yes no, known, leaving =>
    yes.GetsOn ((condition, true) :: known) leaving ∧
      (condition.test?.isSome = true ∧ (condition, true) ∈ known ∨
        no.GetsOn ((condition, false) :: known) leaving)
  | settle _ first second, known, leaving =>
    first.GetsOn known leaving ∧ second.GetsOn known leaving
  | loop rule, known, leaving =>
    leaving = true ∨ (rule.GetsOn known false ∧ rule.GetsOn known true)
  | recover rule, known, leaving =>
    rule.GetsOn known leaving ∧ (leaving = true ∨ KnowsToken known)
  | node _ _ rule, known, leaving | nested rule, known, leaving | chain rule, known, leaving
  | withBraces _ rule, known, leaving => rule.GetsOn known leaving

/-- What the loops of a rule repeat. -/
def loops : Rule → List Rule
  | loop rule => rule :: rule.loops
  | seq first second | choose _ first second | settle _ first second =>
    first.loops ++ second.loops
  | node _ _ rule | nested rule | chain rule | withBraces _ rule | recover rule => rule.loops
  | _ => []

/-- Each round of each loop gets on. -/
def LoopsGetOn (rule : Rule) : Prop := ∀ body ∈ rule.loops, body.GetsOn [] false

end Rule

/-! ## The grammar -/

section Grammar
open Rule

attribute [local simp] inOrder Rule.cases Rule.optional whenever group field leaf keyword
  Rule.mark leaveIf takeOrLeave listUntil commaList commaListOne identifier name binder
  GetsOn LoopsGetOn loops knows halts Nonterminal.takes

theorem controlForms_getOn : ∀ form ∈ controlForms,
    (∀ known, form.2.GetsOn ((form.1, true) :: known) false) ∧ form.2.LoopsGetOn := by
  simp [controlForms, ifExpression, matchExpression, doExpression, regionExpression,
    queryExpression, tryExpression, whileExpression, forExpression, condition,
    enumerators, enumeratorsUntil, enumerator, Rule.guard, separators, indent]

theorem cases_getOn {alternatives : List (Condition × Rule)} {otherwise : Rule}
    {known : List (Condition × Bool)}
    (each : ∀ alternative ∈ alternatives,
      (∀ known, alternative.2.GetsOn ((alternative.1, true) :: known) false) ∧
        alternative.2.LoopsGetOn)
    (last : (∀ known, otherwise.GetsOn known false) ∧ otherwise.LoopsGetOn) :
    (Rule.cases alternatives otherwise).GetsOn known false ∧
      (Rule.cases alternatives otherwise).LoopsGetOn := by
  induction alternatives generalizing known with
  | nil => exact ⟨last.1 known, last.2⟩
  | cons alternative rest inductionHypothesis =>
      rw [List.forall_mem_cons] at each
      exact ⟨⟨each.1.1 known, .inr (inductionHypothesis each.2).1⟩,
        List.forall_mem_append.mpr ⟨each.1.2, (@inductionHypothesis known each.2).2⟩⟩

theorem expressionStart_getsOn (place : ExpressionPlace) :
    (expressionStart place).GetsOn [] false ∧ (expressionStart place).LoopsGetOn := by
  have operands : (∀ known, operand.GetsOn known false) ∧ operand.LoopsGetOn := by
    simp [operand, prefixExpression]
  have lambdas : (∀ known, lambdaExpression.GetsOn known false) ∧
      lambdaExpression.LoopsGetOn := by
    simp [lambdaExpression, lambdaParameters, binding]
  refine cases_getOn (List.forall_mem_append.mpr ⟨?_, ?_⟩) ?_
  · split
    · exact controlForms_getOn
    · exact List.forall_mem_nil _
  · simp [returnExpression, throwExpression, braceArgument, relBlock, relClause, relFact,
      relBody, atom, spliced, splice, literal, separators, indentedBlock, indent, outdent]
  · split
    · refine ⟨fun known => ⟨⟨lambdas.1 _, operands.1 _⟩, .inr (operands.1 _)⟩, ?_⟩
      exact List.forall_mem_append.mpr
        ⟨List.forall_mem_append.mpr ⟨lambdas.2, operands.2⟩, operands.2⟩
    · exact operands

theorem expressionStep_getsOn (place : ExpressionPlace) :
    (expressionStep place).GetsOn [] false ∧ (expressionStep place).LoopsGetOn := by
  have assigns : (∀ known, (assignment place).GetsOn
      ((Condition.atMarks [.equals, .colonEquals], true) :: known) false) ∧
        (assignment place).LoopsGetOn := by
    unfold assignment
    split <;> simp
  have colons : (∀ known, (colonStep place).GetsOn
      ((Condition.atMark .colon, true) :: known) false) ∧ (colonStep place).LoopsGetOn := by
    unfold colonStep
    repeat' split
    all_goals simp [colonArgument, lambdaParameters, binding, annotationMark]
  have joins : (∀ known, (operatorStep place).GetsOn known false) ∧
      (operatorStep place).LoopsGetOn := by
    unfold operatorStep
    repeat' split
    all_goals simp [infixStep, postfixStep, colonArgument, lambdaParameters, binding]
  have steps : ∀ alternative ∈ [(Condition.atMarks [.equals, .colonEquals], assignment place),
      (Condition.atMark .colon, colonStep place),
      (Condition.ahead TokenStream.atExpressionOperator, operatorStep place)],
      (∀ known, alternative.2.GetsOn ((alternative.1, true) :: known) false) ∧
        alternative.2.LoopsGetOn := by
    simp only [List.forall_mem_cons]
    exact ⟨assigns, colons, ⟨fun _ => joins.1 _, joins.2⟩, List.forall_mem_nil _⟩
  have last : (∀ known, leave.GetsOn known false) ∧ leave.LoopsGetOn :=
    ⟨fun _ => rfl, List.forall_mem_nil _⟩
  exact ⟨⟨rfl, .inr (cases_getOn steps last).1⟩, (@cases_getOn _ _ [] steps last).2⟩

/-- A nonterminal that takes a token gets on, and so do the rounds of all loops. -/
theorem Nonterminal.rule_getsOn (nonterminal : Nonterminal) :
    (nonterminal.takes = true → nonterminal.rule.GetsOn [] false) ∧
      nonterminal.rule.LoopsGetOn := by
  cases nonterminal with
  | definition =>
      simp [rule, Rule.definition, annotationMark, modifiers, alreadyAnnotated, annotatable,
        moduleDefinition, useDeclaration, importDeclaration, namespaceExpression,
        namespaceSelectors, enumDefinition, classDefinition, instanceDefinition,
        effDefinition, relDefinition, typeDefinition, letDefinition, functionDefinition,
        constructorApplication, withClauseIfAny, withClause, enumBody, enclosedItems,
        classConstructor, typeParametersIfAny, templateBodyIfAny, typeConstructor,
        predicateType, functionConstructor, parameters, parameter, annotations, indent,
        outdent]
  | templateBody => simp [rule, Rule.templateBody, enclosedItems, indent, outdent]
  | typeParameters =>
      simp [rule, Rule.typeParameters, typeParameter, annotations, annotationMark,
        typeParametersIfAny]
  | type =>
      simp [rule, Rule.type, arrowType, plainType, nativeType, literalType, literal,
        recordType, rowTail, relRecordType, typeChain, functionTypeRest, parameterTypes]
  | parameterType => simp [rule, Rule.parameterType]
  | simpleType =>
      simp [rule, Rule.simpleType, tupleType, typePath, singletonEnd, Rule.segment,
        typeArguments]
  | annotatedType => simp [rule, Rule.annotatedType, annotationMark]
  | structuralType => simp [rule, Rule.structuralType, enclosedItems, indent, outdent]
  | pattern place => simp [rule, Rule.pattern]
  | alternatives place =>
      cases place <;> simp [rule, Rule.alternatives, typedPattern, patternChain]
  | primaryPattern place =>
      cases place <;>
        simp [rule, Rule.primaryPattern, interpolated, spliced, splice, capturePattern,
          pathPattern, patternSegment, tuplePattern, unit, recordPattern, literal,
          constructorArgument]
  | body => simp [rule, Rule.body]
  | items place =>
      cases place <;>
        simp [rule, Rule.items, bareItems, item, delimitedItems, separators, enumCases]
  | block => simp [rule, Rule.block]
  | caseBlock => simp [rule, Rule.caseBlock, caseClause, Rule.guard, separators]
  | arguments => simp [rule, Rule.argumentList]
  | expression => simp [rule, Rule.expression]
  | operators place =>
      have starts := expressionStart_getsOn place
      have goesOn := expressionStep_getsOn place
      refine ⟨fun _ => .inl starts.1, List.forall_mem_append.mpr ⟨starts.2, ?_⟩⟩
      simpa using goesOn
  | simpleExpression =>
      simp [rule, Rule.simpleExpression, primary, interpolated, spliced, splice, literal,
        parenthesized, unit, instanceExpression, constructorApplication, lazyExpression,
        simpleStep, typeArguments, braceArgument, templateBodyAhead]

end Grammar

/-! ## Running the grammar -/

/-- Faulty input is gathered where there is some. -/
theorem Progress.position_lt_addFaulty {progress : Progress} {failure : Failure}
    {diagnostics : Array Diagnostic} (inside : progress.stream.atEnd = false) :
    progress.stream.position <
      (progress.restarted failure diagnostics).addFaulty.stream.position := by
  have same := progress.stream_restarted failure diagnostics
  rw [← same] at inside
  rcases addFaulty_moves inside with ⟨tokens, nonempty, moves, _⟩
  rw [moves.position, same]
  refine Nat.lt_add_of_pos_right ?_
  rw [Stretch.allTokens_cons, Stretch.allTokens_nil, List.append_nil]
  exact List.length_pos_iff.mpr nonempty

namespace Outcome

/-- What comes of a rule is in keeping with its form. -/
def GetsOn (before : Progress) (rule : Rule) (known : List (Condition × Bool)) :
    Outcome → Prop
  | next after => rule.halts = false ∧
    (rule.GetsOn known false → before.stream.position < after.stream.position) ∧
    (after.stream.position = before.stream.position →
      Answered (rule.knows known) before.stream)
  | leave after => rule.stays = false ∧
    (rule.GetsOn known true → before.stream.position < after.stream.position)
  | failed _ _ => True

namespace GetsOn

variable {before middle : Progress} {rule first second : Rule} {outcome : Outcome}
  {known : List (Condition × Bool)} {condition : Condition}

/-- A change behind a rule that leaves the stream alone. -/
theorem map {change : Progress → Progress} (gets : outcome.GetsOn before rule known)
    (same : ∀ after, (change after).stream = after.stream) :
    (outcome.map change).GetsOn before rule known := by
  cases outcome with
  | next after => simpa only [Outcome.map, GetsOn, same] using gets
  | leave after => simpa only [Outcome.map, GetsOn, same] using gets
  | failed failure diagnostics => exact True.intro

/-- The condition held. -/
theorem yes (gets : outcome.GetsOn before first ((condition, true) :: known))
    (answered : Answered known before.stream) :
    outcome.GetsOn before (.choose condition first second) known := by
  cases outcome with
  | next after =>
      refine ⟨Bool.and_eq_false_iff.mpr (.inl gets.1), fun always => gets.2.1 always.1,
        fun stood => ?_⟩
      unfold Rule.knows
      rw [gets.1, if_neg Bool.false_ne_true]
      split
      · exact gets.2.2 stood
      · exact answered
  | leave after =>
      exact ⟨Bool.and_eq_false_iff.mpr (.inl gets.1), fun always => gets.2 always.1⟩
  | failed failure diagnostics => exact True.intro

/-- The condition did not hold, so it was not known to hold. -/
theorem no (gets : outcome.GetsOn before second ((condition, false) :: known))
    (failed : condition.Shows false before.stream) (answered : Answered known before.stream) :
    outcome.GetsOn before (.choose condition first second) known := by
  have unknown : ¬ (condition.test?.isSome = true ∧ (condition, true) ∈ known) := by
    rintro ⟨isTest, member⟩
    cases condition with
    | ahead test => exact absurd (failed.symm.trans (answered _ member)) Bool.false_ne_true
    | _ => cases isTest
  cases outcome with
  | next after =>
      refine ⟨Bool.and_eq_false_iff.mpr (.inr gets.1),
        fun always => gets.2.1 (always.2.resolve_left unknown), fun stood => ?_⟩
      unfold Rule.knows
      split
      · exact gets.2.2 stood
      · rw [gets.1, if_neg Bool.false_ne_true]
        exact answered
  | leave after =>
      exact ⟨Bool.and_eq_false_iff.mpr (.inr gets.1),
        fun always => gets.2 (always.2.resolve_left unknown)⟩
  | failed failure diagnostics => exact True.intro

/-- Settling an ambiguity takes nothing, whichever rule is chosen. -/
theorem settled {ambiguity : Ambiguity} (gets : outcome.GetsOn middle rule known)
    (chosen : rule = first ∨ rule = second) (same : middle.stream = before.stream)
    (answered : Answered known before.stream) :
    outcome.GetsOn before (.settle ambiguity first second) known := by
  have halts : rule.halts = false → (Rule.settle ambiguity first second).halts = false := by
    intro goesOn
    rcases chosen with rfl | rfl
    · exact Bool.and_eq_false_iff.mpr (.inl goesOn)
    · exact Bool.and_eq_false_iff.mpr (.inr goesOn)
  have stays : rule.stays = false → (Rule.settle ambiguity first second).stays = false := by
    intro leaves
    rcases chosen with rfl | rfl
    · exact Bool.and_eq_false_iff.mpr (.inl leaves)
    · exact Bool.and_eq_false_iff.mpr (.inr leaves)
  have both : ∀ leaving, (Rule.settle ambiguity first second).GetsOn known leaving →
      rule.GetsOn known leaving := by
    intro leaving always
    rcases chosen with rfl | rfl
    · exact always.1
    · exact always.2
  cases outcome with
  | next after =>
      exact ⟨halts gets.1, fun always => same ▸ gets.2.1 (both false always), fun _ => answered⟩
  | leave after => exact ⟨stays gets.1, fun always => same ▸ gets.2 (both true always)⟩
  | failed failure diagnostics => exact True.intro

/-- Behind a rule that took nothing the second one begins where the first one did. -/
theorem andThen {rest : Progress → Outcome} (courses : outcome.Courses before)
    (once : outcome.GetsOn before first known)
    (further : ∀ middle, before.Course middle → (rest middle).Courses middle ∧
      ∀ known, Answered known middle.stream → (rest middle).GetsOn middle second known) :
    (outcome.andThen rest).GetsOn before (.seq first second) known := by
  cases outcome with
  | next middle =>
      rcases further middle courses with ⟨onward, twice⟩
      show (rest middle).GetsOn before _ known
      rcases Nat.lt_or_eq_of_le courses.position with moved | stood
      · have again := twice [] (List.forall_mem_nil _)
        cases came : rest middle with
        | next after =>
            rw [came] at onward again
            have further := Nat.lt_of_lt_of_le moved onward.position
            exact ⟨Bool.or_eq_false_iff.mpr ⟨once.1, again.1⟩, fun _ => further,
              fun same => absurd same (Nat.ne_of_gt further)⟩
        | leave after =>
            rw [came] at onward again
            exact ⟨Bool.and_eq_false_iff.mpr (.inr again.1),
              fun _ => Nat.lt_of_lt_of_le moved onward.position⟩
        | failed failure diagnostics => exact True.intro
      · have here : middle.stream = before.stream := by
          rw [courses.stream, ← stood]
          rfl
        have nothing : ¬ first.GetsOn known false := fun always =>
          Nat.ne_of_lt (once.2.1 always) stood
        have again := twice (first.knows known) (here ▸ once.2.2 stood.symm)
        cases came : rest middle with
        | next after =>
            rw [came] at again
            unfold GetsOn
            rw [← here]
            exact ⟨Bool.or_eq_false_iff.mpr ⟨once.1, again.1⟩,
              fun always => again.2.1 (Or.resolve_left always nothing), again.2.2⟩
        | leave after =>
            rw [came] at again
            unfold GetsOn
            rw [← here]
            exact ⟨Bool.and_eq_false_iff.mpr (.inr again.1),
              fun always => again.2 (always.2.resolve_left nothing)⟩
        | failed failure diagnostics => exact True.intro
  | leave after =>
      exact ⟨Bool.and_eq_false_iff.mpr (.inl once.1), fun always => once.2 always.1⟩
  | failed failure diagnostics => exact True.intro

/-- A loop makes at least one round. -/
theorem repeatRounds {round : Progress → Outcome}
    (courses : ∀ progress, (round progress).Courses progress)
    (once : (round before).GetsOn before rule known) (answered : Answered known before.stream)
    (rounds : Nat) : (repeatRounds round (rounds + 1) before).GetsOn before (.loop rule) known := by
  unfold Offside.repeatRounds
  cases came : round before with
  | next middle =>
      rw [came] at once
      have ends := Courses.repeatRounds courses rounds middle
      dsimp only
      cases goes : Offside.repeatRounds round rounds middle with
      | next after =>
          rw [goes] at ends
          refine ⟨rfl, fun always => ?_, fun _ => answered⟩
          have always := Or.resolve_left always Bool.false_ne_true
          exact Nat.lt_of_lt_of_le (once.2.1 always.1) ends.position
      | leave after => exact absurd goes (Takes.repeatRounds_ne_leave _ _ _ _)
      | failed failure diagnostics => exact True.intro
  | leave after =>
      rw [came] at once
      refine ⟨rfl, fun always => ?_, fun _ => answered⟩
      exact once.2 (Or.resolve_left always Bool.false_ne_true).2
  | failed failure diagnostics => exact True.intro

/-- There is something to gather where a token is known to be left. -/
theorem recover (gets : outcome.GetsOn before rule known)
    (answered : Answered known before.stream) :
    (before.recover outcome).GetsOn before (.recover rule) known := by
  cases outcome with
  | next after => exact ⟨rfl, fun always => gets.2.1 always.1, fun _ => answered⟩
  | leave after => exact ⟨gets.1, fun always => gets.2 always.1⟩
  | failed failure diagnostics =>
      unfold Progress.recover
      dsimp only
      split
      · exact True.intro
      · refine ⟨rfl, fun always => ?_, fun _ => answered⟩
        exact Progress.position_lt_addFaulty
          ((always.2.resolve_left Bool.false_ne_true).not_atEnd answered)

end GetsOn
end Outcome

/-- By induction on the rule, with one case for each of its forms. -/
theorem Rule.run_getsOn {call : Surroundings → Nonterminal → Progress → Outcome}
    (courses : ∀ surroundings nonterminal progress,
      (call surroundings nonterminal progress).Courses progress)
    (calls : ∀ surroundings nonterminal progress known, Answered known progress.stream →
      (call surroundings nonterminal progress).GetsOn progress (.call nonterminal) known)
    (rule : Rule) (surroundings : Surroundings) {progress : Progress}
    {known : List (Condition × Bool)} (answered : Answered known progress.stream) :
    (rule.run call surroundings progress).GetsOn progress rule known := by
  induction rule generalizing surroundings progress known with
  | done | become | nameFirst | wrap =>
      exact ⟨rfl, fun always => absurd always Bool.false_ne_true, fun _ => answered⟩
  | seq first second one two =>
      exact .andThen (Rule.run_courses courses first surroundings progress)
        (one surroundings answered) fun middle _ =>
          ⟨Rule.run_courses courses second surroundings middle, fun _ => two surroundings⟩
  | take =>
      refine ⟨rfl, fun always => ?_, fun _ => answered⟩
      have inside := (Or.resolve_left always Bool.false_ne_true).not_atEnd answered
      rw [Progress.take, TokenStream.advance_eq_moveTo inside]
      exact Nat.lt_succ_self _
  | call nonterminal => exact calls surroundings nonterminal progress known answered
  | node part kind rule inductionHypothesis =>
      have inside : (rule.run call surroundings (progress.openNode kind)).GetsOn progress rule
          known := inductionHypothesis surroundings answered
      exact inside.map fun _ => rfl
  | choose condition yes no whenHeld otherwise =>
      unfold run
      have shows := condition.shows_holds surroundings progress
      split
      · rename_i held
        rw [held] at shows
        exact (whenHeld surroundings (answered_cons shows answered)).yes answered
      · rename_i failed
        rw [Bool.eq_false_iff.mpr failed] at shows
        exact (otherwise surroundings (answered_cons shows answered)).no shows answered
  | settle ambiguity first second either or =>
      have same := Progress.stream_settle surroundings.session progress ambiguity
      unfold run
      dsimp only
      split
      · exact (either surroundings (same ▸ answered)).settled (.inl rfl) same answered
      · exact (or surroundings (same ▸ answered)).settled (.inr rfl) same answered
  | loop rule inductionHypothesis =>
      exact .repeatRounds (Rule.run_courses courses rule surroundings)
        (inductionHypothesis surroundings answered) answered _
  | leave => exact ⟨rfl, fun always => absurd always.symm Bool.false_ne_true⟩
  | nested rule inductionHypothesis =>
      unfold run Progress.charge
      dsimp only
      split
      · exact True.intro
      · have inside : (rule.run call surroundings
            { progress with depth := progress.depth + 1 }).GetsOn progress rule known :=
          inductionHypothesis surroundings answered
        exact inside.map fun _ => rfl
  | chain rule inductionHypothesis =>
      exact (inductionHypothesis surroundings answered).map fun _ => rfl
  | link =>
      unfold run Progress.charge
      split
      · exact True.intro
      · exact ⟨rfl, fun always => absurd always Bool.false_ne_true, fun _ => answered⟩
  | withBraces allowed rule inductionHypothesis =>
      exact inductionHypothesis { surroundings with bracesAllowed := allowed } answered
  | recover rule inductionHypothesis =>
      exact (inductionHypothesis surroundings answered).recover answered
  | reject expected =>
      refine ⟨rfl, fun always => ?_, fun _ => answered⟩
      exact Progress.position_lt_addFaulty
        ((Or.resolve_left always Bool.false_ne_true).not_atEnd answered)
  | fail expected => exact True.intro
  | failMissing kind part => exact True.intro

namespace Nonterminal

/-- By induction on the number of nonterminals that may be open. -/
theorem run_getsOn (depth : Nat) (surroundings : Surroundings) (nonterminal : Nonterminal)
    (progress : Progress) (known : List (Condition × Bool))
    (answered : Answered known progress.stream) :
    (run depth surroundings nonterminal progress).GetsOn progress (.call nonterminal) known := by
  induction depth generalizing surroundings nonterminal progress known with
  | zero => exact True.intro
  | succ depth inductionHypothesis =>
      have ran : (nonterminal.rule.run (run depth) surroundings progress).GetsOn progress
          nonterminal.rule [] :=
        Rule.run_getsOn (run_courses depth) inductionHypothesis nonterminal.rule surroundings
          (List.forall_mem_nil _)
      unfold run
      cases came : nonterminal.rule.run (run depth) surroundings progress with
      | next after =>
          rw [came] at ran
          refine ⟨rfl, fun always => ran.2.1 ?_, fun _ => answered⟩
          exact nonterminal.rule_getsOn.1 (Or.resolve_left always Bool.false_ne_true)
      | leave after =>
          rw [came] at ran
          exact absurd (ran.1.symm.trans nonterminal.rule_stays) Bool.false_ne_true
      | failed failure diagnostics => exact True.intro

end Nonterminal

/-! ## The rounds of a loop -/

/-- Where each round gets on, more rounds than there are tokens left make no difference. -/
theorem repeatRounds_eq_of_enough {round : Progress → Outcome} {progress : Progress}
    (courses : ∀ progress, (round progress).Courses progress)
    (each : ∀ progress after, round progress = .next after →
      progress.stream.position < after.stream.position)
    (inside : progress.stream.position ≤ progress.stream.body.size) {rounds more : Nat}
    (enough : progress.stream.remaining < rounds) (fewer : rounds ≤ more) :
    repeatRounds round more progress = repeatRounds round rounds progress := by
  induction rounds generalizing progress more with
  | zero => exact absurd enough (Nat.not_lt_zero _)
  | succ rounds inductionHypothesis =>
      obtain ⟨left, rfl⟩ : ∃ left, more = left + 1 := ⟨more - 1, by omega⟩
      have course := courses progress
      unfold repeatRounds
      cases came : round progress with
      | next after =>
          rw [came] at course
          have further := each progress after came
          have size : after.stream.body.size = progress.stream.body.size := by
            rw [course.stream]
            rfl
          have insideThere := course.bounded inside
          refine inductionHypothesis (size ▸ insideThere) ?_ (Nat.le_of_succ_le_succ fewer)
          unfold TokenStream.remaining TokenStream.size at enough ⊢
          omega
      | leave after => rfl
      | failed failure diagnostics => rfl

theorem Rule.GetsOn.position_lt {rule : Rule} (getsOn : rule.GetsOn [] false) {depth : Nat}
    {surroundings : Surroundings} {before after : Progress}
    (came : rule.run (Nonterminal.run depth) surroundings before = .next after) :
    before.stream.position < after.stream.position := by
  have gets : (rule.run (Nonterminal.run depth) surroundings before).GetsOn before rule [] :=
    Rule.run_getsOn (Nonterminal.run_courses depth) (Nonterminal.run_getsOn depth) rule
      surroundings (List.forall_mem_nil _)
  rw [came] at gets
  exact gets.2.1 getsOn

/-- No loop of the grammar runs out of rounds: as many more as one likes come to the same. -/
theorem Nonterminal.run_loop_eq {nonterminal : Nonterminal} {body : Rule}
    (repeated : body ∈ nonterminal.rule.loops) (depth : Nat) (surroundings : Surroundings)
    {progress : Progress} (inside : progress.stream.position ≤ progress.stream.body.size)
    {rounds : Nat} (enough : progress.stream.remaining < rounds) :
    repeatRounds (body.run (run depth) surroundings) rounds progress =
      (Rule.loop body).run (run depth) surroundings progress := by
  have courses := Rule.run_courses (run_courses depth) body surroundings
  have getsOn := nonterminal.rule_getsOn.2 body repeated
  exact repeatRounds_eq_of_enough courses (fun _ _ => getsOn.position_lt) inside
    (Nat.lt_succ_self _) enough

end Offside
