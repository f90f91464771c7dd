import Offside.Proofs.Grammar.Neutral
import Offside.Proofs.Grammar.Taking

namespace Offside

/-!
# Where a construct can end

No construct of the grammar ends behind a dot or behind a modifier: something has to
follow.  So a parse that goes well does not end there either, and it does not matter that
a path could go on behind a dot, or a definition behind a modifier, if there were more.

The rules take most tokens right after a question about them, so what a rule takes last
can be read off its form, together with what has been asked before.
-/

namespace TokenKind

/-- Whether something has to follow the token. -/
def dangles (kind : TokenKind) : Bool := kind.isMark .dot || kind.isModifier

variable {kind : TokenKind}

theorem dangles_of_isKeyword {word : Keyword} (plain : word.isModifier = false)
    (found : kind.isKeyword word = true) : kind.dangles = false := by
  rw [eq_of_isKeyword found]
  exact plain

theorem dangles_of_isMark {mark : Punctuation} (other : mark ≠ .dot)
    (found : kind.isMark mark = true) : kind.dangles = false := by
  rw [eq_of_isMark found]
  cases mark <;> first | rfl | exact absurd rfl other

theorem dangles_of_isSeparator (separator : kind.isSeparator = true) : kind.dangles = false := by
  cases kind with
  | punctuation mark => cases mark <;> first | rfl | cases separator
  | _ => first | rfl | cases separator

end TokenKind

/-! ## Conditions -/

namespace Condition

/-- Where the condition holds, the token that stands a number of places ahead does not
dangle. -/
def Vouches (offset : Nat) : Condition → Prop
  | ahead test => ∀ stream : TokenStream, test stream = true →
    (stream.kindAhead offset).dangles = false
  | first _ | bracesAllowed => False

theorem vouches_of_kind {holds : TokenKind → Bool}
    (plain : ∀ kind, holds kind = true → kind.dangles = false) : (atKind holds).Vouches 0 :=
  fun _ found => plain _ found

@[simp]
theorem vouches_atKeyword (word : Keyword) :
    (atKeyword word).Vouches 0 ↔ word.isModifier = false := by
  refine ⟨fun vouches => ?_, fun plain => ?_⟩
  · exact vouches ⟨#[.bare (.keyword word) (.empty 0)], .endOfFile 0, 0, rfl⟩
      (beq_self_eq_true (TokenKind.keyword word))
  · exact vouches_of_kind fun _ => TokenKind.dangles_of_isKeyword plain

@[simp]
theorem vouches_atMark {mark : Punctuation} (other : mark ≠ .dot) :
    (atMark mark).Vouches 0 :=
  vouches_of_kind fun _ => TokenKind.dangles_of_isMark other

@[simp]
theorem vouches_atMarks {marks : List Punctuation} (other : .dot ∉ marks) :
    (atMarks marks).Vouches 0 := by
  intro stream found
  rcases List.any_eq_true.mp found with ⟨mark, member, same⟩
  exact TokenKind.dangles_of_isMark (fun dot => other (dot ▸ member)) same

/-- The sorts of tokens that the grammar asks for, modifiers apart. -/
@[simp]
theorem vouches_atKind :
    (atKind TokenKind.isIdentifier).Vouches 0 ∧ (atKind TokenKind.isOperator).Vouches 0 ∧
    (atKind TokenKind.isInteger).Vouches 0 ∧ (atKind TokenKind.isFloat).Vouches 0 ∧
    (atKind TokenKind.isCharacter).Vouches 0 ∧ (atKind TokenKind.isPlainString).Vouches 0 ∧
    (atKind TokenKind.isBoolean).Vouches 0 ∧ (atKind TokenKind.isLiteral).Vouches 0 ∧
    (atKind TokenKind.isStringStart).Vouches 0 ∧
    (atKind TokenKind.isStringMiddle).Vouches 0 ∧
    (atKind TokenKind.isStringEnd).Vouches 0 ∧ (atKind TokenKind.isName).Vouches 0 ∧
    (atKind Rule.isNamespaceWildcard).Vouches 0 ∧ atSeparator.Vouches 0 ∧
    (atKind (· == .indent)).Vouches 0 ∧ (atKind (· == .outdent)).Vouches 0 ∧
    (atKind fun kind => kind.isPlainLiteral || kind.isBoolean).Vouches 0 := by
  refine ⟨?_, ?_, ?_, ?_, ?_, ?_, ?_, ?_, ?_, ?_, ?_, ?_, ?_, ?_, ?_, ?_, ?_⟩
  all_goals
    refine vouches_of_kind fun kind found => ?_
    cases kind with
    | keyword word => cases word <;> first | rfl | cases found
    | punctuation mark => cases mark <;> first | rfl | cases found
    | _ => rfl

@[simp]
theorem vouches_beforeKind : (beforeKind (TokenKind.isMark .rightParen)).Vouches 1 :=
  fun _ found => TokenKind.dangles_of_isMark (show Punctuation.rightParen ≠ .dot by decide) found

/-- A sort of names behind a dot. -/
@[simp]
theorem vouches_isAtDot :
    (ahead fun stream => stream.isAtDot TokenKind.isIdentifier).Vouches 1 := by
  intro stream found
  have name := (Bool.and_eq_true_iff.mp found).2
  exact vouches_atKind.1 (stream.moveTo (stream.position + 1)) name

@[simp]
theorem vouches_namespaceWildcard :
    (ahead fun stream => stream.isAtDot Rule.isNamespaceWildcard).Vouches 1 := by
  intro stream found
  have wildcard := (Bool.and_eq_true_iff.mp found).2
  exact vouches_atKind.2.2.2.2.2.2.2.2.2.2.2.2.1 (stream.moveTo (stream.position + 1)) wildcard

end Condition

namespace Rule

/-- What is known of the tokens ahead behind a rule, if it takes at most one token. -/
def after (known : Nat → Prop) : Rule → Nat → Prop
  | done | become _ | nameFirst _ | wrap _ | link => known
  | take => fun offset => known (offset + 1)
  | _ => fun _ => False

/-- The last token that the rule takes does not dangle, provided that some of the tokens
ahead do not. -/
def Ends : Rule → (known : Nat → Prop) → Prop
  | take, known => known 0
  | seq first second, known =>
    second.Ends (first.after known) ∧
      ((first.stays && second.takes false && second.takes true) = true ∨ first.Ends known)
  | choose condition yes no, known =>
    yes.Ends (fun offset => known offset ∨ condition.Vouches offset) ∧ no.Ends known
  | settle _ first second, known => first.Ends known ∧ second.Ends known
  | loop rule, _ => rule.Ends fun _ => False
  | node _ _ rule, known | nested rule, known | chain rule, known | withBraces _ rule, known
  | recover rule, known => rule.Ends known
  | _, _ => True

/-! ## The grammar -/

section Grammar

attribute [local simp] inOrder Rule.cases Rule.optional whenever group field leaf keyword
  Rule.mark leaveIf takeOrLeave listUntil commaList commaListOne identifier name binder Ends
  after stays takes Nonterminal.takes Keyword.isModifier Keyword.entry

theorem ends_cases {alternatives : List (Condition × Rule)} {otherwise : Rule}
    {known : Nat → Prop}
    (each : ∀ alternative ∈ alternatives,
      alternative.2.Ends fun offset => known offset ∨ alternative.1.Vouches offset)
    (last : otherwise.Ends known) : (Rule.cases alternatives otherwise).Ends known := by
  induction alternatives with
  | nil => exact last
  | cons alternative rest inductionHypothesis =>
      rw [List.forall_mem_cons] at each
      exact ⟨each.1, inductionHypothesis each.2⟩

theorem controlForms_ends : ∀ form ∈ controlForms,
    form.2.Ends fun offset => False ∨ form.1.Vouches offset := by
  simp [controlForms, ifExpression, matchExpression, doExpression, regionExpression,
    queryExpression, tryExpression, whileExpression, forExpression, condition, identifier,
    enumerators, enumeratorsUntil, enumerator, Rule.guard, separators, indent]

theorem expressionStart_ends (place : ExpressionPlace) :
    (expressionStart place).Ends fun _ => False := by
  have operands : ∀ known, operand.Ends known := by simp [operand, prefixExpression]
  have lambdas : ∀ known, lambdaExpression.Ends known := by
    simp [lambdaExpression, lambdaParameters]
  refine ends_cases (List.forall_mem_append.mpr ⟨?_, ?_⟩) ?_
  · split
    · exact controlForms_ends
    · exact nofun
  · simp [returnExpression, throwExpression, braceArgument, relBlock, indentedBlock, indent,
      outdent]
  · split
    · exact ⟨⟨lambdas _, operands _⟩, operands _⟩
    · exact operands _

theorem expressionStep_ends (place : ExpressionPlace) :
    (expressionStep place).Ends fun _ => False := by
  have assigns : ∀ known, (assignment place).Ends known := by
    intro known
    unfold assignment
    split <;> simp
  have colons : ∀ known, (colonStep place).Ends known := by
    intro known
    unfold colonStep
    repeat' split
    all_goals simp [colonArgument, lambdaParameters, annotationMark]
  have joins : ∀ known, (operatorStep place).Ends known := by
    intro known
    unfold operatorStep
    repeat' split
    all_goals simp [infixStep, postfixStep, colonArgument, lambdaParameters]
  simp [expressionStep, assigns, colons, joins]

end Grammar
end Rule

section Grammar
open Rule

attribute [local simp] inOrder Rule.cases Rule.optional whenever group field leaf keyword
  Rule.mark leaveIf takeOrLeave listUntil commaList commaListOne identifier name binder Ends
  after stays Rule.takes Nonterminal.takes Keyword.isModifier Keyword.entry

theorem Nonterminal.rule_ends (nonterminal : Nonterminal) :
    nonterminal.rule.Ends fun _ => False := by
  cases nonterminal with
  | definition =>
      simp [rule, Rule.definition, annotationMark, modifiers, annotatable,
        moduleDefinition, useDeclaration, importDeclaration, namespaceExpression,
        namespaceSelectors, enumDefinition, classDefinition, instanceDefinition,
        effDefinition, relDefinition, typeDefinition, letDefinition, functionDefinition,
        constructorApplication, withClauseIfAny, withClause, enumBody, enclosedItems,
        classConstructor, typeParametersIfAny, templateBodyIfAny, typeConstructor,
        predicateType, functionConstructor, parameters, parameter, annotations, indent, outdent]
  | templateBody => simp [rule, Rule.templateBody, enclosedItems, indent, outdent]
  | typeParameters => simp [rule, Rule.typeParameters, typeParameter, annotations]
  | type =>
      simp [rule, Rule.type, arrowType, plainType, nativeType, literalType, literal,
        recordType, rowTail, relRecordType, typeChain, functionTypeRest, parameterTypes]
  | parameterType => simp [rule, Rule.parameterType]
  | simpleType =>
      simp [rule, Rule.simpleType, tupleType, typePath, singletonEnd, Rule.segment, typeArguments]
  | annotatedType => simp [rule, Rule.annotatedType, annotationMark]
  | structuralType => simp [rule, Rule.structuralType, enclosedItems, indent, outdent]
  | pattern place => simp [rule, Rule.pattern]
  | alternatives place =>
      cases place <;> simp [rule, Rule.alternatives, typedPattern, patternChain]
  | primaryPattern place =>
      cases place <;>
        simp [rule, Rule.primaryPattern, interpolated, spliced, splice,
          capturePattern, pathPattern, patternSegment, tuplePattern, unit, recordPattern,
          literal]
  | body => simp [rule, Rule.body]
  | items place =>
      cases place <;>
        simp [rule, Rule.items, bareItems, item, delimitedItems, separators, enumCases]
  | block => simp [rule, Rule.block]
  | caseBlock => simp [rule, Rule.caseBlock]
  | arguments => simp [rule, Rule.argumentList]
  | expression => simp [rule, Rule.expression]
  | operators place => simp [rule, Rule.operators, expressionStart_ends, expressionStep_ends]
  | simpleExpression =>
      simp [rule, Rule.simpleExpression, primary, interpolated, spliced, splice,
        literal, parenthesized, unit, instanceExpression, constructorApplication,
        lazyExpression, simpleStep, typeArguments, braceArgument]

end Grammar
/-! ## Runs that go well -/

/-- The tokens ahead are as they are known to be. -/
def TokenStream.Shows (known : Nat → Prop) (stream : TokenStream) : Prop :=
  ∀ offset, known offset → (stream.kindAhead offset).dangles = false

namespace Outcome

/-- If what comes of a rule went well and took something, the last token that was taken
does not dangle. -/
def Ends (before : Progress) : Outcome → Prop
  | next after | leave after => after.Spotless →
    before.stream.position < after.stream.position →
      (before.stream.tokenAt (after.stream.position - 1)).kind.dangles = false
  | failed _ _ => True

namespace Ends

variable {before middle : Progress} {outcome : Outcome}

theorem of_stream (ends : outcome.Ends middle) (stream : middle.stream = before.stream) :
    outcome.Ends before := by
  cases outcome with
  | next after => exact fun spotless => stream ▸ ends spotless
  | leave after => exact fun spotless => stream ▸ ends spotless
  | failed failure diagnostics => exact True.intro

/-- A change behind a rule that does not make up for what went wrong. -/
theorem map {change : Progress → Progress} (ends : outcome.Ends before)
    (changes : ∀ after, (change after).stream.position = after.stream.position ∧
      ((change after).Spotless → after.Spotless)) : (outcome.map change).Ends before := by
  cases outcome with
  | next after =>
      intro spotless further
      rw [(changes after).1] at further ⊢
      exact ends ((changes after).2 spotless) further
  | leave after =>
      intro spotless further
      rw [(changes after).1] at further ⊢
      exact ends ((changes after).2 spotless) further
  | failed failure diagnostics => exact True.intro

theorem setDepth (depth : Nat) (ends : outcome.Ends before) :
    (outcome.map fun inner => { inner with depth := depth }).Ends before :=
  ends.map fun _ => ⟨rfl, fun spotless => ⟨spotless.silent, spotless.inside⟩⟩

/-- The last token of one rule behind another one is a token of the second rule if that
rule takes any, and otherwise a token of the first one. -/
theorem andThen {rest : Progress → Outcome} {first second : Rule}
    (courses : outcome.Courses before) (taken : outcome.Takes before first)
    (once : (first.stays = true ∧ second.takes false = true ∧ second.takes true = true) ∨
      outcome.Ends before)
    (further : ∀ middle, outcome = .next middle →
      (rest middle).Courses middle ∧ (rest middle).Takes middle second ∧
        (middle.Spotless → (rest middle).Ends middle)) :
    (outcome.andThen rest).Ends before := by
  cases outcome with
  | next middle =>
      rcases further middle rfl with ⟨onward, takenThere, ends⟩
      have same : ∀ position,
          middle.stream.tokenAt position = before.stream.tokenAt position := by
        intro position
        rw [courses.stream, TokenStream.tokenAt_moveTo]
      have last : ∀ after, middle.Course after → after.Spotless →
          (middle.stream.position < after.stream.position →
            (before.stream.tokenAt (after.stream.position - 1)).kind.dangles = false) →
          (second.takes false = true → second.takes true = true →
            middle.stream.position < after.stream.position) →
          before.stream.position < after.stream.position →
          (before.stream.tokenAt (after.stream.position - 1)).kind.dangles = false := by
        intro after course spotless behind takes further
        rcases Nat.lt_or_eq_of_le course.position with moved | stood
        · exact behind moved
        · rcases once with ⟨_, done, left⟩ | once
          · exact absurd (takes done left) (by omega)
          · rw [← stood] at further ⊢
            exact once (course.spotless spotless) further
      show (rest middle).Ends before
      cases came : rest middle with
      | next after =>
          rw [came] at onward takenThere ends
          intro spotless
          refine last after onward spotless (fun moved => ?_)
            (fun always _ => takenThere spotless always)
          rw [← same]
          exact ends (onward.spotless spotless) spotless moved
      | leave after =>
          rw [came] at onward takenThere ends
          intro spotless
          refine last after onward spotless (fun moved => ?_)
            (fun _ always => takenThere.2 spotless always)
          rw [← same]
          exact ends (onward.spotless spotless) spotless moved
      | failed failure diagnostics => exact True.intro
  | leave after =>
      rcases once with ⟨stays, _⟩ | once
      · exact absurd (taken.1.symm.trans stays) nofun
      · exact once
  | failed failure diagnostics => exact True.intro

/-- The last token of a loop is the last token of some round. -/
theorem repeatRounds {round : Progress → Outcome} {stream : TokenStream}
    (courses : ∀ progress, (round progress).Courses progress)
    (each : ∀ progress, progress.stream = stream.moveTo progress.stream.position →
      (round progress).Ends progress) (rounds : Nat) {progress : Progress}
    (here : progress.stream = stream.moveTo progress.stream.position) :
    (repeatRounds round rounds progress).Ends progress := by
  induction rounds generalizing progress with
  | zero => exact fun _ further => absurd further (Nat.lt_irrefl _)
  | succ rounds inductionHypothesis =>
      have begins := courses progress
      have once := each progress here
      unfold Offside.repeatRounds
      cases came : round progress with
      | next middle =>
          rw [came] at begins once
          have there : middle.stream = stream.moveTo middle.stream.position := by
            rw [begins.stream, here]
            rfl
          have rest := inductionHypothesis there
          have onward := Courses.repeatRounds courses rounds middle
          dsimp only
          cases goes : Offside.repeatRounds round rounds middle with
          | next after =>
              rw [goes] at rest onward
              intro spotless further
              rcases Nat.lt_or_eq_of_le onward.position with moved | stood
              · have ends := rest spotless moved
                rwa [begins.stream, TokenStream.tokenAt_moveTo] at ends
              · rw [← stood] at further ⊢
                exact once (onward.spotless spotless) further
          | leave after => exact absurd goes (Takes.repeatRounds_ne_leave _ _ _ _)
          | failed failure diagnostics => exact True.intro
      | leave after =>
          rw [came] at once
          exact once
      | failed failure diagnostics => exact True.intro

theorem recover (courses : outcome.Courses before) (sound : ¬ before.stream.HasErrorToken)
    (ends : outcome.Ends before) : (before.recover outcome).Ends before := by
  cases outcome with
  | next after => exact ends
  | leave after => exact ends
  | failed failure diagnostics =>
      unfold Progress.recover
      dsimp only
      split
      · exact True.intro
      · exact fun spotless => absurd spotless (Progress.not_spotless_addFaulty sound courses.2)

end Ends
end Outcome

/-- What is known of the tokens ahead behind a rule that takes at most one token. -/
theorem Rule.shows_after {call : Surroundings → Nonterminal → Progress → Outcome}
    {known : Nat → Prop} (rule : Rule) (surroundings : Surroundings)
    {before after : Progress} (shows : before.stream.Shows known)
    (came : rule.run call surroundings before = .next after) (spotless : after.Spotless) :
    after.stream.Shows (rule.after known) := by
  cases rule with
  | done | become | nameFirst | wrap =>
      cases came
      exact shows
  | link =>
      unfold run Progress.charge at came
      split at came
      · cases came
      · cases came
        exact shows
  | take =>
      cases came
      intro offset beyond
      have shown := shows (offset + 1) beyond
      unfold TokenStream.kindAhead TokenStream.ahead at shown ⊢
      rw [spotless.stream_take, TokenStream.tokenAt_moveTo, TokenStream.position_moveTo,
        Nat.add_assoc, Nat.add_comm 1 offset]
      exact shown
  | _ => exact fun _ impossible => impossible.elim

/-- A condition that holds adds what it vouches for to what is known of the tokens ahead. -/
theorem TokenStream.Shows.of_holds {known : Nat → Prop} {condition : Condition}
    {surroundings : Surroundings} {progress : Progress} (shows : progress.stream.Shows known)
    (held : condition.holds surroundings progress = true) :
    progress.stream.Shows fun offset => known offset ∨ condition.Vouches offset := by
  rintro offset (known | vouched)
  · exact shows offset known
  · cases condition with
    | ahead test => exact vouched progress.stream held
    | _ => exact vouched.elim

/-- By induction on the rule, with one case for each of its forms. -/
theorem Rule.run_ends {call : Surroundings → Nonterminal → Progress → Outcome}
    (courses : ∀ surroundings nonterminal progress,
      (call surroundings nonterminal progress).Courses progress)
    (taken : ∀ surroundings nonterminal progress, ¬ progress.stream.HasErrorToken →
      (call surroundings nonterminal progress).Takes progress (.call nonterminal))
    (calls : ∀ surroundings nonterminal progress, ¬ progress.stream.HasErrorToken →
      (call surroundings nonterminal progress).Ends progress)
    (rule : Rule) (surroundings : Surroundings) {known : Nat → Prop} (ends : rule.Ends known)
    {progress : Progress} (sound : ¬ progress.stream.HasErrorToken)
    (shows : progress.stream.Shows known) :
    (rule.run call surroundings progress).Ends progress := by
  induction rule generalizing surroundings known progress with
  | done | become | nameFirst | wrap => exact fun _ further => absurd further (Nat.lt_irrefl _)
  | leave => exact fun _ further => absurd further (Nat.lt_irrefl _)
  | seq first second one two =>
      have begins := Rule.run_courses courses first surroundings progress
      refine .andThen begins (Rule.run_takes courses taken first surroundings sound)
        (ends.2.imp (fun known => by simpa [and_assoc] using known)
          fun ends => one surroundings ends sound shows) fun middle came => ?_
      rw [came] at begins
      have soundThere := begins.not_hasErrorToken sound
      exact ⟨Rule.run_courses courses second surroundings middle,
        Rule.run_takes courses taken second surroundings soundThere, fun spotless =>
          two surroundings ends.1 soundThere
            (Rule.shows_after first surroundings shows came spotless)⟩
  | take =>
      intro spotless _
      rw [spotless.stream_take]
      exact shows 0 ends
  | call nonterminal => exact calls surroundings nonterminal progress sound
  | node part kind rule inductionHypothesis =>
      have inside : (rule.run call surroundings (progress.openNode kind)).Ends progress :=
        .of_stream (inductionHypothesis surroundings ends sound shows) rfl
      exact inside.map fun _ => ⟨rfl, Progress.Spotless.of_closeNode⟩
  | choose condition yes no whenHeld otherwise =>
      unfold run
      split
      · rename_i held
        exact whenHeld surroundings ends.1 sound (shows.of_holds held)
      · exact otherwise surroundings ends.2 sound shows
  | settle ambiguity first second either or =>
      have same := Progress.stream_settle surroundings.session progress ambiguity
      rw [← same] at sound shows
      unfold run
      dsimp only
      split
      · exact (either surroundings ends.1 sound shows).of_stream same
      · exact (or surroundings ends.2 sound shows).of_stream same
  | loop rule inductionHypothesis =>
      refine .repeatRounds (Rule.run_courses courses rule surroundings)
        (fun middle here => ?_) _ progress.stream.moveTo_self.symm
      refine inductionHypothesis surroundings ends ?_ fun _ => False.elim
      rw [here]
      exact sound
  | nested rule inductionHypothesis =>
      unfold run Progress.charge
      dsimp only
      split
      · exact True.intro
      · have inside : (rule.run call surroundings
            { progress with depth := progress.depth + 1 }).Ends progress :=
          .of_stream (inductionHypothesis surroundings ends sound shows) rfl
        exact inside.setDepth _
  | chain rule inductionHypothesis =>
      exact (inductionHypothesis surroundings ends sound shows).setDepth _
  | link =>
      unfold run Progress.charge
      split
      · exact True.intro
      · exact fun _ further => absurd further (Nat.lt_irrefl _)
  | withBraces allowed rule inductionHypothesis =>
      exact inductionHypothesis { surroundings with bracesAllowed := allowed } ends sound shows
  | recover rule inductionHypothesis =>
      exact .recover (Rule.run_courses courses rule surroundings progress) sound
        (inductionHypothesis surroundings ends sound shows)
  | reject expected =>
      exact fun spotless => absurd spotless
        (Progress.not_spotless_addFaulty sound (progress.unexpected_courses expected).2)
  | fail expected => exact True.intro
  | failMissing kind part => exact True.intro

/-- By induction on the number of nonterminals that may be open. -/
theorem Nonterminal.run_ends (depth : Nat) (surroundings : Surroundings)
    (nonterminal : Nonterminal) {progress : Progress}
    (sound : ¬ progress.stream.HasErrorToken) :
    (Nonterminal.run depth surroundings nonterminal progress).Ends progress := by
  induction depth generalizing surroundings nonterminal progress with
  | zero => exact True.intro
  | succ depth inductionHypothesis =>
      exact Rule.run_ends (Nonterminal.run_courses depth)
        (fun surroundings nonterminal _ => Nonterminal.run_takes depth surroundings nonterminal)
        (fun surroundings nonterminal _ => inductionHypothesis surroundings nonterminal)
        nonterminal.rule surroundings nonterminal.rule_ends sound fun _ => False.elim

end Offside
