import Offside.Grammar
import Offside.Proofs.Text.Edited

namespace Offside

/-!
# What the grammar asks

A condition may be any question about the tokens ahead, but the rules of the grammar
share a few forms of questions.  The forms are listed here, and a walk through the rules
shows that there are no others.

So whatever holds of each form holds of everything that the grammar asks: that an answer
depends on what can be seen from the current token, or that it does not depend on the text
of a string.
-/

/-! ## Forms of questions -/

@[simp]
theorem Rule.isNamespaceWildcard_mapText (edit : String → String) (kind : TokenKind) :
    Rule.isNamespaceWildcard (kind.mapText edit) = Rule.isNamespaceWildcard kind := by
  simp [Rule.isNamespaceWildcard]

namespace Condition

/-- A test of a token that does not read the texts of strings. -/
def Blind (holds : TokenKind → Bool) : Prop :=
  ∀ edit kind, holds (TokenKind.mapText edit kind) = holds kind

@[simp]
theorem blind_iff (holds : TokenKind → Bool) :
    Blind holds ↔ ∀ edit kind, holds (TokenKind.mapText edit kind) = holds kind := Iff.rfl

/-- The forms of conditions that occur in the grammar. -/
inductive Asked : Condition → Prop
  | first (holds : NodeKind → Bool) : Asked (first holds)
  | bracesAllowed : Asked bracesAllowed
  | atKeyword (word : Keyword) : Asked (atKeyword word)
  | atMark (mark : Punctuation) : Asked (atMark mark)
  | atMarks (marks : List Punctuation) : Asked (atMarks marks)
  | atKind {holds : TokenKind → Bool} (blind : Blind holds) : Asked (atKind holds)
  | beforeKind {holds : TokenKind → Bool} (blind : Blind holds) : Asked (beforeKind holds)
  | atSeparator : Asked atSeparator
  | atMarkOrEnd (mark : Punctuation) : Asked (atMarkOrEnd mark)
  | isAtDot {follower : TokenKind → Bool} (blind : Blind follower) :
      Asked (ahead fun stream => stream.isAtDot follower)
  | atJoiningOperator {operand : TokenKind → Bool} (blind : Blind operand) :
      Asked (ahead fun stream => stream.atJoiningOperator operand)
  | startsTemplateBody (offset : Nat) :
      Asked (ahead fun stream => stream.startsTemplateBody offset)
  | definitionStartsAt (offset : Nat) :
      Asked (ahead fun stream => stream.definitionStartsAt offset)
  | prefixOperatorAt (offset : Nat) :
      Asked (ahead fun stream => stream.prefixOperatorAt offset)
  | operandStartsAt (offset : Nat) :
      Asked (ahead fun stream => stream.operandStartsAt offset)
  | atInterpolator : Asked (ahead TokenStream.atInterpolator)
  | atExpressionOperator : Asked (ahead TokenStream.atExpressionOperator)
  | annotationFollows : Asked Rule.annotationFollows
  | pathGoesOn (offset : Nat) : Asked (Rule.pathGoesOn offset)
  | recordTypeAhead : Asked Rule.recordTypeAhead
  | indentedBodyAhead : Asked Rule.indentedBodyAhead
  | markOnLine (mark : Punctuation) : Asked (Rule.markOnLine mark)
  | itemsEnd (place : ItemsPlace) : Asked (Rule.itemsEnd place)
  | itemStartsUnseparated (place : ItemsPlace) : Asked (Rule.itemStartsUnseparated place)
  | afterIndentedBlock : Asked Rule.afterIndentedBlock
  | capture : Asked (ahead fun stream =>
      stream.kind.isIdentifier && (stream.kindAhead 1).isMark .atSign)
  | bracedBody : Asked (ahead fun stream =>
      stream.isAtMark .leftBrace && !(stream.kindAhead 1).isKeyword .caseKw)
  | namespaceGoesOn : Asked (ahead fun stream =>
      Rule.atNamespaceSeparator stream && (stream.kindAhead 1).isIdentifier)
  | annotatedBehind : Asked (ahead fun stream =>
      stream.kind.isSeparator && stream.definitionStartsAt 1)

attribute [simp] Asked.first Asked.bracesAllowed Asked.atKeyword Asked.atMark Asked.atMarks
  Asked.atKind Asked.beforeKind Asked.atSeparator Asked.atMarkOrEnd Asked.isAtDot
  Asked.atJoiningOperator Asked.startsTemplateBody Asked.definitionStartsAt
  Asked.prefixOperatorAt Asked.operandStartsAt Asked.atInterpolator Asked.atExpressionOperator
  Asked.annotationFollows Asked.pathGoesOn Asked.recordTypeAhead Asked.indentedBodyAhead
  Asked.markOnLine Asked.itemsEnd Asked.itemStartsUnseparated Asked.afterIndentedBlock
  Asked.capture Asked.bracedBody Asked.namespaceGoesOn Asked.annotatedBehind

end Condition

/-! ## What a rule asks -/

namespace Rule

/-- Every condition that the rule asks is of some sort. -/
def Asks (sort : Condition → Prop) : Rule → Prop
  | seq first second => first.Asks sort ∧ second.Asks sort
  | choose condition yes no => sort condition ∧ yes.Asks sort ∧ no.Asks sort
  | settle _ first second => first.Asks sort ∧ second.Asks sort
  | node _ _ rule | loop rule | nested rule | chain rule | withBraces _ rule | recover rule =>
    rule.Asks sort
  | _ => True

variable {sort : Condition → Prop}

/-- What is of one sort is of every wider one. -/
theorem Asks.mono {wider : Condition → Prop} {rule : Rule} (asks : rule.Asks sort)
    (widens : ∀ condition, sort condition → wider condition) : rule.Asks wider := by
  induction rule with
  | seq first second inductionFirst inductionSecond =>
      exact ⟨inductionFirst asks.1, inductionSecond asks.2⟩
  | choose condition yes no inductionYes inductionNo =>
      exact ⟨widens condition asks.1, inductionYes asks.2.1, inductionNo asks.2.2⟩
  | settle ambiguity first second inductionFirst inductionSecond =>
      exact ⟨inductionFirst asks.1, inductionSecond asks.2⟩
  | node part kind rule inductionHypothesis => exact inductionHypothesis asks
  | loop rule inductionHypothesis => exact inductionHypothesis asks
  | nested rule inductionHypothesis => exact inductionHypothesis asks
  | chain rule inductionHypothesis => exact inductionHypothesis asks
  | withBraces allowed rule inductionHypothesis => exact inductionHypothesis asks
  | recover rule inductionHypothesis => exact inductionHypothesis asks
  | _ => exact True.intro

@[simp]
theorem asks_inOrder (rules : List Rule) :
    (inOrder rules).Asks sort ↔ ∀ rule ∈ rules, rule.Asks sort := by
  induction rules with
  | nil => exact iff_of_true True.intro nofun
  | cons rule rules inductionHypothesis =>
      rw [List.forall_mem_cons, ← inductionHypothesis]
      exact Iff.rfl

@[simp]
theorem asks_cases (alternatives : List (Condition × Rule)) (otherwise : Rule) :
    (cases alternatives otherwise).Asks sort ↔
      (∀ alternative ∈ alternatives, sort alternative.1 ∧ alternative.2.Asks sort) ∧
        otherwise.Asks sort := by
  induction alternatives with
  | nil => exact ⟨fun asks => ⟨nofun, asks⟩, fun asks => asks.2⟩
  | cons alternative rest inductionHypothesis =>
      rw [List.forall_mem_cons, and_assoc, ← inductionHypothesis, and_assoc]
      exact Iff.rfl

variable (sort) in
@[simp]
theorem asks_group (rule : Rule) : (group rule).Asks sort ↔ rule.Asks sort := Iff.rfl

variable (sort) in
@[simp]
theorem asks_field (part : FieldName) (rule : Rule) :
    (field part rule).Asks sort ↔ rule.Asks sort := Iff.rfl

@[simp]
theorem asks_leaf (kind : NodeKind) : (leaf kind).Asks sort ↔ True := Iff.rfl

@[simp]
theorem asks_optional (condition : Condition) (rule : Rule) :
    (optional condition rule).Asks sort ↔ sort condition ∧ rule.Asks sort := by
  show sort condition ∧ rule.Asks sort ∧ True ↔ _
  rw [and_true]

@[simp]
theorem asks_whenever (condition : Condition) (rule : Rule) :
    (whenever condition rule).Asks sort ↔ sort condition ∧ rule.Asks sort := by
  show sort condition ∧ rule.Asks sort ∧ True ↔ _
  rw [and_true]

@[simp]
theorem asks_leaveIf (condition : Condition) :
    (leaveIf condition).Asks sort ↔ sort condition :=
  and_iff_left ⟨True.intro, True.intro⟩

@[simp]
theorem asks_takeOrLeave (condition : Condition) :
    (takeOrLeave condition).Asks sort ↔ sort condition :=
  and_iff_left ⟨True.intro, True.intro⟩

@[simp]
theorem asks_keyword (word : Keyword) : (keyword word).Asks sort ↔ sort (.atKeyword word) :=
  and_iff_left ⟨True.intro, True.intro⟩

@[simp]
theorem asks_mark (mark : Punctuation) : (Rule.mark mark).Asks sort ↔ sort (.atMark mark) :=
  and_iff_left ⟨True.intro, True.intro⟩

/-! ## The grammar -/

section Grammar
open Condition

theorem controlForms_asked :
    ∀ form ∈ controlForms, form.1.Asked ∧ form.2.Asks Asked := by
  simp [controlForms, ifExpression, matchExpression, doExpression, regionExpression,
    queryExpression, tryExpression, whileExpression, forExpression, condition, identifier,
    enumerators, enumeratorsUntil, enumerator, Rule.guard, separators, indent, Asks]

theorem expressionStart_asked (place : ExpressionPlace) :
    (expressionStart place).Asks Asked := by
  have operands : operand.Asks Asked := by simp [operand, prefixExpression, Asks]
  unfold expressionStart
  rw [asks_cases, List.forall_mem_append]
  refine ⟨⟨?_, ?_⟩, ?_⟩
  · split
    · exact controlForms_asked
    · exact nofun
  · simp [returnExpression, throwExpression, braceArgument, relBlock, relClause, relFact,
      relBody, listUntil, commaListOne, atom, identifier, spliced, splice, literal,
      separators, indentedBlock, indent, outdent, Asks]
  · split
    · simp [operands, lambdaCanStart, lambdaExpression, lambdaParameters, binder, binding,
        commaList, listUntil, name, Asks]
    · exact operands

/-- What continues an expression depends on its place, but what is asked does not. -/
theorem expressionStep_asked (place : ExpressionPlace) :
    (expressionStep place).Asks Asked := by
  have assigns : (assignment place).Asks Asked := by
    unfold assignment
    split <;> simp [builtClass, Asks]
  have colonArguments : colonArgument.Asks Asked := by
    simp [colonArgument, lambdaParameters, binder, binding, commaList, listUntil, name, Asks]
  have colons : (colonStep place).Asks Asked := by
    unfold colonStep
    repeat' split
    all_goals simp [colonArguments, annotationMark, Asks]
  have joins : (operatorStep place).Asks Asked := by
    unfold operatorStep
    repeat' split
    all_goals simp [builtClass, infixStep, postfixStep, name, colonArguments, Asks]
  simp [expressionStep, builtClass, assigns, colons, joins, Asks]

end Grammar
end Rule

open Rule Condition in
/-- Every question that the grammar asks is of one of the forms. -/
theorem Nonterminal.rule_asked (nonterminal : Nonterminal) :
    nonterminal.rule.Asks Asked := by
  cases nonterminal with
  | definition =>
      simp [rule, Rule.definition, annotationMark, modifiers, alreadyAnnotated, annotatable,
        moduleDefinition, useDeclaration, importDeclaration, namespaceExpression,
        namespaceSelectors, enumDefinition, classDefinition, instanceDefinition,
        effDefinition, relDefinition, typeDefinition, letDefinition, functionDefinition,
        constructorApplication, withClauseIfAny, withClause, enumBody, enclosedItems,
        classConstructor, typeParametersIfAny, templateBodyIfAny, typeConstructor,
        predicateType, functionConstructor, parameters, parameter, annotations, binder,
        commaList, commaListOne, listUntil, name, identifier, indent, outdent, Asks]
  | templateBody => simp [rule, Rule.templateBody, enclosedItems, indent, outdent, Asks]
  | typeParameters =>
      simp [rule, Rule.typeParameters, commaListOne, typeParameter, annotations,
        annotationMark, binder, name, typeParametersIfAny, Asks]
  | type =>
      simp [rule, Rule.type, arrowType, plainType, nativeType, literalType, literal,
        recordType, identifier, rowTail, relRecordType, typeChain, functionTypeRest,
        parameterTypes, commaList, listUntil, commaListOne, name, Asks]
  | parameterType => simp [rule, Rule.parameterType, Asks]
  | simpleType =>
      simp [rule, Rule.simpleType, tupleType, commaListOne, typePath, singletonEnd, Rule.segment,
        name, typeArguments, Asks]
  | annotatedType => simp [rule, Rule.annotatedType, annotationMark, Asks]
  | structuralType => simp [rule, Rule.structuralType, enclosedItems, indent, outdent, Asks]
  | pattern place => simp [rule, Rule.pattern, Asks]
  | alternatives place =>
      cases place <;> simp [rule, Rule.alternatives, typedPattern, patternChain, name, Asks]
  | primaryPattern place =>
      cases place <;>
        simp [rule, Rule.primaryPattern, interpolated, identifier, spliced, splice,
          capturePattern, pathPattern, patternSegment, commaList, listUntil,
          constructorArgument, tuplePattern, unit, commaListOne, recordPattern, literal, Asks]
  | body => simp [rule, Rule.body, Asks]
  | items place =>
      cases place <;>
        simp [rule, Rule.items, bareItems, item, delimitedItems, separators, enumCases, Asks]
  | block => simp [rule, Rule.block, Asks]
  | caseBlock => simp [rule, Rule.caseBlock, separators, caseClause, Rule.guard, Asks]
  | arguments => simp [rule, Rule.argumentList, commaList, listUntil, Asks]
  | expression => simp [rule, Rule.expression, Asks]
  | operators place =>
      simp [rule, Rule.operators, expressionStart_asked, expressionStep_asked, Asks]
  | simpleExpression =>
      simp [rule, Rule.simpleExpression, primary, interpolated, identifier, spliced, splice,
        literal, parenthesized, unit, instanceExpression, templateBodyAhead,
        constructorApplication, lazyExpression, simpleStep, name, typeArguments, commaListOne,
        braceArgument, Asks]

end Offside
