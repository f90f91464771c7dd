import Offside.Proofs.Grammar.Taking

namespace Offside

/-!
# What puts something into a node

Every node that the grammar finishes has something in it.  That can be read off the rules
in most places.  A rule that takes a token on each of its ways puts something into the node
under construction, and so does one that calls a nonterminal which always takes a token.

In two places the form of the rule is not enough: a row of modifiers and a row of guards are
loops, and a loop may be left in its first round.  But there the loop asks a question that
was answered with yes right in front of it, so the first round is made.
-/

namespace Condition

/-- The question about the tokens ahead, if the condition is one. -/
def test? : Condition → Option (TokenStream → Bool)
  | ahead test => some test
  | _ => none

end Condition

namespace Rule

/-- The rule puts something into the node under construction on each way on which it is
done or, if that is asked for, on which it leaves the loop around it.  Some question about
the tokens ahead may be known to be answered with yes. -/
def Fills : Rule → (known : Option (TokenStream → Bool)) → (leaving : Bool) → Prop
  | done, _, leaving | become _, _, leaving | nameFirst _, _, leaving | wrap _, _, leaving
  | link, _, leaving | reject _, _, leaving => leaving = true
  | leave, _, leaving => leaving = false
  | seq first second, known, false => first.Fills known false ∨ second.Fills none false
  | seq first second, known, true =>
    first.Fills known true ∧ (first.Fills known false ∨ second.Fills none true)
  | choose condition yes no, known, leaving =>
    yes.Fills condition.test? leaving ∧
      (known.isSome = true ∧ condition.test? = known ∨ no.Fills none leaving)
  | settle _ first second, known, leaving =>
    first.Fills known leaving ∧ second.Fills known leaving
  | call nonterminal, _, leaving => leaving = true ∨ nonterminal.takes = true
  | loop rule, known, leaving =>
    leaving = true ∨ (rule.Fills known false ∧ rule.Fills known true)
  | recover rule, known, leaving => leaving = true ∧ rule.Fills known true
  | node _ _ rule, known, leaving | nested rule, known, leaving | chain rule, known, leaving
  | withBraces _ rule, known, leaving => rule.Fills known leaving
  | take, _, _ | fail _, _, _ | failMissing _ _, _, _ => True

/-- Every node that the rule finishes has something in it, if the node under construction
has when `filled` holds.  A kind that is fixed does not change. -/
def Full : Rule → (known : Option (TokenStream → Bool)) → (filled : Prop) → (fixed : Bool) → Prop
  | node _ kind rule, known, _, _ =>
    rule.Full known False kind.isHidden ∧
      (kind.isHidden = true ∨ (rule.Fills known false ∧ rule.Fills known true))
  | wrap _, _, filled, _ => filled
  | become _, _, _, fixed => fixed = false
  | seq first second, known, filled, fixed =>
    first.Full known filled fixed ∧ second.Full none (filled ∨ first.Fills known false) fixed
  | choose condition yes no, _, filled, fixed =>
    yes.Full condition.test? filled fixed ∧ no.Full none filled fixed
  | settle _ first second, known, filled, fixed =>
    first.Full known filled fixed ∧ second.Full known filled fixed
  | loop rule, _, filled, fixed => rule.Full none filled fixed
  | nested rule, known, filled, fixed | chain rule, known, filled, fixed
  | withBraces _ rule, known, filled, fixed | recover rule, known, filled, fixed =>
    rule.Full known filled fixed
  | _, _, _, _ => True

/-! ## More knowledge -/

/-- What is put in without knowing anything of the tokens ahead is put in anyway. -/
theorem Fills.of_none {rule : Rule} {leaving : Bool} (fills : rule.Fills none leaving)
    (known : Option (TokenStream → Bool)) : rule.Fills known leaving := by
  induction rule generalizing leaving with
  | seq first second one two =>
      cases leaving with
      | false => exact fills.imp_left one
      | true => exact ⟨one fills.1, fills.2.imp_left one⟩
  | choose condition yes no whenHeld otherwise =>
      exact ⟨fills.1, .inr (fills.2.resolve_left fun known => by cases known.1)⟩
  | settle ambiguity first second either or => exact ⟨either fills.1, or fills.2⟩
  | loop rule inductionHypothesis =>
      exact fills.imp_right fun both =>
        ⟨inductionHypothesis both.1, inductionHypothesis both.2⟩
  | recover rule inductionHypothesis => exact ⟨fills.1, inductionHypothesis fills.2⟩
  | node part kind rule inductionHypothesis => exact inductionHypothesis fills
  | nested rule inductionHypothesis => exact inductionHypothesis fills
  | chain rule inductionHypothesis => exact inductionHypothesis fills
  | withBraces allowed rule inductionHypothesis => exact inductionHypothesis fills
  | _ => exact fills

theorem Fills.mono {rule : Rule} {known other : Option (TokenStream → Bool)} {leaving : Bool}
    (fills : rule.Fills known leaving) (knows : known = none ∨ known = other) :
    rule.Fills other leaving := by
  rcases knows with rfl | rfl
  · exact fills.of_none other
  · exact fills

/-- A rule stays full where more is known. -/
theorem Full.mono {rule : Rule} {known other : Option (TokenStream → Bool)}
    {filled more : Prop} {fixed : Bool} (full : rule.Full known filled fixed)
    (knows : known = none ∨ known = other) (weaker : filled → more) :
    rule.Full other more fixed := by
  induction rule generalizing known other filled more fixed with
  | seq first second one two =>
      exact ⟨one full.1 knows weaker, two full.2 (.inr rfl) (Or.imp weaker (Fills.mono · knows))⟩
  | choose condition yes no whenHeld otherwise =>
      exact ⟨whenHeld full.1 (.inr rfl) weaker, otherwise full.2 (.inr rfl) weaker⟩
  | settle ambiguity first second either or =>
      exact ⟨either full.1 knows weaker, or full.2 knows weaker⟩
  | loop rule inductionHypothesis => exact inductionHypothesis full (.inr rfl) weaker
  | node part kind rule inductionHypothesis =>
      refine ⟨inductionHypothesis full.1 knows id, full.2.imp_right fun both => ?_⟩
      exact ⟨both.1.mono knows, both.2.mono knows⟩
  | nested rule inductionHypothesis => exact inductionHypothesis full knows weaker
  | chain rule inductionHypothesis => exact inductionHypothesis full knows weaker
  | withBraces allowed rule inductionHypothesis => exact inductionHypothesis full knows weaker
  | recover rule inductionHypothesis => exact inductionHypothesis full knows weaker
  | wrap kind => exact weaker full
  | _ => exact full

/-! ## Composed rules -/

variable (known : Option (TokenStream → Bool)) (leaving : Bool) (filled : Prop) (fixed : Bool)

@[simp]
theorem fills_inOrder_nil : (inOrder []).Fills known leaving ↔ leaving = true := Iff.rfl

@[simp]
theorem fills_inOrder_cons_done (rule : Rule) (rules : List Rule) :
    (inOrder (rule :: rules)).Fills known false ↔
      rule.Fills known false ∨ (inOrder rules).Fills none false := Iff.rfl

@[simp]
theorem fills_inOrder_cons_left (rule : Rule) (rules : List Rule) :
    (inOrder (rule :: rules)).Fills known true ↔ rule.Fills known true ∧
      (rule.Fills known false ∨ (inOrder rules).Fills none true) := Iff.rfl

@[simp]
theorem full_inOrder_nil : (inOrder []).Full known filled fixed ↔ True := Iff.rfl

@[simp]
theorem full_inOrder_cons (rule : Rule) (rules : List Rule) :
    (inOrder (rule :: rules)).Full known filled fixed ↔ rule.Full known filled fixed ∧
      (inOrder rules).Full none (filled ∨ rule.Fills known false) fixed := Iff.rfl

@[simp]
theorem fills_group (rule : Rule) : (group rule).Fills known leaving ↔ rule.Fills known leaving :=
  Iff.rfl

@[simp]
theorem full_group (rule : Rule) :
    (group rule).Full known filled fixed ↔ rule.Full known False true :=
  and_iff_left (.inl rfl)

@[simp]
theorem fills_field (part : FieldName) (rule : Rule) :
    (field part rule).Fills known leaving ↔ rule.Fills known leaving := Iff.rfl

@[simp]
theorem full_field (part : FieldName) (rule : Rule) :
    (field part rule).Full known filled fixed ↔ rule.Full known False true :=
  and_iff_left (.inl rfl)

@[simp]
theorem fills_leaf (kind : NodeKind) : (leaf kind).Fills known leaving ↔ True := Iff.rfl

@[simp]
theorem full_leaf (kind : NodeKind) : (leaf kind).Full known filled fixed ↔ True :=
  iff_true_intro ⟨True.intro, .inr ⟨True.intro, True.intro⟩⟩

@[simp]
theorem fills_keyword (word : Keyword) : (keyword word).Fills known leaving ↔ True :=
  iff_true_intro ⟨True.intro, .inr True.intro⟩

@[simp]
theorem full_keyword (word : Keyword) : (keyword word).Full known filled fixed ↔ True :=
  iff_true_intro ⟨True.intro, True.intro⟩

@[simp]
theorem fills_mark (mark : Punctuation) : (Rule.mark mark).Fills known leaving ↔ True :=
  iff_true_intro ⟨True.intro, .inr True.intro⟩

@[simp]
theorem full_mark (mark : Punctuation) : (Rule.mark mark).Full known filled fixed ↔ True :=
  iff_true_intro ⟨True.intro, True.intro⟩

@[simp]
theorem fills_optional (condition : Condition) (rule : Rule) :
    (Rule.optional condition rule).Fills known leaving ↔ rule.Fills condition.test? leaving ∧
      (known.isSome = true ∧ condition.test? = known ∨ leaving = true) := Iff.rfl

@[simp]
theorem full_optional (condition : Condition) (rule : Rule) :
    (Rule.optional condition rule).Full known filled fixed ↔
      rule.Full condition.test? filled fixed :=
  and_iff_left True.intro

/-- A row is not empty, if its question is known to be answered with yes. -/
@[simp]
theorem fills_whenever (condition : Condition) (rule : Rule) :
    (whenever condition rule).Fills known leaving ↔ leaving = true ∨
      (rule.Fills condition.test? false ∧ rule.Fills condition.test? true ∧
        known.isSome = true ∧ condition.test? = known) := by
  cases leaving <;> simp [whenever, Fills]

@[simp]
theorem full_whenever (condition : Condition) (rule : Rule) :
    (whenever condition rule).Full known filled fixed ↔
      rule.Full condition.test? filled fixed :=
  and_iff_left True.intro

@[simp]
theorem fills_leaveIf (condition : Condition) :
    (leaveIf condition).Fills known leaving ↔
      leaving = false ∧ known.isSome = true ∧ condition.test? = known := by
  cases leaving <;> simp [leaveIf, Fills]

@[simp]
theorem full_leaveIf (condition : Condition) :
    (leaveIf condition).Full known filled fixed ↔ True :=
  iff_true_intro ⟨True.intro, True.intro⟩

@[simp]
theorem full_takeOrLeave (condition : Condition) :
    (takeOrLeave condition).Full known filled fixed ↔ True :=
  iff_true_intro ⟨True.intro, True.intro⟩

@[simp]
theorem fills_cases_nil (otherwise : Rule) :
    (cases [] otherwise).Fills known leaving ↔ otherwise.Fills known leaving := Iff.rfl

@[simp]
theorem fills_cases_cons (condition : Condition) (rule : Rule)
    (alternatives : List (Condition × Rule)) (otherwise : Rule) :
    (cases ((condition, rule) :: alternatives) otherwise).Fills known leaving ↔
      rule.Fills condition.test? leaving ∧ (known.isSome = true ∧ condition.test? = known ∨
        (cases alternatives otherwise).Fills none leaving) := Iff.rfl

@[simp]
theorem full_cases_nil (otherwise : Rule) :
    (cases [] otherwise).Full known filled fixed ↔ otherwise.Full known filled fixed := Iff.rfl

@[simp]
theorem full_cases_cons (condition : Condition) (rule : Rule)
    (alternatives : List (Condition × Rule)) (otherwise : Rule) :
    (cases ((condition, rule) :: alternatives) otherwise).Full known filled fixed ↔
      rule.Full condition.test? filled fixed ∧
        (cases alternatives otherwise).Full none filled fixed := Iff.rfl

/-! ## The grammar -/

section Grammar

variable {known}

/-- A choice among rules that finish no empty node and put something in. -/
theorem cases_full {alternatives : List (Condition × Rule)} {otherwise : Rule}
    (each : ∀ alternative ∈ alternatives, alternative.2.Full alternative.1.test? False true ∧
      alternative.2.Fills alternative.1.test? false)
    (rest : ∀ known, otherwise.Full known False true ∧ otherwise.Fills known false) :
    (cases alternatives otherwise).Full known False true ∧
      (cases alternatives otherwise).Fills known false := by
  induction alternatives generalizing known with
  | nil => exact rest known
  | cons alternative alternatives inductionHypothesis =>
      rw [List.forall_mem_cons] at each
      rcases inductionHypothesis each.2 with ⟨full, fills⟩
      exact ⟨⟨each.1.1, full⟩, each.1.2, .inr fills⟩

theorem controlForms_full : ∀ form ∈ controlForms,
    form.2.Full form.1.test? False true ∧ form.2.Fills form.1.test? false := by
  simp [controlForms, ifExpression, matchExpression, doExpression, regionExpression,
    queryExpression, tryExpression, whileExpression, forExpression, condition, identifier,
    enumerators, enumeratorsUntil, enumerator, Rule.guard, separators, indent,
    Condition.atKeyword, Condition.test?, Condition.atMark, Full, Fills, Nonterminal.takes,
    NodeKind.isHidden]

theorem expressionStart_full (place : ExpressionPlace) :
    (expressionStart place).Full none False true ∧
      (expressionStart place).Fills none false := by
  have operands : ∀ known, operand.Full known False true ∧ operand.Fills known false := by
    simp [operand, prefixExpression, Full, Fills, Nonterminal.takes, NodeKind.isHidden]
  unfold expressionStart
  refine cases_full (List.forall_mem_append.mpr ⟨?_, ?_⟩) fun known => ?_
  · split
    · exact controlForms_full
    · exact List.forall_mem_nil _
  · simp [returnExpression, throwExpression, braceArgument, relBlock, relClause, relFact,
      relBody, listUntil, commaListOne, atom, identifier, spliced, splice, literal,
      separators, indentedBlock, indent, outdent, Full, Fills, Nonterminal.takes,
      NodeKind.isHidden]
  · split
    · simp [operands, lambdaCanStart, lambdaExpression, lambdaParameters, binder, binding,
        commaList, listUntil, name, Full, Fills, NodeKind.isHidden]
    · exact operands known

/-- What continues an expression finds something to wrap. -/
theorem expressionStep_full (place : ExpressionPlace) :
    (expressionStep place).Full none True true := by
  have assigns : ∀ known, (assignment place).Full known True true := by
    unfold assignment
    split <;> simp [Full]
  have colonArguments : ∀ known, colonArgument.Full known False true := by
    simp [colonArgument, lambdaParameters, binder, binding, commaList, listUntil, name, Full,
      Fills, Nonterminal.takes, NodeKind.isHidden]
  have colons : ∀ known, (colonStep place).Full known True true := by
    unfold colonStep
    repeat' split
    all_goals simp [colonArguments, annotationMark, Full, Fills, NodeKind.isHidden]
  have joins : ∀ known, (operatorStep place).Full known True true := by
    unfold operatorStep
    repeat' split
    all_goals simp [infixStep, postfixStep, name, colonArguments, Full]
  simp [expressionStep, assigns, colons, joins, Full]

end Grammar
end Rule

open Rule Condition in
/-- No rule of the grammar finishes an empty node. -/
theorem Nonterminal.rule_full (nonterminal : Nonterminal) :
    nonterminal.rule.Full none False true := by
  cases nonterminal with
  | definition =>
      simp [rule, Rule.definition, annotationMark, modifiers, alreadyAnnotated, annotatable,
        moduleDefinition, useDeclaration, importDeclaration, namespaceExpression,
        namespaceSelectors, enumDefinition, classDefinition, instanceDefinition,
        effDefinition, relDefinition, typeDefinition, letDefinition, functionDefinition,
        constructorApplication, withClauseIfAny, withClause, enumBody, enclosedItems,
        classConstructor, typeParametersIfAny, templateBodyIfAny, typeConstructor,
        predicateType, functionConstructor, parameters, parameter, annotations, binder,
        commaList, commaListOne, listUntil, name, identifier, indent, outdent, atKind, test?,
        Full, Fills, takes, NodeKind.isHidden]
  | templateBody =>
      simp [rule, Rule.templateBody, enclosedItems, indent, outdent, Full, Fills,
        NodeKind.isHidden]
  | typeParameters =>
      simp [rule, Rule.typeParameters, commaListOne, typeParameter, annotations,
        annotationMark, binder, name, typeParametersIfAny, Full, Fills, NodeKind.isHidden]
  | type =>
      simp [rule, Rule.type, arrowType, plainType, nativeType, literalType, literal,
        recordType, identifier, rowTail, relRecordType, typeChain, functionTypeRest,
        parameterTypes, commaList, listUntil, commaListOne, name, Full, Fills, takes,
        NodeKind.isHidden]
  | parameterType => simp [rule, Rule.parameterType, Full, Fills, NodeKind.isHidden]
  | simpleType =>
      simp [rule, Rule.simpleType, tupleType, commaListOne, typePath, singletonEnd,
        Rule.segment, name, typeArguments, Full, Fills, NodeKind.isHidden]
  | annotatedType =>
      simp [rule, Rule.annotatedType, annotationMark, Full, Fills, NodeKind.isHidden]
  | structuralType =>
      simp [rule, Rule.structuralType, enclosedItems, indent, outdent, Full, Fills,
        NodeKind.isHidden]
  | pattern place => simp [rule, Rule.pattern, Full]
  | alternatives place =>
      cases place <;> simp [rule, Rule.alternatives, typedPattern, patternChain, name, Full,
        Fills, takes]
  | primaryPattern place =>
      cases place <;>
        simp [rule, Rule.primaryPattern, interpolated, identifier, spliced, splice,
          capturePattern, pathPattern, patternSegment, commaList, listUntil,
          constructorArgument, tuplePattern, unit, commaListOne, recordPattern, literal, Full,
          Fills, NodeKind.isHidden]
  | body => simp [rule, Rule.body, Full]
  | items place =>
      cases place <;>
        simp [rule, Rule.items, bareItems, item, delimitedItems, separators, enumCases, Full,
          Fills, takes, NodeKind.isHidden]
  | block => simp [rule, Rule.block, Full, Fills, NodeKind.isHidden]
  | caseBlock =>
      simp [rule, Rule.caseBlock, separators, caseClause, Rule.guard, Full, Fills,
        NodeKind.isHidden]
  | arguments =>
      simp [rule, Rule.argumentList, commaList, listUntil, Full, Fills, NodeKind.isHidden]
  | expression => simp [rule, Rule.expression, Full, Fills, takes, NodeKind.isHidden]
  | operators place =>
      simp [rule, Rule.operators, expressionStart_full, expressionStep_full, Full]
  | simpleExpression =>
      simp [rule, Rule.simpleExpression, primary, interpolated, identifier, spliced, splice,
        literal, parenthesized, unit, instanceExpression, templateBodyAhead,
        constructorApplication, lazyExpression, simpleStep, name, typeArguments, commaListOne,
        braceArgument, Full, Fills, takes, NodeKind.isHidden]

open Rule Condition in
/-- What always takes a token puts something in. -/
theorem Nonterminal.rule_fills (nonterminal : Nonterminal)
    (always : nonterminal.takes = true) : nonterminal.rule.Fills none false := by
  cases nonterminal with
  | definition =>
      simp [rule, Rule.definition, annotatable, moduleDefinition, useDeclaration,
        importDeclaration, enumDefinition, classDefinition, instanceDefinition, effDefinition,
        relDefinition, typeDefinition, letDefinition, functionDefinition, Fills]
  | templateBody => simp [rule, Rule.templateBody, enclosedItems, Fills]
  | typeParameters => simp [rule, Rule.typeParameters, Fills]
  | type =>
      simp [rule, Rule.type, arrowType, plainType, nativeType, literalType, literal,
        recordType, relRecordType, typeChain, parameterTypes, Fills, takes]
  | parameterType => simp [rule, Rule.parameterType, Fills, takes]
  | simpleType =>
      simp [rule, Rule.simpleType, tupleType, typePath, name, Fills]
  | annotatedType => simp [rule, Rule.annotatedType, Fills, takes]
  | structuralType => simp [rule, Rule.structuralType, enclosedItems, Fills]
  | pattern place => simp [rule, Rule.pattern, Fills, takes]
  | alternatives place =>
      simp [rule, Rule.alternatives, typedPattern, patternChain, Fills, takes]
  | primaryPattern place =>
      simp [rule, Rule.primaryPattern, interpolated, identifier, capturePattern, pathPattern,
        patternSegment, tuplePattern, unit, recordPattern, literal, Fills]
  | body => simp [rule, Rule.body, Fills, takes]
  | items place =>
      cases place with
      | bare => simp [rule, Rule.items, bareItems, item, Fills, takes]
      | _ => cases always
  | block => simp [rule, Rule.block, Fills]
  | caseBlock => simp [rule, Rule.caseBlock, Fills]
  | arguments => simp [rule, Rule.argumentList, Fills]
  | expression => simp [rule, Rule.expression, Fills, takes]
  | operators place => simp [rule, Rule.operators, expressionStart_full, Fills]
  | simpleExpression =>
      simp [rule, Rule.simpleExpression, primary, interpolated, identifier, spliced, literal,
        parenthesized, unit, instanceExpression, lazyExpression, Fills]

end Offside
