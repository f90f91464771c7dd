import Offside.Proofs.Grammar.Filling
import Offside.Proofs.Tree.Naming

namespace Offside

/-!
# What may be named

That names lead to nodes can be read off the rules of the grammar.  A rule that names the
first child of a node, or wraps everything that was built so far, is run only where a node
stands first; and a group that is given a name begins with a node, or else is the run of
items that makes the body of a case clause.

As with what fills a node, the question that was answered right in front of a token may have
to be taken into account: a run of items takes separators because it has asked for them.
-/

namespace Front

/-- What may stand first in a node of some kind. -/
def inside (kind : NodeKind) : Front :=
  if kind = .caseClause then .clause else if kind.isHidden then .nodes else .anything

/-- Whether the current token may stand first, by what is known of it. -/
def Allows : Front → (known : Option (TokenStream → Bool)) → Prop
  | anything, _ | clause, _ => True
  | separators, some test => ∀ stream, test stream = true → stream.kind.isSeparator = true
  | separators, none | nodes, _ => False

@[simp]
theorem allows_anything (known : Option (TokenStream → Bool)) :
    anything.Allows known ↔ True := Iff.rfl

@[simp]
theorem allows_clause (known : Option (TokenStream → Bool)) : clause.Allows known ↔ True :=
  Iff.rfl

theorem suits_inside {kind : NodeKind} (sound : kind ≠ .error) : (inside kind).Suits kind := by
  unfold inside
  split
  · rename_i clause
    exact ⟨sound, nofun, fun _ => clause⟩
  · split
    · exact ⟨sound, nofun, nofun⟩
    · rename_i shown
      exact ⟨sound, fun _ => Bool.not_eq_true _ ▸ shown, nofun⟩

theorem outside_inside (kind : NodeKind) : (inside kind).outside = .nodes := by
  unfold inside
  repeat' split
  all_goals rfl

/-- Every front but one admits a separator. -/
theorem admits_separators {front : Front} (accepts : front ≠ .nodes) {kind : TokenKind}
    (separates : kind.isSeparator = true) : front.admits kind = true := by
  cases front with
  | nodes => exact absurd rfl accepts
  | separators => exact separates
  | _ => rfl

theorem Allows.admits {front : Front} {known : Option (TokenStream → Bool)}
    (allows : front.Allows known) {stream : TokenStream}
    (answered : ∀ test, known = some test → test stream = true) :
    front.admits stream.kind = true := by
  cases front with
  | anything => rfl
  | clause => rfl
  | nodes => exact allows.elim
  | separators =>
      cases known with
      | none => exact allows.elim
      | some test => exact allows stream (answered test rfl)

end Front

namespace Rule

/-- The rule keeps the node under construction tidy and finishes none that is not, if
something has been put into the node when `filled` holds. -/
@[simp]
def Tidies : Rule → (known : Option (TokenStream → Bool)) → (filled : Prop) → Front → Prop
  | take, known, filled, front => filled ∨ front.Allows known
  | call nonterminal, _, filled, front => nonterminal.takes = true ∨ filled ∨ front ≠ .nodes
  | node part kind rule, known, filled, front =>
    kind ≠ .error ∧
      (rule.Tidies known False (.inside kind) ∨
        (kind.isHidden = true ∧ rule.Tidies known False .separators ∧
          (filled ∨ front ≠ .nodes) ∧ (part = none ∨ (front = .clause ∧ part = some .body))))
  | become kind, _, _, front => front = .anything ∧ kind ≠ .error ∧ kind.isHidden = false
  | nameFirst _, _, filled, front => filled ∧ front = .nodes
  | wrap kind, _, _, front => front = .nodes ∧ kind ≠ .error
  | seq first second, known, filled, front =>
    first.Tidies known filled front ∧
      second.Tidies none (filled ∨ first.Fills known false) front
  | choose condition yes no, _, filled, front =>
    yes.Tidies condition.test? filled front ∧ no.Tidies none filled front
  | settle _ first second, known, filled, front =>
    first.Tidies known filled front ∧ second.Tidies known filled front
  | loop rule, _, filled, front => rule.Tidies none filled front
  | nested rule, known, filled, front | chain rule, known, filled, front
  | withBraces _ rule, known, filled, front | recover rule, known, filled, front =>
    rule.Tidies known filled front
  | _, _, _, _ => True

/-! ## Composed rules -/

variable (known : Option (TokenStream → Bool)) (filled : Prop) (front : Front)

@[simp]
theorem tidies_inOrder_nil : (inOrder []).Tidies known filled front ↔ True := Iff.rfl

@[simp]
theorem tidies_inOrder_cons (rule : Rule) (rules : List Rule) :
    (inOrder (rule :: rules)).Tidies known filled front ↔ rule.Tidies known filled front ∧
      (inOrder rules).Tidies none (filled ∨ rule.Fills known false) front := Iff.rfl

@[simp]
theorem tidies_group (rule : Rule) : (group rule).Tidies known filled front ↔
    rule.Tidies known False .nodes ∨
      (rule.Tidies known False .separators ∧ (filled ∨ front ≠ .nodes)) := by
  simp [group, Front.inside, NodeKind.isHidden]

@[simp]
theorem tidies_field (part : FieldName) (rule : Rule) :
    (field part rule).Tidies known filled front ↔ rule.Tidies known False .nodes ∨
      (rule.Tidies known False .separators ∧ (filled ∨ front ≠ .nodes) ∧ front = .clause ∧
        part = .body) := by
  simp [field, Front.inside, NodeKind.isHidden]

@[simp]
theorem tidies_keyword (word : Keyword) : (keyword word).Tidies known filled front ↔
    filled ∨ front.Allows (Condition.atKeyword word).test? := and_iff_left True.intro

@[simp]
theorem tidies_mark (mark : Punctuation) : (Rule.mark mark).Tidies known filled front ↔
    filled ∨ front.Allows (Condition.atMark mark).test? := and_iff_left True.intro

@[simp]
theorem tidies_optional (condition : Condition) (rule : Rule) :
    (Rule.optional condition rule).Tidies known filled front ↔
      rule.Tidies condition.test? filled front := and_iff_left True.intro

@[simp]
theorem tidies_whenever (condition : Condition) (rule : Rule) :
    (whenever condition rule).Tidies known filled front ↔
      rule.Tidies condition.test? filled front := and_iff_left True.intro

@[simp]
theorem tidies_leaveIf (condition : Condition) :
    (leaveIf condition).Tidies known filled front ↔ True :=
  iff_true_intro ⟨True.intro, True.intro⟩

@[simp]
theorem tidies_takeOrLeave (condition : Condition) :
    (takeOrLeave condition).Tidies known filled front ↔
      filled ∨ front.Allows condition.test? := and_iff_left True.intro

@[simp]
theorem tidies_cases_nil (otherwise : Rule) :
    (cases [] otherwise).Tidies known filled front ↔ otherwise.Tidies known filled front :=
  Iff.rfl

@[simp]
theorem tidies_cases_cons (condition : Condition) (rule : Rule)
    (alternatives : List (Condition × Rule)) (otherwise : Rule) :
    (cases ((condition, rule) :: alternatives) otherwise).Tidies known filled front ↔
      rule.Tidies condition.test? filled front ∧
        (cases alternatives otherwise).Tidies none filled front := Iff.rfl

/-- Separators may stand wherever a token may. -/
theorem tidies_separators (accepts : filled ∨ front ≠ .nodes) :
    separators.Tidies known filled front := by
  rw [separators, tidies_whenever]
  refine accepts.imp_right fun accepts => ?_
  cases front with
  | nodes => exact absurd rfl accepts
  | separators => exact fun _ => id
  | _ => exact True.intro

/-! ## The grammar -/

section Grammar

variable {known filled front}

theorem cases_tidies {alternatives : List (Condition × Rule)} {otherwise : Rule}
    (each : ∀ alternative ∈ alternatives,
      alternative.2.Tidies alternative.1.test? filled front)
    (rest : ∀ known, otherwise.Tidies known filled front) :
    (cases alternatives otherwise).Tidies known filled front := by
  induction alternatives generalizing known with
  | nil => exact rest known
  | cons alternative alternatives inductionHypothesis =>
      rw [List.forall_mem_cons] at each
      exact ⟨each.1, inductionHypothesis each.2⟩

/-- A run of items begins with a node or a separator. -/
theorem delimitedItems_tidies (place : ItemsPlace) (accepts : front ≠ .nodes) :
    (delimitedItems place).Tidies known filled front := by
  have separates : ∀ known filled, separators.Tidies known filled front :=
    fun known filled => tidies_separators known filled front (.inr accepts)
  cases place <;>
    simp [delimitedItems, item, separates, enumCases, Front.inside, Nonterminal.takes,
      NodeKind.isHidden]

theorem controlForms_tidies : ∀ form ∈ controlForms,
    form.2.Tidies form.1.test? False .nodes := by
  simp [controlForms, ifExpression, matchExpression, doExpression, regionExpression,
    queryExpression, tryExpression, whileExpression, forExpression, condition, identifier,
    enumerators, enumeratorsUntil, enumerator, Rule.guard, separators, indent, leaf, Fills,
    Front.inside, Nonterminal.takes, NodeKind.isHidden]

theorem expressionStart_tidies (place : ExpressionPlace) :
    (expressionStart place).Tidies none False .nodes := by
  have operands : ∀ known, operand.Tidies known False .nodes := by
    simp [operand, prefixExpression, Front.inside, Nonterminal.takes, NodeKind.isHidden]
  unfold expressionStart
  refine cases_tidies (List.forall_mem_append.mpr ⟨?_, ?_⟩) fun known => ?_
  · split
    · exact controlForms_tidies
    · exact List.forall_mem_nil _
  · simp [returnExpression, throwExpression, braceArgument, relBlock, relClause, relFact,
      relBody, listUntil, commaListOne, atom, identifier, spliced, splice, literal,
      separators, indentedBlock, indent, outdent, leaf, Front.inside, Nonterminal.takes,
      NodeKind.isHidden]
  · split
    · simp [operands, lambdaCanStart, lambdaExpression, lambdaParameters, binder, binding,
        commaList, listUntil, name, leaf, Front.inside, Nonterminal.takes, NodeKind.isHidden]
    · exact operands known

/-- What continues an expression finds a node in front. -/
theorem expressionStep_tidies (place : ExpressionPlace) :
    (expressionStep place).Tidies none True .nodes := by
  have assigns : ∀ known, (assignment place).Tidies known True .nodes := by
    unfold assignment
    split <;> simp [Nonterminal.takes]
  have colonArguments : ∀ known, colonArgument.Tidies known False .nodes := by
    simp [colonArgument, lambdaParameters, binder, binding, commaList, listUntil, name,
      leaf, Front.inside, Nonterminal.takes, NodeKind.isHidden]
  have colons : ∀ known, (colonStep place).Tidies known True .nodes := by
    unfold colonStep
    repeat' split
    all_goals simp [colonArguments, annotationMark, Front.inside, Nonterminal.takes,
      NodeKind.isHidden]
  have joins : ∀ known, (operatorStep place).Tidies known True .nodes := by
    unfold operatorStep
    repeat' split
    all_goals simp [infixStep, postfixStep, name, colonArguments, leaf, Front.inside,
      Nonterminal.takes, NodeKind.isHidden]
  simp [expressionStep, assigns, colons, joins]

end Grammar
end Rule

open Rule Condition in
/-- The rules of the grammar name nothing but nodes, up to the body of a case clause. -/
theorem Nonterminal.rule_tidies (nonterminal : Nonterminal) {filled : Prop} {front : Front}
    (fits : nonterminal.takes = true ∨ filled ∨ front ≠ .nodes) :
    nonterminal.rule.Tidies none filled front := by
  cases nonterminal with
  | definition =>
      simp [rule, Rule.definition, annotationMark, modifiers, alreadyAnnotated, annotatable,
        moduleDefinition, useDeclaration, importDeclaration, namespaceExpression,
        namespaceSelectors, enumDefinition, classDefinition, instanceDefinition,
        effDefinition, relDefinition, typeDefinition, letDefinition, functionDefinition,
        constructorApplication, withClauseIfAny, withClause, enumBody, enclosedItems,
        classConstructor, typeParametersIfAny, templateBodyIfAny, typeConstructor,
        predicateType, functionConstructor, parameters, parameter, annotations, binder,
        commaList, commaListOne, listUntil, name, identifier, indent, outdent, leaf, Fills,
        Front.inside, takes, NodeKind.isHidden]
  | templateBody =>
      simp [rule, Rule.templateBody, enclosedItems, indent, outdent, Front.inside,
        NodeKind.isHidden]
  | typeParameters =>
      simp [rule, Rule.typeParameters, commaListOne, typeParameter, annotations,
        annotationMark, binder, name, typeParametersIfAny, leaf, Front.inside, takes,
        NodeKind.isHidden]
  | type =>
      simp [rule, Rule.type, arrowType, plainType, nativeType, literalType, literal,
        recordType, identifier, rowTail, relRecordType, typeChain, functionTypeRest,
        parameterTypes, commaList, listUntil, commaListOne, name, leaf, Fills, Front.inside,
        takes, NodeKind.isHidden]
  | parameterType =>
      simp [rule, Rule.parameterType, Front.inside, takes, NodeKind.isHidden]
  | simpleType =>
      simp [rule, Rule.simpleType, tupleType, commaListOne, typePath, singletonEnd,
        Rule.segment, name, typeArguments, leaf, Fills, Front.inside, takes,
        NodeKind.isHidden]
  | annotatedType =>
      simp [rule, Rule.annotatedType, annotationMark, Front.inside, takes,
        NodeKind.isHidden]
  | structuralType =>
      simp [rule, Rule.structuralType, enclosedItems, indent, outdent, Front.inside,
        NodeKind.isHidden]
  | pattern place => simp [rule, Rule.pattern, takes]
  | alternatives place =>
      cases place <;> simp [rule, Rule.alternatives, typedPattern, patternChain, name, leaf,
        Fills, Front.inside, takes, NodeKind.isHidden]
  | primaryPattern place =>
      cases place <;>
        simp [rule, Rule.primaryPattern, interpolated, identifier, spliced, splice,
          capturePattern, pathPattern, patternSegment, commaList, listUntil,
          constructorArgument, tuplePattern, unit, commaListOne, recordPattern, literal,
          leaf, Fills, Front.inside, takes, NodeKind.isHidden]
  | body => simp [rule, Rule.body, takes]
  | items place =>
      cases place with
      | bare =>
          simp [rule, Rule.items, bareItems, item, Fills, Front.inside, takes,
            NodeKind.isHidden]
      | _ =>
          have accepts : filled ∨ front ≠ .nodes := fits.resolve_left Bool.false_ne_true
          have apart : Front.separators ≠ .nodes := by simp
          exact ⟨by simp, .inr ⟨rfl, delimitedItems_tidies _ apart, accepts, .inl rfl⟩⟩
  | block => simp [rule, Rule.block, Front.inside, NodeKind.isHidden]
  | caseBlock =>
      simp [rule, Rule.caseBlock, separators, caseClause, Rule.guard, Fills, Front.inside,
        takes, NodeKind.isHidden]
  | arguments =>
      simp [rule, Rule.argumentList, commaList, listUntil, Front.inside, NodeKind.isHidden]
  | expression => simp [rule, Rule.expression, Front.inside, takes, NodeKind.isHidden]
  | operators place =>
      simp [rule, Rule.operators, expressionStart_tidies, expressionStart_full,
        expressionStep_tidies]
  | simpleExpression =>
      simp [rule, Rule.simpleExpression, primary, interpolated, identifier, spliced, splice,
        literal, parenthesized, unit, instanceExpression, constructorApplication,
        lazyExpression, simpleStep, name, typeArguments, commaListOne, braceArgument, leaf,
        Fills, Front.inside, takes, NodeKind.isHidden]

end Offside
