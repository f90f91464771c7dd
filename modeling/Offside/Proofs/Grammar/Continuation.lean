import Offside.Proofs.Grammar.Outlook
import Offside.Proofs.Parsing.Continuation

namespace Offside

/-!
# The grammar at the end of a source

In front of the place where a source ends and another one may follow, the conditions of
the grammar do not tell whether one does.  At the place itself many of them do: there is
a separator or there is none, a definition starts or none does.

A construct that has to be closed does not come to that place with its source in order.
The others ask there only what has the answer no either way, or else they need another
token, which the source does not have.
-/

@[simp]
theorem Rule.halts_isNamespaceWildcard : TokenKind.Halts Rule.isNamespaceWildcard :=
  TokenKind.halts_or (TokenKind.halts_of_cases rfl rfl fun _ _ => rfl) (TokenKind.halts_isMark _)

/-! ## Conditions -/

namespace Condition

/-- The condition has the same answer whether the source goes on or not. -/
def Agrees : Condition → Prop
  | ahead test => ∀ stream other : TokenStream, stream.Continues other →
    stream.position < stream.body.size → test other = test stream
  | first _ | bracesAllowed => True

/-- At the end of the source the condition does not hold, whatever follows. -/
def Quiet : Condition → Prop
  | ahead test => ∀ stream other : TokenStream, stream.Continues other →
    stream.position = stream.body.size → test stream = false ∧ test other = false
  | first _ | bracesAllowed => False

/-- The condition is about what has been built so far, or about the place of the rule. -/
def LooksBack : Condition → Prop
  | ahead _ => False
  | first _ | bracesAllowed => True

@[simp]
theorem agrees_atKind (holds : TokenKind → Bool) : (atKind holds).Agrees :=
  fun _ _ continues inside => congrArg holds (continues.kind_eq inside)

@[simp]
theorem agrees_first (holds : NodeKind → Bool) : (first holds).Agrees := True.intro

@[simp]
theorem agrees_bracesAllowed : bracesAllowed.Agrees := True.intro

@[simp]
theorem looksBack_first (holds : NodeKind → Bool) : (first holds).LooksBack := True.intro

@[simp]
theorem looksBack_bracesAllowed : bracesAllowed.LooksBack := True.intro

@[simp]
theorem agrees_atKeyword (word : Keyword) : (atKeyword word).Agrees := agrees_atKind _

@[simp]
theorem agrees_atMark (mark : Punctuation) : (atMark mark).Agrees := agrees_atKind _

@[simp]
theorem agrees_atMarks (marks : List Punctuation) : (atMarks marks).Agrees :=
  agrees_atKind fun kind => marks.any fun mark => kind.isMark mark

@[simp]
theorem agrees_atSeparator : atSeparator.Agrees := agrees_atKind _

@[simp]
theorem agrees_atMarkOrEnd (mark : Punctuation) : (atMarkOrEnd mark).Agrees :=
  agrees_atKind fun kind => kind.isMark mark || kind == .endOfFile

@[simp]
theorem agrees_beforeKind (mark : Punctuation) :
    (beforeKind (TokenKind.isMark mark)).Agrees :=
  fun _ _ continues inside => continues.halts_ahead (TokenKind.halts_isMark mark) inside

/-! Questions that have a name. -/

@[simp]
theorem agrees_isAtDot {follower : TokenKind → Bool} (halts : TokenKind.Halts follower) :
    (ahead fun stream => stream.isAtDot follower).Agrees :=
  fun _ _ continues inside => continues.isAtDot inside halts

@[simp]
theorem agrees_atJoiningOperator {operand : TokenKind → Bool}
    (halts : TokenKind.Halts operand) :
    (ahead fun stream => stream.atJoiningOperator operand).Agrees :=
  fun _ _ continues inside => continues.atJoiningOperator inside halts

@[simp]
theorem agrees_startsTemplateBody :
    (ahead fun stream => stream.startsTemplateBody 0).Agrees :=
  fun _ _ continues inside => continues.startsTemplateBody (Nat.le_of_lt inside)

@[simp]
theorem agrees_definitionStartsAt :
    (ahead fun stream => stream.definitionStartsAt 0).Agrees :=
  fun _ _ continues inside => continues.definitionStartsAt inside

@[simp]
theorem agrees_prefixOperatorAt : (ahead fun stream => stream.prefixOperatorAt 0).Agrees :=
  fun _ _ continues inside => continues.prefixOperatorAt (Nat.le_of_lt inside)

@[simp]
theorem agrees_operandStartsAt : (ahead fun stream => stream.operandStartsAt 1).Agrees :=
  fun _ _ continues inside => continues.operandStartsAt inside

@[simp]
theorem agrees_atInterpolator : (ahead TokenStream.atInterpolator).Agrees :=
  fun _ _ continues inside => continues.atInterpolator inside

@[simp]
theorem agrees_atExpressionOperator : (ahead TokenStream.atExpressionOperator).Agrees :=
  fun _ _ continues inside => continues.atExpressionOperator inside

/-! Questions that are asked in one place only. -/

@[simp]
theorem agrees_annotationFollows : Rule.annotationFollows.Agrees := by
  intro stream other continues inside
  show (_ && _) = (_ && _)
  rw [continues.isAtMark inside, continues.onSameLine inside]

/-- The path does not go on behind a dot where the source ends. -/
@[simp]
theorem agrees_pathGoesOn : (Rule.pathGoesOn 1).Agrees := by
  intro stream other continues inside
  show (_ && (_ || _)) = (_ && (_ || _))
  rw [continues.halts_ahead (TokenKind.halts_isMark .dot) inside]
  cases dot : (stream.kindAhead 1).isMark .dot with
  | true => rw [continues.kindAhead_eq (continues.dot_followed dot)]
  | false => rfl

@[simp]
theorem agrees_recordTypeAhead : Rule.recordTypeAhead.Agrees := by
  intro stream other continues inside
  show (_ && _) = (_ && _)
  rw [continues.halts_ahead TokenKind.halts_isIdentifier inside]
  cases identifier : (stream.kindAhead 1).isIdentifier with
  | true =>
      have further := TokenStream.Continues.inside_of_halts TokenKind.halts_isIdentifier identifier
      rw [continues.halts_ahead (TokenKind.halts_isMark .equals) further]
  | false => rfl

@[simp]
theorem agrees_indentedBodyAhead : Rule.indentedBodyAhead.Agrees := by
  intro stream other continues inside
  show (_ && _) = (_ && _)
  rw [continues.isAtMark inside, continues.halts_ahead TokenKind.halts_indent inside]

@[simp]
theorem agrees_markOnLine (mark : Punctuation) : (Rule.markOnLine mark).Agrees := by
  intro stream other continues inside
  show (_ && _) = (_ && _)
  rw [continues.isAtMark inside, continues.onSameLine inside]

@[simp]
theorem agrees_itemsEnd (place : ItemsPlace) : (Rule.itemsEnd place).Agrees := by
  intro stream other continues inside
  show (_ || _ || _ || _) = (_ || _ || _ || _)
  rw [continues.atEnd inside, continues.kind_eq inside, continues.isAtKeyword inside]

@[simp]
theorem agrees_itemStartsUnseparated (place : ItemsPlace) :
    (Rule.itemStartsUnseparated place).Agrees := by
  intro stream other continues inside
  show (_ && _ || _) = (_ && _ || _)
  rw [continues.current_eq inside, continues.kind_eq inside, continues.isAtKeyword inside,
    continues.definitionStartsAt inside]

@[simp]
theorem agrees_afterIndentedBlock : Rule.afterIndentedBlock.Agrees := by
  intro stream other continues inside
  show other.previous?.any _ = stream.previous?.any _
  unfold TokenStream.previous?
  rw [continues.position]
  split
  · rfl
  · rw [continues.tokens _ (by omega)]

@[simp]
theorem agrees_capture : (ahead fun stream =>
    stream.kind.isIdentifier && (stream.kindAhead 1).isMark .atSign).Agrees := by
  intro stream other continues inside
  show (_ && _) = (_ && _)
  rw [continues.kind_eq inside, continues.halts_ahead (TokenKind.halts_isMark .atSign) inside]

@[simp]
theorem agrees_bracedBody : (ahead fun stream =>
    stream.isAtMark .leftBrace && !(stream.kindAhead 1).isKeyword .caseKw).Agrees := by
  intro stream other continues inside
  show (_ && !_) = (_ && !_)
  have halts : TokenKind.Halts (TokenKind.isKeyword .caseKw) := TokenKind.halts_isKeyword rfl
  rw [continues.isAtMark inside, continues.halts_ahead halts inside]

@[simp]
theorem agrees_namespaceGoesOn : (ahead fun stream =>
    Rule.atNamespaceSeparator stream && (stream.kindAhead 1).isIdentifier).Agrees := by
  intro stream other continues inside
  show ((_ || _) && _) = ((_ || _) && _)
  rw [continues.isAtMark inside, continues.kind_eq inside,
    continues.halts_ahead TokenKind.halts_isIdentifier inside]

/-! ## Conditions at the end -/

@[simp]
theorem quiet_atKind {holds : TokenKind → Bool} (halts : TokenKind.Halts holds) :
    (atKind holds).Quiet :=
  fun _ _ continues there =>
    ⟨halts _ (continues.kind_follows there).1, halts _ (continues.kind_follows there).2⟩

@[simp]
theorem quiet_atMark (mark : Punctuation) : (atMark mark).Quiet :=
  quiet_atKind (TokenKind.halts_isMark mark)

@[simp]
theorem quiet_atMarks (marks : List Punctuation) : (atMarks marks).Quiet := by
  have halts : TokenKind.Halts fun kind => marks.any fun mark => kind.isMark mark := by
    intro kind follows
    rw [List.any_eq_false]
    intro mark _
    rw [TokenKind.halts_isMark mark kind follows]
    exact nofun
  exact quiet_atKind halts

/-- Keywords that go on with a construct. -/
@[simp]
theorem quiet_atKeyword :
    (atKeyword .withKw).Quiet ∧ (atKeyword .ifKw).Quiet ∧ (atKeyword .elseKw).Quiet ∧
      (atKeyword .catchKw).Quiet ∧ (atKeyword .finallyKw).Quiet :=
  ⟨quiet_atKind (TokenKind.halts_isKeyword rfl), quiet_atKind (TokenKind.halts_isKeyword rfl),
    quiet_atKind (TokenKind.halts_isKeyword rfl), quiet_atKind (TokenKind.halts_isKeyword rfl),
    quiet_atKind (TokenKind.halts_isKeyword rfl)⟩

/-- A question that first asks whether some mark is there. -/
theorem quiet_of_mark {mark : Punctuation} {test : TokenStream → Bool}
    (asks : ∀ stream : TokenStream, stream.isAtMark mark = false → test stream = false) :
    (ahead test).Quiet :=
  fun stream other continues there =>
    have marks := quiet_atMark mark stream other continues there
    ⟨asks stream marks.1, asks other marks.2⟩

@[simp]
theorem quiet_isAtDot (follower : TokenKind → Bool) :
    (ahead fun stream => stream.isAtDot follower).Quiet :=
  quiet_of_mark fun stream none => by
    show (stream.isAtMark .dot && _) = false
    rw [none, Bool.false_and]

@[simp]
theorem quiet_annotationFollows : Rule.annotationFollows.Quiet :=
  quiet_of_mark fun stream none => by
    show (stream.isAtMark .atSign && _) = false
    rw [none, Bool.false_and]

@[simp]
theorem quiet_markOnLine (mark : Punctuation) : (Rule.markOnLine mark).Quiet :=
  quiet_of_mark fun stream none => by
    show (stream.isAtMark mark && _) = false
    rw [none, Bool.false_and]

@[simp]
theorem quiet_startsTemplateBody :
    (ahead fun stream => stream.startsTemplateBody 0).Quiet := by
  intro stream other continues there
  have braces := quiet_atMark .leftBrace stream other continues there
  have colons := quiet_atMark .colon stream other continues there
  have asks : ∀ stream : TokenStream, stream.isAtMark .leftBrace = false →
      stream.isAtMark .colon = false → stream.startsTemplateBody 0 = false := by
    intro stream noBrace noColon
    show (stream.isAtMark .leftBrace || (stream.isAtMark .colon && _)) = false
    rw [noBrace, noColon]
    rfl
  exact ⟨asks stream braces.1 colons.1, asks other braces.2 colons.2⟩

theorem quiet_ofName {test : TokenStream → Bool}
    (asks : ∀ stream : TokenStream, stream.kind.isName = false → test stream = false) :
    (ahead test).Quiet :=
  fun stream other continues there =>
    have names := quiet_atKind TokenKind.halts_isName stream other continues there
    ⟨asks stream names.1, asks other names.2⟩

@[simp]
theorem quiet_atJoiningOperator (operand : TokenKind → Bool) :
    (ahead fun stream => stream.atJoiningOperator operand).Quiet :=
  quiet_ofName fun stream none => by
    have parts := Bool.or_eq_false_iff.mp none
    unfold TokenStream.atJoiningOperator
    rw [parts.1, parts.2]
    rfl

@[simp]
theorem quiet_atExpressionOperator : (ahead TokenStream.atExpressionOperator).Quiet :=
  quiet_ofName fun stream none => by
    have parts := Bool.or_eq_false_iff.mp none
    unfold TokenStream.atExpressionOperator
    rw [parts.1, parts.2]
    rfl

@[simp]
theorem quiet_namespaceGoesOn : (ahead fun stream =>
    Rule.atNamespaceSeparator stream && (stream.kindAhead 1).isIdentifier).Quiet := by
  intro stream other continues there
  have halts : TokenKind.Halts fun kind => kind.isMark .dot || kind == .operator "/" :=
    TokenKind.halts_or (TokenKind.halts_isMark _)
      (TokenKind.halts_of_cases rfl rfl fun _ _ => rfl)
  have none := quiet_atKind halts stream other continues there
  refine ⟨?_, ?_⟩
  · show (Rule.atNamespaceSeparator stream && _) = false
    rw [show Rule.atNamespaceSeparator stream = false from none.1, Bool.false_and]
  · show (Rule.atNamespaceSeparator other && _) = false
    rw [show Rule.atNamespaceSeparator other = false from none.2, Bool.false_and]

end Condition

/-- At the end of the source the second alternative is taken, whatever follows. -/
def Ambiguity.IsQuiet : Ambiguity → Prop
  | instanceBody | moduleBody => True
  | _ => False

namespace Rule

/-! ## What a rule does at the end -/

/-- A rule that takes a token on every way. -/
def alwaysTakes (rule : Rule) : Bool := rule.takes false && rule.takes true

/-- What follows the first item of a body without brackets. -/
def bareRound : Rule :=
  choose .atSeparator (settle .bodySequence (inOrder [take, item .bare]) leave) leave

theorem bareItems_eq : bareItems = inOrder [item .bare, loop bareRound] := rfl

/-- What begins at the end of the source does the same whatever follows. -/
def Rests : Rule → Prop
  | seq first second => (seq first second).alwaysTakes = true ∨ (first.Rests ∧ second.Rests)
  | choose condition yes no =>
    (yes.alwaysTakes && no.alwaysTakes) = true ∨ (condition.Quiet ∧ no.Rests) ∨
      (condition.LooksBack ∧ yes.Rests ∧ no.Rests) ∨ choose condition yes no = bareRound
  | settle ambiguity first second =>
    (first.alwaysTakes && second.alwaysTakes) = true ∨ (ambiguity.IsQuiet ∧ second.Rests)
  | call nonterminal => nonterminal.takes = true
  | node _ _ rule | loop rule | nested rule | chain rule | withBraces _ rule | recover rule =>
    rule.Rests
  | _ => True

/-- What begins before the end of the source and comes to it does the same whatever
follows. -/
def Arrives : Rule → Prop
  | seq first second =>
    second.Arrives ∧ ((first.stays && second.alwaysTakes) = true ∨ (first.Arrives ∧ second.Rests))
  | choose _ first second | settle _ first second => first.Arrives ∧ second.Arrives
  | loop rule => rule.Arrives ∧ rule.Rests
  | node part kind rule => node part kind rule = returnExpression ∨ rule.Arrives
  | call nonterminal => nonterminal.takes = true
  | nested rule | chain rule | withBraces _ rule | recover rule => rule.Arrives
  | _ => True

section Grammar
open Condition

attribute [local simp] inOrder Rule.cases Rule.optional whenever group field leaf keyword
  Rule.mark leaveIf takeOrLeave listUntil commaList commaListOne identifier name binder
  Asks Rests Arrives alwaysTakes stays takes Nonterminal.takes
  Ambiguity.IsQuiet

/-- A rule that takes the same way whether the source goes on or not, as long as it does
not come to the end of the source. -/
def Advances (rule : Rule) : Prop := rule.Asks Condition.Agrees

attribute [local simp] Advances

theorem controlForms_arrive :
    ∀ form ∈ controlForms, form.1.Agrees ∧ form.2.Advances ∧ form.2.Arrives := by
  simp [controlForms, ifExpression, matchExpression, doExpression, regionExpression,
    queryExpression, tryExpression, whileExpression, forExpression, condition,
    enumerators, enumeratorsUntil, enumerator, Rule.guard, separators, indent]

theorem advances_cases {alternatives : List (Condition × Rule)} {otherwise : Rule}
    (each : ∀ alternative ∈ alternatives,
      alternative.1.Agrees ∧ alternative.2.Advances ∧ alternative.2.Arrives)
    (last : otherwise.Advances ∧ otherwise.Arrives) :
    (Rule.cases alternatives otherwise).Advances ∧
      (Rule.cases alternatives otherwise).Arrives := by
  induction alternatives with
  | nil => exact last
  | cons alternative rest inductionHypothesis =>
      rw [List.forall_mem_cons] at each
      have behind := inductionHypothesis each.2
      exact ⟨⟨each.1.1, each.1.2.1, behind.1⟩, each.1.2.2, behind.2⟩

theorem expressionStart_arrives (place : ExpressionPlace) :
    (expressionStart place).Advances ∧ (expressionStart place).Arrives := by
  have operands : operand.Advances ∧ operand.Arrives := by simp [operand, prefixExpression]
  have lambdas : lambdaExpression.Advances ∧ lambdaExpression.Arrives := by
    simp [lambdaExpression, lambdaParameters, binding]
  have returns : returnExpression.Advances ∧ returnExpression.Arrives :=
    ⟨by simp [returnExpression], .inl rfl⟩
  refine advances_cases (List.forall_mem_append.mpr ⟨?_, ?_⟩) ?_
  · split
    · exact controlForms_arrive
    · exact List.forall_mem_nil _
  · rw [List.forall_mem_cons]
    refine ⟨⟨Condition.agrees_atKeyword _, returns⟩, ?_⟩
    simp [throwExpression, braceArgument, relBlock, relClause, relFact, relBody, atom, spliced,
      splice, literal, separators, indentedBlock, indent, outdent]
  · split
    · exact ⟨⟨Condition.agrees_atKind _, ⟨lambdas.1, operands.1⟩, operands.1⟩,
        ⟨lambdas.2, operands.2⟩, operands.2⟩
    · exact operands

theorem expressionStep_arrives (place : ExpressionPlace) :
    (expressionStep place).Advances ∧ (expressionStep place).Arrives := by
  have assigns : (assignment place).Advances ∧ (assignment place).Arrives := by
    unfold assignment
    split <;> simp [builtClass]
  have colons : (colonStep place).Advances ∧ (colonStep place).Arrives := by
    unfold colonStep
    repeat' split
    all_goals simp [colonArgument, lambdaParameters, binding, annotationMark]
  have joins : (operatorStep place).Advances ∧ (operatorStep place).Arrives := by
    unfold operatorStep
    repeat' split
    all_goals simp [builtClass, infixStep, postfixStep, colonArgument, lambdaParameters, binding]
  have closed : (builtClass [.closed]).Agrees := Condition.agrees_first _
  have continued : ∀ alternative ∈ [(atMarks [.equals, .colonEquals], assignment place),
      (atMark .colon, colonStep place),
      (ahead TokenStream.atExpressionOperator, operatorStep place)],
      alternative.1.Agrees ∧ alternative.2.Advances ∧ alternative.2.Arrives := by
    simp only [List.forall_mem_cons]
    exact ⟨⟨agrees_atMarks _, assigns⟩, ⟨agrees_atMark _, colons⟩,
      ⟨agrees_atExpressionOperator, joins⟩, List.forall_mem_nil _⟩
  replace continued := advances_cases continued (show leave.Advances ∧ leave.Arrives by simp)
  exact ⟨⟨closed, True.intro, continued.1⟩, True.intro, continued.2⟩

/-- Nothing that follows a source goes on with its last expression. -/
theorem expressionStep_rests (place : ExpressionPlace) : (expressionStep place).Rests := by
  simp [expressionStep, builtClass]

end Grammar
end Rule

section Grammar
open Rule

attribute [local simp] inOrder Rule.cases Rule.optional whenever group field leaf keyword
  Rule.mark leaveIf takeOrLeave listUntil commaList commaListOne identifier name binder
  Asks Rests Arrives alwaysTakes stays Rule.takes Nonterminal.takes Rule.Advances
  Ambiguity.IsQuiet

theorem Nonterminal.rule_advances (nonterminal : Nonterminal)
    (other : nonterminal ≠ .definition) :
    nonterminal.rule.Advances ∧ (nonterminal.takes = true → nonterminal.rule.Arrives) := by
  cases nonterminal with
  | definition => exact absurd rfl other
  | templateBody => simp [rule, Rule.templateBody, enclosedItems, indent, outdent]
  | typeParameters =>
      simp [rule, Rule.typeParameters, typeParameter, annotations, annotationMark,
        typeParametersIfAny]
  | type =>
      simp [rule, Rule.type, arrowType, plainType, nativeType, literalType, literal,
        recordType, rowTail, relRecordType, typeChain, functionTypeRest, parameterTypes]
  | parameterType => simp [rule, Rule.parameterType]
  | simpleType =>
      simp [rule, Rule.simpleType, tupleType, typePath, singletonEnd, Rule.segment, typeArguments]
  | annotatedType => simp [rule, Rule.annotatedType, annotationMark]
  | structuralType => simp [rule, Rule.structuralType, enclosedItems, indent, outdent]
  | pattern place => simp [rule, Rule.pattern]
  | alternatives place =>
      cases place <;> simp [rule, Rule.alternatives, typedPattern, patternChain]
  | primaryPattern place =>
      cases place <;>
        simp [rule, Rule.primaryPattern, interpolated, spliced, splice,
          capturePattern, pathPattern, patternSegment, tuplePattern, unit, recordPattern,
          literal, constructorArgument]
  | body => simp [rule, Rule.body]
  | items place =>
      cases place <;>
        simp [rule, Rule.items, bareItems_eq, bareRound, item, delimitedItems, separators,
          enumCases]
  | block => simp [rule, Rule.block]
  | caseBlock => simp [rule, Rule.caseBlock, caseClause, Rule.guard, separators]
  | arguments => simp [rule, Rule.argumentList]
  | expression => simp [rule, Rule.expression]
  | operators place =>
      have starts := expressionStart_arrives place
      have goesOn := expressionStep_arrives place
      have rests := expressionStep_rests place
      have linked : (inOrder [link]).Rests := by simp
      have round : (inOrder [expressionStep place, link]).Arrives :=
        ⟨by simp, .inr ⟨goesOn.2, linked⟩⟩
      have roundRests : (inOrder [expressionStep place, link]).Rests := .inr ⟨rests, linked⟩
      refine ⟨⟨starts.1, ⟨goesOn.1, True.intro, True.intro⟩, True.intro⟩, fun _ => ?_⟩
      refine .inr ⟨⟨True.intro, .inr ⟨⟨round, roundRests⟩, True.intro⟩⟩, .inr ⟨starts.2, ?_⟩⟩
      exact .inr ⟨roundRests, True.intro⟩
  | simpleExpression =>
      simp [rule, Rule.simpleExpression, primary, interpolated, spliced, splice,
        literal, parenthesized, unit, instanceExpression, constructorApplication,
        lazyExpression, simpleStep, typeArguments, braceArgument, templateBodyAhead]

/-! ## Definitions -/

namespace Rule

/-- Whether a separator stands in front of a definition that belongs to an annotation. -/
def separatedDefinition : Condition :=
  .ahead fun stream => stream.kind.isSeparator && stream.definitionStartsAt 1

/-- An annotation, and the separator between it and what it belongs to. -/
def annotation : Rule := inOrder [annotationMark, Rule.optional separatedDefinition take]

/-- What stands behind the annotations of a definition. -/
def declaration : Rule :=
  inOrder
    [Rule.optional (.atKind TokenKind.isModifier) modifiers,
     choose alreadyAnnotated annotatable <|
       Rule.cases
         [(.atKeyword .modKw, moduleDefinition),
          (.atKeyword .useKw, useDeclaration),
          (.atKeyword .importKw, importDeclaration)]
         annotatable]

theorem definition_parts : definition = nested (node none .functionDefinition
    (seq (whenever (.atMark .atSign) annotation) declaration)) := rfl

theorem annotationMark_advances : annotationMark.Advances ∧ annotationMark.Arrives := by
  simp [annotationMark]

theorem declaration_arrives : declaration.Advances ∧ declaration.Arrives := by
  simp [declaration, annotationMark, modifiers, alreadyAnnotated, annotatable,
    moduleDefinition, useDeclaration, importDeclaration, namespaceExpression,
    namespaceSelectors, enumDefinition, classDefinition, instanceDefinition, effDefinition,
    relDefinition, typeDefinition, letDefinition, functionDefinition, constructorApplication,
    withClauseIfAny, withClause, enumBody, enclosedItems, classConstructor,
    typeParametersIfAny, templateBodyIfAny, typeConstructor, predicateType,
    functionConstructor, parameters, parameter, annotations, indent, outdent]

theorem declaration_takes : declaration.alwaysTakes = true := rfl

end Rule
end Grammar
end Offside