import Mathlib.Tactic.Tauto
import Offside.Grammar

namespace Offside

/-!
# How rules begin

In front of a stream a rule of the grammar often has no choice but to take the current token,
or else to refuse it.  Which of the two it is can be read off the rule as long as it asks
nothing but questions about the tokens ahead.

For expressions this depends on the kind of the current token alone.  The kinds that an
expression begins with are not quite those that the parser asks for before it reads one: the
sign in front of an annotation and some keywords pass for the beginning of an expression,
although no expression begins with them.
-/

/-! ## Kinds of tokens -/

namespace TokenKind

/-- The keywords in front of control forms. -/
def controlKeywords : List Keyword :=
  [.ifKw, .matchKw, .doKw, .regionKw, .queryKw, .tryKw, .whileKw, .foreachKw, .forAKw, .forMKw,
   .parKw, .returnKw, .throwKw]

/-- Whether an expression can begin with an operand that begins with the token. -/
def beginsOperand (kind : TokenKind) : Bool := kind.startsSimpleExpression || kind.isOperator

/-- Whether an expression can begin with the token. -/
def beginsExpression (kind : TokenKind) : Bool :=
  (controlKeywords.any fun word => kind.isKeyword word) || kind.isMark .leftBrace ||
    kind.isMark .hashBrace || kind == .indent || kind.beginsOperand

/-- The keywords that pass for the beginning of an expression, although there is none. -/
def idleKeywords : List Keyword :=
  [.letKw, .aliasKw, .lawfulKw, .sealedKw, .overrideKw, .pubKw, .notKw, .fixKw]

/-- Whether the token only passes for the beginning of an expression. -/
def feignsExpression : TokenKind → Bool
  | keyword word => idleKeywords.contains word
  | punctuation mark => mark == .atSign
  | _ => false

/-- The question that the parser asks is answered with yes where an expression begins, and
where something else does. -/
theorem startsExpression_eq (kind : TokenKind) :
    kind.startsExpression = (kind.beginsExpression || kind.feignsExpression) := by
  cases kind with
  | keyword word => cases word <;> rfl
  | punctuation mark => cases mark <;> rfl
  | _ => rfl

theorem not_beginsExpression_of_feigns {kind : TokenKind}
    (feigns : kind.feignsExpression = true) : kind.beginsExpression = false := by
  cases kind with
  | keyword word => cases word <;> first | rfl | cases feigns
  | punctuation mark => cases mark <;> first | rfl | cases feigns
  | _ => cases feigns

end TokenKind

/-! ## Rules -/

/-- What a rule does first. -/
inductive Opening
  /-- It takes the current token. -/
  | enters
  /-- It refuses the current token. -/
  | refuses (expected : List String)
  /-- Nothing is said. -/
  | unknown
deriving DecidableEq

/-- How the nonterminals begin that an expression can begin with. -/
def Nonterminal.opening : Nonterminal → TokenKind → Opening
  | expression, kind | operators .anywhere, kind =>
    if kind.beginsExpression then .enters else .refuses ["expression"]
  | simpleExpression, kind => if kind.beginsOperand then .enters else .refuses ["expression"]
  | block, kind | caseBlock, kind =>
    if kind.isMark .leftBrace then .enters
    else .refuses [Rule.quoteSpelling Punctuation.leftBrace.spelling]
  | _, _ => .unknown

/-- Whether the condition is a question about the tokens ahead and is answered with yes. -/
def Condition.isMet (stream : TokenStream) : Condition → Bool
  | ahead test => test stream
  | _ => false

namespace Rule

def opening (stream : TokenStream) : Rule → Opening
  | take => .enters
  | call nonterminal => nonterminal.opening stream.kind
  | seq rule _ | node _ _ rule | nested rule | chain rule | withBraces _ rule =>
    rule.opening stream
  | choose (.ahead test) yes no => if test stream then yes.opening stream else no.opening stream
  | settle _ first second =>
    if first.opening stream = .enters ∧ second.opening stream = .enters then .enters
    else .unknown
  | fail expected => .refuses expected
  | _ => .unknown

variable {stream : TokenStream}

/-! ## Composed rules -/

@[simp]
theorem opening_inOrder_cons (rule : Rule) (rules : List Rule) :
    (inOrder (rule :: rules)).opening stream = rule.opening stream := rfl

@[simp]
theorem opening_field (part : FieldName) (rule : Rule) :
    (field part rule).opening stream = rule.opening stream := rfl

/-- A choice among rules each of which enters where its question is answered with yes. -/
theorem opening_cases {alternatives : List (Condition × Rule)} {otherwise : Rule}
    (each : ∀ alternative ∈ alternatives, ∃ test, alternative.1 = .ahead test ∧
      (test stream = true → alternative.2.opening stream = .enters)) :
    (cases alternatives otherwise).opening stream =
      if alternatives.any (fun alternative => alternative.1.isMet stream) then .enters
      else otherwise.opening stream := by
  induction alternatives with
  | nil => rfl
  | cons alternative alternatives inductionHypothesis =>
      rcases alternative with ⟨condition, rule⟩
      rw [List.forall_mem_cons] at each
      rcases each with ⟨⟨test, rfl, enters⟩, others⟩
      rw [List.any_cons]
      show (if test stream then rule.opening stream
        else (cases alternatives otherwise).opening stream) = _
      cases answer : test stream with
      | true =>
          rw [if_pos rfl, enters answer, show Condition.isMet stream (.ahead test) = true from
            answer]
          rfl
      | false =>
          rw [if_neg Bool.false_ne_true, inductionHypothesis others,
            show Condition.isMet stream (.ahead test) = false from answer, Bool.false_or]

/-! ## The grammar -/

theorem opening_literal : literal.opening stream = .enters := by
  simp [literal, cases, leaf, Condition.atKind, opening]

theorem opening_controlForms : ∀ form ∈ controlForms, ∃ test, form.1 = .ahead test ∧
    (test stream = true → form.2.opening stream = .enters) := by
  simp [controlForms, ifExpression, matchExpression, doExpression, regionExpression,
    queryExpression, tryExpression, whileExpression, forExpression, Condition.atKeyword,
    keyword, opening]

theorem opening_interpolated (glued : stream.atInterpolator = true) :
    interpolated.opening stream = .enters := by
  have named : stream.kind.isIdentifier = true :=
    (Bool.and_eq_true_iff.mp (Bool.and_eq_true_iff.mp glued).1).1
  simp [interpolated, identifier, leaf, Condition.atKind, opening, named]

theorem opening_spliced (starts : stream.kind.isStringStart = true) :
    spliced.opening stream = .enters := by
  simp [spliced, cases, Condition.atKind, opening, starts]

theorem opening_parenthesized (opens : stream.isAtMark .leftParen = true) :
    parenthesized.opening stream = .enters := by
  simp [parenthesized, unit, mark, Condition.beforeKind, Condition.atMark, opening, opens]

theorem opening_primary : primary.opening stream =
    if stream.kind.beginsOperand then .enters else .refuses ["expression"] := by
  unfold primary
  rw [opening_cases]
  · refine if_congr ?_ rfl rfl
    simp [Condition.isMet, Condition.atKind, Condition.atMark, Condition.atKeyword,
      TokenKind.beginsOperand, TokenKind.startsSimpleExpression, TokenStream.isAtMark,
      TokenStream.isAtKeyword, TokenStream.atInterpolator]
    tauto
  · simpa [Condition.atKind, Condition.atMark, Condition.atKeyword, leaf, keyword,
      instanceExpression, lazyExpression, opening_literal, opening]
      using ⟨opening_interpolated, opening_spliced, opening_parenthesized⟩

theorem opening_operand : operand.opening stream =
    if stream.kind.beginsOperand then .enters else .refuses ["expression"] := by
  show (if stream.prefixOperatorAt 0 then prefixExpression.opening stream
    else Nonterminal.simpleExpression.opening stream.kind) = _
  cases first : stream.prefixOperatorAt 0 with
  | false => rfl
  | true =>
      have operator : stream.kind.isOperator = true := by
        have sign : stream.kind.isPrefixOperator = true := (Bool.and_eq_true_iff.mp first).1
        cases kind : stream.kind with
        | operator text => rfl
        | _ => rw [kind] at sign; cases sign
      have begins : stream.kind.beginsOperand = true := Bool.or_eq_true_iff.mpr (.inr operator)
      rw [if_pos rfl, if_pos begins]
      rfl

theorem opening_lambdaExpression (canStart : lambdaCanStart.isMet stream = true) :
    lambdaExpression.opening stream = .enters := by
  have starts : (stream.kind.isBinder || stream.kind.isMark .leftParen) = true := canStart
  simp only [TokenKind.isBinder, TokenKind.isName, Bool.or_eq_true] at starts
  simp only [lambdaExpression, lambdaParameters, binder, name, cases, mark, leaf,
    Condition.atKind, Condition.atMark, TokenStream.isAtMark, opening, opening_inOrder_cons,
    opening_field, List.foldr_cons, List.foldr_nil]
  grind

/-- Behind the control forms there is a lambda or an operand. -/
theorem opening_lambdaOrOperand :
    (choose lambdaCanStart (settle .bindingOrExpression lambdaExpression operand)
      operand).opening stream =
        if stream.kind.beginsOperand then .enters else .refuses ["expression"] := by
  show (if lambdaCanStart.isMet stream then
    (settle .bindingOrExpression lambdaExpression operand).opening stream
      else operand.opening stream) = _
  split
  · rename_i canStart
    have starts : (stream.kind.isBinder || stream.kind.isMark .leftParen) = true := canStart
    have begins : stream.kind.beginsOperand = true := by
      simp only [TokenKind.isBinder, TokenKind.isName, Bool.or_eq_true] at starts
      simp only [TokenKind.beginsOperand, TokenKind.startsSimpleExpression, Bool.or_eq_true]
      tauto
    simp [opening, opening_lambdaExpression canStart, opening_operand, begins]
  · exact opening_operand

theorem opening_expressionStart : (expressionStart .anywhere).opening stream =
    if stream.kind.beginsExpression then .enters else .refuses ["expression"] := by
  show (cases (controlForms ++ _) (choose lambdaCanStart _ operand)).opening stream = _
  rw [opening_cases (List.forall_mem_append.mpr ⟨opening_controlForms, ?_⟩),
    opening_lambdaOrOperand, ← ite_or]
  · refine if_congr ?_ rfl rfl
    simp [TokenKind.beginsExpression, TokenKind.controlKeywords, controlForms, Condition.isMet,
      Condition.atKind, Condition.atMark, Condition.atKeyword, TokenStream.isAtMark,
      TokenStream.isAtKeyword, or_assoc]
  · simp [Condition.atKind, Condition.atMark, Condition.atKeyword, returnExpression,
      throwExpression, braceArgument, relBlock, indentedBlock, indent, keyword, mark,
      Nonterminal.opening, TokenStream.isAtMark, opening]

end Rule

/-- A nonterminal begins as its rule does. -/
theorem Nonterminal.opening_rule (nonterminal : Nonterminal) (stream : TokenStream)
    (known : nonterminal.opening stream.kind ≠ .unknown) :
    nonterminal.rule.opening stream = nonterminal.opening stream.kind := by
  cases nonterminal with
  | expression => rfl
  | operators place =>
      cases place with
      | anywhere => exact Rule.opening_expressionStart
      | _ => exact absurd rfl known
  | simpleExpression => exact Rule.opening_primary
  | block => rfl
  | caseBlock => rfl
  | _ => exact absurd rfl known

theorem Nonterminal.opening_of_begins {kind : TokenKind}
    (begins : kind.beginsExpression = true) : expression.opening kind = .enters := if_pos begins

theorem Nonterminal.opening_of_feigns {kind : TokenKind}
    (feigns : kind.feignsExpression = true) :
    expression.opening kind = .refuses ["expression"] := by
  refine if_neg ?_
  rw [TokenKind.not_beginsExpression_of_feigns feigns]
  exact Bool.false_ne_true

end Offside
