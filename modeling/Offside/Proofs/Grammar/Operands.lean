import Offside.Proofs.Parsing.Drawing

namespace Offside

/-!
# The operands of operators

The analysis of the grammar finds that every node is in shape when it is finished, with
one exception.  The right operand of an infix operator could be anything that may stand
there, among them a block or a `return`.  It is none of these, because an operator is
taken for an infix operator only when an operand stands behind it.
-/

open Drawing

/-! ## Behind an infix operator -/

namespace TokenStream

variable {stream : TokenStream}

/-- Whether a right operand, or the colon in front of one, stands at the current token. -/
def AtRightOperand (stream : TokenStream) : Prop :=
  stream.isAtMark .colon = true ∨ stream.AtOperand

theorem kindAhead_advance (inside : stream.atEnd = false) (offset : Nat) :
    stream.advance.kindAhead offset = stream.kindAhead (offset + 1) := by
  unfold kindAhead ahead advance
  rw [if_neg (by rw [inside]; exact Bool.false_ne_true)]
  show (stream.tokenAt (stream.position + 1 + offset)).kind = _
  rw [Nat.add_assoc, Nat.add_comm 1]

theorem atRightOperand_advance (inside : stream.atEnd = false)
    (follows : stream.operandStartsAt 1 = true) : stream.advance.AtRightOperand := by
  have next : stream.advance.kind = stream.kindAhead 1 := kindAhead_advance inside 0
  have second : stream.advance.kindAhead 1 = stream.kindAhead 2 := kindAhead_advance inside 1
  unfold operandStartsAt at follows
  unfold AtRightOperand AtOperand isAtMark prefixOperatorAt
  rw [show stream.advance.kindAhead 0 = stream.kindAhead 1 from next, next, second]
  split at follows
  · exact .inl (by assumption)
  · exact .inr (Bool.or_eq_true_iff.mp follows)

theorem inside_of_kind {test : TokenKind → Bool} (holds : test stream.kind = true)
    (fails : test .endOfFile = false) : stream.atEnd = false := by
  rw [← Bool.not_eq_true]
  intro ended
  rw [show stream.kind = .endOfFile from beq_iff_eq.mp ended, fails] at holds
  cases holds

/-- An operand starts with none of the tokens that start something else. -/
theorem AtOperand.kind_ne (operand : stream.AtOperand) {kind : TokenKind}
    (notSimple : kind.startsSimpleExpression = false)
    (notPrefix : kind.isPrefixOperator = false) : stream.kind ≠ kind := by
  rintro rfl
  rcases operand with simple | operator
  · rw [notSimple] at simple
    cases simple
  · rw [prefixOperatorAt, show stream.kindAhead 0 = stream.kind from rfl, notPrefix] at operator
    cases operator

end TokenStream

namespace Rule

/-- A check of what a rule comes to. -/
def drawsWithin (rule : Rule) (sketches done left : List Sketch) : Bool :=
  (rule.draw sketches).sound &&
    ((rule.draw sketches).done.all fun sketch => done.contains sketch) &&
    (rule.draw sketches).left.all fun sketch => left.contains sketch

variable {rule first second : Rule} {requires ensures leaves : Drawing}

theorem draws_within (sketches : List Sketch) {done left : List Sketch}
    (checked : rule.drawsWithin sketches done left = true) :
    Draws (among sketches) rule (among done) (among left) := by
  simp only [drawsWithin, Bool.and_eq_true, List.all_eq_true, List.contains_iff_mem] at checked
  exact (draws_draw rule checked.1.1).mono (fun _ _ => id) (fun _ => checked.1.2)
    fun _ => checked.2

/-- A choice whose question is known to be answered with no. -/
theorem Draws.skip {test : TokenStream → Bool}
    (fails : ∀ stream sketch, requires stream sketch → test stream ≠ true)
    (otherwise : Draws requires second ensures leaves) :
    Draws requires (.choose (.ahead test) first second) ensures leaves :=
  .choose (.of_never fun stream sketch held => fails stream sketch held.1 (held.2.2 test rfl))
    (otherwise.assuming (fun _ _ => And.left))

/-- Where an operand stands, the right operand of an operator is a simple expression or
has a prefix operator. -/
theorem expressionStart_draws_operand :
    Draws (fun stream sketch => stream.AtOperand ∧ sketch = .new .blockItems)
      (expressionStart .rightOperand)
      (among Sketch.operandGroups) (among []) := by
  have simple : Draws (fun stream sketch => stream.AtOperand ∧ sketch = .new .blockItems) operand
      (among Sketch.operandGroups) (among []) :=
    (draws_within [.new .blockItems] (by decide +kernel)).assuming
      fun _ _ fresh => List.mem_singleton.mpr fresh.2
  refine .skip (fun _ _ fresh held => ?_) <| .skip (fun _ _ fresh held => ?_) <|
    .skip (fun _ _ fresh held => ?_) <| .skip (fun _ _ fresh held => ?_) <|
    .skip (fun _ _ fresh held => ?_) simple
  all_goals exact fresh.1.kind_ne rfl rfl (beq_iff_eq.mp held)

/-! ## Infix operators -/

/-- The left operand and its operator. -/
def infixFront (left : ChildClass) : Sketch :=
  ⟨.blockItems, some left, some left, [(.left, left), (.operator, .simple)]⟩

def infixWhole (left right : ChildClass) : Sketch :=
  ⟨.blockItems, some left, some left, [(.left, left), (.operator, .simple), (.right, right)]⟩

/-- What an infix operator may be applied to from the left. -/
def leftOperands : List ChildClass := [.simple, .prefixed, .infixed]

/-- What an infix operator may be applied to from the right. -/
def rightOperands : List ChildClass := [.simple, .prefixed, .colonArgument]

def infixWholes : List Sketch :=
  leftOperands.flatMap fun left => rightOperands.map fun right => infixWhole left right

/-- The token of a name is taken. -/
theorem leaf_draws {kind : NodeKind}
    (shown : ∀ outer ∈ [Sketch.new .blockItems], ∀ node ∈ [(Sketch.new kind).pushToken],
      node.fits = true ∧ outer.close none node ∈ [Sketch.single .simple]) :
    Draws (fun stream sketch => (stream.operandStartsAt 1 = true ∧ stream.atEnd = false) ∧
        sketch ∈ [Sketch.new .blockItems])
      (leaf kind)
      (fun stream sketch => stream.AtRightOperand ∧ sketch ∈ [Sketch.single .simple])
      (among []) := by
  have taken : Draws (fun stream sketch =>
        (stream.operandStartsAt 1 = true ∧ stream.atEnd = false) ∧ sketch = .new kind) take
      (fun stream sketch => stream.AtRightOperand ∧ sketch ∈ [(Sketch.new kind).pushToken])
      (among []) :=
    .take fun stream sketch fresh => ⟨TokenStream.atRightOperand_advance fresh.1.2 fresh.1.1,
      List.mem_singleton.mpr (congrArg Sketch.pushToken fresh.2)⟩
  exact .node_among taken shown fun _ _ => List.forall_mem_nil _

/-- The name of an infix operator. -/
theorem name_draws {role : String} :
    Draws (fun stream sketch => stream.operandStartsAt 1 = true ∧ sketch = .new .blockItems)
      (name role)
      (fun stream sketch => stream.AtRightOperand ∧ sketch ∈ [Sketch.single .simple])
      (among []) := by
  refine .choose ((leaf_draws (by decide)).assuming ?_)
    (.choose ((leaf_draws (by decide)).assuming ?_) .fail)
  · rintro stream sketch ⟨⟨follows, same⟩, answer⟩
    have identifier : stream.kind.isIdentifier = true := answer.2 _ rfl
    exact ⟨⟨follows, TokenStream.inside_of_kind identifier rfl⟩, List.mem_singleton.mpr same⟩
  · rintro stream sketch ⟨⟨⟨follows, same⟩, _⟩, answer⟩
    have operator : stream.kind.isOperator = true := answer.2 _ rfl
    exact ⟨⟨follows, TokenStream.inside_of_kind operator rfl⟩, List.mem_singleton.mpr same⟩

/-- The right operand, where there is one. -/
theorem rightOperand_draws :
    Draws (fun stream sketch => stream.AtRightOperand ∧ sketch ∈ leftOperands.map infixFront)
      (.choose (.atMark .colon) (inOrder [take, field .right colonArgument])
        (field .right (call (.operators .rightOperand))))
      (among infixWholes) (among []) := by
  refine .choose ((draws_within (leftOperands.map infixFront) (by decide +kernel)).assuming
    fun _ _ asked => asked.1.2) ?_
  have operand : Draws (fun stream sketch => stream.AtOperand ∧ sketch = .new .blockItems)
      (call (.operators .rightOperand))
      (fun _ sketch => True ∧ sketch ∈ Sketch.operandGroups) (among []) := by
    have alone : ∀ group ∈ Sketch.operandGroups,
        (Sketch.new .blockItems).push group ∈ Sketch.operandGroups := by decide
    refine .call fun stream sketch group fresh adds _ => ⟨True.intro, ?_⟩
    rw [fresh.2]
    exact alone group (adds.operand rfl fresh.1)
  have placed : Draws
      (fun stream sketch => stream.AtOperand ∧ sketch ∈ leftOperands.map infixFront)
      (field .right (call (.operators .rightOperand)))
      (fun _ sketch => True ∧ sketch ∈ infixWholes) (among []) :=
    .node_among operand (by decide +kernel) fun _ _ => List.forall_mem_nil _
  refine placed.mono (fun stream sketch asked => ?_) (fun _ _ => And.right) fun _ _ => id
  exact ⟨asked.1.1.resolve_left (Bool.not_eq_true _ ▸ asked.2.2 _ rfl), asked.1.2⟩

/-- An infix operator and its operands are in shape, if an operand stands behind it. -/
theorem infixStep_draws :
    Draws (fun stream sketch => stream.operandStartsAt 1 = true ∧
        sketch ∈ leftOperands.map Sketch.single)
      infixStep (among [.single .infixed]) (among []) := by
  have named : Draws (fun stream sketch => stream.operandStartsAt 1 = true ∧
        sketch ∈ leftOperands.map Sketch.single) (nameFirst .left)
      (fun stream sketch => stream.operandStartsAt 1 = true ∧
        sketch ∈ leftOperands.map fun left => (Sketch.single left).attach .left left)
      (among []) := by
    refine .nameFirst fun stream sketch holds => ?_
    rcases List.mem_map.mp holds.2 with ⟨left, member, same⟩
    exact ⟨left, by rw [← same]; rfl, holds.1, List.mem_map.mpr ⟨left, member, by rw [same]⟩⟩
  have operator : Draws (fun stream sketch => stream.operandStartsAt 1 = true ∧
        sketch ∈ leftOperands.map fun left => (Sketch.single left).attach .left left)
      (field .operator (name "operator"))
      (fun stream sketch => stream.AtRightOperand ∧ sketch ∈ leftOperands.map infixFront)
      (among []) := .node_among name_draws (by decide +kernel) fun _ _ => List.forall_mem_nil _
  exact .seq named (.seq operator (.seq rightOperand_draws
    (.seq (draws_within _ (by decide +kernel)) .done)))

/-! ## Expressions with operators -/

/-- The groups that an expression may come to on the way. -/
def expressions : List Sketch :=
  [.single .simple, .single .prefixed, .single .infixed, .single .postfixed, .single .closed]

/-- Without those that nothing continues. -/
def openExpressions : List Sketch :=
  [.single .simple, .single .prefixed, .single .infixed, .single .postfixed]

/-- Only a left operand is continued by an operator. -/
theorem operatorStep_draws (place : ExpressionPlace) :
    Draws (among openExpressions) (operatorStep place) (among expressions)
      (among expressions) := by
  have leaving : Draws (among (leftOperands.map Sketch.single)) .leave (among expressions)
      (among expressions) := draws_within _ (by decide +kernel)
  have infixed : Sketch.single .infixed ∈ expressions := by decide
  have continued : Draws (among (leftOperands.map Sketch.single))
      (.choose (.ahead fun stream => stream.operandStartsAt 1)
        (if place.admits .infixOperator then infixStep else .leave)
        (if place.admits .postfixOperator then postfixStep else .leave))
      (among expressions) (among expressions) := by
    refine .choose ?_ ?_
    · split
      · exact infixStep_draws.mono (fun _ _ asked => ⟨asked.2.2 _ rfl, asked.1⟩)
          (fun _ _ done => List.mem_singleton.mp done ▸ infixed) fun _ _ left => by cases left
      · exact leaving.assuming (fun _ _ => And.left)
    · split
      · exact (draws_within (leftOperands.map Sketch.single) (by decide +kernel)).assuming
          fun _ _ => And.left
      · exact leaving.assuming (fun _ _ => And.left)
  have remaining : ∀ sketch ∈ openExpressions,
      (builtClass [.postfixed]).mayAnswer sketch false = true →
        sketch ∈ leftOperands.map Sketch.single := by decide +kernel
  exact .choose ((draws_within openExpressions (by decide +kernel)).assuming fun _ _ => And.left)
    (continued.assuming fun _ sketch asked => remaining sketch asked.1 asked.2.1)

/-- One step of an expression.  By cases on what the next token may continue. -/
theorem expressionStep_draws (place : ExpressionPlace) :
    Draws (among expressions) (expressionStep place) (among expressions)
      (among expressions) := by
  have assigned : Draws (among openExpressions) (assignment place) (among expressions)
      (among expressions) := draws_within _ (by cases place <;> decide +kernel)
  have behindColon : Draws (among openExpressions) (colonStep place) (among expressions)
      (among expressions) := draws_within _ (by cases place <;> decide +kernel)
  have leaving : Draws (among openExpressions) .leave (among expressions)
      (among expressions) := draws_within _ (by decide +kernel)
  have continued : Draws (among openExpressions)
      (cases
        [(.atMarks [.equals, .colonEquals], assignment place),
         (.atMark .colon, colonStep place),
         (.ahead TokenStream.atExpressionOperator, operatorStep place)]
        .leave) (among expressions) (among expressions) :=
    .choose (assigned.assuming (fun _ _ => And.left)) <|
      .choose (behindColon.assuming (fun _ _ asked => asked.1.1)) <|
        .choose ((operatorStep_draws place).assuming (fun _ _ asked => asked.1.1.1))
          (leaving.assuming (fun _ _ asked => asked.1.1.1))
  have remaining : ∀ sketch ∈ expressions,
      (builtClass [.closed]).mayAnswer sketch false = true → sketch ∈ openExpressions := by
    decide +kernel
  exact .choose ((draws_within expressions (by decide +kernel)).assuming fun _ _ => And.left)
    (continued.assuming fun _ sketch asked => remaining sketch asked.1 asked.2.1)

/-- What a start may come to and every step keeps, the whole may come to. -/
theorem operators_draws {place : ExpressionPlace} (holds : TokenStream → Prop)
    {groups : List Sketch}
    (start : Draws (fun stream sketch => holds stream ∧ sketch = .new .blockItems)
      (expressionStart place) (among groups) (among []))
    (step : Draws (among groups) (expressionStep place) (among groups) (among groups))
    (fits : groups.all Sketch.fits = true) (base : Sketch) :
    Draws (fun stream sketch => holds stream ∧ sketch ∈ [base]) (operators place)
      (among (groups.map base.push)) nowhere := by
  have steps : Draws (among groups) (.loop (inOrder [expressionStep place, link])) (among groups)
      (among []) := .loop (.seq step (.seq .link .done)) (fun _ _ => id) fun _ _ => id
  have inside : Draws (fun stream sketch => holds stream ∧ sketch = .new .blockItems)
      (inOrder [expressionStart place, loop (inOrder [expressionStep place, link])])
      (fun _ sketch => True ∧ sketch ∈ groups) (among []) :=
    (Draws.seq start (.seq steps .done)).mono (fun _ _ => id) (fun _ _ => And.intro True.intro)
      fun _ _ => id
  have whole : Draws (fun stream sketch => holds stream ∧ sketch ∈ [base])
      (group (inOrder [expressionStart place, loop (inOrder [expressionStep place, link])]))
      (fun _ sketch => True ∧ sketch ∈ groups.map base.push) (among []) := by
    refine .node_among inside (fun outer member node built => ?_)
      fun _ _ => List.forall_mem_nil _
    rw [List.mem_singleton.mp member]
    exact ⟨List.all_eq_true.mp fits node built, List.mem_map_of_mem built⟩
  exact whole.nested.mono (fun _ _ => id) (fun _ _ => And.right) fun _ _ left => by cases left

end Rule
end Offside
