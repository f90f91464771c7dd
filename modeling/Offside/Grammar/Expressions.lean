import Offside.Grammar.Items
import Offside.Grammar.Types
import Offside.Vocabulary.Precedence

namespace Offside

/-!
# Expressions

An expression begins with a control form, a block, a lambda, a prefix operator or
a simple expression, and goes on as long as the next token continues it tightly
enough for the place where it stands:

* `= e` and `:= e` continue simple and prefix expressions;
* `: T` and `: { ... }` continue everything up to chains of postfix operators;
* an operator continues simple, prefix and infix expressions.  With a right
  operand behind it the operator is infix, and postfix without one.

What an expression may still become depends on the kind of the node that has been
built so far, and on nothing else.
-/

/-- What can continue an expression, by the node built so far. -/
inductive ExpressionClass
  | simple
  | prefixed
  | infixed
  | postfixed
  /-- Nothing continues the expression. -/
  | closed
deriving DecidableEq, Repr

def NodeKind.expressionClass : NodeKind → ExpressionClass
  | prefixExpression => .prefixed
  | infixExpression => .infixed
  | postfixExpression => .postfixed
  | ifExpression | matchExpression | doExpression | regionExpression | queryExpression
  | tryExpression | whileExpression | forExpression | returnExpression | throwExpression
  | caseBlock | block | relBlock | indentedBlock | lambdaExpression | assignmentExpression
  | ascriptionExpression => .closed
  | _ => .simple

/-- How tightly the continuations of an expression have to bind in some place. -/
def ExpressionPlace.minimum : ExpressionPlace → Nat
  | anywhere => 0
  | guard => Precedence.postfixOperator.level
  | rightOperand => Precedence.infixOperator.rightOperandMinimum

def ExpressionPlace.admits (place : ExpressionPlace) (construct : Precedence) : Bool :=
  construct.admits place.minimum

namespace Rule

/-! ## Simple expressions -/

/-- The arguments of a call in curly brackets: case clauses or a block. -/
def braceArgument : Rule := settle .caseBlockOrBlock (call .caseBlock) (call .block)

/-- As in `(e)`, where a control form asks for it. -/
def condition : Rule :=
  withBraces true <| node none .parenthesizedExpression <| inOrder
    [mark .leftParen, call .expression, mark .rightParen]

/-- As in `()`, `(e)` or `(e, f)`. -/
def parenthesized : Rule :=
  choose (.beforeKind (TokenKind.isMark .rightParen)) unit <|
    withBraces true <| node none .parenthesizedExpression <| inOrder
      [mark .leftParen,
       call .expression,
       whenever (.atMark .comma) <| inOrder
         [take, become .tupleExpression, leaveIf (.atMark .rightParen), call .expression],
       mark .rightParen]

/-- Whether a template body starts at the current token. -/
def templateBodyAhead : Condition := .ahead fun stream => stream.startsTemplateBody 0

/-- As in `new C(e) { ... }`. -/
def instanceExpression : Rule :=
  node none .instanceExpression <| inOrder
    [keyword .newKw,
     choose templateBodyAhead (call .templateBody) <| inOrder
       [constructorApplication, settle .instanceBody (call .templateBody) done]]

/-- As in `lazy e`. -/
def lazyExpression : Rule :=
  node none .lazyExpression (inOrder [take, field .value (call .simpleExpression)])

def primary : Rule :=
  cases
    [(.ahead TokenStream.atInterpolator, interpolated),
     (.atKind TokenKind.isIdentifier, leaf .identifier),
     (.atKind TokenKind.isOperator, leaf .operatorIdentifier),
     (.atMark .underscore, leaf .wildcard),
     (.atKind TokenKind.isLiteral, literal),
     (.atKind TokenKind.isStringStart, spliced),
     (.atMark .leftParen, parenthesized),
     (.atKeyword .newKw, instanceExpression),
     (.atKeyword .lazyKw, lazyExpression)]
    (fail ["expression"])

/-- Whether a mark stands on the line of the token in front of it. -/
def markOnLine (mark : Punctuation) : Condition :=
  .ahead fun stream => stream.isAtMark mark && stream.onSameLine

/-- One step of a simple expression: a field, type arguments or a call.  Brackets
continue an expression only on its line. -/
def simpleStep : Rule :=
  cases
    [(.ahead fun stream => stream.isAtDot TokenKind.isName, inOrder
       [nameFirst .value, take, field .field (name "field name"), wrap .fieldExpression]),
     (markOnLine .leftBracket, inOrder
       [wrap .expression, nameFirst .function, field .typeArguments typeArguments,
        wrap .genericFunction]),
     (markOnLine .leftParen, inOrder
       [nameFirst .function, field .arguments (call .arguments), wrap .callExpression]),
     (markOnLine .leftBrace, choose .bracesAllowed
       (inOrder [nameFirst .function, field .arguments braceArgument, wrap .callExpression])
       leave)]
    leave

/-- A primary expression with fields, type arguments and calls behind it. -/
def simpleExpression : Rule :=
  nested <| group <| inOrder [primary, loop (inOrder [simpleStep, link])]

/-! ## Lambdas -/

/-- As in `x: Int32` among the parameters of a lambda. -/
def binding : Rule :=
  node none .binding <| inOrder
    [field .name binder,
     optional (.atMark .colon) (inOrder [take, field .type (call .parameterType)])]

/-- The parameters of a lambda: a name, the wildcard, or a list in brackets. -/
def lambdaParameters : Rule :=
  choose (.atMark .leftParen)
    (node none .bindings <| inOrder
      [mark .leftParen, withBraces true (commaList .rightParen binding), mark .rightParen])
    binder

/-- As in `(x, y) -> e`. -/
def lambdaExpression : Rule :=
  node none .lambdaExpression <| inOrder
    [field .parameters lambdaParameters, mark .arrow, call (.items .bare)]

/-- As in `x => { ... }` behind a colon. -/
def colonArgument : Rule :=
  node none .colonArgument <| inOrder
    [choose (.atMark .leftBrace) done <| inOrder
       [field .lambdaStart lambdaParameters, mark .fatArrow],
     call .block]

/-! ## Control forms -/

/-- As in `if (e) f else g`. -/
def ifExpression : Rule :=
  node none .ifExpression <| inOrder
    [keyword .ifKw,
     field .condition condition,
     field .consequence (call .body),
     optional (.atKeyword .elseKw) (inOrder [take, field .alternative (call .body)])]

/-- As in `match e { ... }`.  A group in curly brackets behind the value is the
body and not an argument. -/
def matchExpression : Rule :=
  node none .matchExpression <| inOrder
    [keyword .matchKw,
     field .value (withBraces false (call .expression)),
     field .body (call .body)]

/-- As in `do e`. -/
def doExpression : Rule :=
  node none .doExpression (inOrder [keyword .doKw, field .body (call .body)])

/-- As in `region r { ... }`. -/
def regionExpression : Rule :=
  node none .regionExpression <| inOrder
    [keyword .regionKw, field .value identifier, field .body (call .body)]

/-- As in `query e, f select g from h`. -/
def queryExpression : Rule :=
  node none .queryExpression <| inOrder
    [keyword .queryKw,
     choose (.atKeyword .selectKw) done <| inOrder
       [call .expression, whenever (.atMark .comma) (inOrder [take, call .expression])],
     keyword .selectKw, call .expression, keyword .fromKw, call .expression]

/-- As in `try e catch f finally g`. -/
def tryExpression : Rule :=
  let clause (kind : NodeKind) := node none kind (inOrder [take, call .body])
  node none .tryExpression <| inOrder
    [keyword .tryKw,
     field .body (call .body),
     optional (.atKeyword .catchKw) (clause .catchClause),
     optional (.atKeyword .finallyKw) (clause .finallyClause)]

/-- As in `while (e) f` or `while e do f`. -/
def whileExpression : Rule :=
  let form (rest : List Rule) :=
    node none .whileExpression (inOrder (keyword .whileKw :: rest))
  settle .whileHeader
    (form [field .condition condition, field .body (call .expression)])
    (form [field .condition (call .body), keyword .doKw, field .body (call .body)])

/-- As in `x <- e if c`, `x = e` or a row of guards. -/
def enumerator : Rule :=
  node none .enumerator <|
    choose (.atKeyword .ifKw) (whenever (.atKeyword .ifKw) guard) <| inOrder
      [optional (.atKeyword .caseKw) take,
       call (.pattern .anywhere),
       choose (.atMarks [.leftArrow, .equals]) take
         (fail
           [quoteSpelling Punctuation.leftArrow.spelling,
            quoteSpelling Punctuation.equals.spelling]),
       call .expression,
       optional (.atKeyword .ifKw) guard]

/-- Enumerators with separators between them, up to a closing token. -/
def enumeratorsUntil (closes : Condition) (closerName : String) : Rule :=
  inOrder
    [withBraces true <| loop <| inOrder
       [enumerator,
        choose .atSeparator separators leave,
        leaveIf closes],
     choose closes take (fail [closerName, quoteSpelling Punctuation.semicolon.spelling])]

def enumerators : Rule :=
  nested <| node none .enumerators <|
    choose (.atMark .leftParen)
      (inOrder
        [take,
         enumeratorsUntil (.atMark .rightParen)
           (quoteSpelling Punctuation.rightParen.spelling)])
      (inOrder [indent, enumeratorsUntil (.atKind (· == .outdent)) outdentName])

/-- As in `foreach (x <- xs) e`, or with `yield` in front of the body.  Only
`foreach` can do without it. -/
def forExpression (withoutYield : Rule) : Rule :=
  node none .forExpression <| node none .foreachExpression <| inOrder
    [take,
     field .enumerators enumerators,
     choose (.atKeyword .yieldKw)
       (inOrder [take, become .foreachYieldExpression])
       withoutYield,
     field .body (call .body)]

/-- As in `return e`, where the value may be missing. -/
def returnExpression : Rule :=
  node none .returnExpression <| inOrder
    [keyword .returnKw, optional (.atKind TokenKind.startsExpression) (call .expression)]

/-- As in `throw e`. -/
def throwExpression : Rule :=
  node none .throwExpression (inOrder [keyword .throwKw, call .expression])

/-! ## Expressions with operators -/

/-- The control forms that need room for a body behind them. -/
def controlForms : List (Condition × Rule) :=
  let comprehension := forExpression (fail [quoteSpelling Keyword.yieldKw.spelling])
  [(.atKeyword .ifKw, ifExpression),
   (.atKeyword .matchKw, matchExpression),
   (.atKeyword .doKw, doExpression),
   (.atKeyword .regionKw, regionExpression),
   (.atKeyword .queryKw, queryExpression),
   (.atKeyword .tryKw, tryExpression),
   (.atKeyword .whileKw, whileExpression),
   (.atKeyword .foreachKw, forExpression done),
   (.atKeyword .forAKw, comprehension),
   (.atKeyword .forMKw, comprehension),
   (.atKeyword .parKw, comprehension)]

/-- As in `-e`. -/
def prefixExpression : Rule :=
  node none .prefixExpression (inOrder [take, call .simpleExpression])

/-- An operand: a prefix operator with its operand, or a simple expression. -/
def operand : Rule :=
  choose (.ahead fun stream => stream.prefixOperatorAt 0) prefixExpression
    (call .simpleExpression)

/-- Whether parameters of a lambda can start with the current token. -/
def lambdaCanStart : Condition :=
  .atKind fun kind => kind.isBinder || kind.isMark .leftParen

def expressionStart (place : ExpressionPlace) : Rule :=
  cases
    ((if place.admits .control then controlForms else []) ++
      [(.atKeyword .returnKw, returnExpression),
       (.atKeyword .throwKw, throwExpression),
       (.atMark .leftBrace, braceArgument),
       (.atMark .hashBrace, relBlock),
       (.atKind (· == .indent), indentedBlock)])
    (if place.admits .lambda then
      choose lambdaCanStart (settle .bindingOrExpression lambdaExpression operand) operand
    else operand)

def builtClass (classes : List ExpressionClass) : Condition :=
  .first fun kind => classes.contains kind.expressionClass

/-- As in `x = e` or `x := e`. -/
def assignment (place : ExpressionPlace) : Rule :=
  if place.admits .assignment then
    choose (builtClass [.simple, .prefixed])
      (inOrder
        [nameFirst .left, take, field .right (call .expression), wrap .assignmentExpression])
      leave
  else leave

/-- As in `e: T`, `e: @Ann` or `f: { ... }`. -/
def colonStep (place : ExpressionPlace) : Rule :=
  if place.admits .typeAscription || place.admits .colonCall then
    settle .colonCallOrAscription
      (if place.admits .colonCall then
        inOrder
          [nameFirst .function, take, field .arguments colonArgument, wrap .callExpression]
      else leave)
      (if place.admits .typeAscription then
        inOrder
          [take, choose (.atMark .atSign) annotationMark (call .parameterType),
           wrap .ascriptionExpression]
      else leave)
  else leave

/-- As in `e op f`, where the right operand may be as in `: x => { ... }`. -/
def infixStep : Rule :=
  inOrder
    [nameFirst .left,
     field .operator (name "operator"),
     choose (.atMark .colon)
       (inOrder [take, field .right colonArgument])
       (field .right (call (.operators .rightOperand))),
     wrap .infixExpression]

/-- As in `e op`. -/
def postfixStep : Rule := inOrder [name "operator", wrap .postfixExpression]

def operatorStep (place : ExpressionPlace) : Rule :=
  choose (builtClass [.postfixed]) leave <|
    choose (.ahead fun stream => stream.operandStartsAt 1)
      (if place.admits .infixOperator then infixStep else leave)
      (if place.admits .postfixOperator then postfixStep else leave)

def expressionStep (place : ExpressionPlace) : Rule :=
  choose (builtClass [.closed]) leave <|
    cases
      [(.atMarks [.equals, .colonEquals], assignment place),
       (.atMark .colon, colonStep place),
       (.ahead TokenStream.atExpressionOperator, operatorStep place)]
      leave

def operators (place : ExpressionPlace) : Rule :=
  nested <| group <| inOrder
    [expressionStart place, loop (inOrder [expressionStep place, link])]

def expression : Rule := node none .expression (call (.operators .anywhere))

end Rule
end Offside
