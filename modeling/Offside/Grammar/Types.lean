import Offside.Grammar.Rule

namespace Offside
namespace Rule

/-!
# Types

From the loosest to the tightest, a type is an effect type `T \ ef`, a function
type `A -> B`, a chain of types joined by operators, a type with annotations, or a
simple type.  Effect types and operator chains grow to the left and function types
to the right.  Native, literal, record and structural types stand only as a whole
type and never as an operand.

A chain is built by wrapping what stands there already, so every chain has a group
to itself.
-/

/-- As in `(e, f)`. -/
def argumentList : Rule :=
  nested <| node none .arguments <| inOrder
    [mark .leftParen, withBraces true (commaList .rightParen (call .expression)),
     mark .rightParen]

/-- As in `@Name(e)`. -/
def annotationMark : Rule :=
  node none .annotationMark <| inOrder
    [mark .atSign,
     field .name (call .simpleType),
     whenever (.atMark .leftParen) (field .arguments (call .arguments))]

/-- Whether an annotation follows on the same line. -/
def annotationFollows : Condition :=
  .ahead fun stream => stream.isAtMark .atSign && stream.onSameLine

def annotations : Rule := whenever (.atMark .atSign) annotationMark

/-! ## Simple types -/

/-- As in `[A, B]` behind a type or a function. -/
def typeArguments : Rule :=
  node none .typeArguments <| inOrder
    [mark .leftBracket, commaListOne (.atMark .rightBracket) (call .type), mark .rightBracket]

/-- As in `(A, B)`. -/
def tupleType : Rule :=
  nested <| node none .tupleType <| inOrder
    [mark .leftParen, commaListOne (.atMark .rightParen) (call .type), mark .rightParen]

/-- Whether a path goes on a number of places ahead, with a name or with the
keyword `type`. -/
def pathGoesOn (offset : Nat) : Condition :=
  .ahead fun stream =>
    (stream.kindAhead offset).isMark .dot &&
      ((stream.kindAhead (offset + 1)).isIdentifier ||
        (stream.kindAhead (offset + 1)).isKeyword .typeKw)

/-- The end of a path that names a value, behind its last dot. -/
def singletonEnd (otherwise : Rule) : Rule :=
  choose (.atKeyword .typeKw) (inOrder [take, wrap .singletonType, leave]) otherwise

def segment : Rule :=
  choose (.atKind TokenKind.isIdentifier)
    (choose (pathGoesOn 1)
      (inOrder [leaf .identifier, wrap .qualIdentifier])
      (inOrder [leaf .typeIdentifier, wrap .qualTypeIdentifier, leave]))
    (fail ["identifier"])

/-- As in `Int32`, `a.b.C` or `x.type`.  Each segment wraps the path in front of
it; only the last one is the name of a type. -/
def typePath (last : Rule → Rule) : Rule :=
  choose (pathGoesOn 1)
    (inOrder [name "type", loop (inOrder [link, take, last segment])])
    (leaf .typeIdentifier)

/-- A simple type: a name or path, a tuple or the wildcard, with type arguments. -/
def simpleType : Rule :=
  chain <| group <| inOrder
    [cases
       [(.atMark .underscore, leaf .wildcard),
        (.atMark .leftParen, tupleType),
        (.atKind TokenKind.isName,
          settle .typeOrValuePath (typePath id) (typePath singletonEnd))]
       (fail ["type"]),
     whenever (.atMark .leftBracket) <| inOrder
       [link, nameFirst .type, field .typeArguments typeArguments, wrap .genericType]]

def annotatedType : Rule :=
  node none .annotatedType <| inOrder
    [call .simpleType, whenever annotationFollows annotationMark]

/-! ## Types that stand alone -/

/-- As in `##java.lang.Object`. -/
def nativeType : Rule :=
  node none .nativeType <| inOrder
    [mark .hashHash, identifier,
     whenever (.ahead fun stream => stream.isAtDot TokenKind.isIdentifier) <|
       inOrder [take, identifier]]

/-- A literal as the type of its own value. -/
def literalType : Rule := node none .literalType literal

/-- As in `| r` at the end of a row. -/
def rowTail : Rule := optional (.atMark .pipe) (inOrder [take, identifier])

/-- As in `{ x = Int32 | r }`. -/
def recordType : Rule :=
  nested <| node none .recordType <| inOrder
    [mark .leftBrace,
     commaListOne (.atKind fun kind => !kind.isIdentifier)
       (inOrder [identifier, mark .equals, call .type]),
     rowTail, mark .rightBrace]

/-- As in `#{ Edge(Int32, Int32) | r }`. -/
def relRecordType : Rule :=
  nested <| node none .relRecordType <| inOrder
    [mark .hashBrace,
     loop <| inOrder
       [leaveIf (.atMark .pipe), leaveIf (.atMarkOrEnd .rightBrace), call .type,
        takeOrLeave (.atMark .comma)],
     rowTail, mark .rightBrace]

/-- Whether a record type starts with the curly bracket ahead. -/
def recordTypeAhead : Condition :=
  .ahead fun stream =>
    (stream.kindAhead 1).isIdentifier && (stream.kindAhead 2).isMark .equals

/-- Whether an indented body starts with the colon ahead. -/
def indentedBodyAhead : Condition :=
  .ahead fun stream => stream.isAtMark .colon && stream.kindAhead 1 == .indent

/-! ## Operators, arrows and effects -/

def typeChain : Rule :=
  chain <| inOrder
    [call .annotatedType,
     whenever (.ahead fun stream => stream.atJoiningOperator TokenKind.startsSimpleType) <|
       inOrder
         [link, nameFirst .left, field .operator (name "type operator"),
          field .right (call .annotatedType), wrap .infixType]]

/-- The rest of a function type, behind its parameter types. -/
def functionTypeRest : Rule :=
  inOrder
    [nameFirst .parameterTypes, mark .arrow, field .returnType (call .type),
     wrap .functionType]

/-- As in `(A, => B)` in front of an arrow. -/
def parameterTypes : Rule :=
  node none .parameterTypes <| inOrder
    [mark .leftParen, commaList .rightParen (call .parameterType), mark .rightParen]

/-- A type that is no function type with its parameters in brackets. -/
def plainType : Rule :=
  cases
    [(.atMark .hashHash, nativeType),
     (.atKind fun kind => kind.isPlainLiteral || kind.isBoolean, literalType),
     (.atMark .leftBrace, choose recordTypeAhead recordType (call .structuralType)),
     (indentedBodyAhead, call .structuralType),
     (.atMark .hashBrace, relRecordType)]
    (inOrder
      [typeChain,
       optional (.atMark .arrow) (inOrder [wrap .parameterTypes, functionTypeRest])])

/-- A type without effects. -/
def arrowType : Rule :=
  choose (.atMark .leftParen)
    (settle .tupleOrParameterTypes plainType (inOrder [parameterTypes, functionTypeRest]))
    plainType

def type : Rule :=
  nested <| group <| inOrder
    [arrowType,
     whenever (.atMark .backslash) <| inOrder
       [link, nameFirst .left, take, field .right arrowType, wrap .effectType]]

/-- A type, or as in `=> T` for a parameter that is evaluated when it is used. -/
def parameterType : Rule :=
  choose (.atMark .fatArrow)
    (node none .lazyParameterType (inOrder [take, field .type (call .type)]))
    (call .type)

/-! ## Names with type parameters -/

/-- The type parameters of a name that is being defined, if there are any. -/
def typeParametersIfAny : Rule :=
  optional (.atMark .leftBracket) (field .typeParameters (call .typeParameters))

/-- As in `a[b]: Kind` or `_` between the brackets of type parameters. -/
def typeParameter : Rule :=
  node none .typeParameter <| inOrder
    [annotations,
     field .name binder,
     typeParametersIfAny,
     optional (.atMark .colon) (inOrder [take, field .type (call .type)])]

/-- As in `[a, b]` behind a name that is being defined. -/
def typeParameters : Rule :=
  nested <| node none .typeParameters <| inOrder
    [mark .leftBracket, commaListOne (.atMark .rightBracket) typeParameter,
     mark .rightBracket]

/-- A type with annotations, and with value arguments if there are any. -/
def constructorApplication : Rule :=
  node none .constructorApplication <| inOrder
    [call .annotatedType,
     optional (.atMark .leftParen) (field .arguments (call .arguments))]

end Rule
end Offside
