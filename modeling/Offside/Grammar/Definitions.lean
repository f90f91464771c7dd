import Offside.Grammar.Items
import Offside.Grammar.Types

namespace Offside
namespace Rule

/-!
# Definitions

A definition begins with its annotations and modifiers and is then told apart by
a keyword.  Until that keyword is read the kind of its node is open.  Modules and
declarations of names from elsewhere take neither annotations nor modifiers.
-/

def definitionKeywords : List String :=
  [Keyword.defKw, .letKw, .enumKw, .classKw, .instanceKw, .effKw, .relKw, .typeKw].map
    fun word => quoteSpelling word.spelling

/-! ## Modules and imports -/

def templateBodyIfAny : Rule :=
  optional (.ahead fun stream => stream.startsTemplateBody 0)
    (field .body (call .templateBody))

/-- As in `mod A.B { ... }`. -/
def moduleDefinition : Rule :=
  inOrder
    [become .moduleDefinition,
     keyword .modKw,
     field .name <| node none .moduleIdentifier <| inOrder
       [name "module name",
        whenever (.ahead fun stream => stream.isAtDot TokenKind.isName) <|
          inOrder [take, name "module name"]],
     settle .moduleBody
       (inOrder [optional .atSeparator take, field .body (call .templateBody)])
       done]

/-- Whether a token stands for all names of a namespace. -/
def isNamespaceWildcard (kind : TokenKind) : Bool :=
  kind == .operator "*" || kind.isMark .underscore

/-- As in `{ x, y }` behind a namespace. -/
def namespaceSelectors : Rule :=
  node none .namespaceSelectors <| inOrder
    [mark .leftBrace,
     commaListOne (.atMark .rightBrace)
       (choose (.atKind isNamespaceWildcard) (leaf .namespaceWildcard) identifier),
     mark .rightBrace]

def atNamespaceSeparator (stream : TokenStream) : Bool :=
  stream.isAtMark .dot || stream.kind == .operator "/"

/-- As in `A.B/C`, with `.*`, `._` or `.{ x, y }` at its end. -/
def namespaceExpression : Rule :=
  node none .namespaceExpression <| inOrder
    [field .path identifier,
     loop <| cases
       [(.ahead fun stream =>
           atNamespaceSeparator stream && (stream.kindAhead 1).isIdentifier,
         inOrder [take, field .path identifier]),
        (.ahead fun stream => stream.isAtDot (TokenKind.isMark .leftBrace),
         inOrder [take, namespaceSelectors, leave]),
        (.ahead fun stream => stream.isAtDot isNamespaceWildcard,
         inOrder [take, leaf .namespaceWildcard, leave])]
       leave]

/-- As in `use A.B, C.D`. -/
def useDeclaration : Rule :=
  inOrder
    [become .useDeclaration, keyword .useKw, namespaceExpression,
     whenever (.atMark .comma) (inOrder [take, namespaceExpression])]

/-- As in `import static T(U): V`. -/
def importDeclaration : Rule :=
  inOrder
    [become .importDeclaration,
     keyword .importKw,
     optional (.atKeyword .staticKw) take,
     call .type,
     optional (.atMark .leftParen) <| inOrder
       [take, commaList .rightParen (call .type), mark .rightParen],
     optional (.atMark .colon) (inOrder [take, call .type])]

/-! ## Enums, classes, instances, effects and relations -/

/-- As in `with A, B[c](e)`. -/
def withClause : Rule :=
  node none .withClause <| inOrder
    [keyword .withKw,
     field .type constructorApplication,
     whenever (.atMark .comma) (inOrder [take, field .type constructorApplication]),
     optional (.atMark .leftParen) (call .arguments)]

def withClauseIfAny : Rule := optional (.atKeyword .withKw) (field .withClause withClause)

/-- As in `enum E[a] with C { case A }`. -/
def enumDefinition : Rule :=
  inOrder
    [become .enumDefinition, keyword .enumKw, constructorApplication, withClauseIfAny,
     optional (.ahead fun stream => stream.startsTemplateBody 0) (field .body enumBody)]

/-- As in `C[a] @Ann`. -/
def classConstructor : Rule :=
  node none .classConstructor <| inOrder
    [field .name (name "class name"),
     typeParametersIfAny,
     optional (.atMark .atSign) annotationMark]

/-- As in `class C[a] { ... }`. -/
def classDefinition : Rule :=
  inOrder
    [become .classDefinition, keyword .classKw, classConstructor, withClauseIfAny,
     templateBodyIfAny]

/-- As in `instance C[a] { ... }`, where the body is not optional. -/
def instanceDefinition : Rule :=
  inOrder
    [become .instanceDefinition, keyword .instanceKw, classConstructor, withClauseIfAny,
     choose (.ahead fun stream => stream.startsTemplateBody 0)
       (field .body (call .templateBody))
       (failMissing .instanceDefinition .body)]

/-- As in `eff E { ... }`. -/
def effDefinition : Rule :=
  inOrder [become .effDefinition, keyword .effKw, call .type, templateBodyIfAny]

def typeConstructor : Rule :=
  node none .typeConstructor <| inOrder
    [field .name <|
       choose (.atKind TokenKind.isName) (leaf .typeIdentifier) (fail ["type name"]),
     typeParametersIfAny]

/-- As in `Edge(x: Int32; y: Int32)`. -/
def predicateType : Rule :=
  node none .predicateType <| inOrder
    [field .functor typeConstructor,
     mark .leftParen,
     choose (.atMark .rightParen) done <| loop <| inOrder
       [identifier, mark .colon, call .type, takeOrLeave (.atMarks [.comma, .semicolon])],
     mark .rightParen]

/-- As in `rel Edge(x: Int32)`. -/
def relDefinition : Rule :=
  inOrder [become .relDefinition, keyword .relKw, predicateType]

/-! ## Types, bindings and functions -/

/-- As in `type alias T[a] = U`. -/
def typeDefinition : Rule :=
  inOrder
    [become .typeDefinition,
     keyword .typeKw,
     optional (.atKeyword .aliasKw) (leaf .aliasModifier),
     typeConstructor,
     optional (.atMark .equals) (inOrder [take, field .type (call .type)])]

/-- As in `let p: T = e`, also with `forM` in front. -/
def letDefinition : Rule :=
  inOrder
    [become .letDefinition,
     cases [(.atKeyword .letKw, take), (.atKeyword .forMKw, take)]
       (fail
         [quoteSpelling Keyword.letKw.spelling, quoteSpelling Keyword.forMKw.spelling]),
     field .pattern (call (.pattern .binding)),
     optional (.atMark .colon) (inOrder [take, field .type (call .type)]),
     choose (.atMark .equals) take
       (fail
         [quoteSpelling Punctuation.equals.spelling,
          quoteSpelling Punctuation.colon.spelling]),
     field .value (call .body)]

/-- As in `@Ann x: T = e` among the parameters of a function. -/
def parameter : Rule :=
  node none .parameter <| inOrder
    [annotations,
     field .name binder,
     optional (.atMark .colon) (inOrder [take, field .type (call .parameterType)]),
     optional (.atMark .equals) (inOrder [take, field .defaultValue (call .expression)])]

def parameters : Rule :=
  node none .parameters <| inOrder
    [mark .leftParen, withBraces true (commaList .rightParen parameter), mark .rightParen]

/-- What stands between `def` and the body of a function. -/
def functionConstructor : Rule :=
  node none .functionConstructor <| inOrder
    [field .name (name "function name"),
     typeParametersIfAny,
     whenever (.atMark .leftParen) (field .parameters parameters),
     optional (.atMark .colon) (inOrder [take, field .returnType (call .type)]),
     withClauseIfAny]

/-- A function, or without a body the declaration of one. -/
def functionDefinition : Rule :=
  inOrder
    [keyword .defKw,
     functionConstructor,
     choose (.atMark .equals)
       (inOrder [take, become .functionDefinition, field .body (call .body)])
       (become .functionDeclaration)]

/-! ## All definitions -/

def modifiers : Rule := node none .modifiers (whenever (.atKind TokenKind.isModifier) take)

def annotatable : Rule :=
  cases
    [(.atKeyword .enumKw, enumDefinition),
     (.atKeyword .classKw, classDefinition),
     (.atKeyword .instanceKw, instanceDefinition),
     (.atKeyword .effKw, effDefinition),
     (.atKeyword .relKw, relDefinition),
     (.atKeyword .typeKw, typeDefinition),
     (.atKeyword .letKw, letDefinition),
     (.atKeyword .forMKw, letDefinition),
     (.atKeyword .defKw, functionDefinition)]
    (fail definitionKeywords)

def alreadyAnnotated : Condition :=
  .first fun kind => kind == .annotationMark || kind == .modifiers

/-- A definition.  An annotation may stand on a line of its own; the line break
behind it does not separate it from the definition. -/
def definition : Rule :=
  nested <| node none .functionDefinition <| inOrder
    [whenever (.atMark .atSign) <| inOrder
       [annotationMark,
        optional
          (.ahead fun stream => stream.kind.isSeparator && stream.definitionStartsAt 1)
          take],
     optional (.atKind TokenKind.isModifier) modifiers,
     choose alreadyAnnotated annotatable <|
       cases
         [(.atKeyword .modKw, moduleDefinition),
          (.atKeyword .useKw, useDeclaration),
          (.atKeyword .importKw, importDeclaration)]
         annotatable]

end Rule
end Offside
