import Offside.Grammar.Rule

namespace Offside
namespace Rule

/-!
# Patterns

From the loosest to the tightest, a pattern is a row of alternatives `p | q`, a
pattern with a type `p: T`, a chain of patterns joined by operators, or a primary
pattern.  Where a pattern stands decides what it may hold: behind `let` a type on
the outermost level belongs to the definition, and in an enum case the arguments
of a constructor are types.
-/

/-- Where the patterns inside a tuple stand.  The brackets set them apart from a
definition around them. -/
def tuplePlace : PatternPlace → PatternPlace
  | .enumCase => .enumCase
  | .anywhere | .binding => .anywhere

def constructorArgument : PatternPlace → Rule
  | .enumCase => call .type
  | .anywhere | .binding => call (.pattern .anywhere)

/-- As in `(p, q)`.  One pattern in brackets is a tuple of one. -/
def tuplePattern (place : PatternPlace) : Rule :=
  choose (.beforeKind (TokenKind.isMark .rightParen)) unit <|
    nested <| node none .tuplePattern <| inOrder
      [mark .leftParen,
       commaListOne (.atMark .rightParen) (call (.alternatives (tuplePlace place))),
       mark .rightParen]

/-- As in `{ x = e, y = f }`. -/
def recordPattern : Rule :=
  nested <| node none .recordPattern <| inOrder
    [mark .leftBrace,
     commaListOne (.atMark .rightBrace) <| inOrder
       [identifier, mark .equals, withBraces true (call .expression)],
     mark .rightBrace]

/-- As in `x @ p`. -/
def capturePattern (place : PatternPlace) : Rule :=
  node none .capturePattern <| inOrder
    [field .name identifier, take,
     field .pattern (nested (call (.primaryPattern place)))]

/-- One segment of a path.  The last segment in front of arguments names a type;
each later segment wraps the path in front of it. -/
def patternSegment (names wraps : Rule) : Rule :=
  choose (.beforeKind (TokenKind.isMark .leftParen))
    (inOrder [leaf .typeIdentifier, names]) (inOrder [leaf .identifier, wraps])

/-- A path, and as in `A.B(p, q)` with arguments.  The first argument is the one
that is known by name. -/
def pathPattern (place : PatternPlace) : Rule :=
  chain <| group <| inOrder
    [patternSegment done done,
     whenever (.ahead fun stream => stream.isAtDot TokenKind.isIdentifier) <| inOrder
       [link, take, patternSegment (wrap .qualTypeIdentifier) (wrap .qualIdentifier)],
     optional (.atMark .leftParen) <| inOrder
       [nameFirst .type, mark .leftParen,
        commaList .rightParen
          (field .pattern (withBraces true (constructorArgument place))),
        mark .rightParen, wrap .enumPattern]]

def primaryPattern (place : PatternPlace) : Rule :=
  cases
    [(.ahead TokenStream.atInterpolator, interpolated),
     (.ahead fun stream => stream.kind.isIdentifier && (stream.kindAhead 1).isMark .atSign,
       capturePattern place),
     (.atKind TokenKind.isIdentifier, pathPattern place),
     (.atKind TokenKind.isOperator, leaf .operatorIdentifier),
     (.atMark .underscore, leaf .wildcard),
     (.atMark .leftParen, tuplePattern place),
     (.atMark .leftBrace, recordPattern),
     (.atKind TokenKind.isLiteral, literal)]
    (fail ["pattern"])

def patternChain (place : PatternPlace) : Rule :=
  chain <| inOrder
    [call (.primaryPattern place),
     whenever (.ahead fun stream => stream.atJoiningOperator TokenKind.startsPattern) <|
       inOrder
         [link, nameFirst .left, field .operator (name "pattern operator"),
          field .right (call (.primaryPattern place)), wrap .infixPattern]]

def typedPattern (place : PatternPlace) : Rule :=
  group <| inOrder
    [patternChain place,
     if place = .anywhere then
       optional (.atMark .colon) <| inOrder
         [nameFirst .pattern, take, field .type (call .type), wrap .typedPattern]
     else done]

/-- As in `p | q`. -/
def alternatives (place : PatternPlace) : Rule :=
  chain <| group <| inOrder
    [typedPattern place,
     whenever (.atMark .pipe) <| inOrder
       [link, take, typedPattern place, wrap .alternativePattern]]

def pattern (place : PatternPlace) : Rule := nested (call (.alternatives place))

end Rule
end Offside
