import Offside.Grammar.Rule

namespace Offside
namespace Rule

/-!
# Items, blocks and clauses

What follows an `=` or a control keyword is a body: a block in curly brackets, or
a run of items without brackets of its own.  Items are expressions and
definitions, set apart by separators.  In curly brackets the layout rules insert no
separators, so there a line break in front of a token that can start an item sets
it apart as well, and so do the end of an indented block and the start of a
definition.

Faulty items are recovered from one by one.
-/

/-! ## Runs of items -/

def itemsEnd (place : ItemsPlace) : Condition :=
  .ahead fun stream =>
    stream.atEnd || stream.kind == .outdent || stream.kind.isCloser ||
      (place = .caseBody && stream.isAtKeyword .caseKw)

/-- Whether the current token starts an item although no separator stands in
front of it. -/
def itemStartsUnseparated (place : ItemsPlace) : Condition :=
  .ahead fun stream =>
    (stream.current.hasNewlineBefore &&
      (stream.kind.startsItem || (place = .enumBody && stream.isAtKeyword .caseKw))) ||
    stream.definitionStartsAt 0

/-- Whether the item in front ended with an indented block. -/
def afterIndentedBlock : Condition :=
  .ahead fun stream => stream.previous?.any fun token => token.kind == .outdent

/-- What a message says should close a run of items. -/
def closerName (place : ItemsPlace) : String :=
  if place = .caseBody then quoteSpelling Keyword.caseKw.spelling
  else quoteSpelling Punctuation.rightBrace.spelling

/-- As in `case A, B(Int32)` in an enum. -/
def enumCases : Rule :=
  let one := node none .simpleEnumCase <| inOrder
    [optional (.atKeyword .caseKw) take, field .name (call (.pattern .enumCase))]
  node none .enumCaseDefinitions <| inOrder
    [one, whenever (.atMark .comma) (inOrder [take, one])]

/-- An expression or a definition; in an enum also a row of enum cases. -/
def item (place : ItemsPlace) : Rule :=
  cases
    [(.atKeyword .forMKw,
       settle .forLetOrComprehension (call .definition) (call .expression)),
     (.ahead fun stream => stream.definitionStartsAt 0, call .definition)]
    (if place = .enumBody then
      choose (.atKeyword .caseKw) enumCases (call .expression)
    else call .expression)

/-- One item, and more as long as they belong to the same scope. -/
def bareItems : Rule :=
  inOrder
    [item .bare,
     loop <| choose .atSeparator
       (settle .bodySequence (inOrder [take, item .bare]) leave)
       leave]

/-- Items up to what ends the run.  An item has to be set apart from the item in
front of it; what stands in between otherwise is faulty. -/
def delimitedItems (place : ItemsPlace) : Rule :=
  loop <| inOrder
    [separators,
     leaveIf (itemsEnd place),
     recover (item place),
     choose afterIndentedBlock done <| loop <| inOrder
       [leaveIf .atSeparator,
        leaveIf (itemsEnd place),
        leaveIf (itemStartsUnseparated place),
        reject [quoteSpelling Punctuation.semicolon.spelling, closerName place]]]

def items (place : ItemsPlace) : Rule :=
  nested <| node none .blockItems <|
    if place = .bare then bareItems else delimitedItems place

/-! ## Bodies and blocks -/

/-- As in `{ items }`. -/
def block : Rule :=
  nested <| node none .block <| inOrder
    [mark .leftBrace, withBraces true (call (.items .block)), mark .rightBrace]

def indentedBlock : Rule :=
  nested <| node none .indentedBlock <| inOrder
    [indent, withBraces true (call (.items .block)), outdent]

/-- What follows an `=` or a control keyword. -/
def body : Rule :=
  nested <|
    choose
      (.ahead fun stream =>
        stream.isAtMark .leftBrace && !(stream.kindAhead 1).isKeyword .caseKw)
      (call .block) (call (.items .bare))

/-- Items in curly brackets, or indented behind a colon. -/
def enclosedItems (place : ItemsPlace) : Rule :=
  choose (.atMark .leftBrace)
    (inOrder [take, call (.items place), mark .rightBrace])
    (inOrder [mark .colon, indent, call (.items place), outdent])

/-- The body of a class, an instance, an effect or a module. -/
def templateBody : Rule := nested (node none .templateBody (enclosedItems .block))

/-- A template body as a type. -/
def structuralType : Rule := nested (node none .structuralType (enclosedItems .block))

def enumBody : Rule := node none .enumBody (enclosedItems .enumBody)

/-! ## Case clauses -/

/-- As in `if condition` behind a pattern. -/
def guard : Rule :=
  node none .guard <| inOrder [keyword .ifKw, field .condition (call (.operators .guard))]

/-- As in `case pattern if condition => items`. -/
def caseClause : Rule :=
  node none .caseClause <| inOrder
    [keyword .caseKw,
     node none .casePattern <| inOrder
       [field .pattern (call (.pattern .anywhere)),
        optional (.atKeyword .ifKw) guard,
        mark .fatArrow],
     choose (itemsEnd .caseBody) done (field .body (call (.items .caseBody)))]

def caseBlock : Rule :=
  nested <| node none .caseBlock <| inOrder
    [mark .leftBrace,
     withBraces true <| loop <| inOrder
       [separators,
        leaveIf (.atMarkOrEnd .rightBrace),
        choose (.atKeyword .caseKw) (recover caseClause)
          (reject
            [quoteSpelling Keyword.caseKw.spelling,
             quoteSpelling Punctuation.rightBrace.spelling])],
     mark .rightBrace]

/-! ## Blocks of relational clauses -/

def atom : Rule :=
  node none .atom <| cases
    [(.atKind TokenKind.isIdentifier, leaf .identifier),
     (.atKind TokenKind.isStringStart, spliced),
     (.atMark .underscore, leaf .wildcard),
     (.atKind TokenKind.isLiteral, literal)]
    (fail ["identifier", "literal"])

/-- As in `not Edge(x, y)`. -/
def relFact : Rule :=
  node none .relFact <| inOrder
    [cases [(.atKeyword .notKw, take), (.atKeyword .fixKw, take)] done,
     field .functor identifier,
     mark .leftParen,
     listUntil .rightParen (.atMarks [.comma, .semicolon]) atom,
     mark .rightParen]

/-- As in `:- Edge(x, y), Path(y, z)`. -/
def relBody : Rule :=
  node none .relBody <| inOrder [mark .colonMinus, commaListOne (.atMark .dot) relFact]

/-- A fact or a rule, with the dot at its end. -/
def relClause : Rule :=
  node none .relClause <| inOrder
    [field .head relFact,
     optional (.atMark .colonMinus) (field .body relBody),
     choose (.atMark .dot) (leaf .dot)
       (fail
         [quoteSpelling Punctuation.dot.spelling,
          quoteSpelling Punctuation.colonMinus.spelling])]

/-- Relational clauses between `#{` and `}`. -/
def relBlock : Rule :=
  nested <| node none .relBlock <| inOrder
    [mark .hashBrace,
     loop <| inOrder
       [separators, leaveIf (.atMarkOrEnd .rightBrace), recover relClause],
     mark .rightBrace]

end Rule
end Offside
