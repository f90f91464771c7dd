import Offside.Grammar.Lookahead
import Offside.Tree.Field

namespace Offside

/-!
# Grammar rules

The grammar is data.  A rule says how to move tokens from the stream into the
node under construction and how to group them into nodes; a nonterminal gives a
rule a name, so that rules can refer to each other.  What a rule does is settled
in one place, by its interpreter.

There is no way to write a rule that skips a token, takes one twice or puts one
into a tree out of order.  That is why the tree of a source always holds its
tokens exactly, whatever the grammar says.

A rule never goes back, with one exception: after a failure in a recovered part
the tokens of that part are gathered anew, as faulty input.
-/

/-- How much of the syntax of patterns is open in some place. -/
inductive PatternPlace
  /-- All of it. -/
  | anywhere
  /-- After `let`, where a type on the outermost level belongs to the definition. -/
  | binding
  /-- In an enum case, where the arguments of a constructor are types. -/
  | enumCase
deriving DecidableEq, Repr

/-- What a run of items stands in. -/
inductive ItemsPlace
  /-- Curly brackets or an indented block. -/
  | block
  /-- The body of an enum, which also holds `case` items. -/
  | enumBody
  /-- The body of a case clause, which also ends before the next `case`. -/
  | caseBody
  /-- Nothing that would end it: one item, and more only after a `let`. -/
  | bare
deriving DecidableEq, Repr

/-- Where an expression stands, as far as that limits what it may be. -/
inductive ExpressionPlace
  | anywhere
  /-- Behind the `if` of a guard, where whatever binds more loosely than a
  postfix operator has to wait. -/
  | guard
  /-- Behind an infix operator. -/
  | rightOperand
deriving DecidableEq, Repr

/-- A name for a rule of the grammar. -/
inductive Nonterminal
  | definition
  | templateBody
  | typeParameters
  | type
  | parameterType
  | simpleType
  | annotatedType
  | structuralType
  | pattern (place : PatternPlace)
  | alternatives (place : PatternPlace)
  | primaryPattern (place : PatternPlace)
  | body
  | items (place : ItemsPlace)
  | block
  | caseBlock
  | arguments
  | expression
  | operators (place : ExpressionPlace)
  | simpleExpression
deriving DecidableEq, Repr

/-- What a rule may ask before it chooses. -/
inductive Condition
  /-- A question about the tokens ahead. -/
  | ahead (holds : TokenStream → Bool)
  /-- A question about the first node that has been built here. -/
  | first (holds : NodeKind → Bool)
  /-- Whether a group in curly brackets may be read as an argument here. -/
  | bracesAllowed

/-- A rule of the grammar. -/
inductive Rule
  /-- Nothing. -/
  | done
  /-- One rule and then another. -/
  | seq (first second : Rule)
  /-- Take the current token. -/
  | take
  /-- Whatever a nonterminal stands for. -/
  | call (nonterminal : Nonterminal)
  /-- A node of its own for what the rule builds, by a name if there is one.  A
  node of a hidden kind only groups what the rule builds. -/
  | node (part : Option FieldName) (kind : NodeKind) (rule : Rule)
  /-- Change the kind of the node under construction. -/
  | become (kind : NodeKind)
  /-- Give a name to the first child built here. -/
  | nameFirst (part : FieldName)
  /-- Put everything built here into one node. -/
  | wrap (kind : NodeKind)
  /-- One of two rules, by a condition. -/
  | choose (condition : Condition) (yes no : Rule)
  /-- One of two rules, by settling an ambiguity. -/
  | settle (ambiguity : Ambiguity) (first second : Rule)
  /-- The rule over and over, until it is left. -/
  | loop (rule : Rule)
  /-- Leave the innermost loop. -/
  | leave
  /-- One level of nesting for what the rule builds. -/
  | nested (rule : Rule)
  /-- Release the levels that are charged inside the rule when it is done. -/
  | chain (rule : Rule)
  /-- Charge one level of nesting to the chain. -/
  | link
  /-- Allow or forbid groups in curly brackets as arguments inside the rule. -/
  | withBraces (allowed : Bool) (rule : Rule)
  /-- The rule, or faulty input in its place. -/
  | recover (rule : Rule)
  /-- Report the current token and gather faulty input. -/
  | reject (expected : List String)
  /-- Fail, because the current token does not fit. -/
  | fail (expected : List String)
  /-- Fail, because a part of a node is missing. -/
  | failMissing (kind : NodeKind) (part : FieldName)

namespace Condition

def atKeyword (word : Keyword) : Condition := .ahead fun stream => stream.isAtKeyword word

def atMark (mark : Punctuation) : Condition := .ahead fun stream => stream.isAtMark mark

def atMarks (marks : List Punctuation) : Condition :=
  .ahead fun stream => marks.any fun mark => stream.isAtMark mark

def atKind (holds : TokenKind → Bool) : Condition := .ahead fun stream => holds stream.kind

/-- Whether the next token but one is of some sort. -/
def beforeKind (holds : TokenKind → Bool) : Condition :=
  .ahead fun stream => holds (stream.kindAhead 1)

def atSeparator : Condition := atKind TokenKind.isSeparator

def atMarkOrEnd (mark : Punctuation) : Condition :=
  .ahead fun stream => stream.isAtMark mark || stream.atEnd

end Condition

namespace Rule

/-! ## Composing rules -/

def inOrder (rules : List Rule) : Rule := rules.foldr seq done

/-- What a rule builds, kept apart from what has been built around it. -/
def group (rule : Rule) : Rule := node none .blockItems rule

def field (part : FieldName) (rule : Rule) : Rule := node (some part) .blockItems rule

def leaf (kind : NodeKind) : Rule := node none kind take

def cases (alternatives : List (Condition × Rule)) (otherwise : Rule) : Rule :=
  alternatives.foldr (fun alternative rest => choose alternative.1 alternative.2 rest) otherwise

/-- A rule that is left out unless a condition holds. -/
def optional (condition : Condition) (rule : Rule) : Rule := choose condition rule done

def whenever (condition : Condition) (rule : Rule) : Rule := loop (choose condition rule leave)

def leaveIf (condition : Condition) : Rule := choose condition leave done

/-- Take the current token, or else leave the innermost loop. -/
def takeOrLeave (condition : Condition) : Rule := choose condition take leave

def quoteSpelling (spelling : String) : String := "`" ++ spelling ++ "`"

def keyword (word : Keyword) : Rule :=
  choose (.atKeyword word) take (fail [quoteSpelling word.spelling])

def mark (mark : Punctuation) : Rule :=
  choose (.atMark mark) take (fail [quoteSpelling mark.spelling])

def indentName : String := "indented block"

def outdentName : String := "end of indented block"

def indent : Rule := choose (.atKind (· == .indent)) take (fail [indentName])

def outdent : Rule := choose (.atKind (· == .outdent)) take (fail [outdentName])

def separators : Rule := whenever .atSeparator take

/-- Items with a separator between each two, up to a closing mark.  There may be
no item, and there may be a separator behind the last one. -/
def listUntil (closer : Punctuation) (separator : Condition) (item : Rule) : Rule :=
  loop (inOrder [leaveIf (.atMarkOrEnd closer), item, takeOrLeave separator])

def commaList (closer : Punctuation) (item : Rule) : Rule :=
  listUntil closer (.atMark .comma) item

/-- One item or more with commas between them.  A comma may stand behind the last
item, in front of what ends the list. -/
def commaListOne (ended : Condition) (item : Rule) : Rule :=
  loop (inOrder [item, takeOrLeave (.atMark .comma), leaveIf ended])

/-! ## Names and literals -/

def identifier : Rule :=
  choose (.atKind TokenKind.isIdentifier) (leaf .identifier) (fail ["identifier"])

/-- A name, described in messages by its role. -/
def name (role : String) : Rule :=
  cases
    [(.atKind TokenKind.isIdentifier, leaf .identifier),
     (.atKind TokenKind.isOperator, leaf .operatorIdentifier)]
    (fail [role])

/-- The name of a variable that is bound here, or the wildcard. -/
def binder : Rule := choose (.atMark .underscore) (leaf .wildcard) (name "name")

/-- A literal, which is known to be there. -/
def literal : Rule :=
  cases
    [(.atKind TokenKind.isInteger, leaf .integerLiteral),
     (.atKind TokenKind.isFloat, leaf .floatingPointLiteral),
     (.atKind TokenKind.isCharacter, leaf .characterLiteral),
     (.atKind TokenKind.isPlainString, leaf .string),
     (.atKind TokenKind.isBoolean, leaf .booleanLiteral)]
    (leaf .nullLiteral)

/-- The unit value `()`, which is known to be there. -/
def unit : Rule := node none .unit (inOrder [take, take])

/-! ## Strings with splices -/

/-- A splice: a name, or a block in curly brackets. -/
def splice : Rule :=
  nested <| node none .interpolation <| inOrder
    [mark .dollar, choose (.atMark .leftBrace) (call .block) identifier]

/-- A string, with or without splices. -/
def spliced : Rule :=
  node none .interpolatedString <|
    cases
      [(.atKind TokenKind.isPlainString, take),
       (.atKind TokenKind.isStringStart, inOrder
         [take,
          loop <| cases
            [(.atKind TokenKind.isStringMiddle, take),
             (.atMark .dollar, splice),
             (.atKind TokenKind.isStringEnd, inOrder [take, leave])]
            (fail ["end of string"])])]
      (fail ["string"])

/-- A string with an identifier glued to its front. -/
def interpolated : Rule :=
  node none .interpolatedStringExpression <| inOrder
    [field .interpolator identifier, spliced]

end Rule
end Offside
