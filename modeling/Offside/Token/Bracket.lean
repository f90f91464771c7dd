import Offside.Token.Kind

namespace Offside

/-!
# Brackets

Groups are enclosed by brackets of four shapes.  Round, square and curly
brackets each have a closer of their own; a set or record literal opens with
`#` glued to a curly bracket and closes like any other curly bracket.
-/

/-- The token that opens a group. -/
inductive Bracket
  | round
  | square
  | curly
  | hashCurly
deriving DecidableEq, Repr

/-- The token that closes a group. -/
inductive ClosingBracket
  | round
  | square
  | curly
deriving DecidableEq, Repr

namespace ClosingBracket

def mark : ClosingBracket → Punctuation
  | round => .rightParen
  | square => .rightBracket
  | curly => .rightBrace

def char : ClosingBracket → Char
  | round => ')'
  | square => ']'
  | curly => '}'

def ofKind? : TokenKind → Option ClosingBracket
  | .punctuation .rightParen => some round
  | .punctuation .rightBracket => some square
  | .punctuation .rightBrace => some curly
  | _ => none

end ClosingBracket

namespace Bracket

def mark : Bracket → Punctuation
  | round => .leftParen
  | square => .leftBracket
  | curly => .leftBrace
  | hashCurly => .hashBrace

def char : Bracket → Char
  | round => '('
  | square => '['
  | curly => '{'
  | hashCurly => '#'

def closer : Bracket → ClosingBracket
  | round => .round
  | square => .square
  | curly | hashCurly => .curly

def ofKind? : TokenKind → Option Bracket
  | .punctuation .leftParen => some round
  | .punctuation .leftBracket => some square
  | .punctuation .leftBrace => some curly
  | .punctuation .hashBrace => some hashCurly
  | _ => none

end Bracket

namespace TokenKind

def isOpener (kind : TokenKind) : Bool := (Bracket.ofKind? kind).isSome

def isCloser (kind : TokenKind) : Bool := (ClosingBracket.ofKind? kind).isSome

end TokenKind
end Offside
