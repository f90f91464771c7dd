import Offside.Token.Kind

namespace Offside
namespace TokenKind

/-!
# First tokens

Which tokens a construct can start with.  The parser asks these questions about
tokens ahead before it commits itself to a construct, so a kind of token is
listed here exactly when the construct has a reading that begins with it.
-/

def isKeyword (word : Keyword) (kind : TokenKind) : Bool := kind == .keyword word

def isMark (mark : Punctuation) (kind : TokenKind) : Bool := kind == .punctuation mark

/-- Whether the token is an alphabetic name or a name between backquotes. -/
def isIdentifier : TokenKind → Bool
  | identifier _ => true
  | _ => false

def isOperator : TokenKind → Bool
  | operator _ => true
  | _ => false

def isName (kind : TokenKind) : Bool := kind.isIdentifier || kind.isOperator

/-- Whether the token can name a bound variable: a name or the wildcard. -/
def isBinder (kind : TokenKind) : Bool := kind.isName || kind.isMark .underscore

def isModifier : TokenKind → Bool
  | keyword word => word.isModifier
  | _ => false

def isInteger : TokenKind → Bool
  | integer _ => true
  | _ => false

def isFloat : TokenKind → Bool
  | float _ => true
  | _ => false

def isCharacter : TokenKind → Bool
  | character _ => true
  | _ => false

def isPlainString : TokenKind → Bool
  | string _ => true
  | _ => false

def isStringStart : TokenKind → Bool
  | stringStart _ => true
  | _ => false

def isStringMiddle : TokenKind → Bool
  | stringMiddle _ => true
  | _ => false

def isStringEnd : TokenKind → Bool
  | stringEnd _ => true
  | _ => false

/-- Whether the token is a number, a character or a string without splices. -/
def isPlainLiteral (kind : TokenKind) : Bool :=
  kind.isInteger || kind.isFloat || kind.isCharacter || kind.isPlainString

def isBoolean (kind : TokenKind) : Bool := kind.isKeyword .trueKw || kind.isKeyword .falseKw

def isLiteral (kind : TokenKind) : Bool :=
  kind.isPlainLiteral || kind.isBoolean || kind.isKeyword .nullKw

/-- Whether the token is an operator that may stand in front of its operand. -/
def isPrefixOperator : TokenKind → Bool
  | operator text =>
    match text.toList with
    | [c] => CharClass.isPrefixOperator c
    | _ => false
  | _ => false

/-- Whether a type without operators and arrows can start with the token. -/
def startsSimpleType (kind : TokenKind) : Bool :=
  kind.isBinder || kind.isMark .leftParen

def startsPattern (kind : TokenKind) : Bool :=
  kind.isBinder || kind.isLiteral || kind.isMark .leftParen || kind.isMark .leftBrace

def startsSimpleExpression (kind : TokenKind) : Bool :=
  kind.isIdentifier || kind.isLiteral || kind.isStringStart || kind.isKeyword .newKw ||
    kind.isKeyword .lazyKw || kind.isMark .leftParen || kind.isMark .underscore

/-- The keywords that never begin an item of a block. -/
def innerKeywords : List Keyword :=
  [.elseKw, .catchKw, .finallyKw, .withKw, .derivesKw, .yieldKw, .selectKw, .fromKw,
   .caseKw, .staticKw, .forKw]

def itemMarks : List Punctuation := [.leftParen, .leftBrace, .hashBrace, .atSign, .underscore]

/-- Whether an item of a block, an expression or a definition, can start with the
token. -/
def startsItem : TokenKind → Bool
  | keyword word => !innerKeywords.contains word
  | punctuation mark => itemMarks.contains mark
  | identifier _ | operator _ | integer _ | float _ | character _ | string _ | stringStart _
  | indent => true
  | _ => false

def startsExpression : TokenKind → Bool
  | keyword word => (keyword word).startsItem && !word.isDefinitionKeyword
  | kind => kind.startsItem

end TokenKind
end Offside
