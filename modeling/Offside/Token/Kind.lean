import Offside.Vocabulary.Keyword
import Offside.Vocabulary.Punctuation
import Offside.Text.CharClass
import Offside.Text.Blank

namespace Offside

/-!
# Token kinds

A token kind says what a token is.  Words of the vocabulary are kept as members
of their tables; names, literals and string fragments carry their source text.
Three kinds are synthetic: the layout rules insert them where an indented block
begins or ends and where a line break separates two statements.
-/

/-- The two ways to delimit a string. -/
inductive QuoteForm
  /-- One double quotation mark; the string stays on its line. -/
  | plain
  /-- Three double quotation marks; the string may span lines. -/
  | triple
deriving DecidableEq, Repr

def QuoteForm.spelling : QuoteForm → String
  | plain => "\""
  | triple => "\"\"\""

/-- What a token is. -/
inductive TokenKind
  | keyword (word : Keyword)
  | punctuation (mark : Punctuation)
  /-- An alphabetic name, or a name between backquotes. -/
  | identifier (text : String)
  /-- A run of operator symbols without a reserved meaning. -/
  | operator (text : String)
  | integer (text : String)
  | float (text : String)
  | character (text : String)
  /-- A string without splices, quotation marks included. -/
  | string (text : String)
  /-- The opening marks of a string with splices. -/
  | stringStart (quote : QuoteForm)
  /-- Text of a string with splices, between two of its splices or marks. -/
  | stringMiddle (text : String)
  /-- The closing marks of a string with splices. -/
  | stringEnd (quote : QuoteForm)
  /-- Opens an indented block. -/
  | indent
  /-- Closes an indented block. -/
  | outdent
  /-- Separates the statements of two lines. -/
  | autoSemicolon
  /-- Text that is no token, or a mark of width zero where a group was given up. -/
  | error (text : String)
  | endOfFile
deriving DecidableEq, Repr

namespace TokenKind

def name : TokenKind → String
  | keyword _ => "keyword"
  | punctuation _ => "punctuation"
  | identifier _ => "identifier"
  | operator _ => "operator_identifier"
  | integer _ => "integer_literal"
  | float _ => "floating_point_literal"
  | character _ => "character_literal"
  | string _ => "string"
  | stringStart _ => "string_start"
  | stringMiddle _ => "string_middle"
  | stringEnd _ => "string_end"
  | indent => "INDENT"
  | outdent => "OUTDENT"
  | autoSemicolon => "AUTOMATIC_SEMICOLON"
  | error _ => "ERROR"
  | endOfFile => "EOF"

/-- The text of the token.  A keyword has its shown spelling and a synthetic
token has none. -/
def text : TokenKind → String
  | keyword word => word.spelling
  | punctuation mark => mark.spelling
  | identifier text | operator text | integer text | float text | character text
  | string text | stringMiddle text | error text => text
  | stringStart quote | stringEnd quote => quote.spelling
  | indent | outdent | autoSemicolon | endOfFile => ""

def description : TokenKind → String
  | keyword word => "`" ++ word.spelling ++ "`"
  | punctuation mark => "`" ++ mark.spelling ++ "`"
  | identifier text => "identifier `" ++ text ++ "`"
  | operator text => "operator `" ++ text ++ "`"
  | integer text | float text => "number `" ++ text ++ "`"
  | character text => "character `" ++ text ++ "`"
  | string _ | stringStart _ => "string literal"
  | stringMiddle _ | stringEnd _ => "string fragment"
  | indent => "indented block"
  | outdent => "end of indented block"
  | autoSemicolon => "end of line"
  | error text => "invalid input `" ++ text ++ "`"
  | endOfFile => "end of file"

def vocabularyName? : TokenKind → Option String
  | keyword word => some word.name
  | punctuation mark => some mark.name
  | _ => none

/-! ## Roles of a token in layout -/

/-- Whether the token was inserted by the layout rules. -/
def isLayout : TokenKind → Bool
  | indent | outdent | autoSemicolon => true
  | _ => false

/-- Whether the token ends an operand.  A minus sign after such a token is an
operator and not the sign of a number. -/
def endsOperand : TokenKind → Bool
  | identifier _ | integer _ | float _ | character _ | string _ | stringEnd _ => true
  | keyword word => [Keyword.trueKw, .falseKw, .nullKw].contains word
  | punctuation mark =>
    [Punctuation.rightParen, .rightBracket, .rightBrace, .underscore].contains mark
  | _ => false

def canEndStatement : TokenKind → Bool
  | outdent => true
  | keyword word => word.hasRole .endsStatement
  | punctuation mark => mark.hasRole .endsStatement
  | kind => kind.endsOperand

/-- Whether a statement may start with the token, given the source character
right after it.  A prefix operator starts a statement only when it is glued to
its operand: `-x` does, `- x` does not. -/
def canStartStatement (next : Option Char) : TokenKind → Bool
  | keyword word => !word.hasRole .continuesLine
  | punctuation mark => !mark.hasRole .continuesLine
  | operator text =>
    match text.toList with
    | [c] => CharClass.isPrefixOperator c && next.any fun follower => !isBlank follower
    | _ => false
  | indent | outdent | autoSemicolon | endOfFile => false
  | stringMiddle _ | stringEnd _ => false
  | _ => true

/-- Whether the token can only begin a definition: a definition keyword or a
modifier.  The modifier `lazy` is left out because it also begins expressions. -/
def startsDefinition : TokenKind → Bool
  | keyword word => word.isDefinitionKeyword || (word.isModifier && word != .lazyKw)
  | _ => false

/-- Whether a deeper line after the token opens an indented block. -/
def opensBlock : TokenKind → Bool
  | keyword word => word.hasRole .opensBlock
  | punctuation mark => mark.hasRole .opensBlock
  | _ => false

/-- Whether the token separates the items of a sequence of statements. -/
def isSeparator : TokenKind → Bool
  | autoSemicolon => true
  | punctuation mark => mark == .semicolon
  | _ => false

def isError : TokenKind → Bool
  | error _ => true
  | _ => false

end TokenKind
end Offside
