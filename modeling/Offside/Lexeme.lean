import Offside.Diagnostic
import Offside.Lexeme.CharacterLiteral
import Offside.Lexeme.Numeral
import Offside.Lexeme.StringText
import Offside.Token
import Offside.Token.Bracket

namespace Offside

/-!
# Lexemes

A lexeme is the next thing that a reader makes out in a source outside of
strings: trivia, a token, the opening of a string with splices, or text that is
none of these.  Which lexeme it is depends on the text alone but for one point:
whether a minus sign or a full stop in front of a digit begins a numeral depends
on whether an operand has just ended.
-/

/-- What stands at the front of a text. -/
inductive Lexeme
  | trivia (kind : TriviaKind)
  | token (kind : TokenKind)
  /-- The opening marks of a string that has a splice. -/
  | stringOpening (quote : QuoteForm)
  /-- Text that is no token. -/
  | faulty (fault : LexicalFault)
deriving DecidableEq, Repr

/-- A lexeme and the number of characters that it takes besides its first one. -/
structure Lexeme.Found where
  lexeme : Lexeme
  more : Nat
deriving DecidableEq, Repr

namespace Lexeme

open CharClass

variable [XidStart]

def startsComment : List Char → Bool
  | '/' :: '/' :: _ | '/' :: '*' :: _ => true
  | _ => false

/-- The length of a run of operator symbols.  It ends in front of a comment. -/
def operatorRunLength : List Char → Nat
  | [] => 0
  | c :: rest =>
    if isOperatorSymbol c && !startsComment (c :: rest) then operatorRunLength rest + 1 else 0

/-- The number of characters up to and including the end of a block comment. -/
def commentRestLength? : List Char → Option Nat
  | [] => none
  | '*' :: '/' :: _ => some 2
  | _ :: rest => (commentRestLength? rest).map (· + 1)

def blockComment (rest : List Char) : Found :=
  match commentRestLength? (rest.drop 1) with
  | some length => ⟨.trivia .blockComment, length + 1⟩
  | none => ⟨.faulty .unterminatedComment, rest.length⟩

def string (rest : List Char) : Found :=
  let quote := if ['"', '"'].isPrefixOf rest then QuoteForm.triple else .plain
  let opening := StringText.marksLength quote - 1
  let body := rest.drop opening
  if StringText.hasSplice quote body then ⟨.stringOpening quote, opening⟩
  else
    let reach := StringText.length quote body
    if StringText.isCutOff quote (body.drop reach) then
      ⟨.faulty .unterminatedString, opening + reach⟩
    else
      let length := opening + reach + StringText.marksLength quote
      ⟨.token (.string (String.ofList ('"' :: rest.take length))), length⟩

/-- A character literal, given the text behind its opening quotation mark. -/
def character (rest : List Char) : Found :=
  let (length, wellFormed) := CharacterLiteral.scan rest
  if wellFormed then
    ⟨.token (.character (String.ofList ('\'' :: rest.take length))), length⟩
  else
    ⟨.faulty (.malformedLiteral .character), length⟩

/-- A name between backquotes, given the text behind the first one. -/
def backquoted (rest : List Char) : Found :=
  let length := runLength (fun c => c != '`' && c != '\n') rest
  if length != 0 && headIs (· == '`') (rest.drop length) then
    ⟨.token (.identifier (String.ofList ('`' :: rest.take (length + 1)))), length + 1⟩
  else
    ⟨.faulty (.illegalCharacter '`'), 0⟩

def numeral (c : Char) (rest : List Char) : Found :=
  let found := Numeral.scan (c :: rest)
  let text := String.ofList ((c :: rest).take found.length)
  let more := found.length - 1
  if found.wellFormed then
    ⟨.token (if found.isFloat then .float text else .integer text), more⟩
  else
    ⟨.faulty (.malformedLiteral (if found.isFloat then .float else .integer)), more⟩

/-- What a word is: the wildcard, a keyword or a name. -/
def wordKind (word : String) : TokenKind :=
  if word == "_" then .punctuation .underscore
  else
    match Keyword.ofSpelling? word with
    | some keyword => .keyword keyword
    | none => .identifier word

/-- A word that begins with `c`.  A word that ends in an underscore takes in the
operator behind it, as in `unary_-`. -/
def word (c : Char) (rest : List Char) : Found :=
  let letters := runLength isIdentContinue rest
  let plain := c :: rest.take letters
  let suffix :=
    if plain.getLast? == some '_' then operatorRunLength (rest.drop letters) else 0
  ⟨.token (wordKind (String.ofList (c :: rest.take (letters + suffix)))), letters + suffix⟩

def operator (c : Char) (rest : List Char) : Found :=
  let more := operatorRunLength rest
  let run := String.ofList (c :: rest.take more)
  if run == "#" && headIs (· == '{') rest then ⟨.token (.punctuation .hashBrace), 1⟩
  else
    match Punctuation.ofOperatorRun? run with
    | some mark => ⟨.token (.punctuation mark), more⟩
    | none => ⟨.token (.operator run), more⟩

def single? : Char → Option Punctuation
  | '(' => some .leftParen
  | ')' => some .rightParen
  | '[' => some .leftBracket
  | ']' => some .rightBracket
  | '{' => some .leftBrace
  | '}' => some .rightBrace
  | ',' => some .comma
  | ';' => some .semicolon
  | '.' => some .dot
  | _ => none

def startsNumeral (operandBefore : Bool) (c : Char) (rest : List Char) : Bool :=
  isDigit c || ((c == '-' || c == '.') && headIs isDigit rest && !operandBefore)

/-- The lexeme that begins with `c`, given the text behind it and whether an
operand has just ended. -/
def scan (operandBefore : Bool) (c : Char) (rest : List Char) : Found :=
  if c == '\n' then ⟨.trivia .newline, 0⟩
  else if isBlank c then
    ⟨.trivia .whitespace, runLength (fun d => d != '\n' && isBlank d) rest⟩
  else if c == '/' && headIs (· == '/') rest then
    ⟨.trivia .lineComment, runLength (· != '\n') rest⟩
  else if c == '/' && headIs (· == '*') rest then blockComment rest
  else if c == '"' then string rest
  else if c == '\'' then character rest
  else if c == '`' then backquoted rest
  else if startsNumeral operandBefore c rest then numeral c rest
  else
    match single? c with
    | some mark => ⟨.token (.punctuation mark), 0⟩
    | none =>
      if isIdentStart c then word c rest
      else if isOperatorSymbol c then operator c rest
      else ⟨.faulty (.illegalCharacter c), 0⟩

end Lexeme
end Offside
