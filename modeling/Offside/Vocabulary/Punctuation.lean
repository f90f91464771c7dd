import Offside.Vocabulary.Layout

namespace Offside

/-!
# Punctuation

Brackets, separators, arrows and the operator runs that the grammar gives a
structural meaning.  A run of operator symbols is punctuation only as a whole:
`:` is reserved, while `::` is an ordinary operator.
-/

/-- What a punctuation token is for. -/
inductive PunctuationCategory
  /-- Brackets of every shape. -/
  | delimiter
  /-- What stands between the items of a sequence. -/
  | separator
  /-- What leads into a path. -/
  | access
  | arrow
  /-- Operator runs with a structural meaning. -/
  | symbol
  /-- The wildcard and the string splice. -/
  | marker
deriving DecidableEq, Repr

def PunctuationCategory.name : PunctuationCategory → String
  | delimiter => "Delimiter"
  | separator => "Separator"
  | access => "Access"
  | arrow => "Arrow"
  | symbol => "Symbol"
  | marker => "Marker"

/-- A punctuation token. -/
inductive Punctuation
  | leftParen | rightParen | leftBracket | rightBracket | leftBrace | rightBrace
  | hashBrace | comma | semicolon | dot | arrow | fatArrow | leftArrow | colon | equals
  | colonEquals | atSign | hash | hashHash | backslash | pipe | colonMinus | underscore
  | dollar
deriving DecidableEq, Repr

namespace Punctuation

/-- The entry of a punctuation token in the vocabulary. -/
structure Entry where
  /-- The name that tools use for the token. -/
  name : String
  spelling : String
  category : PunctuationCategory
  layout : List LayoutRole

def entry : Punctuation → Entry
  | leftParen => ⟨"LParen", "(", .delimiter, []⟩
  | rightParen => ⟨"RParen", ")", .delimiter, [.continuesLine, .endsStatement]⟩
  | leftBracket => ⟨"LBracket", "[", .delimiter, []⟩
  | rightBracket => ⟨"RBracket", "]", .delimiter, [.continuesLine, .endsStatement]⟩
  | leftBrace => ⟨"LBrace", "\x7b", .delimiter, []⟩
  | rightBrace => ⟨"RBrace", "\x7d", .delimiter, [.continuesLine, .endsStatement]⟩
  | hashBrace => ⟨"HashBrace", "#\x7b", .delimiter, []⟩
  | comma => ⟨"Comma", ",", .separator, [.continuesLine]⟩
  | semicolon => ⟨"Semicolon", ";", .separator, [.continuesLine]⟩
  | dot => ⟨"Dot", ".", .access, [.continuesLine]⟩
  | arrow => ⟨"Arrow", "->", .arrow, [.opensBlock, .continuesLine]⟩
  | fatArrow => ⟨"FatArrow", "=>", .arrow, [.opensBlock, .continuesLine]⟩
  | leftArrow => ⟨"LeftArrow", "<-", .arrow, [.continuesLine]⟩
  | colon => ⟨"Colon", ":", .symbol, [.opensBlock, .continuesLine]⟩
  | equals => ⟨"Eq", "=", .symbol, [.opensBlock, .continuesLine]⟩
  | colonEquals => ⟨"ColonEq", ":=", .symbol, [.continuesLine]⟩
  | atSign => ⟨"At", "@", .symbol, []⟩
  | hash => ⟨"Hash", "#", .symbol, []⟩
  | hashHash => ⟨"HashHash", "##", .symbol, []⟩
  | backslash => ⟨"Backslash", "\\", .symbol, [.continuesLine]⟩
  | pipe => ⟨"Pipe", "|", .symbol, [.continuesLine]⟩
  | colonMinus => ⟨"ColonMinus", ":-", .symbol, [.continuesLine]⟩
  | underscore => ⟨"Underscore", "_", .marker, [.endsStatement]⟩
  | dollar => ⟨"Dollar", "$", .marker, []⟩

def all : List Punctuation :=
  [.leftParen, .rightParen, .leftBracket, .rightBracket, .leftBrace, .rightBrace,
   .hashBrace, .comma, .semicolon, .dot, .arrow, .fatArrow, .leftArrow, .colon, .equals,
   .colonEquals, .atSign, .hash, .hashHash, .backslash, .pipe, .colonMinus, .underscore,
   .dollar]

theorem mem_all (punctuation : Punctuation) : punctuation ∈ all := by
  cases punctuation <;> decide

def name (punctuation : Punctuation) : String := punctuation.entry.name

def spelling (punctuation : Punctuation) : String := punctuation.entry.spelling

/-- Every punctuation token is in use. -/
def stability (_ : Punctuation) : Stability := .stable

def hasRole (punctuation : Punctuation) (role : LayoutRole) : Bool :=
  punctuation.entry.layout.contains role

def ofSpelling? (text : String) : Option Punctuation :=
  all.find? fun punctuation => punctuation.spelling == text

/-- The reserved meaning of a whole run of operator symbols.  Brackets and
markers are not operator runs, whatever their spelling. -/
def ofOperatorRun? (run : String) : Option Punctuation :=
  all.find? fun punctuation =>
    punctuation.spelling == run &&
      (punctuation.entry.category == .symbol || punctuation.entry.category == .arrow)

end Punctuation
end Offside
