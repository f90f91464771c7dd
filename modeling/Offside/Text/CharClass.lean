import Offside.Text.Blank

namespace Offside

/-!
# Character classes

Identifiers fall into two lexical classes that their first character tells
apart.  Alphabetic identifiers begin with a letter, a letter number, a modifier
letter, the dollar sign or the underscore.  Operator identifiers are runs of
operator symbols: the ASCII operators together with the mathematical and the
other symbols of Unicode.  Brackets, quotation marks, the full stop, the comma
and the semicolon belong to neither class.

The letters are those of XID_Start, a property that more characters have with each version
of Unicode.  So it is a parameter of all that reads a source, and what is proved about a
source holds for every version.
-/

/-- The letters of ASCII. -/
def CharClass.isLetter (c : Char) : Bool := 'A' ≤ c && c ≤ 'Z' || 'a' ≤ c && c ≤ 'z'

/-- The XID_Start property of a version of Unicode.  The lexer relies on no more of it than
this: of the characters of ASCII the letters have the property, and no blank has it. -/
class XidStart where
  /-- Whether a character has the property. -/
  holds : Char → Bool
  ascii : ∀ c, c.toNat < 0x80 → holds c = CharClass.isLetter c
  noBlank : ∀ c, holds c = true → isBlank c = false

namespace CharClass

/-- Modifier letters and marks that start identifiers besides the XID_Start characters. -/
def identExtra : CharTable :=
  #[
    ⟨0xAA, 0xAA⟩, ⟨0xBB, 0xBB⟩, ⟨0x2B0, 0x2B8⟩, ⟨0x2C0, 0x2C1⟩, ⟨0x2E0, 0x2E4⟩,
    ⟨0x37A, 0x37A⟩, ⟨0x1D78, 0x1D78⟩, ⟨0x1D9B, 0x1DBF⟩, ⟨0x2071, 0x2071⟩, ⟨0x207F, 0x207F⟩,
    ⟨0x2090, 0x209C⟩, ⟨0x2C7C, 0x2C7D⟩, ⟨0xA69C, 0xA69D⟩, ⟨0xA770, 0xA770⟩,
    ⟨0xA7F8, 0xA7F9⟩, ⟨0xAB5C, 0xAB5F⟩
  ]

/-- Mathematical and other symbols outside ASCII. -/
def symbolRanges : CharTable :=
  #[
    ⟨0xA6, 0xA6⟩, ⟨0xA9, 0xA9⟩, ⟨0xAC, 0xAC⟩, ⟨0xAE, 0xAE⟩, ⟨0xB0, 0xB1⟩, ⟨0xD7, 0xD7⟩,
    ⟨0xF7, 0xF7⟩, ⟨0x3F6, 0x3F6⟩, ⟨0x482, 0x482⟩, ⟨0x2044, 0x2044⟩, ⟨0x2052, 0x2052⟩,
    ⟨0x2100, 0x2101⟩, ⟨0x2103, 0x2106⟩, ⟨0x2108, 0x2109⟩, ⟨0x2114, 0x2114⟩,
    ⟨0x2116, 0x2118⟩, ⟨0x211E, 0x2123⟩, ⟨0x2125, 0x2125⟩, ⟨0x2127, 0x2127⟩,
    ⟨0x2129, 0x2129⟩, ⟨0x212E, 0x212E⟩, ⟨0x213A, 0x213B⟩, ⟨0x2140, 0x2144⟩,
    ⟨0x214A, 0x214D⟩, ⟨0x214F, 0x214F⟩, ⟨0x218A, 0x218B⟩, ⟨0x2190, 0x2307⟩,
    ⟨0x230C, 0x2328⟩, ⟨0x232B, 0x2426⟩, ⟨0x2440, 0x244A⟩, ⟨0x249C, 0x24E9⟩,
    ⟨0x2500, 0x2767⟩, ⟨0x2794, 0x27C4⟩, ⟨0x27C7, 0x27E5⟩, ⟨0x27F0, 0x2982⟩,
    ⟨0x2999, 0x29D7⟩, ⟨0x29DC, 0x29FB⟩, ⟨0x29FE, 0x2B73⟩, ⟨0x2B76, 0x2B95⟩,
    ⟨0x2B97, 0x2BFF⟩, ⟨0x2CE5, 0x2CEA⟩, ⟨0x2E80, 0x2E99⟩, ⟨0x2E9B, 0x2EF3⟩,
    ⟨0x2F00, 0x2FD5⟩, ⟨0x2FF0, 0x2FFB⟩, ⟨0x3004, 0x3004⟩, ⟨0x3012, 0x3013⟩,
    ⟨0x3020, 0x3020⟩, ⟨0x3036, 0x3037⟩, ⟨0x303E, 0x303F⟩, ⟨0x3190, 0x3191⟩,
    ⟨0x3196, 0x319F⟩, ⟨0x31C0, 0x31E3⟩, ⟨0x3200, 0x321E⟩, ⟨0x322A, 0x3247⟩,
    ⟨0x3250, 0x3250⟩, ⟨0x3260, 0x327F⟩, ⟨0x328A, 0x32B0⟩, ⟨0x32C0, 0x33FF⟩,
    ⟨0x4DC0, 0x4DFF⟩, ⟨0xA490, 0xA4C6⟩, ⟨0xA828, 0xA82B⟩, ⟨0xA836, 0xA839⟩,
    ⟨0xAA77, 0xAA79⟩, ⟨0xFB29, 0xFB29⟩, ⟨0xFDFD, 0xFDFD⟩, ⟨0xFE62, 0xFE62⟩,
    ⟨0xFE64, 0xFE66⟩, ⟨0xFF0B, 0xFF0B⟩, ⟨0xFF1C, 0xFF1E⟩, ⟨0xFF5C, 0xFF5C⟩,
    ⟨0xFF5E, 0xFF5E⟩, ⟨0xFFE2, 0xFFE2⟩, ⟨0xFFE4, 0xFFE4⟩, ⟨0xFFE8, 0xFFEE⟩,
    ⟨0xFFFC, 0xFFFD⟩, ⟨0x1D100, 0x1D126⟩, ⟨0x1D129, 0x1D164⟩, ⟨0x1D6C1, 0x1D6C1⟩,
    ⟨0x1D6DB, 0x1D6DB⟩, ⟨0x1D6FB, 0x1D6FB⟩, ⟨0x1D715, 0x1D715⟩, ⟨0x1D735, 0x1D735⟩,
    ⟨0x1F000, 0x1F02B⟩, ⟨0x1F030, 0x1F093⟩, ⟨0x1F0A0, 0x1F0F5⟩, ⟨0x1F300, 0x1F3FA⟩,
    ⟨0x1F400, 0x1F6D7⟩, ⟨0x1F700, 0x1F773⟩, ⟨0x1F780, 0x1F7D8⟩, ⟨0x1F800, 0x1F80B⟩,
    ⟨0x1F900, 0x1F9FF⟩
  ]

def isIdentStart [XidStart] (c : Char) : Bool :=
  c == '$' || c == '_' || XidStart.holds c || identExtra.contains c

/-- Whether a character is a decimal digit.  Only the digits of ASCII count. -/
def isDigit (c : Char) : Bool := '0' ≤ c && c ≤ '9'

def isHexDigit (c : Char) : Bool :=
  isDigit c || ('a' ≤ c && c ≤ 'f') || ('A' ≤ c && c ≤ 'F')

def isIdentContinue [XidStart] (c : Char) : Bool := isIdentStart c || isDigit c

/-- The operator symbols of ASCII. -/
def asciiSymbols : List Char :=
  ['-', '!', '#', '%', '&', '*', '+', '/', '\\', ':', '<', '=', '>', '?', '@', '^', '|', '~']

def isOperatorSymbol (c : Char) : Bool :=
  asciiSymbols.contains c || symbolRanges.contains c

/-- Whether a character is an operator that may stand in front of its operand. -/
def isPrefixOperator (c : Char) : Bool := ['+', '-', '!', '~'].contains c

def isHorizontalSpace (c : Char) : Bool := [' ', '\t', '\x0c', '\x0b'].contains c

end CharClass
end Offside
