import Offside.Lexeme.Run
import Offside.Text.CharClass

namespace Offside
namespace Numeral

/-!
# Numerals

A numeral is an optional minus sign followed by a decimal integer, a
hexadecimal integer after `0x`, or a decimal fraction.  Digits may be grouped by
single underscores.  An integer may end in the letter of a long integer.  A
numeral is a fraction when it has a point with digits behind it, an exponent or
the letter of a floating point type.

Characters that could continue a name directly behind a numeral belong to it and
make it malformed, so that `12abc` is one faulty numeral and not two lexemes.
-/

open CharClass

/-- The length of the digits that continue a group: `_?d` any number of times. -/
def moreDigitsLength (digit : Char → Bool) : List Char → Nat
  | [] => 0
  | c :: rest =>
    if digit c then moreDigitsLength digit rest + 1
    else
      match c, rest with
      | '_', d :: beyond => if digit d then moreDigitsLength digit beyond + 2 else 0
      | _, _ => 0

/-- The length of `d(_?d)*`. -/
def digitsLength (digit : Char → Bool) : List Char → Nat
  | [] => 0
  | c :: rest => if digit c then moreDigitsLength digit rest + 1 else 0

/-- The length of `.d(_?d)*`. -/
def fractionLength : List Char → Nat
  | '.' :: rest => if headIs isDigit rest then digitsLength isDigit rest + 1 else 0
  | _ => 0

/-- The length of an exponent: its letter, an optional sign and plain digits. -/
def exponentLength : List Char → Nat
  | [] => 0
  | c :: rest =>
    if c == 'e' || c == 'E' then
      let sign := if headIs (fun c => c == '+' || c == '-') rest then 1 else 0
      let digits := runLength isDigit (rest.drop sign)
      if digits = 0 then 0 else 1 + sign + digits
    else
      0

def floatSuffixLength (text : List Char) : Nat :=
  if headIs (fun c => c == 'd' || c == 'f' || c == 'D' || c == 'F') text then 1 else 0

def longSuffixLength (text : List Char) : Nat :=
  if headIs (fun c => c == 'l' || c == 'L') text then 1 else 0

/-- What was found where a numeral was expected. -/
structure Found where
  /-- The number of characters of the numeral. -/
  length : Nat
  isFloat : Bool
  wellFormed : Bool
deriving DecidableEq, Repr

/-- A numeral that begins with its point. -/
def scanPoint (text : List Char) : Found :=
  let fraction := fractionLength text
  let exponent := exponentLength (text.drop fraction)
  let suffix := floatSuffixLength (text.drop (fraction + exponent))
  ⟨fraction + exponent + suffix, true, true⟩

def scanHexadecimal (text : List Char) : Found :=
  let digits := digitsLength isHexDigit text
  ⟨digits + longSuffixLength (text.drop digits), false, digits != 0⟩

def scanDecimal (text : List Char) : Found :=
  let whole := digitsLength isDigit text
  let fraction := fractionLength (text.drop whole)
  let exponent := exponentLength (text.drop (whole + fraction))
  let suffix := floatSuffixLength (text.drop (whole + fraction + exponent))
  let length := whole + fraction + exponent + suffix
  if length = whole then ⟨whole + longSuffixLength (text.drop whole), false, true⟩
  else ⟨length, true, true⟩

/-- A numeral without its sign. -/
def scanUnsigned : List Char → Found
  | '.' :: rest => scanPoint ('.' :: rest)
  | '0' :: 'x' :: rest | '0' :: 'X' :: rest =>
    let digits := scanHexadecimal rest
    { digits with length := digits.length + 2 }
  | text => scanDecimal text

/-- The numeral at the front of a text that begins with a digit, with a point
and a digit, or with a minus sign and a digit. -/
def scan [XidStart] (text : List Char) : Found :=
  let sign := if headIs (· == '-') text then 1 else 0
  let number := scanUnsigned (text.drop sign)
  let trailing := runLength isIdentContinue (text.drop (sign + number.length))
  ⟨sign + number.length + trailing, number.isFloat, number.wellFormed && trailing == 0⟩

end Numeral
end Offside
