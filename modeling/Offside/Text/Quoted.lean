import Offside.Text.Unprintable

namespace Offside
namespace Quoted

/-!
# Quoted texts

Characters and strings are shown between quotation marks in messages and token
listings.  Inside the marks every character stays readable: the mark itself and
the backslash are escaped, line breaks and tabs have short escapes, and
characters that have no glyph or would combine with their neighbour are written
by code point.
-/

/-- The escape of a character by its code point, in lower-case hexadecimal digits. -/
def byCodePoint (c : Char) : List Char :=
  "\\u\x7b".toList ++ Nat.toDigits 16 c.toNat ++ ['\x7d']

def escape (mark c : Char) : List Char :=
  if c = '\x00' then ['\\', '0']
  else if c = '\t' then ['\\', 't']
  else if c = '\r' then ['\\', 'r']
  else if c = '\n' then ['\\', 'n']
  else if c = '\\' ∨ c = mark then ['\\', c]
  else if CharTable.combiningMark.contains c || CharTable.unprintable.contains c then
    byCodePoint c
  else
    [c]

def between (mark : Char) (text : List Char) : String :=
  String.ofList (mark :: text.flatMap (escape mark) ++ [mark])

def character (c : Char) : String := between '\'' [c]

def string (text : String) : String := between '"' text.toList

end Quoted
end Offside
