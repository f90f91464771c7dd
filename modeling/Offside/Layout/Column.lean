namespace Offside
namespace Column

/-!
# Columns

The column of a character is the width of the text in front of it on its line.
A tab reaches to the next multiple of the tab width and every other character is
one column wide.  Columns are 64-bit words: a width that does not fit wraps
around, which takes an absurd tab width or a line beyond any memory.
-/

/-- The number of values of a machine word. -/
def wordSize : Nat := UInt64.size

/-- The column behind a character, without a bound. -/
def exactAfter (tabWidth column : Nat) (c : Char) : Nat :=
  if c == '\n' then 0
  else if c == '\t' then (column / tabWidth + 1) * tabWidth
  else column + 1

/-- The column behind a character, as a machine word. -/
def after (tabWidth column : Nat) (c : Char) : Nat :=
  exactAfter tabWidth column c % wordSize

def afterText (tabWidth column : Nat) (text : List Char) : Nat :=
  text.foldl (after tabWidth) column

def exactAfterText (tabWidth column : Nat) (text : List Char) : Nat :=
  text.foldl (exactAfter tabWidth) column

end Column
end Offside
