namespace Offside

/-!
# Options of the formatter

A formatted source is laid out by two choices: how many blanks make a level of
indentation, and whether definitions at the outermost level are set apart by a
blank line.  Without at least one blank a level could not be seen, so the width is
never zero.
-/

/-- How a source is laid out. -/
structure FormatOptions where
  /-- The number of blanks for a level of indentation. -/
  indentWidth : Nat
  /-- Whether a blank line sets definitions at the outermost level apart. -/
  blankLines : Bool
  indentWidth_pos : 0 < indentWidth

namespace FormatOptions

/-- The options for a width of indentation; a width of zero acts as one. -/
def ofWidth (indentWidth : Nat) (blankLines : Bool) : FormatOptions :=
  ⟨max indentWidth 1, blankLines, Nat.le_max_right indentWidth 1⟩

def default : FormatOptions := ofWidth 4 true

end FormatOptions
end Offside
