import Offside.Format.Options
import Offside.Format.Piece
import Offside.Text.Blank

namespace Offside

/-!
# Pages

Pieces are written on a page one after the other.  A break at the start of a line
does nothing, so breaks never pile up, and a page ends in exactly one line break
unless it is empty.
-/

/-- A text that is being written. -/
structure Page where
  /-- What has been written, the last character first. -/
  written : List Char
  /-- Whether nothing has been written since the last line break. -/
  atLineStart : Bool

namespace Page

def empty : Page := ⟨[], true⟩

/-- End the line, unless it has just begun. -/
def endLine (page : Page) : Page :=
  if page.atLineStart then page else ⟨'\n' :: page.written, true⟩

/-- End the line and leave a blank line behind it, unless there is one. -/
def endParagraph (page : Page) : Page :=
  let ended := page.endLine
  match ended.written with
  | [] | '\n' :: '\n' :: _ => ended
  | written => { ended with written := '\n' :: written }

/-- Write a blank, except at the start of a line. -/
def space (page : Page) : Page :=
  if page.atLineStart then page else { page with written := ' ' :: page.written }

def leaveGap (page : Page) : Gap → Page
  | .none => page
  | .space => page.space
  | .line => page.endLine
  | .blankLine => page.endParagraph

/-- Write a text, behind some blanks if it begins a line.  A text without
characters leaves the page as it is. -/
def writeText (page : Page) (indentation : Nat) (text : String) : Page :=
  if text.isEmpty then page
  else
    let indented :=
      if page.atLineStart then List.replicate indentation ' ' ++ page.written
      else page.written
    ⟨text.toList.reverse ++ indented, false⟩

def write (indentWidth : Nat) (page : Page) (piece : Piece) : Page :=
  (page.leaveGap piece.gap).writeText (piece.level * indentWidth) piece.text

/-- The text of the page, with one line break at its end. -/
def text (page : Page) : String :=
  match page.written.dropWhile isBlank with
  | [] => ""
  | written => String.ofList ('\n' :: written).reverse

def ofPieces (indentWidth : Nat) (pieces : List Piece) : Page :=
  pieces.foldl (write indentWidth) empty

end Page
end Offside
