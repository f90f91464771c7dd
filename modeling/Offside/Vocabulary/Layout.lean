namespace Offside

/-!
# What the vocabulary says about layout

Keywords and punctuation are listed with the part they play in the layout of a
program.  The lexer consults these roles and has no lists of its own, so a new
word only has to be entered in its table.
-/

/-- The part that a token plays where a line ends or begins. -/
inductive LayoutRole
  /-- At the end of a line it lets a deeper next line open a block. -/
  | opensBlock
  /-- It never starts a statement, so a line that begins with it continues the one before. -/
  | continuesLine
  /-- It may be the last token of a statement. -/
  | endsStatement
deriving DecidableEq, Repr

def LayoutRole.name : LayoutRole → String
  | opensBlock => "OpensBlock"
  | continuesLine => "ContinuesLine"
  | endsStatement => "EndsStatement"

/-- Whether the grammar uses an item or only keeps its spelling reserved. -/
inductive Stability
  | stable
  | reserved
  | deprecated
deriving DecidableEq, Repr

def Stability.name : Stability → String
  | stable => "Stable"
  | reserved => "Reserved"
  | deprecated => "Deprecated"

/-- The revision of the grammar that every word of the vocabulary belongs to. -/
def grammarRevision : String := "0.1"

end Offside
