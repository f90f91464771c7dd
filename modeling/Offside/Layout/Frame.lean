import Offside.Token.Bracket

namespace Offside

/-!
# Open constructs

While a source is read, a stack of frames records what has been opened and not
yet closed: indented blocks, bracketed groups, strings with splices and the
splices in them.  The innermost frame comes first.
-/

/-- A construct that is open at some point of a source. -/
inductive Frame
  /-- An indented block whose lines begin at the given column. -/
  | indent (column : Nat)
  /-- A bracketed group, opened at the given offset. -/
  | group (bracket : Bracket) (opened : Nat)
  /-- A splice of a string, opened at the given offset. -/
  | splice (opened : Nat)
  /-- A string with splices, opened at the given offset. -/
  | string (quote : QuoteForm) (opened : Nat)
deriving DecidableEq, Repr

namespace Frame

def isString : Frame → Bool
  | string _ _ => true
  | _ => false

/-- Whether a closing bracket closes the frame.  A splice closes like a curly group. -/
def isClosedBy (closer : ClosingBracket) : Frame → Bool
  | group bracket _ => bracket.closer == closer
  | splice _ => closer == .curly
  | indent _ | string _ _ => false

/-- Whether the frame is an indented block whose lines begin right of a column. -/
def isDeeperThan (column : Nat) : Frame → Bool
  | indent level => column < level
  | _ => false

/-- Whether the frame is a group in which line breaks have no meaning. -/
def ignoresLines : Frame → Bool
  | group .round _ | group .square _ => true
  | _ => false

/-- Whether the layout rules apply inside some frames: directly in the file, in
an indented block or between curly brackets. -/
def layoutActive : List Frame → Bool
  | [] => true
  | indent _ :: _ | group .curly _ :: _ | group .hashCurly _ :: _ => true
  | _ => false

/-- The column at which the statements inside some frames begin.  Between curly
brackets statements may begin anywhere. -/
def level? : List Frame → Option Nat
  | [] => some 0
  | indent column :: _ => some column
  | _ => none

end Frame
end Offside
