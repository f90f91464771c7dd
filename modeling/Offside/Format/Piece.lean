import Offside.Token.Bracket
import Offside.Token

namespace Offside

/-!
# Pieces of a formatted source

A formatted source is a row of pieces.  Each real token becomes one piece: its
spelling, what sets it apart from the piece before, and the level of indentation
that it gets if it begins a line.  Synthetic tokens become no pieces; they make
breaks and change the level:

* an indented block begins and ends with a break, one level deeper in between;
* a separator that stands for the end of a line is a break;
* a group in curly brackets whose contents began on a new line goes one level
  deeper up to its closing bracket.

Other line breaks are joined, except directly inside curly brackets and behind an
explicit semicolon.  Comments are dropped.
-/

/-- What sets a piece apart from the piece before. -/
inductive Gap
  | none
  | space
  | line
  /-- A line break with a blank line behind it. -/
  | blankLine
deriving DecidableEq, Repr

/-- A piece of a formatted source. -/
structure Piece where
  gap : Gap
  /-- The level of indentation, in case the piece begins a line. -/
  level : Nat
  text : String
deriving DecidableEq, Repr

/-- What stands around a piece. -/
inductive Enclosure
  /-- An indented block. -/
  | indented
  /-- Curly brackets, and whether their contents began on a new line. -/
  | curly (multiline : Bool)
  /-- Other brackets, or the curly brackets of a splice. -/
  | group
deriving DecidableEq, Repr

/-- What decides on the next piece. -/
structure Arrangement where
  /-- What stands around the next piece, the innermost first. -/
  enclosures : List Enclosure
  level : Nat
  /-- Whether a synthetic token asked for a break. -/
  broken : Bool
  /-- The last token that became a piece. -/
  previous : Option TokenKind

namespace Arrangement

def start : Arrangement := ⟨[], 0, false, none⟩

def enterIndented (arrangement : Arrangement) : Arrangement :=
  { arrangement with
    enclosures := .indented :: arrangement.enclosures
    level := arrangement.level + 1
    broken := true }

def leaveIndented (arrangement : Arrangement) : Arrangement :=
  { arrangement with
    enclosures :=
      match arrangement.enclosures with
      | .indented :: outer => outer
      | enclosures => enclosures
    level := arrangement.level - 1
    broken := true }

/-- Whether the innermost enclosure is a group in curly brackets on several lines. -/
def inMultiline (arrangement : Arrangement) : Bool :=
  arrangement.enclosures.head? == some (.curly true)

def close (arrangement : Arrangement) : Arrangement :=
  { arrangement with
    enclosures := arrangement.enclosures.tail
    level := if arrangement.inMultiline then arrangement.level - 1 else arrangement.level }

/-- Whether the last piece opens a block in front of a deeper line. -/
def afterOpener (arrangement : Arrangement) : Bool :=
  arrangement.previous.any TokenKind.opensBlock

def inCurly (arrangement : Arrangement) : Bool :=
  match arrangement.enclosures with
  | .curly _ :: _ => true
  | _ => false

/-- Whether the last piece is a semicolon, and not one between enumerators. -/
def afterSemicolon (arrangement : Arrangement) : Bool :=
  arrangement.previous == some (.punctuation .semicolon) &&
    arrangement.enclosures.head? != some .group

/-- The gap in front of a token.  It depends on whether the token begins a
definition at the outermost level and whether it closes a group on several lines,
which has been left already. -/
def gapBefore (arrangement : Arrangement) (token : Token)
    (beginsDefinition closesMultiline : Bool) : Gap :=
  if arrangement.broken then
    if arrangement.enclosures.isEmpty && beginsDefinition then .blankLine else .line
  else if closesMultiline && !arrangement.afterOpener then .line
  else if (arrangement.inCurly || arrangement.afterSemicolon) && token.hasNewlineBefore &&
      !arrangement.afterOpener then
    .line
  else if token.hasTriviaBefore && arrangement.previous.isSome then .space
  else .none

/-- Into the group that a token opens, if it does, given whether the token behind
it stands on a new line. -/
def enter (arrangement : Arrangement) (kind : TokenKind) (newlineBehind : Bool) :
    Arrangement :=
  match Bracket.ofKind? kind with
  | some .round | some .square =>
    { arrangement with enclosures := .group :: arrangement.enclosures }
  | some .curly | some .hashCurly =>
    if arrangement.previous == some (.punctuation .dollar) then
      { arrangement with enclosures := .group :: arrangement.enclosures }
    else
      { arrangement with
        enclosures := .curly newlineBehind :: arrangement.enclosures
        level := if newlineBehind then arrangement.level + 1 else arrangement.level }
  | none => arrangement

/-- The piece for a real token, and what decides on the next one. -/
def place (arrangement : Arrangement) (token : Token)
    (beginsDefinition newlineBehind : Bool) : Piece × Arrangement :=
  let closes := token.kind.isCloser
  let inside := if closes then arrangement.close else arrangement
  let gap := inside.gapBefore token beginsDefinition (closes && arrangement.inMultiline)
  let entered := { inside with broken := false }.enter token.kind newlineBehind
  (⟨gap, inside.level, token.text⟩, { entered with previous := some token.kind })

def pieces (beginsDefinition : Token → Bool) (arrangement : Arrangement) :
    List Token → List Piece
  | [] => []
  | token :: rest =>
    match token.kind with
    | .indent => pieces beginsDefinition arrangement.enterIndented rest
    | .outdent => pieces beginsDefinition arrangement.leaveIndented rest
    | .autoSemicolon => pieces beginsDefinition { arrangement with broken := true } rest
    | .endOfFile => pieces beginsDefinition arrangement rest
    | _ =>
      let placed := arrangement.place token (beginsDefinition token)
        (rest.head?.any Token.hasNewlineBefore)
      placed.1 :: pieces beginsDefinition placed.2 rest

end Arrangement
end Offside
