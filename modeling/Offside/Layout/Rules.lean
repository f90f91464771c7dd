import Offside.Layout.Reader

namespace Offside
namespace Reader

/-!
# The layout rules

Line breaks and indentation have a meaning directly in a file, in an indented
block and between curly brackets.  There the first token of a line is compared
with the column at which the statements around it begin.

* A line further to the left closes indented blocks until it fits.  Where it then
  lies between two levels, the indentation is inconsistent.
* A line at the level begins a new statement, when the last token may end one and
  the first token may start one.
* A line further to the right opens an indented block, when the last token opens
  blocks and the line is deeper than the line that the block belongs to.  Any
  other deeper line continues the one before.

A closing bracket first closes every indented block opened inside its group.
-/

/-- Close the indented blocks that a line at some column has left. -/
def closeBlocks (reader : Reader) (column : Nat) : Reader :=
  let closed := reader.frames.takeWhile (Frame.isDeeperThan column)
  let shallower := { reader with frames := reader.frames.drop closed.length }
  closed.foldl (fun reader _ => reader.insert .outdent reader.lastEnd) shallower

/-- Bring the frames in line with the first token of a line, which stands at
`offset` in the given column and has `next` behind it. -/
def beginLine (reader : Reader) (column offset : Nat) (kind : TokenKind)
    (next : Option Char) : Reader :=
  let fitted := { reader.closeBlocks column with lineIndent := column }
  let dedented := reader.frames.head?.any (Frame.isDeeperThan column)
  match Frame.level? fitted.frames with
  | some level =>
    if column = level then
      if fitted.lastKind?.any TokenKind.canEndStatement && kind.canStartStatement next then
        fitted.insert .autoSemicolon fitted.lastEnd
      else
        fitted
    else if dedented then
      (fitted.report (.inconsistentIndentation column) (.empty offset)).insert (.error "") offset
    else
      openBlock fitted
  | none => if dedented then fitted else openBlock fitted
where
  /-- Open an indented block, if the last token asks for one. -/
  openBlock (fitted : Reader) : Reader :=
    if fitted.lastKind?.any TokenKind.opensBlock && reader.lineIndent < column then
      (fitted.openFrame (.indent column)).insert .indent offset
    else
      fitted

/-- Give up the groups that a definition has walked out of.  A definition cannot
stand between round or square brackets, so a line that begins with one, no
further to the right than the line that opened the group, ends the group.  Every
group given up leaves a mark behind, which the parser takes for its closer. -/
def abandonGroups (reader : Reader) : Reader :=
  let abandoned := reader.frames.takeWhile Frame.ignoresLines
  let outside := { reader with frames := reader.frames.drop abandoned.length }
  abandoned.foldl abandon outside
where
  /-- Give up one group. -/
  abandon (reader : Reader) : Frame → Reader
    | .group bracket opened =>
      (reader.report (.unterminatedBlock bracket.char) ⟨opened, opened + 1⟩).insert
        (.error "") reader.lastEnd
    | _ => reader

/-- Apply the layout rules in front of a token that the reader stands at. -/
def applyLayout (reader : Reader) (kind : TokenKind) (next : Option Char) : Reader :=
  if reader.atLineStart then
    let begun := { reader with atLineStart := false }
    let inside :=
      if !Frame.layoutActive begun.frames && kind.startsDefinition
          && begun.column ≤ begun.lineIndent then
        begun.abandonGroups
      else
        begun
    if Frame.layoutActive inside.frames then
      inside.beginLine inside.column inside.offset kind next
    else
      inside
  else
    reader

/-- Close a construct that a closing bracket further out has cut off. -/
def cutOff (reader : Reader) : Frame → Reader
  | .indent _ => reader.insert .outdent reader.lastEnd
  | .group bracket opened =>
    reader.report (.unterminatedBlock bracket.char) ⟨opened, opened + 1⟩
  | .splice opened => reader.report (.unterminatedBlock '$') ⟨opened, opened + 1⟩
  | .string _ _ => reader

/-- Add a closing bracket.  It closes the innermost construct that it fits,
without looking beyond the string it stands in, and cuts off everything inside
that construct.  A bracket that fits nothing is faulty. -/
def addCloser (reader : Reader) (closer : ClosingBracket) (span : Span) : Reader :=
  let visible := reader.frames.takeWhile fun frame => !frame.isString
  match visible.findIdx? (Frame.isClosedBy closer) with
  | none =>
    (reader.report (.unmatchedDelimiter closer.char) span).add
      (.error closer.char.toString) span
  | some index =>
    let closed := (visible.take index).foldl cutOff reader
    { closed with frames := reader.frames.drop (index + 1) }.add
      (.punctuation closer.mark) span

/-- Add a token that the reader stands at, with the layout tokens in front of it
and the frames that it opens or closes. -/
def emit (reader : Reader) (kind : TokenKind) (span : Span) (next : Option Char) : Reader :=
  let placed := reader.applyLayout kind next
  match ClosingBracket.ofKind? kind with
  | some closer => placed.addCloser closer span
  | none =>
    match Bracket.ofKind? kind with
    | some bracket => (placed.openFrame (.group bracket span.start)).add kind span
    | none => placed.add kind span

end Reader
end Offside
