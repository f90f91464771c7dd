import Offside.Layout.Rules
import Offside.Lexeme

namespace Offside
namespace Reader

/-!
# Reading one lexeme

A step of the reader takes the next lexeme from the text, or, inside a string
with splices, the next piece of the string.  Every step but one moves forward.
The exception is a string that is cut off right behind a splice: the step then
closes the string and leaves the text as it is.
-/

def readLexeme [XidStart] (reader : Reader) (c : Char) (rest : List Char) : Reader :=
  let operandBefore := reader.lastKind?.any TokenKind.endsOperand
  let found := Lexeme.scan operandBefore c rest
  let text := c :: rest.take found.more
  let beyond := rest.drop found.more
  let span := reader.spanOf text
  let read :=
    match found.lexeme with
    | .trivia .newline => { reader.addTrivia .newline span with atLineStart := true }
    | .trivia .blockComment =>
      { reader.addTrivia .blockComment span with
        atLineStart := reader.atLineStart || text.contains '\n' }
    | .trivia kind => reader.addTrivia kind span
    | .token kind => reader.emit kind span beyond.head?
    | .stringOpening quote =>
      (reader.emit (.stringStart quote) span beyond.head?).openFrame
        (.string quote span.start)
    | .faulty fault =>
      (reader.report fault span).emit (.error (String.ofList text)) span beyond.head?
  read.advance text beyond

/-- Take the next piece of a string.  The string was opened at the offset `opened`
and stands in the frames `outer`. -/
def readPiece [XidStart] (reader : Reader) (quote : QuoteForm) (opened : Nat) (outer : List Frame) :
    Reader :=
  let text := reader.rest
  match StringText.scanPiece quote text with
  | .closing =>
    let marks := text.take (StringText.marksLength quote)
    let closed := { reader with frames := outer }.add (.stringEnd quote) (reader.spanOf marks)
    closed.advance marks (text.drop (StringText.marksLength quote))
  | .spliceOpening =>
    let dollar := reader.add (.punctuation .dollar) (reader.spanOf (text.take 1))
    let inner := dollar.advance (text.take 1) (text.drop 1)
    let bracket := inner.rest.take 1
    ((inner.openFrame (.splice reader.offset)).add (.punctuation .leftBrace)
      (inner.spanOf bracket)).advance bracket (inner.rest.drop 1)
  | .name length =>
    let dollar := reader.add (.punctuation .dollar) (reader.spanOf (text.take 1))
    let inner := dollar.advance (text.take 1) (text.drop 1)
    let name := inner.rest.take length
    (inner.add (.identifier (String.ofList name)) (inner.spanOf name)).advance name
      (inner.rest.drop length)
  | .text length =>
    let piece := text.take length
    (reader.add (.stringMiddle (String.ofList piece)) (reader.spanOf piece)).advance piece
      (text.drop length)
  | .cutOff length =>
    let piece := text.take length
    let span := reader.spanOf piece
    let read :=
      if piece.isEmpty then reader
      else reader.add (.stringMiddle (String.ofList piece)) span
    (({ read with frames := outer }.report .unterminatedString ⟨opened, span.stop⟩).insert
      (.error "") span.stop).advance piece (text.drop length)

/-- Read one lexeme or string piece.  At the end of the source nothing is left to do. -/
def step [XidStart] (reader : Reader) : Reader :=
  match reader.rest with
  | [] => reader
  | c :: rest =>
    match reader.frames with
    | .string quote opened :: outer => reader.readPiece quote opened outer
    | _ => reader.readLexeme c rest

/-- What remains to be done: the text to be read and the constructs to be closed.
A character counts for more than the constructs that it can open. -/
def remaining (reader : Reader) : Nat :=
  4 * reader.rest.length + reader.frames.length

/-! ## The reader makes progress -/

@[simp]
theorem frames_insert (reader : Reader) (kind : TokenKind) (offset : Nat) :
    (reader.insert kind offset).frames = reader.frames := rfl

@[simp]
theorem frames_report (reader : Reader) (fault : LexicalFault) (span : Span) :
    (reader.report fault span).frames = reader.frames := rfl

@[simp]
theorem frames_add (reader : Reader) (kind : TokenKind) (span : Span) :
    (reader.add kind span).frames = reader.frames := rfl

@[simp]
theorem frames_addTrivia (reader : Reader) (kind : TriviaKind) (span : Span) :
    (reader.addTrivia kind span).frames = reader.frames := rfl

@[simp]
theorem frames_openFrame (reader : Reader) (frame : Frame) :
    (reader.openFrame frame).frames = frame :: reader.frames := rfl

@[simp]
theorem frames_advance (reader : Reader) (text rest : List Char) :
    (reader.advance text rest).frames = reader.frames := rfl

@[simp]
theorem rest_advance (reader : Reader) (text rest : List Char) :
    (reader.advance text rest).rest = rest := rfl

/-- A fold of steps that leave some part of a reader alone leaves that part alone. -/
theorem foldl_keeps {Item Part : Type} (part : Reader → Part) {change : Reader → Item → Reader}
    (keeps : ∀ reader item, part (change reader item) = part reader) (items : List Item) :
    ∀ reader, part (items.foldl change reader) = part reader := by
  induction items with
  | nil => intro reader; rfl
  | cons item items inductionHypothesis =>
      intro reader
      rw [List.foldl_cons, inductionHypothesis, keeps]

theorem frames_closeBlocks (reader : Reader) (column : Nat) :
    (reader.closeBlocks column).frames =
      reader.frames.drop (reader.frames.takeWhile (Frame.isDeeperThan column)).length := by
  unfold closeBlocks
  dsimp only
  rw [foldl_keeps frames]
  intro _ _
  rfl

theorem frames_abandonGroups (reader : Reader) :
    reader.abandonGroups.frames =
      reader.frames.drop (reader.frames.takeWhile Frame.ignoresLines).length := by
  unfold abandonGroups
  dsimp only
  rw [foldl_keeps frames]
  intro reader frame
  cases frame <;> rfl

/-- What the beginning of a line comes to.  The line has left some blocks, and then at most one
token is inserted: a separator, the mark of a column that fits no block or the opening of a
block that is deeper than the line before. -/
theorem beginLine_cases {motive : Reader → Prop} {reader fitted : Reader} {column offset : Nat}
    {kind : TokenKind} {next : Option Char}
    (closed : { reader.closeBlocks column with lineIndent := column } = fitted)
    (stays : motive fitted)
    (separated : motive (fitted.insert .autoSemicolon fitted.lastEnd))
    (misfit : motive ((fitted.report (.inconsistentIndentation column) (.empty offset)).insert
      (.error "") offset))
    (opened : reader.lineIndent < column →
      motive ((fitted.openFrame (.indent column)).insert .indent offset)) :
    motive (reader.beginLine column offset kind next) := by
  subst closed
  have block : motive (beginLine.openBlock reader column offset
      { reader.closeBlocks column with lineIndent := column }) := by
    unfold beginLine.openBlock
    split
    · rename_i deeper
      rw [Bool.and_eq_true, decide_eq_true_eq] at deeper
      exact opened deeper.2
    · exact stays
  unfold beginLine
  dsimp only
  split
  · split
    · split
      · exact separated
      · exact stays
    · split
      · exact misfit
      · exact block
  · split
    · exact stays
    · exact block

/-- What the layout rules come to in front of a token.  Within a line they leave the reader as
it is.  At the beginning of a line groups may be given up, and where columns count, in or
outside of those groups, the line is begun. -/
theorem applyLayout_cases {motive : Reader → Prop} {reader begun : Reader} {kind : TokenKind}
    {next : Option Char} (same : { reader with atLineStart := false } = begun)
    (inLine : reader.atLineStart = false → motive reader) (stays : motive begun)
    (line : Frame.layoutActive begun.frames = true →
      motive (begun.beginLine begun.column begun.offset kind next))
    (abandoned : motive begun.abandonGroups)
    (outside : Frame.layoutActive begun.abandonGroups.frames = true →
      motive (begun.abandonGroups.beginLine begun.abandonGroups.column
        begun.abandonGroups.offset kind next)) :
    motive (reader.applyLayout kind next) := by
  subst same
  unfold applyLayout
  dsimp only
  split
  · split
    · split
      · exact outside ‹_›
      · exact abandoned
    · split
      · exact line ‹_›
      · exact stays
  · exact inLine ((Bool.not_eq_true _).mp ‹_›)

theorem beginLine_frames_length (reader : Reader) (column offset : Nat) (kind : TokenKind)
    (next : Option Char) :
    (reader.beginLine column offset kind next).frames.length ≤ reader.frames.length + 1 := by
  have fitted : (reader.closeBlocks column).frames.length ≤ reader.frames.length := by
    rw [frames_closeBlocks, List.length_drop]
    omega
  have stays := Nat.le_succ_of_le fitted
  exact beginLine_cases (motive := fun after => after.frames.length ≤ reader.frames.length + 1)
    rfl stays stays stays fun _ => Nat.succ_le_succ fitted

theorem applyLayout_frames_length (reader : Reader) (kind : TokenKind) (next : Option Char) :
    (reader.applyLayout kind next).frames.length ≤ reader.frames.length + 1 := by
  have fewer : ({ reader with atLineStart := false } : Reader).abandonGroups.frames.length ≤
      reader.frames.length := by
    rw [frames_abandonGroups, List.length_drop]
    exact Nat.sub_le _ _
  refine applyLayout_cases (motive := fun after => after.frames.length ≤ reader.frames.length + 1)
    rfl (fun _ => Nat.le_succ _) (Nat.le_succ _) (fun _ => beginLine_frames_length _ _ _ _ _)
    (Nat.le_succ_of_le fewer) fun _ => ?_
  exact Nat.le_trans (beginLine_frames_length _ _ _ _ _) (Nat.succ_le_succ fewer)

theorem addCloser_frames_length (reader : Reader) (closer : ClosingBracket) (span : Span) :
    (reader.addCloser closer span).frames.length ≤ reader.frames.length := by
  unfold addCloser
  dsimp only
  split
  · simp
  · simp only [frames_add, List.length_drop]
    omega

theorem emit_frames_length (reader : Reader) (kind : TokenKind) (span : Span)
    (next : Option Char) :
    (reader.emit kind span next).frames.length ≤ reader.frames.length + 2 := by
  have placed := applyLayout_frames_length reader kind next
  unfold emit
  dsimp only
  split
  · exact Nat.le_trans (addCloser_frames_length _ _ _) (by omega)
  · split
    · simp only [frames_add, frames_openFrame, List.length_cons]
      omega
    · simp only [frames_add]
      omega

variable [XidStart]

/-- Reading a lexeme takes its first character at least and opens three constructs at most. -/
theorem remaining_readLexeme_lt (reader : Reader) {c : Char} {rest : List Char}
    (unread : reader.rest = c :: rest) :
    (reader.readLexeme c rest).remaining < reader.remaining := by
  unfold readLexeme remaining
  dsimp only
  generalize Lexeme.scan (reader.lastKind?.any TokenKind.endsOperand) c rest = found
  have taken : (rest.drop found.more).length ≤ rest.length := by
    rw [List.length_drop]
    omega
  rw [unread, rest_advance, frames_advance, List.length_cons]
  split
  · simp only [frames_addTrivia]; omega
  · simp only [frames_addTrivia]; omega
  · simp only [frames_addTrivia]; omega
  · rename_i kind _
    have := emit_frames_length reader kind (reader.spanOf (c :: rest.take found.more))
      (rest.drop found.more).head?
    omega
  · rename_i quote _
    have := emit_frames_length reader (.stringStart quote)
      (reader.spanOf (c :: rest.take found.more)) (rest.drop found.more).head?
    simp only [frames_openFrame, List.length_cons]
    omega
  · rename_i fault _
    have := emit_frames_length
      (reader.report fault (reader.spanOf (c :: rest.take found.more)))
      (.error (String.ofList (c :: rest.take found.more)))
      (reader.spanOf (c :: rest.take found.more)) (rest.drop found.more).head?
    simp only [frames_report] at this
    omega

/-- A splice has a character behind its dollar sign. -/
theorem two_le_length_of_startsSplice {text : List Char}
    (splice : StringText.startsSplice text = true) : 2 ≤ text.length := by
  unfold StringText.startsSplice at splice
  split at splice <;> simp_all

/-- Reading a string piece takes a character or closes the string. -/
theorem remaining_readPiece_lt (reader : Reader) {quote : QuoteForm} {opened : Nat}
    {outer : List Frame} (inString : reader.frames = .string quote opened :: outer)
    (unread : reader.rest ≠ []) :
    (reader.readPiece quote opened outer).remaining < reader.remaining := by
  have nonempty : 0 < reader.rest.length := List.length_pos_iff.mpr unread
  unfold readPiece remaining
  dsimp only
  rw [inString, List.length_cons]
  cases found : StringText.scanPiece quote reader.rest with
  | closing =>
      simp only [rest_advance, frames_advance, frames_add, List.length_drop]
      omega
  | spliceOpening =>
      have splice : StringText.startsSplice reader.rest = true := by
        unfold StringText.scanPiece at found
        split at found
        · cases found
        · split at found
          · assumption
          · dsimp only at found
            split at found <;> cases found
      have := two_le_length_of_startsSplice splice
      simp only [rest_advance, frames_advance, frames_add, frames_openFrame, List.length_drop,
        List.length_cons, inString]
      omega
  | name length =>
      simp only [rest_advance, frames_advance, frames_add, List.length_drop, inString,
        List.length_cons]
      omega
  | text length =>
      have := StringText.pos_of_scanPiece_text found
      simp only [rest_advance, frames_advance, frames_add, List.length_drop, inString,
        List.length_cons]
      omega
  | cutOff length =>
      simp only [rest_advance, frames_advance, frames_insert, frames_report, List.length_drop]
      omega

/-- As long as text is left, a step brings the reader closer to the end. -/
theorem remaining_step_lt (reader : Reader) (unread : reader.rest ≠ []) :
    reader.step.remaining < reader.remaining := by
  unfold step
  split
  · rename_i atEnd
    exact absurd atEnd unread
  · rename_i c rest more
    split
    · rename_i quote opened outer inString
      exact remaining_readPiece_lt reader inString unread
    · exact remaining_readLexeme_lt reader more

end Reader
end Offside
