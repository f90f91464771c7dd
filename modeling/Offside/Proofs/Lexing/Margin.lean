import Offside.Proofs.Lexing.Pieces

namespace Offside

/-!
# The margin

A block is opened by a line that is deeper than an earlier one, so no block begins in
the first column, the margin of a source.  A line that begins there leaves every block,
and where only blocks are open nothing is left of the layout rules but whether the line
begins a statement.  The end of a source closes its blocks in the same way.
-/

/-- No block begins at the margin. -/
def Frame.Indented (frames : List Frame) : Prop := ∀ frame ∈ frames, frame ≠ .indent 0

namespace Frame.Indented

variable {frames : List Frame}

theorem drop (indented : Indented frames) (count : Nat) : Indented (frames.drop count) :=
  fun frame member => indented frame (List.mem_of_mem_drop member)

theorem cons (indented : Indented frames) {frame : Frame} (inside : frame ≠ .indent 0) :
    Indented (frame :: frames) :=
  List.forall_mem_cons.mpr ⟨inside, indented⟩

end Frame.Indented

namespace Reader

open Offside.Frame (Indented)

variable {reader : Reader} {kind : TokenKind} {next : Option Char}

/-! ## No block begins at the margin -/

theorem closeBlocks_indented (indented : Indented reader.frames) (column : Nat) :
    Indented (reader.closeBlocks column).frames := by
  rw [frames_closeBlocks]
  exact indented.drop _

theorem beginLine_indented (indented : Indented reader.frames) (column offset : Nat)
    (kind : TokenKind) (next : Option Char) :
    Indented (reader.beginLine column offset kind next).frames := by
  have fitted := closeBlocks_indented indented column
  refine beginLine_cases (motive := fun after => Indented after.frames) rfl fitted fitted fitted
    fun deeper => fitted.cons fun margin => ?_
  have atMargin : column = 0 := Frame.indent.inj margin
  exact Nat.not_lt_zero _ (atMargin ▸ deeper)

theorem applyLayout_indented (indented : Indented reader.frames) (kind : TokenKind)
    (next : Option Char) : Indented (reader.applyLayout kind next).frames := by
  have begun : Indented ({ reader with atLineStart := false } : Reader).frames := indented
  have outside : Indented
      ({ reader with atLineStart := false } : Reader).abandonGroups.frames := by
    rw [frames_abandonGroups]
    exact indented.drop _
  exact applyLayout_cases (motive := fun after => Indented after.frames) rfl
    (fun _ => indented) begun (fun _ => beginLine_indented begun _ _ _ _) outside
    fun _ => beginLine_indented outside _ _ _ _

theorem addCloser_indented (indented : Indented reader.frames) (closer : ClosingBracket)
    (span : Span) : Indented (reader.addCloser closer span).frames := by
  unfold addCloser
  dsimp only
  split
  · exact indented
  · exact indented.drop _

theorem emit_indented (indented : Indented reader.frames) (kind : TokenKind) (span : Span)
    (next : Option Char) : Indented (reader.emit kind span next).frames := by
  have placed := applyLayout_indented indented kind next
  unfold emit
  dsimp only
  split
  · exact addCloser_indented placed _ span
  · split
    · exact placed.cons nofun
    · exact placed

theorem readLexeme_indented [XidStart] (indented : Indented reader.frames) (c : Char)
    (rest : List Char) : Indented (reader.readLexeme c rest).frames := by
  unfold readLexeme
  dsimp only
  rw [frames_advance]
  split
  · exact indented
  · exact indented
  · exact indented
  · exact emit_indented indented _ _ _
  · exact (emit_indented indented _ _ _).cons nofun
  · exact @emit_indented (reader.report _ _) indented _ _ _

theorem readPiece_indented [XidStart] {quote : QuoteForm} {opened : Nat} {outer : List Frame}
    (indented : Indented (.string quote opened :: outer))
    (inString : reader.frames = .string quote opened :: outer) :
    Indented (reader.readPiece quote opened outer).frames := by
  have around := indented.drop 1
  unfold readPiece
  dsimp only
  split
  · exact around
  · rw [frames_advance, frames_add, frames_openFrame, frames_advance, frames_add, inString]
    exact indented.cons nofun
  · rw [frames_advance, frames_add, frames_advance, frames_add, inString]
    exact indented
  · rw [frames_advance, frames_add, inString]
    exact indented
  · exact around

theorem step_indented [XidStart] (indented : Indented reader.frames) :
    Indented reader.step.frames := by
  unfold step
  split
  · exact indented
  · split
    · rename_i inString
      rw [inString] at indented
      exact readPiece_indented indented inString
    · exact readLexeme_indented indented _ _

theorem run_indented [XidStart] (indented : Indented reader.frames) :
    Indented reader.run.frames := by
  fun_induction run reader with
  | case1 reader atEnd => exact indented
  | case2 reader unread inductionHypothesis => exact inductionHypothesis (step_indented indented)

/-! ## Closing all blocks -/

/-- A reader behind the marks that close its blocks, in a line at the margin. -/
def atMargin (reader : Reader) : Reader :=
  { reader with
    frames := []
    atLineStart := false
    lineIndent := 0
    tokens := reader.tokens ++
      Array.replicate reader.frames.length (.bare .outdent (.empty reader.lastEnd)) }

theorem foldl_outdent (blocks : List Frame) (reader : Reader) :
    blocks.foldl (fun reader _ => reader.insert .outdent reader.lastEnd) reader =
      { reader with
        tokens := reader.tokens ++
          Array.replicate blocks.length (.bare .outdent (.empty reader.lastEnd)) } := by
  induction blocks generalizing reader with
  | nil =>
      rw [List.foldl_nil, List.length_nil, Array.replicate_zero, Array.append_empty]
  | cons block blocks inductionHypothesis =>
      rw [List.foldl_cons, inductionHypothesis, List.length_cons, Array.replicate_succ']
      rw [← Array.append_assoc]
      rfl

/-- In front of a line at the margin all blocks are closed, and a statement begins if the
last token may end one and the line may begin one. -/
theorem applyLayout_margin (begins : reader.atLineStart = true) (column : reader.column = 0)
    (blocks : ∀ frame ∈ reader.frames, frame.isBlock = true)
    (indented : Indented reader.frames) :
    reader.applyLayout kind next =
      if reader.atMargin.lastKind?.any TokenKind.canEndStatement &&
          kind.canStartStatement next then
        reader.atMargin.insert .autoSemicolon reader.lastEnd
      else reader.atMargin := by
  have active : Frame.layoutActive reader.frames = true := by
    cases frames : reader.frames with
    | nil => rfl
    | cons frame outer =>
        rw [frames] at blocks
        cases frame with
        | indent level => rfl
        | _ => cases blocks _ List.mem_cons_self
  have leaves : Leaves reader.frames 0 reader.frames [] := by
    refine ⟨(List.append_nil _).symm, fun frame member => ?_, rfl⟩
    have isBlock := blocks frame member
    have inside := indented frame member
    cases frame with
    | indent level =>
        exact decide_eq_true (Nat.pos_of_ne_zero fun margin => inside (by rw [margin]))
    | _ => cases isBlock
  let begun : Reader := { reader with atLineStart := false }
  have closed : begun.fitted 0 = reader.atMargin := by
    unfold fitted closeBlocks
    dsimp only
    rw [leaves.takeWhile, List.drop_length, foldl_outdent]
    rfl
  have last : reader.atMargin.lastKind? = lastBehind reader.kinds reader.frames := by
    rw [← closed, lastKind?_eq, (@fitted_closes begun _ _ _ leaves).1]
    exact getLast?_outdents _ _
  have lineBegins : reader.applyLayout kind next = begun.beginLine 0 reader.offset kind next := by
    rw [applyLayout_active begins active]
    exact congrArg (begun.beginLine · reader.offset kind next) column
  rw [lineBegins, @beginLine_eq begun kind next 0 _ _ leaves, closed, last]
  rfl

/-- A reader in front of a definition at the margin. -/
def atDefinition (reader : Reader) : Reader :=
  { reader.atMargin with
    tokens := reader.atMargin.tokens ++
      if reader.atMargin.lastKind?.any TokenKind.canEndStatement then
        #[.bare .autoSemicolon (.empty reader.lastEnd)] else #[] }

theorem applyLayout_definition (begins : reader.atLineStart = true)
    (column : reader.column = 0) (blocks : ∀ frame ∈ reader.frames, frame.isBlock = true)
    (indented : Indented reader.frames) (starts : kind.startsDefinition = true) :
    reader.applyLayout kind next = reader.atDefinition := by
  have startsStatement : kind.canStartStatement next = true := by
    cases kind with
    | keyword word => cases word <;> first | rfl | cases starts
    | _ => cases starts
  rw [applyLayout_margin begins column blocks indented, startsStatement, Bool.and_true]
  unfold atDefinition
  split
  · rw [Array.append_singleton]
    rfl
  · rw [Array.append_empty]

theorem foldl_closeAtEnd_of_blocks {frames : List Frame}
    (blocks : ∀ frame ∈ frames, frame.isBlock = true) :
    frames.foldl closeAtEnd reader =
      frames.foldl (fun reader _ => reader.insert .outdent reader.lastEnd) reader := by
  induction frames generalizing reader with
  | nil => rfl
  | cons frame frames inductionHypothesis =>
      rw [List.forall_mem_cons] at blocks
      cases frame with
      | indent level => exact inductionHypothesis blocks.2
      | _ => cases blocks.1

/-- At the end of a source all blocks are closed. -/
theorem finish_of_blocks (blocks : ∀ frame ∈ reader.frames, frame.isBlock = true) :
    reader.finish = ⟨reader.atMargin.tokens.toList ++
      [⟨.endOfFile, .empty reader.offset, reader.trivia.toList⟩], reader.diagnostics.toList⟩ := by
  unfold finish
  rw [foldl_closeAtEnd_of_blocks blocks, foldl_outdent]
  unfold add atMargin
  dsimp only
  rw [Array.toList_push]

/-- Where nothing is reported, only blocks are open at the end of a source. -/
theorem Silent.blocks [XidStart] (silent : reader.Silent) (read : reader.rest = [])
    (honest : reader.Honest) : ∀ frame ∈ reader.frames, frame.isBlock = true := by
  have mayEnd := silent.mayEnd read
  intro frame member
  cases frame with
  | indent level => rfl
  | splice opened =>
      rcases List.append_of_mem member with ⟨inner, outer, frames⟩
      have anchored := (honest.clean silent.diagnostics).anchored
      rcases anchored opened outer ⟨inner, frames.symm⟩ with ⟨string, around, isString⟩
      have ends := mayEnd string
        (frames ▸ List.mem_append_right inner (List.mem_cons_of_mem _ around))
      cases string with
      | string quote opened => cases ends
      | _ => cases isString
  | group bracket opened => cases mayEnd _ member
  | string quote opened => cases mayEnd _ member

end Reader
end Offside
