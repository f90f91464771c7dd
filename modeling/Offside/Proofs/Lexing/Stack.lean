import Offside.Proofs.Lexing.Bookkeeping
import Offside.Proofs.Lexing.Steps

namespace Offside

open Utf8

/-!
# The stack of open constructs

What is open at some point of a source keeps to a few rules, whatever the source looks
like.  A splice stands directly in a string, and nothing else does.  A block stands in a
shallower block, between curly brackets or directly in the file.  Everything but a block
was opened at a character of the source that tells what it is, and further inside means
further on in the source.

A reader could break the rules where it takes many frames at once: where a line leaves
blocks, where a definition has walked out of its brackets and where a bracket closes more
than itself.  All of these only take frames from the top, and no frame says anything about
those above it.  What matters is what comes to light: no string may, unless a splice in it
is closed, since layout would then insert its tokens between the pieces of the string.
-/

namespace Utf8

/-- A piece of a text stands at a byte offset. -/
def HoldsAt (text : List Char) (offset : Nat) (piece : List Char) : Prop :=
  ∃ front back, text = front ++ (piece ++ back) ∧ byteLength front = offset

namespace HoldsAt

variable {text piece more : List Char} {offset : Nat}

theorem front (there : HoldsAt text offset (piece ++ more)) : HoldsAt text offset piece := by
  rcases there with ⟨front, back, whole, begins⟩
  exact ⟨front, more ++ back, by rw [whole, List.append_assoc], begins⟩

theorem behind (there : HoldsAt text offset (piece ++ more)) :
    HoldsAt text (offset + byteLength piece) more := by
  rcases there with ⟨front, back, whole, begins⟩
  refine ⟨front ++ piece, back, ?_, ?_⟩
  · rw [whole, List.append_assoc, List.append_assoc]
  · rw [byteLength_append, begins]

theorem take (there : HoldsAt text offset piece) (count : Nat) :
    HoldsAt text offset (piece.take count) := by
  rw [← List.take_append_drop count piece] at there
  exact there.front

theorem head {c : Char} (there : HoldsAt text offset (c :: more)) : HoldsAt text offset [c] :=
  there.take 1

end HoldsAt
end Utf8

/-- A bracket is spelled by its character and perhaps one more. -/
theorem Bracket.text_of_spells {bracket : Bracket} {kind : TokenKind} {own : List Char}
    (found : Bracket.ofKind? kind = some bracket) (spells : kind.Spells own) :
    ∃ more, own = bracket.char :: more := by
  have shown : String.ofList own = bracket.mark.spelling := by
    rcases spells with shown | ⟨other, -⟩
    · rw [← shown]
      unfold Bracket.ofKind? at found
      split at found <;> cases found <;> rfl
    · rw [other] at found
      cases found
  have same : own = bracket.mark.spelling.toList := by rw [← shown, String.toList_ofList]
  rw [same]
  cases bracket <;> exact ⟨_, rfl⟩

theorem QuoteForm.text_of_spells {quote : QuoteForm} {own : List Char}
    (spells : (TokenKind.stringStart quote).Spells own) : ∃ more, own = '"' :: more := by
  rcases spells with shown | ⟨other, -⟩
  · have same : own = (TokenKind.stringStart quote).text.toList := by
      rw [shown, String.toList_ofList]
    rw [same]
    cases quote <;> exact ⟨_, rfl⟩
  · cases other

namespace Frame

/-- The offset at which a construct was opened and the character that stands there.  A
block is opened by the column of its first token. -/
def opener? : Frame → Option (Nat × Char)
  | indent _ => none
  | group bracket opened => some (opened, bracket.char)
  | splice opened => some (opened, '$')
  | string _ opened => some (opened, '"')

/-- Where a block may stand the lines of which begin in some column. -/
inductive Holds (column : Nat) : List Frame → Prop
  | file : Holds column []
  | curly {bracket : Bracket} {opened : Nat} {outer : List Frame}
      (closer : bracket.closer = .curly) : Holds column (.group bracket opened :: outer)
  | block {level : Nat} {outer : List Frame} (deeper : level < column) :
      Holds column (.indent level :: outer)

/-- Frames that are open in front of an offset of a text.  What is around a construct was
opened in front of it. -/
inductive Stack (text : List Char) : Nat → List Frame → Prop
  | nil {limit : Nat} : Stack text limit []
  | block {limit column : Nat} {outer : List Frame} (positive : 0 < column)
      (holds : Holds column outer) (stack : Stack text limit outer) :
      Stack text limit (.indent column :: outer)
  | opened {limit opened : Nat} {c : Char} {frame : Frame} {outer : List Frame}
      (opens : frame.opener? = some (opened, c)) (marked : HoldsAt text opened [c])
      (before : opened < limit) (spliced : frame.isSplice = inString outer)
      (stack : Stack text opened outer) : Stack text limit (frame :: outer)

theorem inString_of_ne {frames : List Frame}
    (noString : ∀ quote opened outer, frames ≠ .string quote opened :: outer) :
    inString frames = false := by
  cases code : inString frames with
  | false => rfl
  | true =>
      rcases exists_of_inString code with ⟨quote, opened, outer, frames⟩
      exact absurd frames (noString quote opened outer)

namespace Holds

variable {column : Nat} {outer : List Frame}

theorem code (holds : Holds column outer) : inString outer = false := by
  cases holds <;> rfl

end Holds

namespace Stack

variable {text : List Char} {limit further opened : Nat} {c : Char} {frame : Frame}
  {frames cut outer : List Frame}

theorem mono (stack : Stack text limit frames) (beyond : limit ≤ further) :
    Stack text further frames := by
  induction stack with
  | nil => exact .nil
  | block positive holds stack inductionHypothesis =>
      exact .block positive holds (inductionHypothesis beyond)
  | opened opens marked before spliced stack inductionHypothesis =>
      exact .opened opens marked (Nat.lt_of_lt_of_le before beyond) spliced stack

theorem tail (stack : Stack text limit (frame :: outer)) : Stack text limit outer := by
  cases stack with
  | block positive holds stack => exact stack
  | opened opens marked before spliced stack => exact stack.mono (Nat.le_of_lt before)

theorem of_suffix (stack : Stack text limit frames) (suffix : outer <:+ frames) :
    Stack text limit outer := by
  rcases suffix with ⟨cut, rfl⟩
  induction cut with
  | nil => exact stack
  | cons frame cut inductionHypothesis => exact inductionHypothesis stack.tail

/-- A splice stands directly in a string, and nothing else does. -/
theorem isSplice_eq (stack : Stack text limit (frame :: outer)) :
    frame.isSplice = inString outer := by
  cases stack with
  | block positive holds stack => exact holds.code.symm
  | opened opens marked before spliced stack => exact spliced

theorem holds {column : Nat} (stack : Stack text limit (.indent column :: outer)) :
    0 < column ∧ Holds column outer := by
  cases stack with
  | block positive holds stack => exact ⟨positive, holds⟩
  | opened opens marked before spliced stack => cases opens

theorem opener (stack : Stack text limit frames) (member : frame ∈ frames)
    (opens : frame.opener? = some (opened, c)) : HoldsAt text opened [c] ∧ opened < limit := by
  induction stack with
  | nil => cases member
  | block positive holds stack inductionHypothesis =>
      rcases List.mem_cons.mp member with rfl | further
      · cases opens
      · exact inductionHypothesis further
  | opened there marked before spliced stack inductionHypothesis =>
      rcases List.mem_cons.mp member with rfl | further
      · cases there.symm.trans opens
        exact ⟨marked, before⟩
      · rcases inductionHypothesis further with ⟨marked, inside⟩
        exact ⟨marked, Nat.lt_trans inside before⟩

/-- Further inside means further on in the text. -/
theorem openers_pairwise (stack : Stack text limit frames) :
    (frames.filterMap opener?).Pairwise fun inner outer => outer.1 < inner.1 := by
  induction stack with
  | nil => exact List.Pairwise.nil
  | block positive holds stack inductionHypothesis => exact inductionHypothesis
  | opened opens marked before spliced stack inductionHypothesis =>
      rw [List.filterMap_cons_some opens]
      refine List.pairwise_cons.mpr ⟨fun outer member => ?_, inductionHypothesis⟩
      rcases List.mem_filterMap.mp member with ⟨frame, there, opener⟩
      exact (stack.opener there opener).2

/-- Where no splice is closed, no string comes to light. -/
theorem code_around (stack : Stack text limit (cut ++ outer))
    (noSplice : ∀ frame ∈ cut, frame.isSplice = false)
    (code : inString (cut ++ outer) = false) : inString outer = false := by
  induction cut with
  | nil => exact code
  | cons frame cut inductionHypothesis =>
      rw [List.forall_mem_cons] at noSplice
      refine inductionHypothesis stack.tail noSplice.2 ?_
      rw [← noSplice.1]
      exact stack.isSplice_eq.symm

end Stack
end Frame

namespace Reader

open Offside.Frame (Holds Stack inString)

variable {reader : Reader} {text own : List Char} {limit column : Nat} {kind : TokenKind}
  {next : Option Char}

/-! ## The layout rules -/

/-- Frames that layout may work on: a stack the top of which is no string. -/
structure InCode (text : List Char) (limit : Nat) (frames : List Frame) : Prop where
  stack : Stack text limit frames
  code : inString frames = false

namespace InCode

variable {frames cut outer : List Frame}

theorem around (inCode : InCode text limit (cut ++ outer))
    (noSplice : ∀ frame ∈ cut, frame.isSplice = false) : InCode text limit outer :=
  ⟨inCode.stack.of_suffix (List.suffix_append _ _), inCode.stack.code_around noSplice inCode.code⟩

theorem block (inCode : InCode text limit frames) (positive : 0 < column)
    (holds : Holds column frames) : InCode text limit (.indent column :: frames) :=
  ⟨.block positive holds inCode.stack, rfl⟩

end InCode

/-- A line that a block leaves alone is at least as deep as the block. -/
theorem Leaves.holds {blocks outer : List Frame} {frames : List Frame}
    (leaves : Leaves frames column blocks outer)
    (active : Frame.layoutActive outer = true) (off : Frame.level? outer ≠ some column) :
    Holds column outer := by
  have stays := leaves.stays
  cases outer with
  | nil => exact .file
  | cons frame outer =>
      cases frame with
      | indent level =>
          have shallow : ¬ column < level := of_decide_eq_false stays
          have other : level ≠ column := fun same => off (congrArg some same)
          exact .block (by omega)
      | group bracket opened =>
          cases bracket with
          | curly | hashCurly => exact .curly rfl
          | round | square => cases active
      | _ => cases active

theorem beginLine_inCode (inCode : InCode text limit reader.frames)
    (active : Frame.layoutActive reader.frames = true) (offset : Nat) :
    InCode text limit (reader.beginLine column offset kind next).frames := by
  rcases exists_leaves reader.frames column with ⟨blocks, outer, leaves⟩
  rcases fitted_closes leaves with ⟨-, frames, -, -⟩
  have noSplice : ∀ frame ∈ blocks, frame.isSplice = false := by
    intro frame member
    have isBlock := leaves.isBlock frame member
    cases frame with
    | indent level => rfl
    | _ => cases isBlock
  have around : InCode text limit outer := (leaves.split ▸ inCode).around noSplice
  have fits : InCode text limit (reader.fitted column).frames := frames ▸ around
  have opens : Frame.layoutActive outer = true → Frame.level? outer ≠ some column →
      InCode text limit
        (beginLine.openBlock reader column offset (reader.fitted column)).frames := by
    intro active off
    unfold beginLine.openBlock
    split
    · rename_i deeper
      rw [Bool.and_eq_true, decide_eq_true_eq] at deeper
      rw [frames_insert, frames_openFrame, frames]
      exact around.block (Nat.zero_lt_of_lt deeper.2) (leaves.holds active off)
    · exact fits
  rw [beginLine_eq leaves]
  cases levelled : Frame.level? outer with
  | some level =>
      dsimp only
      split
      · split
        · exact fits
        · exact fits
      · rename_i off
        split
        · exact fits
        · refine opens ?_ fun same => ?_
          · cases outer with
            | nil => rfl
            | cons frame outer =>
                cases frame with
                | indent level => rfl
                | _ => cases levelled
          · exact off (Option.some.inj (same.symm.trans levelled))
  | none =>
      dsimp only
      split
      · exact fits
      · rename_i nothing
        refine opens ?_ (by rw [levelled]; exact nofun)
        have none : blocks = [] := by simpa using nothing
        have same : reader.frames = outer := by rw [leaves.split, none, List.nil_append]
        rwa [same] at active

theorem abandonGroups_inCode (inCode : InCode text limit reader.frames) :
    InCode text limit reader.abandonGroups.frames := by
  rw [frames_abandonGroups]
  rw [← takeWhile_append_drop Frame.ignoresLines reader.frames] at inCode
  refine inCode.around fun frame member => ?_
  have ignores := List.all_eq_true.mp List.all_takeWhile frame member
  cases frame with
  | group bracket opened => rfl
  | _ => cases ignores

theorem applyLayout_inCode (inCode : InCode text limit reader.frames) :
    InCode text limit (reader.applyLayout kind next).frames := by
  have begun : InCode text limit ({ reader with atLineStart := false } : Reader).frames := inCode
  have outside := abandonGroups_inCode begun
  exact applyLayout_cases (motive := fun after => InCode text limit after.frames) rfl
    (fun _ => inCode) begun (fun active => beginLine_inCode begun active _) outside
    fun active => beginLine_inCode outside active _

/-! ## Reading -/

theorem addCloser_stack (stack : Stack text limit reader.frames) (closer : ClosingBracket)
    (span : Span) : Stack text limit (reader.addCloser closer span).frames := by
  unfold addCloser
  dsimp only
  split
  · exact stack
  · exact stack.of_suffix (List.drop_suffix _ _)

theorem emit_stack (inCode : InCode text reader.offset reader.frames)
    (there : HoldsAt text reader.offset own) (spells : kind.Spells own) :
    Stack text (reader.offset + byteLength own)
      (reader.emit kind (reader.spanOf own) next).frames := by
  have placed : InCode text reader.offset (reader.applyLayout kind next).frames :=
    applyLayout_inCode inCode
  have further : reader.offset ≤ reader.offset + byteLength own := Nat.le_add_right _ _
  unfold emit
  dsimp only
  split
  · exact (addCloser_stack placed.stack _ _).mono further
  · split
    · rename_i bracket found
      rcases Bracket.text_of_spells found spells with ⟨more, rfl⟩
      exact .opened rfl there.head (Nat.lt_add_of_pos_right (byteLength_pos nofun))
        placed.code.symm placed.stack
    · exact placed.stack.mono further

/-- A string is opened in what layout has left around it. -/
theorem openString_stack {quote : QuoteForm} (inCode : InCode text reader.offset reader.frames)
    (there : HoldsAt text reader.offset own) (spells : (TokenKind.stringStart quote).Spells own) :
    Stack text (reader.offset + byteLength own)
      (.string quote reader.offset ::
        (reader.emit (.stringStart quote) (reader.spanOf own) next).frames) := by
  have placed : InCode text reader.offset (reader.applyLayout (.stringStart quote) next).frames :=
    applyLayout_inCode inCode
  rcases QuoteForm.text_of_spells spells with ⟨more, rfl⟩
  exact .opened rfl there.head (Nat.lt_add_of_pos_right (byteLength_pos nofun))
    placed.code.symm placed.stack

variable [XidStart]

theorem readLexeme_stack {c : Char} {rest : List Char}
    (inCode : InCode text reader.offset reader.frames)
    (there : HoldsAt text reader.offset (c :: rest)) :
    Stack text (reader.readLexeme c rest).offset (reader.readLexeme c rest).frames := by
  have fits := Lexeme.fits_scan (reader.lastKind?.any TokenKind.endsOperand) c rest
  unfold Lexeme.Found.Fits at fits
  unfold readLexeme
  dsimp only
  generalize Lexeme.scan (reader.lastKind?.any TokenKind.endsOperand) c rest = found at fits
  have own : HoldsAt text reader.offset (c :: rest.take found.more) :=
    there.take (found.more + 1)
  generalize c :: rest.take found.more = taken at fits own
  have further : reader.offset ≤ reader.offset + byteLength taken := Nat.le_add_right _ _
  rw [frames_advance]
  split
  · exact inCode.stack.mono further
  · exact inCode.stack.mono further
  · exact inCode.stack.mono further
  · rename_i kind same
    rw [same] at fits
    cases fits with
    | token lexical spells =>
        rw [advance, emit_offset]
        exact emit_stack inCode own spells
  · rename_i quote same
    rw [same] at fits
    cases fits with
    | opening spells =>
        rw [advance, openFrame, emit_offset]
        exact openString_stack inCode own spells
  · rename_i fault _
    rw [advance, emit_offset]
    exact @emit_stack (reader.report fault (reader.spanOf taken)) _ _ _ _ inCode own (.inl rfl)

/-- In a string only a splice is opened, and only the string is closed. -/
theorem readPiece_stack {quote : QuoteForm} {opened : Nat} {outer : List Frame}
    (stack : Stack text reader.offset (.string quote opened :: outer))
    (inString : reader.frames = .string quote opened :: outer)
    (there : HoldsAt text reader.offset reader.rest) :
    Stack text (reader.readPiece quote opened outer).offset
      (reader.readPiece quote opened outer).frames := by
  have fits := StringText.fits_scanPiece quote reader.rest
  unfold readPiece
  dsimp only
  generalize StringText.scanPiece quote reader.rest = piece at fits
  cases fits with
  | closing => exact stack.tail.mono (Nat.le_add_right _ _)
  | @spliceOpening beyond same =>
      rw [same] at there ⊢
      rw [frames_advance, frames_add, frames_openFrame, frames_advance, frames_add, inString]
      refine .opened rfl there.head ?_ rfl stack
      simp only [advance, add, openFrame, List.take_succ_cons, List.take_zero, byteLength_cons]
      have positive := Char.utf8Size_pos '$'
      omega
  | name same positive =>
      rw [frames_advance, frames_add, frames_advance, frames_add, inString]
      refine stack.mono ?_
      simp only [advance, add]
      omega
  | text nonempty =>
      rw [frames_advance, frames_add, inString]
      exact stack.mono (Nat.le_add_right _ _)
  | cutOff length =>
      refine stack.tail.mono ?_
      show reader.offset ≤ (reader.addFragment (reader.rest.take length)).offset + _
      rw [addFragment_offset]
      exact Nat.le_add_right _ _

theorem step_stack (stack : Stack text reader.offset reader.frames)
    (there : HoldsAt text reader.offset reader.rest) :
    Stack text reader.step.offset reader.step.frames := by
  unfold step
  split
  · exact stack
  · rename_i c rest unread
    split
    · rename_i quote opened outer inString
      rw [inString] at stack
      exact readPiece_stack stack inString there
    · rename_i noString
      rw [unread] at there
      exact readLexeme_stack ⟨stack, Frame.inString_of_ne noString⟩ there

/-- What a reader has still to read stands in the source where the reader is. -/
theorem afterSteps_holdsAt (source : String) (tabWidth steps : Nat) :
    HoldsAt source.toList (afterSteps source tabWidth steps).offset
      (afterSteps source tabWidth steps).rest := by
  rcases afterSteps_hasRead source tabWidth steps with ⟨front, whole, read⟩
  exact ⟨front, [], by rw [List.append_nil, whole], read.offset.symm⟩

/-- After any number of steps the open frames are a stack. -/
theorem afterSteps_stack (source : String) (tabWidth steps : Nat) :
    Stack source.toList (afterSteps source tabWidth steps).offset
      (afterSteps source tabWidth steps).frames := by
  induction steps with
  | zero => exact .nil
  | succ steps inductionHypothesis =>
      rw [afterSteps_succ]
      exact step_stack inductionHypothesis (afterSteps_holdsAt source tabWidth steps)

theorem afterSteps_inBalance (source : String) (tabWidth steps : Nat) :
    (afterSteps source tabWidth steps).InBalance := by
  induction steps with
  | zero => exact BlocksOpen.nil
  | succ steps inductionHypothesis =>
      rw [afterSteps_succ]
      exact step_balances inductionHypothesis

end Reader

/-- The open frames of a reader in a text, from the innermost one on. -/
structure Reader.WellStacked (reader : Reader) (text : List Char) : Prop where
  /-- A splice stands directly in a string, and in a string nothing else does. -/
  spliced : ∀ frame outer, frame :: outer <:+ reader.frames →
    (frame.isSplice = true ↔ Frame.inString outer = true)
  /-- A block begins right of the margin.  It stands directly in the file, between curly
  brackets or in a shallower block. -/
  blocks : ∀ column outer, .indent column :: outer <:+ reader.frames →
    0 < column ∧ Frame.Holds column outer
  /-- What was opened further inside was opened further on. -/
  ordered : (reader.frames.filterMap Frame.opener?).Pairwise fun inner outer => outer.1 < inner.1
  /-- Where something was opened stands the character that tells what it is. -/
  marked : ∀ frame ∈ reader.frames, ∀ opened c, frame.opener? = some (opened, c) →
    HoldsAt text opened [c]
  /-- The tokens found so far leave as many blocks open as there are. -/
  counted : (reader.tokens.toList.map Token.kind).count .indent =
    (reader.tokens.toList.map Token.kind).count .outdent + reader.frames.countP Frame.isBlock

/-- What a reader has open after any number of steps, in any source, is well stacked. -/
theorem lex_stacked [XidStart] (source : String) (tabWidth steps : Nat) :
    (Reader.afterSteps source tabWidth steps).WellStacked source.toList := by
  have stack := Reader.afterSteps_stack source tabWidth steps
  have balances := Reader.afterSteps_inBalance source tabWidth steps
  exact {
    spliced := fun frame outer suffix => by rw [(stack.of_suffix suffix).isSplice_eq]
    blocks := fun column outer suffix => (stack.of_suffix suffix).holds
    ordered := stack.openers_pairwise
    marked := fun frame member opened c opens => (stack.opener member opens).1
    counted := balances.ends }

end Offside
