import Offside.Proofs.Lexing.Stack

namespace Offside

open Utf8

/-!
# Spans fit their source

A span is made in one of three ways: from the text that a reader takes, which begins and
ends between two characters, from a place where the reader has stood, which has no width,
and from a construct that was left open.  The last kind is made long after the construct
was opened and assumes that its opener is one byte wide.  The stack of frames knows the
character that stands there, and no opener takes more than one byte.
-/

namespace Utf8

/-- An offset between two characters of a source, or at one of its ends. -/
theorem holdsAt_nil_iff {source : String} {offset : Nat} :
    HoldsAt source.toList offset [] ↔ String.Pos.Raw.IsValid source ⟨offset⟩ := by
  rw [String.Pos.Raw.isValid_iff_exists_append]
  constructor
  · rintro ⟨front, back, whole, rfl⟩
    refine ⟨String.ofList front, String.ofList back, ?_, ?_⟩
    · rw [← String.ofList_append, ← List.nil_append back, ← whole, String.ofList_toList]
    · rw [← utf8ByteSize_ofList]
      rfl
  · rintro ⟨front, back, rfl, place⟩
    refine ⟨front.toList, back.toList, String.toList_append, ?_⟩
    rw [← utf8ByteSize_ofList, String.ofList_toList]
    exact (congrArg String.Pos.Raw.byteIdx place).symm

end Utf8

/-- A span that can be cut out of a source: its ends come in their order and stand between
two characters. -/
structure Span.Fits (source : String) (span : Span) : Prop where
  start : String.Pos.Raw.IsValid source ⟨span.start⟩
  stop : String.Pos.Raw.IsValid source ⟨span.stop⟩
  ordered : span.start ≤ span.stop

namespace Span

variable {source : String} {span : Span} {offset : Nat} {piece : List Char}

theorem fits_empty (valid : String.Pos.Raw.IsValid source ⟨offset⟩) :
    (Span.empty offset).Fits source :=
  ⟨valid, valid, Nat.le_refl _⟩

theorem fits_of_holdsAt (there : HoldsAt source.toList offset piece) :
    Span.Fits source ⟨offset, offset + byteLength piece⟩ where
  start := by
    rw [← holdsAt_nil_iff]
    exact @HoldsAt.front _ [] piece _ there
  stop := by
    rw [← holdsAt_nil_iff]
    refine @HoldsAt.behind _ piece [] _ ?_
    rwa [List.append_nil]
  ordered := Nat.le_add_right _ _

namespace Fits

theorem stop_le (fits : span.Fits source) : span.stop ≤ source.utf8ByteSize :=
  fits.stop.le_rawEndPos

/-- Between the ends of a span stands a piece of the source. -/
theorem exists_piece (fits : span.Fits source) : ∃ front piece back,
    source.toList = front ++ piece ++ back ∧ span.start = byteLength front ∧
      span.stop = byteLength front + byteLength piece := by
  rcases holdsAt_nil_iff.mpr fits.start with ⟨front, rest, whole, start⟩
  rcases holdsAt_nil_iff.mpr fits.stop with ⟨longer, back, same, stop⟩
  rw [List.nil_append] at whole same
  have ordered := fits.ordered
  rw [← start, ← stop] at ordered ⊢
  rcases List.append_eq_append_iff.mp (whole.symm.trans same) with
    ⟨piece, rfl, -⟩ | ⟨excess, rfl, -⟩
  · exact ⟨front, piece, back, same, rfl, byteLength_append _ _⟩
  · have nothing : excess = [] := by
      refine Classical.byContradiction fun some => ?_
      have positive := byteLength_pos some
      rw [byteLength_append] at ordered
      omega
    refine ⟨longer, [], back, by rw [List.append_nil, same], ?_, rfl⟩
    rw [nothing, List.append_nil]

/-- The text that a span names is as long as the span. -/
theorem utf8ByteSize_text (fits : span.Fits source) :
    (span.text source).utf8ByteSize = span.length := by
  rcases fits.exists_piece with ⟨front, piece, back, whole, start, stop⟩
  have named : span = ⟨byteLength front, byteLength front + byteLength piece⟩ := by
    rw [← stop, ← start]
  have length : span.length = byteLength piece := by
    unfold Span.length
    omega
  rw [length, named, text_of_append back whole, utf8ByteSize_ofList]

end Fits
end Span

/-- The spans of a token and of the trivia in front of it fit the source. -/
def Token.Fits (source : String) (token : Token) : Prop :=
  token.span.Fits source ∧ ∀ trivia ∈ token.leading, trivia.span.Fits source

/-- The character that has opened a construct stands where the frame says. -/
def Frame.Rooted (source : String) (frame : Frame) : Prop :=
  ∀ opened c, frame.opener? = some (opened, c) → HoldsAt source.toList opened [c]

namespace Frame

variable {source : String} {frame : Frame} {opened : Nat} {c : Char}

/-- No construct is opened by a character of more than one byte. -/
theorem utf8Size_opener (opens : frame.opener? = some (opened, c)) : c.utf8Size = 1 := by
  cases frame with
  | indent column => cases opens
  | group bracket place =>
      cases opens
      cases bracket <;> rfl
  | splice place =>
      cases opens
      rfl
  | string quote place =>
      cases opens
      rfl

theorem Rooted.fits (rooted : frame.Rooted source) (opens : frame.opener? = some (opened, c)) :
    Span.Fits source ⟨opened, opened + 1⟩ := by
  have fits := Span.fits_of_holdsAt (rooted opened c opens)
  rwa [byteLength_cons, byteLength_nil, utf8Size_opener opens] at fits

theorem Stack.rooted {limit : Nat} {frames : List Frame}
    (stack : Stack source.toList limit frames) : ∀ frame ∈ frames, frame.Rooted source :=
  fun _ member _ _ opens => (stack.opener member opens).1

end Frame

namespace Reader

/-- All that a reader has found fits the source, and so do the places that it may use. -/
structure Fits (source : String) (reader : Reader) : Prop where
  tokens : ∀ token ∈ reader.tokens, token.Fits source
  trivia : ∀ trivia ∈ reader.trivia, trivia.span.Fits source
  diagnostics : ∀ diagnostic ∈ reader.diagnostics, diagnostic.span.Fits source
  offset : String.Pos.Raw.IsValid source ⟨reader.offset⟩
  lastEnd : String.Pos.Raw.IsValid source ⟨reader.lastEnd⟩

variable {source : String} {reader after : Reader} {span : Span}

/-- The front of what is left is a piece of the source. -/
theorem front_fits (there : HoldsAt source.toList reader.offset reader.rest) (length : Nat) :
    (reader.spanOf (reader.rest.take length)).Fits source :=
  Span.fits_of_holdsAt (there.take length)

namespace Fits

variable (fits : reader.Fits source)

include fits

theorem of_same (tokens : after.tokens = reader.tokens) (trivia : after.trivia = reader.trivia)
    (diagnostics : after.diagnostics = reader.diagnostics) (offset : after.offset = reader.offset)
    (lastEnd : after.lastEnd = reader.lastEnd) : after.Fits source where
  tokens := tokens ▸ fits.tokens
  trivia := trivia ▸ fits.trivia
  diagnostics := diagnostics ▸ fits.diagnostics
  offset := offset ▸ fits.offset
  lastEnd := lastEnd ▸ fits.lastEnd

theorem setFrames (frames : List Frame) : Fits source { reader with frames := frames } :=
  fits.of_same rfl rfl rfl rfl rfl

theorem report (fault : LexicalFault) (inside : span.Fits source) :
    (reader.report fault span).Fits source :=
  { fits with
    diagnostics := Array.forall_mem_push.mpr ⟨inside, fits.diagnostics⟩ }

theorem insert (kind : TokenKind) {offset : Nat}
    (valid : String.Pos.Raw.IsValid source ⟨offset⟩) : (reader.insert kind offset).Fits source :=
  { fits with
    tokens := Array.forall_mem_push.mpr
      ⟨⟨Span.fits_empty valid, List.forall_mem_nil _⟩, fits.tokens⟩ }

theorem add (kind : TokenKind) (inside : span.Fits source) :
    (reader.add kind span).Fits source where
  tokens := Array.forall_mem_push.mpr
    ⟨⟨inside, fun trivia member => fits.trivia trivia (Array.mem_toList_iff.mp member)⟩,
      fits.tokens⟩
  trivia := fun _ member => absurd member (Array.not_mem_empty _)
  diagnostics := fits.diagnostics
  offset := fits.offset
  lastEnd := inside.stop

theorem addTrivia (kind : TriviaKind) (inside : span.Fits source) :
    (reader.addTrivia kind span).Fits source :=
  { fits with trivia := Array.forall_mem_push.mpr ⟨inside, fits.trivia⟩ }

theorem advance {text : List Char} (rest : List Char)
    (inside : String.Pos.Raw.IsValid source ⟨reader.offset + byteLength text⟩) :
    (reader.advance text rest).Fits source :=
  { fits with offset := inside }

/-! ## The layout rules -/

theorem closeBlocks (column : Nat) : (reader.closeBlocks column).Fits source := by
  unfold Reader.closeBlocks
  exact List.foldlRecOn _ _ (fits.setFrames _) fun before fits _ _ => fits.insert _ fits.lastEnd

theorem beginLine {column offset : Nat} {kind : TokenKind} {next : Option Char}
    (here : String.Pos.Raw.IsValid source ⟨offset⟩) :
    (reader.beginLine column offset kind next).Fits source := by
  have fitted : Fits source { reader.closeBlocks column with lineIndent := column } :=
    (fits.closeBlocks column).of_same rfl rfl rfl rfl rfl
  exact beginLine_cases (motive := Fits source) rfl fitted (fitted.insert _ fitted.lastEnd)
    ((fitted.report _ (Span.fits_empty here)).insert _ here)
    fun _ => (fitted.setFrames _).insert _ here

theorem abandonGroups (rooted : ∀ frame ∈ reader.frames, frame.Rooted source) :
    reader.abandonGroups.Fits source := by
  unfold Reader.abandonGroups
  refine List.foldlRecOn _ _ (fits.setFrames _) fun before fits frame member => ?_
  have root := rooted frame ((List.takeWhile_sublist _).subset member)
  cases frame with
  | group bracket opened => exact (fits.report _ (root.fits rfl)).insert _ fits.lastEnd
  | _ => exact fits

theorem applyLayout {kind : TokenKind} {next : Option Char}
    (rooted : ∀ frame ∈ reader.frames, frame.Rooted source) :
    (reader.applyLayout kind next).Fits source := by
  have begun : Fits source { reader with atLineStart := false } :=
    fits.of_same rfl rfl rfl rfl rfl
  have outside := begun.abandonGroups rooted
  exact applyLayout_cases (motive := Fits source) rfl (fun _ => fits) begun
    (fun _ => begun.beginLine begun.offset) outside fun _ => outside.beginLine outside.offset

/-! ## Reading -/

theorem cutOff {frame : Frame} (rooted : frame.Rooted source) :
    (reader.cutOff frame).Fits source := by
  cases frame with
  | indent column => exact fits.insert _ fits.lastEnd
  | group bracket opened => exact fits.report _ (rooted.fits rfl)
  | splice opened => exact fits.report _ (rooted.fits rfl)
  | string quote opened => exact fits

theorem addCloser (rooted : ∀ frame ∈ reader.frames, frame.Rooted source)
    (closer : ClosingBracket) (inside : span.Fits source) :
    (reader.addCloser closer span).Fits source := by
  unfold Reader.addCloser
  dsimp only
  split
  · exact (fits.report _ inside).add _ inside
  · refine Fits.add (Fits.setFrames ?_ _) _ inside
    refine List.foldlRecOn _ _ fits fun before fits frame member => fits.cutOff (rooted frame ?_)
    exact (List.takeWhile_sublist _).subset (List.mem_of_mem_take member)

theorem emit {kind : TokenKind} {next : Option Char}
    (inCode : InCode source.toList reader.offset reader.frames) (inside : span.Fits source) :
    (reader.emit kind span next).Fits source := by
  have placed : (reader.applyLayout kind next).Fits source :=
    fits.applyLayout inCode.stack.rooted
  have rooted := (@applyLayout_inCode _ _ _ kind next inCode).stack.rooted
  unfold Reader.emit
  dsimp only
  split
  · exact placed.addCloser rooted _ inside
  · split
    · exact (placed.setFrames _).add _ inside
    · exact placed.add _ inside

theorem readLexeme [XidStart] {c : Char} {rest : List Char}
    (inCode : InCode source.toList reader.offset reader.frames)
    (there : HoldsAt source.toList reader.offset (c :: rest)) :
    (reader.readLexeme c rest).Fits source := by
  unfold Reader.readLexeme
  dsimp only
  generalize Lexeme.scan (reader.lastKind?.any TokenKind.endsOperand) c rest = found
  have own : HoldsAt source.toList reader.offset (c :: rest.take found.more) :=
    there.take (found.more + 1)
  generalize c :: rest.take found.more = taken at own
  have inside : (reader.spanOf taken).Fits source := Span.fits_of_holdsAt own
  have moved : ∀ {read : Reader}, read.Fits source → read.offset = reader.offset →
      (read.advance taken (rest.drop found.more)).Fits source := by
    intro read fits offset
    refine fits.advance _ ?_
    rw [offset]
    exact inside.stop
  refine moved ?_ ?_
  · split
    · exact (fits.addTrivia _ inside).of_same rfl rfl rfl rfl rfl
    · exact (fits.addTrivia _ inside).of_same rfl rfl rfl rfl rfl
    · exact fits.addTrivia _ inside
    · exact fits.emit inCode inside
    · exact (fits.emit inCode inside).setFrames _
    · exact Fits.emit (fits.report _ inside) inCode inside
  · split
    · rfl
    · rfl
    · rfl
    · exact emit_offset _ _ _ _
    · exact emit_offset _ _ _ _
    · exact emit_offset _ _ _ _

/-- A token that takes the front of what is left. -/
theorem addFront (there : HoldsAt source.toList reader.offset reader.rest) (kind : TokenKind)
    (length : Nat) :
    ((reader.add kind (reader.spanOf (reader.rest.take length))).advance
      (reader.rest.take length) (reader.rest.drop length)).Fits source := by
  have inside := front_fits there length
  exact (fits.add kind inside).advance _ inside.stop

/-- The text in front of the place where a string is cut off. -/
theorem addFragment {piece : List Char} (inside : (reader.spanOf piece).Fits source) :
    (reader.addFragment piece).Fits source := by
  unfold Reader.addFragment
  split
  · exact fits
  · exact fits.add _ inside

theorem readPiece [XidStart] {quote : QuoteForm} {opened : Nat} {outer : List Frame}
    (stack : Frame.Stack source.toList reader.offset (.string quote opened :: outer))
    (there : HoldsAt source.toList reader.offset reader.rest) :
    (reader.readPiece quote opened outer).Fits source := by
  have behind : ∀ length, HoldsAt source.toList
      (reader.offset + byteLength (reader.rest.take length)) (reader.rest.drop length) := by
    intro length
    refine HoldsAt.behind ?_
    rwa [List.take_append_drop]
  cases found : StringText.scanPiece quote reader.rest with
  | closing =>
      simp only [Reader.readPiece, found]
      exact (fits.setFrames outer).addFront there _ _
  | spliceOpening =>
      simp only [Reader.readPiece, found]
      exact ((fits.addFront there _ 1).setFrames _).addFront (behind 1) _ 1
  | name length =>
      simp only [Reader.readPiece, found]
      exact (fits.addFront there _ 1).addFront (behind 1) _ length
  | text length =>
      simp only [Reader.readPiece, found]
      exact fits.addFront there _ _
  | cutOff length =>
      have inside := front_fits there length
      have opening := stack.opener List.mem_cons_self rfl
      have begins := (Span.fits_of_holdsAt opening.1).start
      rw [readPiece_of_cutOff found]
      have whole : Span.Fits source ⟨opened, (reader.spanOf (reader.rest.take length)).stop⟩ :=
        ⟨begins, inside.stop, Nat.le_trans (Nat.le_of_lt opening.2) inside.ordered⟩
      have read := ((fits.addFragment inside).setFrames outer).report .unterminatedString whole
      refine (read.insert _ inside.stop).advance _ ?_
      show String.Pos.Raw.IsValid source
        ⟨(reader.addFragment (reader.rest.take length)).offset + _⟩
      rw [addFragment_offset]
      exact inside.stop

theorem step [XidStart] (stack : Frame.Stack source.toList reader.offset reader.frames)
    (there : HoldsAt source.toList reader.offset reader.rest) : reader.step.Fits source := by
  unfold Reader.step
  split
  · exact fits
  · rename_i c rest unread
    split
    · rename_i inString
      rw [inString] at stack
      exact fits.readPiece stack there
    · rename_i noString
      rw [unread] at there
      exact fits.readLexeme ⟨stack, Frame.inString_of_ne noString⟩ there

/-! ## The end of the source -/

/-- What is still open is reported up to the end of the source. -/
theorem closeAtEnd {limit : Nat} {frame : Frame} (offset : reader.offset = limit)
    (opener : ∀ opened c, frame.opener? = some (opened, c) →
      HoldsAt source.toList opened [c] ∧ opened < limit) :
    (reader.closeAtEnd frame).Fits source := by
  cases frame with
  | indent column => exact fits.insert _ fits.lastEnd
  | splice opened => exact fits
  | group bracket opened =>
      have root : (Frame.group bracket opened).Rooted source :=
        fun opened c opens => (opener opened c opens).1
      exact (fits.report _ (root.fits rfl)).insert _ fits.offset
  | string quote opened =>
      rcases opener opened _ rfl with ⟨there, before⟩
      have whole : Span.Fits source ⟨opened, reader.offset⟩ :=
        ⟨(Span.fits_of_holdsAt there).start, fits.offset, offset ▸ Nat.le_of_lt before⟩
      exact (fits.report _ whole).insert _ fits.offset

end Fits

theorem start_fits (source : String) (tabWidth : Nat) :
    (start tabWidth source.toList).Fits source := by
  have atStart : String.Pos.Raw.IsValid source ⟨0⟩ :=
    holdsAt_nil_iff.mp ⟨[], source.toList, rfl, rfl⟩
  exact ⟨fun _ member => absurd member (Array.not_mem_empty _),
    fun _ member => absurd member (Array.not_mem_empty _),
    fun _ member => absurd member (Array.not_mem_empty _), atStart, atStart⟩

theorem afterSteps_fits [XidStart] (source : String) (tabWidth steps : Nat) :
    (afterSteps source tabWidth steps).Fits source := by
  induction steps with
  | zero => exact start_fits source tabWidth
  | succ steps inductionHypothesis =>
      rw [afterSteps_succ]
      exact inductionHypothesis.step (afterSteps_stack source tabWidth steps)
        (afterSteps_holdsAt source tabWidth steps)

end Reader

/-- Everything that the lexer finds or reports fits the source. -/
theorem lex_fits [XidStart] (source : String) (tabWidth : Nat) :
    (∀ token ∈ (lex source tabWidth).tokens, token.Fits source) ∧
    ∀ diagnostic ∈ (lex source tabWidth).diagnostics, diagnostic.span.Fits source := by
  rcases Reader.exists_afterSteps_eq_run source tabWidth with ⟨steps, ended⟩
  have fits := Reader.afterSteps_fits source tabWidth steps
  have stack := Reader.afterSteps_stack source tabWidth steps
  unfold lex
  rw [← ended]
  generalize Reader.afterSteps source tabWidth steps = reader at fits stack
  have closed : (reader.frames.foldl Reader.closeAtEnd reader).Fits source ∧
      (reader.frames.foldl Reader.closeAtEnd reader).offset = reader.offset := by
    refine List.foldlRecOn
      (motive := fun after : Reader => after.Fits source ∧ after.offset = reader.offset)
      _ _ ⟨fits, rfl⟩ fun before kept frame member => ?_
    exact ⟨kept.1.closeAtEnd kept.2 fun opened c opens => stack.opener member opens,
      (Reader.offset_closeAtEnd before frame).trans kept.2⟩
  have marked := closed.1.add .endOfFile (Span.fits_empty fits.offset)
  exact ⟨fun token member => marked.tokens token (Array.mem_toList_iff.mp member),
    fun diagnostic member => marked.diagnostics diagnostic (Array.mem_toList_iff.mp member)⟩

end Offside
