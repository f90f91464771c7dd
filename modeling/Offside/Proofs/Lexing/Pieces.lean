import Offside.Proofs.Lexing.Ahead

namespace Offside

/-!
# What stands directly in a string

A string with splices is read by rules of its own: directly in it stand its text, its
splices and its end, and nothing that the layout rules insert.  Where a reader is silent
this can be seen from its tokens.  Whenever a string is the innermost thing that they
have left open, the next token is a piece of that string.

The frames of a reader could spoil this only in one way.  A line that leaves blocks
comes to stand in what is around them, and that must not be a string.  No block is ever
opened directly in a string, so it never is.
-/

/-- Whether a token may stand directly in a string with splices. -/
def TokenKind.isPiece : TokenKind → Bool
  | stringMiddle _ | stringEnd _ | identifier _ => true
  | punctuation mark => mark == .dollar || mark == .leftBrace
  | _ => false

/-- Behind tokens that leave a string open as the innermost thing stands a piece of it
or something that closes. -/
def Pieced (kinds : List TokenKind) : Prop :=
  ∀ front kind back quote outer, kinds = front ++ kind :: back →
    Nesting.exact.read [] front = some (.string quote :: outer) →
    kind.isPiece = true ∨ kind.closes?.isSome = true

/-- No block stands directly in a string. -/
def Frame.Apart (frames : List Frame) : Prop :=
  ∀ column outer, .indent column :: outer <:+ frames → inString outer = false

namespace Pieced

variable {kinds new : List TokenKind} {kind : TokenKind}

theorem nil : Pieced [] := by
  intro front kind back quote outer split
  have nothing := congrArg List.length split
  rw [List.length_append, List.length_cons, List.length_nil] at nothing
  omega

/-- Only the last token of a longer row is new. -/
theorem concat (pieced : Pieced kinds)
    (last : ∀ quote outer, Nesting.exact.read [] kinds = some (.string quote :: outer) →
      kind.isPiece = true ∨ kind.closes?.isSome = true) : Pieced (kinds ++ [kind]) := by
  intro front other back quote outer split read
  rcases split_concat split with ⟨inner, -, before⟩ | ⟨-, rfl, rfl⟩
  · exact pieced front other inner quote outer before read
  · exact last quote outer read

/-- Pieces and whatever closes may stand anywhere. -/
theorem append (pieced : Pieced kinds)
    (fit : ∀ kind ∈ new, kind.isPiece = true ∨ kind.closes?.isSome = true) :
    Pieced (kinds ++ new) := by
  induction new generalizing kinds with
  | nil =>
      rw [List.append_nil]
      exact pieced
  | cons kind new inductionHypothesis =>
      rw [List.forall_mem_cons] at fit
      have further := inductionHypothesis (pieced.concat fun _ _ _ => fit.1) fit.2
      rw [List.append_assoc] at further
      exact further

end Pieced

namespace Frame.Apart

variable {frame : Frame} {frames blocks outer : List Frame}

theorem nil : Apart [] := by
  intro column outer suffix
  cases List.suffix_nil.mp suffix

theorem of_suffix (apart : Apart frames) (suffix : outer <:+ frames) : Apart outer :=
  fun column around inner => apart column around (inner.trans suffix)

theorem cons (apart : Apart frames)
    (code : frame.isBlock = true → inString frames = false) : Apart (frame :: frames) := by
  intro column around suffix
  rcases List.suffix_cons_iff.mp suffix with whole | inner
  · cases whole
    exact code rfl
  · exact apart column around inner

/-- What is around some blocks is a string no more than what is in them. -/
theorem around (apart : Apart (blocks ++ outer)) (closed : ∀ frame ∈ blocks, frame.isBlock = true)
    (code : inString (blocks ++ outer) = false) : inString outer = false := by
  induction blocks with
  | nil => exact code
  | cons block blocks inductionHypothesis =>
      rw [List.forall_mem_cons] at closed
      refine inductionHypothesis (apart.of_suffix (List.suffix_cons _ _)) closed.2 ?_
      cases block with
      | indent column => exact apart column _ (List.suffix_refl _)
      | _ => cases closed.1

end Frame.Apart

namespace Reader

variable {reader before after : Reader} {kind : TokenKind} {next : Option Char} {span : Span}
  {c : Char} {rest : List Char}

/-- No block stands directly in a string, and directly in strings stand their pieces. -/
structure InPieces (reader : Reader) : Prop where
  apart : Frame.Apart reader.frames
  pieced : Pieced reader.kinds

/-- Where a string is left open, it is the innermost frame. -/
theorem Clean.not_string {frames : List Frame} (clean : reader.Clean frames)
    (code : Frame.inString frames = false) (quote : QuoteForm) (outer : List Delimiter) :
    Nesting.exact.read [] reader.kinds ≠ some (.string quote :: outer) := by
  rw [clean.nested]
  intro same
  cases frames with
  | nil => cases same
  | cons frame frames =>
      cases frame with
      | string quote opened => cases code
      | _ => cases same

theorem Honest.clean (honest : reader.Honest) (silent : reader.diagnostics = #[]) :
    reader.Clean reader.frames := by
  rcases honest with clean | faulty
  · exact clean
  · exact absurd silent faulty.told

/-- A token may come to stand where no string is open directly. -/
theorem Clean.pieced_push {frames : List Frame} (clean : before.Clean frames)
    (code : Frame.inString frames = false) (pieced : Pieced before.kinds)
    (kinds : after.kinds = before.kinds ++ [kind]) : Pieced after.kinds := by
  rw [kinds]
  exact pieced.concat fun quote outer read => absurd read (clean.not_string code quote outer)

/-! ## The layout rules -/

theorem fit_outdents (blocks : List Frame) :
    ∀ kind ∈ outdents blocks, kind.isPiece = true ∨ kind.closes?.isSome = true := by
  intro kind member
  rw [List.eq_of_mem_replicate member]
  exact Or.inr rfl

theorem InPieces.applyLayout (pieces : reader.InPieces) (clean : reader.Clean reader.frames)
    (code : Frame.inString reader.frames = false)
    (silent : (reader.applyLayout kind next).diagnostics = #[]) :
    (reader.applyLayout kind next).InPieces ∧
      Frame.inString (reader.applyLayout kind next).frames = false := by
  have laid := applyLayout_laid silent
  have cleanAfter := (applyLayout_honest (Or.inl clean) kind next).clean silent
  generalize reader.applyLayout kind next = after at laid cleanAfter
  cases laid with
  | @settles blocks outer separated split closed begins goesOn kinds frames =>
      have apart := pieces.apart
      rw [split] at apart code
      have around := apart.around closed code
      refine ⟨⟨?_, ?_⟩, by rw [frames]; exact around⟩
      · rw [frames]
        exact apart.of_suffix (List.suffix_append _ _)
      · have shallower := pieces.pieced.append (fit_outdents blocks)
        rw [kinds, ← List.append_assoc]
        cases separated with
        | false => exact shallower.append (List.forall_mem_nil _)
        | true =>
            refine shallower.concat fun quote inner read => ?_
            have inert : TokenKind.autoSemicolon.isInert = true := rfl
            have whole := (Nesting.exact.read_concat read).trans
              (Nesting.exact.step_of_inert inert)
            rw [frames] at cleanAfter
            have same : after.kinds =
                reader.kinds ++ outdents blocks ++ [.autoSemicolon] := by
              rw [kinds, List.append_assoc]
              rfl
            rw [← same] at whole
            exact absurd whole (cleanAfter.not_string around quote inner)
  | deepens level active opens kinds frames =>
      refine ⟨⟨?_, clean.pieced_push code pieces.pieced kinds⟩, by rw [frames]; rfl⟩
      rw [frames]
      exact pieces.apart.cons fun _ => code

/-! ## Reading -/

theorem InPieces.emit (pieces : reader.InPieces) (clean : reader.Clean reader.frames)
    (code : Frame.inString reader.frames = false)
    (silent : (reader.emit kind span next).diagnostics = #[]) :
    (reader.emit kind span next).InPieces := by
  have honest := applyLayout_honest (Or.inl clean) kind next
  unfold Reader.emit at silent ⊢
  dsimp only at silent ⊢
  split at silent
  · rename_i closer _
    have silentPlaced := (addCloser_grows _ _ _).silent silent
    rcases pieces.applyLayout clean code silentPlaced with ⟨placed, _⟩
    rcases addCloser_silent silent with ⟨blocks, target, around, closes⟩
    have apart := placed.apart
    rw [closes.split] at apart
    refine ⟨?_, ?_⟩
    · rw [closes.frames]
      exact apart.of_suffix ((List.suffix_cons _ _).trans (List.suffix_append _ _))
    · rw [closes.kinds, ← List.append_assoc]
      refine (placed.pieced.append (fit_outdents blocks)).concat fun _ _ _ => Or.inr ?_
      cases closer <;> rfl
  · split at silent
    · rcases pieces.applyLayout clean code silent with ⟨placed, codeInside⟩
      exact ⟨placed.apart.cons nofun, (honest.clean silent).pieced_push codeInside placed.pieced
        (kinds_add _ _ _)⟩
    · rcases pieces.applyLayout clean code silent with ⟨placed, codeInside⟩
      exact ⟨placed.apart, (honest.clean silent).pieced_push codeInside placed.pieced
        (kinds_add _ _ _)⟩

theorem InPieces.openString (pieces : reader.InPieces) (kind : TokenKind) (offset : Nat) :
    (reader.openString kind offset).InPieces := by
  cases kind with
  | stringStart quote => exact ⟨pieces.apart.cons nofun, pieces.pieced⟩
  | _ => exact pieces

/-- A piece of a string adds pieces or closes the string. -/
theorem InPieces.of_takesPiece {quote : QuoteForm} {opened : Nat} {outer : List Frame}
    {piece : StringText.Piece} {new : List Token} (pieces : before.InPieces)
    (inString : before.frames = .string quote opened :: outer)
    (takes : before.TakesPiece quote opened outer piece new after) : after.InPieces := by
  have apart := pieces.apart
  rw [inString] at apart
  refine ⟨?_, ?_⟩
  · rw [takes.frames]
    cases piece with
    | closing => exact apart.of_suffix (List.suffix_cons _ _)
    | spliceOpening => exact apart.cons nofun
    | _ => exact apart
  · rw [kinds_of_tokens takes.tokens, takes.kinds]
    apply pieces.pieced.append
    cases piece <;> simp [StringText.Piece.kinds, TokenKind.isPiece]

theorem InPieces.step [XidStart] (pieces : reader.InPieces) (clean : reader.Clean reader.frames)
    (silent : reader.Silent) (unread : reader.rest ≠ []) : reader.step.InPieces := by
  have told := (silent.step unread).diagnostics
  cases code : Frame.inString reader.frames with
  | true =>
      rcases Frame.exists_of_inString code with ⟨quote, opened, outer, frames⟩
      rcases step_takesPiece frames unread rfl (scanPiece_of_silent silent frames unread) with
        ⟨new, takes⟩
      exact pieces.of_takesPiece frames takes
  | false =>
      rcases List.exists_cons_of_ne_nil unread with ⟨c, rest, unreadText⟩
      rcases lexeme_cases silent code unreadText with ⟨trivia, found⟩ | ⟨kind, found⟩
      · have waits := step_waits code unreadText found
        refine ⟨by rw [waits.frames]; exact pieces.apart, ?_⟩
        unfold kinds
        rw [waits.tokens]
        exact pieces.pieced
      · rw [step_eq_emit code unreadText found rfl rfl] at told ⊢
        have emitted := (openString_tokens _ kind reader.offset).2.2.symm.trans told
        have read := (pieces.emit clean code emitted).openString kind reader.offset
        exact ⟨read.apart, read.pieced⟩

theorem InPieces.run [XidStart] (pieces : reader.InPieces) (honest : reader.Honest)
    (silent : reader.Silent) : reader.run.InPieces := by
  fun_induction Reader.run reader with
  | case1 reader atEnd => exact pieces
  | case2 reader more inductionHypothesis =>
      have unread : reader.rest ≠ [] := by simpa using more
      exact inductionHypothesis (pieces.step (honest.clean silent.diagnostics) silent unread)
        (step_honest honest) (silent.step unread)

end Reader

/-- In a source without lexical faults, a string that is left open by the tokens so far
goes on with one of its pieces. -/
theorem lex_pieces [XidStart] {source : String} {tabWidth : Nat}
    (silent : (lex source tabWidth).diagnostics = []) {front back : List TokenKind}
    {kind : TokenKind} {quote : QuoteForm} {outer : List Delimiter}
    (split : (lex source tabWidth).tokens.map Token.kind = front ++ kind :: back)
    (inString : Nesting.exact.read [] front = some (.string quote :: outer)) :
    kind.isPiece = true := by
  have silentReader : (Reader.start tabWidth source.toList).Silent := silent
  have ran : (Reader.start tabWidth source.toList).run.InPieces :=
    Reader.InPieces.run ⟨.nil, .nil⟩ (Reader.start_honest tabWidth source.toList) silentReader
  have mayEnd := Reader.mayEnd_of_silent (Array.toList_eq_nil_iff.mp silentReader)
  have kinds : (lex source tabWidth).tokens.map Token.kind = _ :=
    (Reader.finish_of_mayEnd mayEnd).1
  have nested := lex_nested source tabWidth silent
  rw [split, Nesting.read_append, inString, Option.bind_some, Nesting.read_cons] at nested
  rcases Option.bind_eq_some_iff.mp nested with ⟨inner, stepped, rest⟩
  have pieced : Pieced ((lex source tabWidth).tokens.map Token.kind) := by
    rw [kinds, ← List.append_assoc]
    refine (ran.pieced.append fun kind member => ?_).concat fun quote outer read => ?_
    · rw [List.eq_of_mem_replicate member]
      exact Or.inr rfl
    · have whole := lex_nested source tabWidth silent
      rw [kinds, ← List.append_assoc, Nesting.read_concat _ read,
        Nesting.step_of_inert _ rfl] at whole
      cases whole
  rcases pieced front kind back quote outer split inString with piece | closes
  · exact piece
  · rcases Option.isSome_iff_exists.mp closes with ⟨closed, found⟩
    by_cases same : Delimiter.string quote = Nesting.exact.view closed
    · cases kind with
      | stringEnd other => rfl
      | outdent => cases found; cases same
      | punctuation mark =>
          cases mark <;> first | (cases found; cases same) | cases found
      | _ => cases found
    · rw [Nesting.step_of_closes_ne _ found same] at stepped
      cases stepped

end Offside
