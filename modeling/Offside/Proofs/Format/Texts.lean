import Offside.Proofs.Format.Sight

namespace Offside

/-!
# The texts of pieces

A page can be read again only if no piece is empty and the last one does not end in a
blank, since an empty piece leaves no trace and blanks at the end of a page go.  Every
real token has a text.  Only plain text of a string may end in a blank, and behind it
the string has to be closed.
-/

namespace TokenKind

/-- The kinds of tokens that become pieces. -/
def reals (kinds : List TokenKind) : List TokenKind := kinds.filter isReal

theorem reals_append (kinds others : List TokenKind) :
    reals (kinds ++ others) = reals kinds ++ reals others :=
  List.filter_append kinds others

theorem reals_eq_nil {kinds : List TokenKind} (none : ∀ kind ∈ kinds, kind.isReal = false) :
    reals kinds = [] :=
  List.filter_eq_nil_iff.mpr fun kind member => Bool.eq_false_iff.mp (none kind member)

/-- The real tokens have texts, and the last of them does not end in a blank. -/
structure Legible (kinds : List TokenKind) (code : Bool) : Prop where
  nonempty : ∀ kind ∈ reals kinds, kind.text ≠ ""
  endsSolid : code = true → ∀ last ∈ (reals kinds).getLast?, EndsSolid last.text.toList

namespace Legible

variable {kinds others : List TokenKind} {code codeStill : Bool} {last : TokenKind}

/-- Tokens that become no pieces change nothing. -/
theorem append_of_reals (legible : Legible kinds code) (none : reals others = []) :
    Legible (kinds ++ others) code := by
  have same : reals (kinds ++ others) = reals kinds := by
    rw [reals_append, none, List.append_nil]
  refine ⟨?_, ?_⟩
  · rw [same]
    exact legible.nonempty
  · rw [same]
    exact legible.endsSolid

theorem append (legible : Legible kinds code) (nonempty : ∀ kind ∈ others, kind.text ≠ "")
    (isLast : others.getLast? = some last) (real : last.isReal = true)
    (endsSolid : codeStill = true → EndsSolid last.text.toList) :
    Legible (kinds ++ others) codeStill := by
  rcases List.getLast?_eq_some_iff.mp isLast with ⟨front, split⟩
  refine ⟨fun kind member => ?_, fun code kind ends => ?_⟩
  · rw [reals_append] at member
    rcases List.mem_append.mp member with early | late
    · exact legible.nonempty kind early
    · exact nonempty kind (List.mem_filter.mp late).1
  · have single : reals [last] = [last] := List.filter_cons_of_pos real
    rw [split, ← List.append_assoc, reals_append, single, List.getLast?_concat] at ends
    rw [← Option.some.inj ends]
    exact endsSolid code

end Legible

end TokenKind

namespace Lexeme

variable {operandBefore : Bool} {c : Char} {rest : List Char} {kind : TokenKind}

theorem text_ne_of_scan [XidStart] (found : (scan operandBefore c rest).lexeme.kind? = some kind) :
    kind.text ≠ "" := by
  intro none
  rcases text_of_scan found with shown | ⟨isMod, _⟩
  · rw [none] at shown
    cases shown
  · rw [isMod] at none
    revert none
    decide

theorem endsSolid_of_kind? [XidStart]
    (found : (scan operandBefore c rest).lexeme.kind? = some kind) :
    EndsSolid kind.text.toList := by
  cases isLexeme : (scan operandBefore c rest).lexeme with
  | trivia trivia =>
      rw [isLexeme] at found
      cases found
  | faulty fault =>
      rw [isLexeme] at found
      cases found
  | token kindThere =>
      rw [isLexeme] at found
      cases found
      exact endsSolid_of_scan isLexeme
  | stringOpening quote =>
      rw [isLexeme] at found
      cases found
      cases quote <;> exact .of_visible (by decide)

end Lexeme

namespace Reader

open TokenKind StringText

variable {reader : Reader} {c : Char} {rest : List Char} {kind : TokenKind}
  {quote : QuoteForm} {opened : Nat} {outer : List Frame}

/-- What a reader has found is legible, in a string but for the end of it. -/
def Legible (reader : Reader) : Prop :=
  TokenKind.Legible reader.kinds (!Frame.inString reader.frames)

theorem Legible.step_trivia [XidStart] (legible : reader.Legible)
    (code : Frame.inString reader.frames = false) (unread : reader.rest = c :: rest)
    {trivia : TriviaKind} (found : (reader.lexeme c rest).lexeme = .trivia trivia) :
    reader.step.Legible := by
  have waiting := step_waits code unread found
  unfold Legible kinds
  rw [waiting.tokens, waiting.frames]
  exact legible

theorem Legible.step_token [XidStart] (legible : reader.Legible) (readable : reader.Readable)
    (code : Frame.inString reader.frames = false) (unread : reader.rest = c :: rest)
    (found : (reader.lexeme c rest).lexeme.kind? = some kind) : reader.step.Legible := by
  rcases step_takes readable code unread found with ⟨inserted, token, around, takes, _⟩
  have layout : reals (inserted.map Token.kind) = [] :=
    reals_eq_nil fun kind member => isReal_of_isLayout (takes.emission.isLayout kind member)
  unfold Legible
  rw [kinds_of_tokens takes.tokens, List.map_append, List.map_singleton, takes.kind,
    ← List.append_assoc]
  exact (legible.append_of_reals layout).append
    (List.forall_mem_singleton.mpr (Lexeme.text_ne_of_scan found)) rfl (isReal_of_lexeme found)
    fun _ => Lexeme.endsSolid_of_kind? found

theorem eq_nil_of_ofList {text : List Char} (none : String.ofList text = "") : text = [] := by
  have nothing := congrArg String.toList none
  rw [String.toList_ofList] at nothing
  exact nothing

/-- The tokens of a piece of a string have texts. -/
theorem text_ne_of_scanPiece [XidStart] {text : List Char} {piece : StringText.Piece}
    (found : scanPiece quote text = piece) : ∀ kind ∈ piece.kinds quote text, kind.text ≠ "" := by
  have fits := fits_scanPiece quote text
  rw [found] at fits
  cases fits with
  | closing spells nonempty =>
      refine List.forall_mem_singleton.mpr ?_
      cases quote <;> decide
  | spliceOpening same =>
      exact List.forall_mem_cons.mpr ⟨by decide, List.forall_mem_singleton.mpr (by decide)⟩
  | @name c beyond length same positive =>
      refine List.forall_mem_cons.mpr ⟨by decide, List.forall_mem_singleton.mpr fun none => ?_⟩
      have nothing : (text.drop 1).take length = [] := eq_nil_of_ofList none
      rw [same] at nothing
      cases length with
      | zero => cases positive
      | succ length => cases nothing
  | @text length nonempty =>
      exact List.forall_mem_singleton.mpr fun none => nonempty (eq_nil_of_ofList none)
  | cutOff length => exact List.forall_mem_nil _

theorem Legible.step_piece [XidStart] (legible : reader.Legible) (readable : reader.Readable)
    (inString : reader.frames = .string quote opened :: outer) : reader.step.Legible := by
  rcases takesPiece_of_silent readable.silent inString with ⟨unread, whole, new, takes⟩
  have nonempty := @text_ne_of_scanPiece quote _ reader.rest _ rfl
  generalize scanPiece quote reader.rest = piece at takes whole nonempty
  unfold Legible
  rw [kinds_of_tokens takes.tokens, takes.kinds, takes.frames]
  cases piece with
  | cutOff length => exact absurd rfl (whole length)
  | closing =>
      refine TokenKind.Legible.append legible nonempty rfl rfl fun _ => ?_
      cases quote <;> exact .of_visible (by decide)
  | spliceOpening =>
      exact TokenKind.Legible.append legible nonempty rfl rfl
        fun _ => .of_visible (by decide)
  | name length => exact TokenKind.Legible.append legible nonempty rfl rfl nofun
  | text length => exact TokenKind.Legible.append legible nonempty rfl rfl nofun

/-- What a reader finds to the end is legible. -/
theorem Legible.finish [XidStart] (legible : reader.Legible) (readable : reader.Readable) :
    TokenKind.Legible (reader.run.finish.tokens.map Token.kind) true := by
  fun_induction run reader with
  | case1 reader atEnd =>
      have read := List.isEmpty_iff.mp atEnd
      have code : Frame.inString reader.frames = false := by
        cases inString : Frame.inString reader.frames with
        | false => rfl
        | true => exact absurd read (readable.silent.unread inString)
      unfold Legible at legible
      rw [code] at legible
      rw [(finish_of_mayEnd (readable.silent.mayEnd read)).1]
      refine legible.append_of_reals (reals_eq_nil fun kind member => ?_)
      rcases List.mem_append.mp member with outdent | ending
      · rw [List.eq_of_mem_replicate outdent]
        rfl
      · rw [List.mem_singleton.mp ending]
        rfl
  | case2 reader unread inductionHypothesis =>
      have unreadStill : reader.rest ≠ [] := fun read => unread (List.isEmpty_iff.mpr read)
      rcases List.exists_cons_of_ne_nil unreadStill with ⟨c, rest, same⟩
      refine inductionHypothesis ?_ (readable.step unreadStill)
      cases code : Frame.inString reader.frames with
      | false =>
          rcases lexeme_cases readable.silent code same with ⟨trivia, found⟩ | ⟨kind, found⟩
          · exact legible.step_trivia code same found
          · exact legible.step_token readable code same found
      | true =>
          rcases Frame.exists_of_inString code with ⟨quote, opened, outer, inString⟩
          exact legible.step_piece readable inString

end Reader

/-! ## Pieces -/

namespace Arrangement

variable {arrangement : Arrangement} {begins : Token → Bool} {tokens : List Token}

/-- The pieces show the real tokens. -/
theorem map_text_pieces :
    (arrangement.pieces begins tokens).map Piece.text =
      (TokenKind.reals (tokens.map Token.kind)).map TokenKind.text := by
  induction tokens generalizing arrangement with
  | nil => rfl
  | cons token tokens inductionHypothesis =>
      rcases token with ⟨kind, span, leading⟩
      cases kind with
      | indent => exact inductionHypothesis
      | outdent => exact inductionHypothesis
      | autoSemicolon => exact inductionHypothesis
      | endOfFile => exact inductionHypothesis
      | _ => exact congrArg (_ :: ·) inductionHypothesis

theorem text_ne_of_legible (legible : TokenKind.Legible (tokens.map Token.kind) true) :
    ∀ piece ∈ arrangement.pieces begins tokens, piece.text ≠ "" := by
  intro piece member
  have shown := List.mem_map_of_mem (f := Piece.text) member
  rw [map_text_pieces] at shown
  rcases List.mem_map.mp shown with ⟨kind, isReal, same⟩
  rw [← same]
  exact legible.nonempty kind isReal

theorem endsSolid_of_legible (legible : TokenKind.Legible (tokens.map Token.kind) true) :
    ∀ last ∈ (arrangement.pieces begins tokens).getLast?, EndsSolid last.text.toList := by
  intro last ends
  have shown : ((arrangement.pieces begins tokens).map Piece.text).getLast? =
      some last.text := by
    rw [List.getLast?_map, ends]
    rfl
  rw [map_text_pieces, List.getLast?_map] at shown
  rcases Option.map_eq_some_iff.mp shown with ⟨kind, isLast, same⟩
  rw [← same]
  exact legible.endsSolid rfl kind isLast

end Arrangement
end Offside
