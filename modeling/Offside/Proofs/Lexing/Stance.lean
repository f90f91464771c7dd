import Offside.Proofs.Lexing.Scope

namespace Offside

/-!
# Where a reader stands

A reader always stands behind the text that it has read, in the column that this text
leads to.  Whether it stands at the beginning of a line depends on the trivia that waits:
a line feed in it begins a line, and a token ends the beginning.
-/

namespace Reader

variable {reader after : Reader}

/-! ## Layout leaves the column alone -/

/-- The place of a reader, and whether it is the beginning of a line. -/
structure Stance where
  tabWidth : Nat
  offset : Nat
  column : Nat
  atLineStart : Bool

def stance (reader : Reader) : Stance :=
  ⟨reader.tabWidth, reader.offset, reader.column, reader.atLineStart⟩

theorem closeBlocks_stance (reader : Reader) (column : Nat) :
    (reader.closeBlocks column).stance = reader.stance :=
  foldl_keeps stance (fun reader (_ : Frame) =>
    (rfl : (reader.insert .outdent reader.lastEnd).stance = reader.stance)) _ _

theorem beginLine_stance (reader : Reader) (column offset : Nat) (kind : TokenKind)
    (next : Option Char) :
    (reader.beginLine column offset kind next).stance = reader.stance := by
  have fitted := closeBlocks_stance reader column
  exact beginLine_cases (motive := fun after => after.stance = reader.stance) rfl
    fitted fitted fitted fun _ => fitted

theorem abandonGroups_stance (reader : Reader) :
    reader.abandonGroups.stance = reader.stance :=
  foldl_keeps stance (fun _ frame => by cases frame <;> rfl) _ _

theorem applyLayout_stance (reader : Reader) (kind : TokenKind) (next : Option Char) :
    (reader.applyLayout kind next).stance = { reader.stance with atLineStart := false } := by
  have outside := abandonGroups_stance { reader with atLineStart := false }
  refine applyLayout_cases
    (motive := fun after => after.stance = { reader.stance with atLineStart := false }) rfl
    (fun inLine => ?_) rfl (fun _ => beginLine_stance _ _ _ _ _) outside
    fun _ => (beginLine_stance _ _ _ _ _).trans outside
  unfold stance
  rw [inLine]

theorem addCloser_stance (reader : Reader) (closer : ClosingBracket) (span : Span) :
    (reader.addCloser closer span).stance = reader.stance := by
  unfold addCloser
  dsimp only
  split
  · rfl
  · exact foldl_keeps stance (fun _ frame => by cases frame <;> rfl) _ _

/-- A token ends the beginning of its line. -/
theorem emit_stance (reader : Reader) (kind : TokenKind) (span : Span) (next : Option Char) :
    (reader.emit kind span next).stance = { reader.stance with atLineStart := false } := by
  have placed := applyLayout_stance reader kind next
  unfold emit
  dsimp only
  split
  · exact (addCloser_stance _ _ _).trans placed
  · split <;> exact placed

theorem readPiece_stands [XidStart] {width : Nat} {whole : List Char}
    (stands : reader.Stands width whole) (quote : QuoteForm) (opened : Nat) (outer : List Frame) :
    (reader.readPiece quote opened outer).Stands width whole := by
  have front : ∀ {after : Reader} (length : Nat), after.tabWidth = reader.tabWidth →
      after.offset = reader.offset → after.column = reader.column →
        (after.advance (reader.rest.take length) (reader.rest.drop length)).Stands width whole :=
    fun length => stands.advance (List.take_append_drop length reader.rest).symm
  have dollar := @front (reader.add (.punctuation .dollar) (reader.spanOf (reader.rest.take 1))) 1
    rfl rfl rfl
  unfold readPiece
  dsimp only
  split
  · exact front _ rfl rfl rfl
  · exact dollar.advance (List.take_append_drop _ _).symm rfl rfl rfl
  · exact dollar.advance (List.take_append_drop _ _).symm rfl rfl rfl
  · exact front _ rfl rfl rfl
  · split
    · exact front _ rfl rfl rfl
    · exact front _ rfl rfl rfl

end Reader

namespace Lexeme

/-- Of the trivia only line feeds and block comments have line feeds in them. -/
theorem contains_newline_of_scan [XidStart] {operandBefore : Bool} {c : Char} {rest : List Char}
    {kind : TriviaKind} (found : (scan operandBefore c rest).lexeme = .trivia kind)
    (noComment : kind ≠ .blockComment) :
    (c :: rest.take (scan operandBefore c rest).more).contains '\n' = (kind == .newline) := by
  have clean : ∀ {d : Char} {test : Char → Bool}, d ≠ '\n' → test '\n' = false →
      (d :: rest.take (runLength test rest)).contains '\n' = false := by
    intro d test other stops
    rw [Bool.eq_false_iff, Ne, List.contains_iff_mem, List.mem_cons]
    rintro (same | member)
    · exact other same.symm
    · rw [take_runLength] at member
      have passes := List.all_eq_true.mp List.all_takeWhile _ member
      rw [stops] at passes
      cases passes
  rcases blank_or_comment found with blank | comment
  · by_cases isBreak : c = '\n'
    · subst isBreak
      rw [scan_newline] at found
      cases found
      rfl
    · rw [scan_blank _ _ isBreak blank] at found ⊢
      cases found
      exact clean isBreak rfl
  · have slash : c = '/' := by
      rw [startsComment_cons, Bool.and_eq_true, beq_iff_eq] at comment
      exact comment.1
    subst slash
    rw [scan_comment _ comment] at found ⊢
    split at found
    · rename_i line
      rw [if_pos line]
      cases found
      exact clean (by decide) rfl
    · unfold blockComment at found
      split at found
      · cases found
        exact absurd rfl noComment
      · cases found

end Lexeme

namespace Reader

variable {reader : Reader} {tabWidth : Nat} {source : String} {c : Char} {rest : List Char}

theorem line_addTrivia {kind : TriviaKind} {text : List Char}
    (line : reader.atLineStart =
      (reader.trivia.toList.any (Trivia.breaksLine source) || reader.tokens.toList.isEmpty))
    (breaks : Trivia.breaksLine source ⟨kind, reader.spanOf text⟩ = text.contains '\n') :
    (reader.atLineStart || text.contains '\n') =
      ((reader.addTrivia kind (reader.spanOf text)).trivia.toList.any (Trivia.breaksLine source) ||
        reader.tokens.toList.isEmpty) := by
  unfold addTrivia
  rw [Array.toList_push, List.any_append, List.any_cons, List.any_nil, Bool.or_false, breaks,
    line, Bool.or_right_comm]

/-- Trivia waits, and a line feed in it begins a line. -/
theorem readLexeme_eq_of_trivia [XidStart] {kind : TriviaKind}
    (found : (reader.lexeme c rest).lexeme = .trivia kind) {text beyond : List Char}
    (reads : c :: rest.take (reader.lexeme c rest).more = text)
    (leaves : rest.drop (reader.lexeme c rest).more = beyond) :
    reader.readLexeme c rest =
      ({ reader.addTrivia kind (reader.spanOf text) with
        atLineStart := reader.atLineStart || text.contains '\n' } : Reader).advance text
          beyond := by
  have breaks := @Lexeme.contains_newline_of_scan _ _ c rest kind found
  unfold lexeme at found reads leaves
  rw [reads] at breaks
  unfold readLexeme
  dsimp only
  rw [found, reads, leaves]
  cases kind with
  | newline =>
      rw [breaks nofun, beq_self_eq_true, Bool.or_true]
  | blockComment => rfl
  | whitespace =>
      rw [breaks nofun]
      show _ = ({ reader.addTrivia .whitespace (reader.spanOf text) with
        atLineStart := reader.atLineStart || false } : Reader).advance text beyond
      rw [Bool.or_false]
      rfl
  | lineComment =>
      rw [breaks nofun]
      show _ = ({ reader.addTrivia .lineComment (reader.spanOf text) with
        atLineStart := reader.atLineStart || false } : Reader).advance text beyond
      rw [Bool.or_false]
      rfl

end Reader
end Offside
