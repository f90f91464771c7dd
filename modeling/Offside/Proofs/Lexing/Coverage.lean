import Offside.Proofs.Lexing.Growth
import Offside.Proofs.Lexing.Spelling

namespace Offside

/-!
# Tokens and trivia cover the text

Reading a source never loses a character: at every point the text that has been
read is made up of the tokens that were read, the trivia in front of them and the
trivia that still waits.  Each of these has its place by the number of bytes in
front of it.  Inserted tokens stand anywhere in between and cover nothing.
-/

open Utf8

/-- Pieces of trivia, one behind the other from a byte offset on, make up a text. -/
inductive Trivia.Covers (start : Nat) : List Trivia → List Char → Prop
  | nil : Covers start [] []
  | snoc {pieces : List Trivia} {text : List Char} (kind : TriviaKind) (piece : List Char)
      (covers : Covers start pieces text) (nonempty : piece ≠ []) :
      Covers start
        (pieces ++ [⟨kind, ⟨start + byteLength text, start + byteLength text + byteLength piece⟩⟩])
        (text ++ piece)

/-- Tokens with their leading trivia make up a text. -/
inductive Token.Covers : List Token → List Char → Prop
  | nil : Covers [] []
  | inserted {tokens : List Token} {text : List Char} {token : Token}
      (covers : Covers tokens text) (inserted : token.IsInserted) :
      Covers (tokens ++ [token]) text
  | read {tokens : List Token} {text blank own : List Char} {leading : List Trivia}
      {kind : TokenKind} (covers : Covers tokens text)
      (trivia : Trivia.Covers (byteLength text) leading blank) (spells : kind.Spells own)
      (nonempty : own ≠ []) :
      Covers
        (tokens ++ [⟨kind, ⟨byteLength (text ++ blank),
          byteLength (text ++ blank) + byteLength own⟩, leading⟩])
        (text ++ blank ++ own)

theorem Token.Covers.append_inserted {tokens inserted : List Token} {text : List Char}
    (covers : Token.Covers tokens text) (each : ∀ token ∈ inserted, token.IsInserted) :
    Token.Covers (tokens ++ inserted) text := by
  induction inserted generalizing tokens with
  | nil =>
      rw [List.append_nil]
      exact covers
  | cons token inserted inductionHypothesis =>
      rw [List.forall_mem_cons] at each
      rw [List.append_cons]
      exact inductionHypothesis (covers.inserted each.1) each.2

/-- A token among some others that make up a text: the tokens in front of it make up a front
part of the text, its trivia and the token itself what comes next. -/
structure Token.Stands (front : List Token) (token : Token) (before blank own : List Char) :
    Prop where
  covers : Token.Covers front before
  trivia : Trivia.Covers (byteLength before) token.leading blank
  spells : token.kind.Spells own
  nonempty : own ≠ []
  span : token.span =
    ⟨byteLength (before ++ blank), byteLength (before ++ blank) + byteLength own⟩

/-- Every one of some tokens that make up a text was inserted or has its place in the text. -/
theorem Token.Covers.split {tokens : List Token} {text : List Char}
    (covers : Token.Covers tokens text) :
    ∀ front token back, tokens = front ++ token :: back →
      token.IsInserted ∨ ∃ before blank own beyond, text = before ++ blank ++ own ++ beyond ∧
        token.Stands front before blank own := by
  induction covers with
  | nil =>
      intro front token back none
      cases front <;> cases none
  | @inserted tokens text last covers inserted inductionHypothesis =>
      intro front token back parts
      rcases split_concat parts with ⟨inner, -, before⟩ | ⟨-, -, rfl⟩
      · exact inductionHypothesis front token inner before
      · exact .inl inserted
  | @read tokens text blank own leading kind covers trivia spells nonempty
      inductionHypothesis =>
      intro front token back parts
      rcases split_concat parts with ⟨inner, -, same⟩ | ⟨-, rfl, rfl⟩
      · rcases inductionHypothesis front token inner same with
          inserted | ⟨before, between, there, beyond, whole, stands⟩
        · exact .inl inserted
        · refine .inr ⟨before, between, there, beyond ++ blank ++ own, ?_, stands⟩
          simp only [whole, List.append_assoc]
      · refine .inr ⟨text, blank, own, [], (List.append_nil _).symm, ?_⟩
        exact ⟨covers, trivia, spells, nonempty, rfl⟩

namespace Reader

/-! ## The account of a reader -/

/-- The tokens of a reader and the trivia that waits make up a text. -/
def Covers (reader : Reader) (text : List Char) : Prop :=
  ∃ spelled waiting, text = spelled ++ waiting ∧
    Token.Covers reader.tokens.toList spelled ∧
    Trivia.Covers (byteLength spelled) reader.trivia.toList waiting

/-- A reader has read a text and stands right behind it. -/
structure HasRead (reader : Reader) (text : List Char) : Prop where
  offset : reader.offset = byteLength text
  covers : reader.Covers text

variable {reader before after : Reader} {text piece own : List Char} {kind : TokenKind}

theorem Inserts.covers (inserts : before.Inserts after) (covers : before.Covers text) :
    after.Covers text := by
  rcases covers with ⟨spelled, waiting, same, tokens, trivia⟩
  rcases inserts.tokens with ⟨inserted, added, each⟩
  refine ⟨spelled, waiting, same, ?_, ?_⟩
  · rw [added]
    exact tokens.append_inserted each
  · rw [inserts.trivia]
    exact trivia

theorem Inserts.hasRead (inserts : before.Inserts after) (read : before.HasRead text) :
    after.HasRead text :=
  ⟨inserts.offset.trans read.offset, inserts.covers read.covers⟩

/-- A token is read right behind the text that is covered so far. -/
theorem HasRead.add (read : reader.HasRead text) (spells : kind.Spells own)
    (nonempty : own ≠ []) : (reader.add kind (reader.spanOf own)).Covers (text ++ own) := by
  rcases read.covers with ⟨spelled, waiting, same, tokens, trivia⟩
  subst same
  refine ⟨spelled ++ waiting ++ own, [], (List.append_nil _).symm, ?_, .nil⟩
  unfold Reader.add spanOf
  rw [Array.toList_push, read.offset]
  exact tokens.read trivia spells nonempty

theorem HasRead.addTrivia (read : reader.HasRead text) (kind : TriviaKind)
    (nonempty : piece ≠ []) :
    (reader.addTrivia kind (reader.spanOf piece)).Covers (text ++ piece) := by
  rcases read.covers with ⟨spelled, waiting, same, tokens, trivia⟩
  subst same
  refine ⟨spelled, waiting ++ piece, List.append_assoc _ _ _, tokens, ?_⟩
  unfold Reader.addTrivia spanOf
  rw [Array.toList_push, read.offset, byteLength_append]
  exact trivia.snoc kind piece nonempty

/-- The text of what was added is left behind. -/
theorem Covers.advance (covers : reader.Covers (text ++ piece))
    (offset : reader.offset = byteLength text) (rest : List Char) :
    (reader.advance piece rest).HasRead (text ++ piece) := by
  refine ⟨?_, covers⟩
  unfold Reader.advance
  rw [offset, byteLength_append]

/-- A token that is emitted covers its text, whatever is inserted in front of it. -/
theorem HasRead.emit (read : reader.HasRead text) (spells : kind.Spells own)
    (nonempty : own ≠ []) (next : Option Char) :
    (reader.emit kind (reader.spanOf own) next).Covers (text ++ own) ∧
      (reader.emit kind (reader.spanOf own) next).offset = reader.offset := by
  have emitted := emit_emits reader kind (reader.spanOf own) next
  generalize reader.emit kind (reader.spanOf own) next = after at emitted ⊢
  cases emitted with
  | @kept placed inserts =>
      have same : reader.spanOf own = placed.spanOf own := by
        unfold spanOf
        rw [inserts.offset]
      rw [same]
      exact ⟨(inserts.hasRead read).add spells nonempty, inserts.offset⟩
  | @unmatched placed closer inserts closes reported =>
      have same : reader.spanOf own = placed.spanOf own := by
        unfold spanOf
        rw [inserts.offset]
      have closerSpells : (TokenKind.error closer.char.toString).Spells own := by
        rw [closes] at spells
        rcases spells with shown | ⟨other, _⟩
        · apply Or.inl
          rw [← shown]
          cases closer <;> rfl
        · cases other
      rw [same]
      exact ⟨(inserts.hasRead read).add closerSpells nonempty, inserts.offset⟩

/-! ## Reading lexemes and pieces of strings -/

theorem readLexeme_hasRead [XidStart] {c : Char} {rest : List Char} (read : reader.HasRead text) :
    ∃ taken beyond, c :: rest = taken ++ beyond ∧
      (reader.readLexeme c rest).rest = beyond ∧
      (reader.readLexeme c rest).HasRead (text ++ taken) := by
  have fits := Lexeme.fits_scan (reader.lastKind?.any TokenKind.endsOperand) c rest
  unfold Lexeme.Found.Fits at fits
  unfold readLexeme
  dsimp only
  generalize Lexeme.scan (reader.lastKind?.any TokenKind.endsOperand) c rest = found at fits
  refine ⟨c :: rest.take found.more, rest.drop found.more, ?_, rfl, ?_⟩
  · rw [List.cons_append, List.take_append_drop]
  · generalize own : c :: rest.take found.more = taken at fits
    have nonempty : taken ≠ [] := by
      rw [← own]
      exact List.cons_ne_nil _ _
    split
    · refine Covers.advance ?_ ?_ _
      · exact read.addTrivia .newline nonempty
      · exact read.offset
    · refine Covers.advance ?_ ?_ _
      · exact read.addTrivia .blockComment nonempty
      · exact read.offset
    · exact (read.addTrivia _ nonempty).advance read.offset _
    · rename_i kind same
      rw [same] at fits
      cases fits with
      | token lexical spells =>
          have emitted := read.emit spells nonempty (rest.drop found.more).head?
          exact emitted.1.advance (emitted.2.trans read.offset) _
    · rename_i quote same
      rw [same] at fits
      cases fits with
      | opening spells =>
          have emitted := read.emit spells nonempty (rest.drop found.more).head?
          refine Covers.advance ?_ ?_ _
          · exact emitted.1
          · exact emitted.2.trans read.offset
    · have reported : (reader.report ‹LexicalFault› (reader.spanOf taken)).HasRead text :=
        (Inserts.report _ _ _).hasRead read
      have spells : (TokenKind.error (String.ofList taken)).Spells taken := Or.inl rfl
      have emitted := reported.emit spells nonempty (rest.drop found.more).head?
      exact Covers.advance emitted.1 (emitted.2.trans reported.offset) _

theorem readPiece_hasRead [XidStart] {quote : QuoteForm} {opened : Nat} {outer : List Frame}
    (read : reader.HasRead text) :
    ∃ taken beyond, reader.rest = taken ++ beyond ∧
      (reader.readPiece quote opened outer).rest = beyond ∧
      (reader.readPiece quote opened outer).HasRead (text ++ taken) := by
  have fits := StringText.fits_scanPiece quote reader.rest
  unfold readPiece
  dsimp only
  generalize reader.rest = unread at fits
  generalize StringText.scanPiece quote unread = piece at fits
  cases fits with
  | closing spells nonempty =>
      refine ⟨unread.take (StringText.marksLength quote),
        unread.drop (StringText.marksLength quote), (List.take_append_drop _ _).symm, rfl, ?_⟩
      refine Covers.advance ?_ ?_ _
      · exact read.add spells nonempty
      · exact read.offset
  | @spliceOpening beyond same =>
      subst same
      refine ⟨['$', '{'], beyond, rfl, rfl, ?_⟩
      have dollar : ((reader.add (.punctuation .dollar) (reader.spanOf ['$'])).advance ['$']
          ('{' :: beyond)).HasRead (text ++ ['$']) := by
        refine Covers.advance ?_ ?_ _
        · exact read.add (Or.inl rfl) (List.cons_ne_nil _ _)
        · exact read.offset
      rw [List.append_cons]
      refine Covers.advance ?_ ?_ _
      · exact dollar.add (Or.inl rfl) (List.cons_ne_nil _ _)
      · exact dollar.offset
  | @name c beyond length same positive =>
      subst same
      refine ⟨'$' :: (c :: beyond).take length, (c :: beyond).drop length, ?_, rfl, ?_⟩
      · rw [List.cons_append, List.take_append_drop]
      · have dollar : ((reader.add (.punctuation .dollar) (reader.spanOf ['$'])).advance ['$']
            (c :: beyond)).HasRead (text ++ ['$']) := by
          refine Covers.advance ?_ ?_ _
          · exact read.add (Or.inl rfl) (List.cons_ne_nil _ _)
          · exact read.offset
        have nonempty : (c :: beyond).take length ≠ [] := by
          intro nothing
          rcases List.take_eq_nil_iff.mp nothing with zero | empty
          · omega
          · cases empty
        rw [List.append_cons]
        refine Covers.advance ?_ ?_ _
        · exact dollar.add (Or.inl rfl) nonempty
        · exact dollar.offset
  | @text length nonempty =>
      refine ⟨unread.take length, unread.drop length, (List.take_append_drop _ _).symm, rfl, ?_⟩
      refine Covers.advance ?_ ?_ _
      · exact read.add (Or.inl rfl) nonempty
      · exact read.offset
  | cutOff length =>
      refine ⟨unread.take length, unread.drop length, (List.take_append_drop _ _).symm, rfl, ?_⟩
      dsimp only
      generalize unread.take length = piece
      refine Covers.advance ?_ ?_ _
      · apply (Inserts.insert _ _ rfl).covers
        split
        · rename_i nothing
          rw [List.isEmpty_iff.mp nothing, List.append_nil]
          exact read.covers
        · rename_i something
          refine read.add (Or.inl rfl) fun nothing => ?_
          rw [nothing] at something
          exact something rfl
      · exact (reader.addFragment_offset piece).trans read.offset

/-- A step takes some text from the front of what is left. -/
theorem step_hasRead [XidStart] (read : reader.HasRead text) :
    ∃ taken beyond, reader.rest = taken ++ beyond ∧ reader.step.rest = beyond ∧
      reader.step.HasRead (text ++ taken) := by
  unfold step
  split
  · rename_i atEnd
    refine ⟨[], [], atEnd, atEnd, ?_⟩
    rw [List.append_nil]
    exact read
  · rename_i c rest unread
    split
    · exact readPiece_hasRead read
    · rw [unread]
      exact readLexeme_hasRead read

/-- At the end of a run all of the text has been read. -/
theorem run_hasRead [XidStart] (read : reader.HasRead text) :
    reader.run.HasRead (text ++ reader.rest) := by
  fun_induction run reader generalizing text with
  | case1 reader atEnd =>
      rw [List.isEmpty_iff.mp atEnd, List.append_nil]
      exact read
  | case2 reader unread inductionHypothesis =>
      rcases step_hasRead read with ⟨taken, beyond, whole, left, stepped⟩
      have ended := inductionHypothesis stepped
      rw [left, List.append_assoc, ← whole] at ended
      exact ended

theorem start_hasRead (tabWidth : Nat) (source : List Char) :
    (start tabWidth source).HasRead [] :=
  ⟨rfl, [], [], rfl, .nil, .nil⟩

end Reader

/-- The tokens of a source end in a mark that takes the trivia behind the last of the
other tokens. -/
theorem lex_covers [XidStart] (source : String) (tabWidth : Nat) :
    ∃ tokens spelled trailing waiting, source.toList = spelled ++ waiting ∧
      (lex source tabWidth).tokens =
        tokens ++ [⟨.endOfFile, .empty (byteLength source.toList), trailing⟩] ∧
      Token.Covers tokens spelled ∧ Trivia.Covers (byteLength spelled) trailing waiting := by
  have read := Reader.run_hasRead (Reader.start_hasRead tabWidth source.toList)
  unfold lex Reader.finish
  dsimp only
  generalize (Reader.start tabWidth source.toList).run = reader at read
  have closed : (reader.frames.foldl Reader.closeAtEnd reader).HasRead source.toList :=
    (Reader.Inserts.foldl Reader.Inserts.closeAtEnd _ _).hasRead read
  rcases closed.covers with ⟨spelled, waiting, whole, tokens, trivia⟩
  refine ⟨_, spelled, _, waiting, whole, ?_, tokens, trivia⟩
  unfold Reader.add
  rw [Array.toList_push, read.offset]
  rfl

/-- Every token of a source was inserted, marks its end or has its place in it. -/
theorem lex_stands [XidStart] {source : String} {tabWidth : Nat} {front back : List Token}
    {token : Token} (parts : (lex source tabWidth).tokens = front ++ token :: back) :
    token.IsInserted ∨ token.kind = .endOfFile ∧ token.span = .empty (byteLength source.toList) ∨
      ∃ before blank own beyond, source.toList = before ++ blank ++ own ++ beyond ∧
        token.Stands front before blank own := by
  rcases lex_covers source tabWidth with
    ⟨tokens, spelled, trailing, waiting, whole, same, covers, trivia⟩
  rw [same] at parts
  rcases split_concat parts with ⟨inner, -, same⟩ | ⟨-, -, rfl⟩
  · rcases covers.split front token inner same with
      inserted | ⟨before, blank, own, beyond, text, stands⟩
    · exact .inl inserted
    · refine .inr (.inr ⟨before, blank, own, beyond ++ waiting, ?_, stands⟩)
      simp only [whole, text, List.append_assoc]
  · exact .inr (.inl ⟨rfl, rfl⟩)

end Offside
