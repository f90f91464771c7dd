import Offside.Proofs.Lexing.Parallel
import Offside.Proofs.Lexing.Stance

namespace Offside

/-!
# One step of two readers

Two parallel readers stay parallel when they read lexemes that belong to each other.  The
texts of the lexemes may differ, but the readers must come to stand in the same column
and in places that belong to each other, and in front of a blank or in front of none.
-/

/-- What becomes of a lexeme when the texts of strings are edited. -/
def Lexeme.mapText (edit : String → String) : Lexeme → Lexeme
  | token kind => token (kind.mapText edit)
  | lexeme => lexeme

theorem Lexeme.mapText_id (lexeme : Lexeme) : lexeme.mapText id = lexeme := by
  cases lexeme with
  | token kind => exact congrArg Lexeme.token (TokenKind.mapText_id kind)
  | _ => rfl

namespace Reader

/-! ## Where a step leads to -/

/-- A reader has added something and stands where it stood. -/
structure StaysPut (before after : Reader) : Prop where
  tabWidth : after.tabWidth = before.tabWidth
  offset : after.offset = before.offset
  column : after.column = before.column

theorem emit_staysPut (reader : Reader) (kind : TokenKind) (span : Span) (next : Option Char) :
    reader.StaysPut (reader.emit kind span next) where
  tabWidth := congrArg Stance.tabWidth (emit_stance reader kind span next)
  offset := congrArg Stance.offset (emit_stance reader kind span next)
  column := congrArg Stance.column (emit_stance reader kind span next)

theorem StaysPut.trans {before middle after : Reader} (first : before.StaysPut middle)
    (second : middle.StaysPut after) : before.StaysPut after :=
  ⟨second.tabWidth.trans first.tabWidth, second.offset.trans first.offset,
    second.column.trans first.column⟩

theorem StaysPut.openFrame {before after : Reader} (stays : before.StaysPut after)
    (frame : Frame) : before.StaysPut (after.openFrame frame) :=
  ⟨stays.tabWidth, stays.offset, stays.column⟩

theorem report_staysPut (reader : Reader) (fault : LexicalFault) (span : Span) :
    reader.StaysPut (reader.report fault span) :=
  ⟨rfl, rfl, rfl⟩

theorem addFragment_staysPut (reader : Reader) (piece : List Char) :
    reader.StaysPut (reader.addFragment piece) := by
  unfold addFragment
  split <;> exact ⟨rfl, rfl, rfl⟩

/-- A reader has moved past a text. -/
structure Passes (before : Reader) (text : List Char) (after : Reader) : Prop where
  tabWidth : after.tabWidth = before.tabWidth
  rest : before.rest = text ++ after.rest
  offset : after.offset = before.offset + Utf8.byteLength text
  column : after.column = Column.afterText before.tabWidth before.column text

theorem Passes.trans {before middle after : Reader} {text other : List Char}
    (first : before.Passes text middle) (second : middle.Passes other after) :
    before.Passes (text ++ other) after where
  tabWidth := second.tabWidth.trans first.tabWidth
  rest := by rw [first.rest, second.rest, List.append_assoc]
  offset := by rw [second.offset, first.offset, Utf8.byteLength_append, Nat.add_assoc]
  column := by
    rw [second.column, first.column, first.tabWidth]
    exact List.foldl_append.symm

variable {reader after : Reader}

theorem StaysPut.passes {text beyond : List Char} (stays : reader.StaysPut after)
    (unread : reader.rest = text ++ beyond) : reader.Passes text (after.advance text beyond) where
  tabWidth := stays.tabWidth
  rest := unread
  offset := congrArg (· + Utf8.byteLength text) stays.offset
  column := by
    show Column.afterText after.tabWidth after.column text = _
    rw [stays.tabWidth, stays.column]

theorem readLexeme_passes [XidStart] {c : Char} {rest : List Char}
    (unread : reader.rest = c :: rest) :
    reader.Passes (c :: rest.take (reader.lexeme c rest).more) (reader.readLexeme c rest) := by
  have split : reader.rest = (c :: rest.take (reader.lexeme c rest).more) ++
      rest.drop (reader.lexeme c rest).more := by
    rw [unread, List.cons_append, List.take_append_drop]
  unfold lexeme at split ⊢
  unfold readLexeme
  dsimp only
  split
  · exact StaysPut.passes ⟨rfl, rfl, rfl⟩ split
  · exact StaysPut.passes ⟨rfl, rfl, rfl⟩ split
  · exact StaysPut.passes ⟨rfl, rfl, rfl⟩ split
  · exact (emit_staysPut _ _ _ _).passes split
  · exact ((emit_staysPut _ _ _ _).openFrame _).passes split
  · exact ((report_staysPut _ _ _).trans (emit_staysPut _ _ _ _)).passes split

theorem readPiece_passes [XidStart] (reader : Reader) (quote : QuoteForm) (opened : Nat)
    (outer : List Frame) :
    reader.Passes
      (reader.rest.take ((StringText.scanPiece quote reader.rest).reach quote))
      (reader.readPiece quote opened outer) := by
  have front : ∀ {before after : Reader} (count : Nat), before.StaysPut after →
      before.Passes (before.rest.take count)
        (after.advance (before.rest.take count) (before.rest.drop count)) :=
    fun count stays => stays.passes (List.take_append_drop count _).symm
  have dollar : reader.Passes (reader.rest.take 1)
      ((reader.add (.punctuation .dollar) (reader.spanOf (reader.rest.take 1))).advance
        (reader.rest.take 1) (reader.rest.drop 1)) := front 1 ⟨rfl, rfl, rfl⟩
  have behindDollar : ∀ count,
      reader.rest.take (count + 1) = reader.rest.take 1 ++ (reader.rest.drop 1).take count := by
    intro count
    rw [Nat.add_comm, List.take_add]
  unfold readPiece
  dsimp only
  split
  · rename_i found
    rw [found]
    exact front _ ⟨rfl, rfl, rfl⟩
  · rename_i found
    rw [found]
    show reader.Passes (reader.rest.take (1 + 1)) _
    rw [behindDollar]
    exact dollar.trans (front 1 ⟨rfl, rfl, rfl⟩)
  · rename_i length found
    rw [found]
    show reader.Passes (reader.rest.take (length + 1)) _
    rw [behindDollar]
    exact dollar.trans (front length ⟨rfl, rfl, rfl⟩)
  · rename_i found
    rw [found]
    exact front _ ⟨rfl, rfl, rfl⟩
  · rename_i length found
    rw [found]
    show reader.Passes (reader.rest.take length) _
    split <;> exact front _ ⟨rfl, rfl, rfl⟩

namespace Parallels

variable {rewriting : Rewriting} {first second after afterThere : Reader}

/-- Two parallel readers stand in a string or in none. -/
theorem inString (parallels : Parallels rewriting first second) :
    Frame.inString second.frames = Frame.inString first.frames := by
  have blind : ∀ frames : List Frame,
      Frame.inString (frames.map Frame.shape) = Frame.inString frames := by
    intro frames
    cases frames with
    | nil => rfl
    | cons frame frames => exact Frame.isString_shape frame
  rw [← blind, parallels.frames, blind]

theorem string_frames (parallels : Parallels rewriting first second) {quote : QuoteForm}
    {opened : Nat} {outer : List Frame} (frames : first.frames = .string quote opened :: outer) :
    ∃ openedThere outerThere, second.frames = .string quote openedThere :: outerThere ∧
      outerThere.map Frame.shape = outer.map Frame.shape := by
  have shapes := parallels.frames
  rw [frames] at shapes
  cases there : second.frames with
  | nil =>
      rw [there] at shapes
      cases shapes
  | cons frame outerThere =>
      rw [there] at shapes
      rcases List.cons.inj shapes with ⟨head, tail⟩
      cases frame <;> cases head
      exact ⟨_, _, rfl, tail⟩

/-- Two readers that have added something move past texts that belong to each other. -/
theorem advanceFrom (parallels : Parallels rewriting after afterThere)
    (stays : first.StaysPut after) (staysThere : second.StaysPut afterThere)
    {text textThere : List Char} (beyond beyondThere : List Char)
    (columns : Column.afterText second.tabWidth second.column textThere =
      Column.afterText first.tabWidth first.column text)
    (places : rewriting.place (first.offset + Utf8.byteLength text)
      (second.offset + Utf8.byteLength textThere)) :
    Parallels rewriting (after.advance text beyond) (afterThere.advance textThere beyondThere) := by
  refine parallels.advance _ _ ?_ ?_
  · rw [stays.tabWidth, stays.column, staysThere.tabWidth, staysThere.column]
    exact columns
  · rw [stays.offset, staysThere.offset]
    exact places

/-! ## Lexemes -/

/-- The same lexeme, up to the texts of strings. -/
theorem readLexeme [XidStart] (parallels : Parallels rewriting first second) {c d : Char}
    {rest other text textThere beyond beyondThere : List Char}
    (reads : c :: rest.take (first.lexeme c rest).more = text)
    (leaves : rest.drop (first.lexeme c rest).more = beyond)
    (readsThere : d :: other.take (second.lexeme d other).more = textThere)
    (leavesThere : other.drop (second.lexeme d other).more = beyondThere)
    (same : (second.lexeme d other).lexeme =
      (first.lexeme c rest).lexeme.mapText rewriting.edit)
    (breaks : textThere.contains '\n' = text.contains '\n')
    (faulty : ∀ fault, (first.lexeme c rest).lexeme = .faulty fault → textThere = text)
    (follows : (∃ kind, (first.lexeme c rest).lexeme = .trivia kind) ∨
      (beyondThere.head?.any fun c => !isBlank c) = beyond.head?.any fun c => !isBlank c)
    (columns : Column.afterText second.tabWidth second.column textThere =
      Column.afterText first.tabWidth first.column text)
    (places : rewriting.place (first.offset + Utf8.byteLength text)
      (second.offset + Utf8.byteLength textThere)) :
    Parallels rewriting (first.readLexeme c rest) (second.readLexeme d other) := by
  have emitted : (∀ kind, (first.lexeme c rest).lexeme ≠ .trivia kind) →
      ∀ {before beforeThere : Reader}, Parallels rewriting before beforeThere →
        first.StaysPut before → second.StaysPut beforeThere → ∀ kind : TokenKind,
        Parallels rewriting (before.emit kind (first.spanOf text) beyond.head?)
          (beforeThere.emit (kind.mapText rewriting.edit) (second.spanOf textThere)
            beyondThere.head?) := by
    intro noTrivia before beforeThere parallelsHere stays staysThere kind
    refine parallelsHere.emit kind parallels.offset places ?_
    exact follows.resolve_left fun ⟨kind, isTrivia⟩ => noTrivia kind isTrivia
  cases found : (first.lexeme c rest).lexeme with
  | trivia kind =>
      rw [found] at same
      rw [readLexeme_eq_of_trivia found reads leaves,
        readLexeme_eq_of_trivia same readsThere leavesThere, parallels.atLineStart, breaks]
      exact ((parallels.addTrivia kind _ _).setAtLineStart _).advance _ _ columns places
  | token kind =>
      rw [found] at same emitted
      unfold lexeme at found same reads leaves readsThere leavesThere
      unfold Reader.readLexeme
      dsimp only
      rw [found, same, reads, leaves, readsThere, leavesThere]
      exact (emitted nofun parallels ⟨rfl, rfl, rfl⟩ ⟨rfl, rfl, rfl⟩ kind).advanceFrom
        (emit_staysPut _ _ _ _) (emit_staysPut _ _ _ _) _ _ columns places
  | stringOpening quote =>
      rw [found] at same emitted
      unfold lexeme at found same reads leaves readsThere leavesThere
      unfold Reader.readLexeme
      dsimp only
      rw [found, same, reads, leaves, readsThere, leavesThere]
      have opened := emitted nofun parallels ⟨rfl, rfl, rfl⟩ ⟨rfl, rfl, rfl⟩
        (.stringStart quote)
      have shape : (Frame.string quote (second.spanOf textThere).start).shape =
          (Frame.string quote (first.spanOf text).start).shape := rfl
      exact (opened.openFrame shape).advanceFrom ((emit_staysPut _ _ _ _).openFrame _)
        ((emit_staysPut _ _ _ _).openFrame _) _ _ columns places
  | faulty fault =>
      have sameText := faulty fault found
      rw [found] at same emitted
      unfold lexeme at found same reads leaves readsThere leavesThere
      unfold Reader.readLexeme
      dsimp only
      rw [found, same, reads, leaves, readsThere, leavesThere, sameText]
      rw [sameText] at emitted columns places
      have reported := parallels.report fault (first.spanOf text) (second.spanOf text)
      exact (emitted nofun reported (report_staysPut _ _ _) (report_staysPut _ _ _)
        (.error (String.ofList text))).advanceFrom
          ((report_staysPut _ _ _).trans (emit_staysPut _ _ _ _))
          ((report_staysPut _ _ _).trans (emit_staysPut _ _ _ _)) _ _ columns places

/-! ## Pieces of strings -/

/-- Some characters become a token. -/
theorem addText (parallels : Parallels rewriting first second) {kind : TokenKind}
    (plain : kind.mapText rewriting.edit = kind) {count : Nat}
    (taken : second.rest.take count = first.rest.take count)
    (places : rewriting.place (first.offset + Utf8.byteLength (first.rest.take count))
      (second.offset + Utf8.byteLength (first.rest.take count))) :
    Parallels rewriting
      ((first.add kind (first.spanOf (first.rest.take count))).advance
        (first.rest.take count) (first.rest.drop count))
      ((second.add kind (second.spanOf (second.rest.take count))).advance
        (second.rest.take count) (second.rest.drop count)) := by
  have starts : rewriting.place (first.spanOf (first.rest.take count)).start
      (second.spanOf (first.rest.take count)).start := parallels.offset
  have added := parallels.add kind starts places
  rw [plain] at added
  rw [taken]
  exact added.advance _ _ (by rw [added.tabWidth, added.column]) places

/-- A fragment of a string with the same text. -/
theorem addFragment (parallels : Parallels rewriting first second) {piece : List Char}
    (plain : rewriting.edit (String.ofList piece) = String.ofList piece)
    (place : rewriting.place (first.offset + Utf8.byteLength piece)
      (second.offset + Utf8.byteLength piece)) :
    Parallels rewriting (first.addFragment piece) (second.addFragment piece) := by
  unfold Reader.addFragment
  split
  · exact parallels
  · have starts : rewriting.place (first.spanOf piece).start (second.spanOf piece).start :=
      parallels.offset
    have added := parallels.add (.stringMiddle (String.ofList piece)) starts place
    rwa [show (TokenKind.stringMiddle (String.ofList piece)).mapText rewriting.edit =
      .stringMiddle (String.ofList piece) from congrArg TokenKind.stringMiddle plain] at added

/-- A string that is cut off behind the same text. -/
theorem readPiece_cutOff [XidStart] (parallels : Parallels rewriting first second)
    {quote : QuoteForm} (opened openedThere : Nat) {outer outerThere : List Frame}
    (around : outerThere.map Frame.shape = outer.map Frame.shape) {length : Nat}
    (found : StringText.scanPiece quote first.rest = .cutOff length)
    (foundThere : StringText.scanPiece quote second.rest = .cutOff length)
    (taken : second.rest.take length = first.rest.take length)
    (plain : rewriting.edit (String.ofList (first.rest.take length)) =
      String.ofList (first.rest.take length))
    (place : rewriting.place (first.offset + Utf8.byteLength (first.rest.take length))
      (second.offset + Utf8.byteLength (first.rest.take length))) :
    Parallels rewriting (first.readPiece quote opened outer)
      (second.readPiece quote openedThere outerThere) := by
  rw [readPiece_of_cutOff found, readPiece_of_cutOff foundThere, taken]
  have reported := ((parallels.addFragment plain place).setFrames around).report
    .unterminatedString ⟨opened, (first.spanOf (first.rest.take length)).stop⟩
    ⟨openedThere, (second.spanOf (first.rest.take length)).stop⟩
  have closed := reported.insert (rfl : (TokenKind.error "").mapText _ = _) place
  have stays := addFragment_staysPut first (first.rest.take length)
  have staysThere := addFragment_staysPut second (first.rest.take length)
  refine closed.advanceFrom ⟨stays.tabWidth, stays.offset, stays.column⟩
    ⟨staysThere.tabWidth, staysThere.offset, staysThere.column⟩ _ _ ?_ place
  rw [parallels.tabWidth, parallels.column]

/-- Behind the dollar sign of a splice the rest of the piece is read in the same way. -/
theorem addText_behindDollar {reach : Nat} {inner innerThere : Reader} {kind : TokenKind}
    (taken : ∀ count ≤ reach, second.rest.take count = first.rest.take count)
    (places : ∀ count ≤ reach,
      rewriting.place (first.offset + Utf8.byteLength (first.rest.take count))
        (second.offset + Utf8.byteLength (first.rest.take count)))
    (count : Nat) (within : count + 1 ≤ reach) (plain : kind.mapText rewriting.edit = kind)
    (parallels : Parallels rewriting inner innerThere)
    (rest : inner.rest = first.rest.drop 1) (restThere : innerThere.rest = second.rest.drop 1)
    (offset : inner.offset = first.offset + Utf8.byteLength (first.rest.take 1))
    (offsetThere : innerThere.offset = second.offset + Utf8.byteLength (second.rest.take 1)) :
    Parallels rewriting
      ((inner.add kind (inner.spanOf (inner.rest.take count))).advance
        (inner.rest.take count) (inner.rest.drop count))
      ((innerThere.add kind (innerThere.spanOf (innerThere.rest.take count))).advance
        (innerThere.rest.take count) (innerThere.rest.drop count)) := by
  refine parallels.addText plain ?_ ?_
  · rw [rest, restThere, List.take_drop, List.take_drop, Nat.add_comm 1, taken _ within]
  · rw [rest, offset, offsetThere, taken 1 (by omega), Nat.add_assoc, Nat.add_assoc,
      ← Utf8.byteLength_append, ← List.take_add, Nat.add_comm 1]
    exact places _ within

/-- The same piece of a string. -/
theorem readPiece [XidStart] (parallels : Parallels rewriting first second) {quote : QuoteForm}
    (opened openedThere : Nat) {outer outerThere : List Frame}
    (around : outerThere.map Frame.shape = outer.map Frame.shape)
    (same : StringText.scanPiece quote second.rest = StringText.scanPiece quote first.rest)
    (taken : ∀ count ≤ (StringText.scanPiece quote first.rest).reach quote,
      second.rest.take count = first.rest.take count)
    (edited : ∀ length, StringText.scanPiece quote first.rest = .text length ∨
      StringText.scanPiece quote first.rest = .cutOff length →
        rewriting.edit (String.ofList (first.rest.take length)) =
          String.ofList (first.rest.take length))
    (places : ∀ count ≤ (StringText.scanPiece quote first.rest).reach quote,
      rewriting.place (first.offset + Utf8.byteLength (first.rest.take count))
        (second.offset + Utf8.byteLength (first.rest.take count))) :
    Parallels rewriting (first.readPiece quote opened outer)
      (second.readPiece quote openedThere outerThere) := by
  cases found : StringText.scanPiece quote first.rest with
  | closing =>
      rw [found] at same taken places
      unfold Reader.readPiece
      dsimp only
      rw [found, same]
      exact (parallels.setFrames around).addText rfl (taken _ (Nat.le_refl _))
        (places _ (Nat.le_refl _))
  | spliceOpening =>
      rw [found] at same taken places
      unfold Reader.readPiece
      dsimp only
      rw [found, same]
      have within : 1 + 1 ≤ StringText.Piece.spliceOpening.reach quote := Nat.le_refl 2
      have dollar := parallels.addText (rfl : (TokenKind.punctuation .dollar).mapText _ = _)
        (taken 1 (Nat.le_of_succ_le within)) (places 1 (Nat.le_of_succ_le within))
      have shape : (Frame.splice second.offset).shape = (Frame.splice first.offset).shape := rfl
      exact addText_behindDollar taken places 1 within rfl (dollar.openFrame shape) rfl rfl rfl rfl
  | name length =>
      rw [found] at same taken places
      unfold Reader.readPiece
      dsimp only
      rw [found, same]
      have within : length + 1 ≤ (StringText.Piece.name length).reach quote := Nat.le_refl _
      have dollar := parallels.addText (rfl : (TokenKind.punctuation .dollar).mapText _ = _)
        (taken 1 (by omega)) (places 1 (by omega))
      have names : (second.rest.drop 1).take length = (first.rest.drop 1).take length := by
        rw [List.take_drop, List.take_drop, Nat.add_comm 1, taken _ within]
      have plain : (TokenKind.identifier (String.ofList ((first.rest.drop 1).take length))).mapText
          rewriting.edit = .identifier (String.ofList ((first.rest.drop 1).take length)) := rfl
      have named := addText_behindDollar taken places length within plain dollar rfl rfl rfl rfl
      dsimp only
      rw [rest_advance, rest_advance] at named ⊢
      rw [names] at named ⊢
      exact named
  | text length =>
      rw [found] at same taken places
      unfold Reader.readPiece
      dsimp only
      rw [found, same]
      have plain : (TokenKind.stringMiddle (String.ofList (first.rest.take length))).mapText
          rewriting.edit = .stringMiddle (String.ofList (first.rest.take length)) :=
        congrArg TokenKind.stringMiddle (edited length (.inl found))
      have pieces : second.rest.take length = first.rest.take length := taken _ (Nat.le_refl _)
      have added := parallels.addText plain pieces (places length (Nat.le_refl _))
      dsimp only
      rw [pieces] at added ⊢
      exact added
  | cutOff length =>
      rw [found] at same taken places
      exact parallels.readPiece_cutOff opened openedThere around found same
        (taken length (Nat.le_refl _)) (edited length (.inr found))
        (places length (Nat.le_refl _))

end Parallels
end Reader
end Offside
