import Offside.Proofs.Lexing.Insertion

namespace Offside

/-!
# A reader only adds

No step of a reader takes back a token or a report.  What is new stands behind
what was there, and every new report is about a lexical fault.
-/

/-! ## Rows with something added -/

section Rows

variable {α : Type} {row others front back : List α} {last here : α}

/-- A place in a row with another one behind it is in one of the two. -/
theorem split_append (parts : row ++ others = front ++ here :: back) :
    (∃ inner, back = inner ++ others ∧ row = front ++ here :: inner) ∨
      ∃ inner, front = row ++ inner ∧ others = inner ++ here :: back := by
  rcases List.append_eq_append_iff.mp parts with ⟨inner, same, split⟩ | ⟨inner, same, split⟩
  · exact .inr ⟨inner, same, split⟩
  · cases inner with
    | nil =>
        rw [List.append_nil] at same
        exact .inr ⟨[], same ▸ (List.append_nil front).symm, split.symm⟩
    | cons first inner =>
        cases split
        exact .inl ⟨inner, rfl, same⟩

theorem split_concat (parts : row ++ [last] = front ++ here :: back) :
    (∃ inner, back = inner ++ [last] ∧ row = front ++ here :: inner) ∨
      back = [] ∧ front = row ∧ here = last := by
  rcases split_append parts with inside | ⟨inner, same, split⟩
  · exact .inl inside
  · cases inner with
    | nil =>
        cases split
        exact .inr ⟨rfl, same.trans (List.append_nil row), rfl⟩
    | cons first inner => cases inner <;> cases split

end Rows

namespace Reader

/-- Tokens and lexical reports were only added. -/
structure Grows (before after : Reader) : Prop where
  tokens : ∃ more, after.tokens.toList = before.tokens.toList ++ more
  diagnostics : ∃ more, after.diagnostics.toList = before.diagnostics.toList ++ more ∧
    ∀ diagnostic ∈ more, diagnostic.fault.isLexical = true

variable {before middle after : Reader}

theorem Inserts.grows (inserts : before.Inserts after) : before.Grows after := by
  rcases inserts.tokens with ⟨inserted, added, _⟩
  exact ⟨⟨inserted, added⟩, inserts.diagnostics⟩

namespace Grows

theorem trans (first : before.Grows middle) (second : middle.Grows after) :
    before.Grows after := by
  rcases first with ⟨⟨front, added⟩, ⟨early, told, lexicalEarly⟩⟩
  rcases second with ⟨⟨back, addedBehind⟩, ⟨late, toldLater, lexicalLate⟩⟩
  refine ⟨⟨front ++ back, ?_⟩, ⟨early ++ late, ?_, ?_⟩⟩
  · rw [addedBehind, added, List.append_assoc]
  · rw [toldLater, told, List.append_assoc]
  · intro diagnostic member
    rcases List.mem_append.mp member with inEarly | inLate
    · exact lexicalEarly diagnostic inEarly
    · exact lexicalLate diagnostic inLate

theorem of_same (tokens : after.tokens = before.tokens)
    (diagnostics : after.diagnostics = before.diagnostics) : before.Grows after where
  tokens := ⟨[], by rw [tokens, List.append_nil]⟩
  diagnostics := ⟨[], by rw [diagnostics, List.append_nil], List.forall_mem_nil _⟩

theorem push {token : Token} (tokens : after.tokens = before.tokens.push token)
    (diagnostics : after.diagnostics = before.diagnostics) : before.Grows after where
  tokens := ⟨[token], by rw [tokens, Array.toList_push]⟩
  diagnostics := ⟨[], by rw [diagnostics, List.append_nil], List.forall_mem_nil _⟩

theorem advance (grows : before.Grows after) (text rest : List Char) :
    before.Grows (after.advance text rest) :=
  ⟨grows.tokens, grows.diagnostics⟩

/-- A token that comes with a report. -/
theorem pushFaulty {token : Token} (tokens : after.tokens = before.tokens.push token)
    (fault : LexicalFault) (span : Span)
    (diagnostics : after.diagnostics = before.diagnostics.push (.lexical fault span)) :
    before.Grows after := by
  have reported := (Inserts.report before fault span).grows
  have pushed : (before.report fault span).Grows after := push tokens diagnostics
  exact reported.trans pushed

end Grows

/-! ## Reading -/

theorem addCloser_grows (reader : Reader) (closer : ClosingBracket) (span : Span) :
    reader.Grows (reader.addCloser closer span) := by
  unfold addCloser
  dsimp only
  split
  · exact .pushFaulty rfl _ _ rfl
  · have cut := Inserts.grows (Inserts.foldl Inserts.cutOff
      ((reader.frames.takeWhile fun frame => !frame.isString).take ‹Nat›) reader)
    exact cut.trans (.push rfl rfl)

theorem emit_grows (reader : Reader) (kind : TokenKind) (span : Span) (next : Option Char) :
    reader.Grows (reader.emit kind span next) := by
  have emits := emit_emits reader kind span next
  generalize reader.emit kind span next = after at emits
  cases emits with
  | kept inserts => exact inserts.grows.trans (.push rfl rfl)
  | unmatched inserts closes reported => exact inserts.grows.trans (.push rfl rfl)

theorem readLexeme_grows [XidStart] (reader : Reader) (c : Char) (rest : List Char) :
    reader.Grows (reader.readLexeme c rest) := by
  unfold readLexeme
  refine Grows.advance ?_ _ _
  split
  · exact .of_same rfl rfl
  · exact .of_same rfl rfl
  · exact .of_same rfl rfl
  · exact emit_grows reader _ _ _
  · exact (emit_grows reader _ _ _).trans (.of_same rfl rfl)
  · exact (Inserts.report reader _ _).grows.trans (emit_grows _ _ _ _)

theorem readPiece_grows [XidStart] (reader : Reader) (quote : QuoteForm) (opened : Nat)
    (outer : List Frame) : reader.Grows (reader.readPiece quote opened outer) := by
  have dollar : reader.Grows
      (reader.add (.punctuation .dollar) (reader.spanOf (reader.rest.take 1))) :=
    .push rfl rfl
  unfold readPiece
  dsimp only
  split
  · exact .push rfl rfl
  · exact dollar.trans (.push rfl rfl)
  · exact dollar.trans (.push rfl rfl)
  · exact .push rfl rfl
  · split
    · exact .pushFaulty rfl _ _ rfl
    · rename_i length _ _
      have piece : reader.Grows (reader.add (.stringMiddle (String.ofList
          (reader.rest.take length))) (reader.spanOf (reader.rest.take length))) :=
        .push rfl rfl
      exact piece.trans (.pushFaulty rfl _ _ rfl)

/-- The text in front of the place where a string is cut off becomes a token, if there is
any. -/
def addFragment (reader : Reader) (piece : List Char) : Reader :=
  if piece.isEmpty then reader
  else reader.add (.stringMiddle (String.ofList piece)) (reader.spanOf piece)

theorem addFragment_offset (reader : Reader) (piece : List Char) :
    (reader.addFragment piece).offset = reader.offset := by
  unfold addFragment
  split <;> rfl

theorem readPiece_of_cutOff [XidStart] {reader : Reader} {quote : QuoteForm} {length : Nat}
    (found : StringText.scanPiece quote reader.rest = .cutOff length) (opened : Nat)
    (outer : List Frame) :
    reader.readPiece quote opened outer =
      ((({ reader.addFragment (reader.rest.take length) with frames := outer }.report
        .unterminatedString ⟨opened, (reader.spanOf (reader.rest.take length)).stop⟩).insert
          (.error "") (reader.spanOf (reader.rest.take length)).stop).advance
            (reader.rest.take length) (reader.rest.drop length)) := by
  unfold readPiece
  dsimp only
  rw [found]
  rfl

theorem step_grows [XidStart] (reader : Reader) : reader.Grows reader.step := by
  unfold step
  split
  · exact .of_same rfl rfl
  · split
    · exact readPiece_grows reader _ _ _
    · exact readLexeme_grows reader _ _

theorem run_grows [XidStart] (reader : Reader) : reader.Grows reader.run := by
  fun_induction run reader with
  | case1 reader atEnd => exact .of_same rfl rfl
  | case2 reader unread inductionHypothesis => exact (step_grows reader).trans inductionHypothesis

theorem foldl_closeAtEnd_grows (frames : List Frame) (reader : Reader) :
    reader.Grows (frames.foldl closeAtEnd reader) :=
  (Inserts.foldl Inserts.closeAtEnd frames reader).grows

/-! ## What a run leaves as it is -/

theorem run_rest [XidStart] (reader : Reader) : reader.run.rest = [] := by
  fun_induction run reader with
  | case1 reader atEnd => exact List.isEmpty_iff.mp atEnd
  | case2 reader unread inductionHypothesis => exact inductionHypothesis

theorem emit_tabWidth (reader : Reader) (kind : TokenKind) (span : Span)
    (next : Option Char) : (reader.emit kind span next).tabWidth = reader.tabWidth := by
  have emits := emit_emits reader kind span next
  generalize reader.emit kind span next = after at emits ⊢
  cases emits with
  | kept inserts => exact inserts.tabWidth
  | unmatched inserts closes reported => exact inserts.tabWidth

theorem readLexeme_tabWidth [XidStart] (reader : Reader) (c : Char) (rest : List Char) :
    (reader.readLexeme c rest).tabWidth = reader.tabWidth := by
  unfold readLexeme
  dsimp only
  split
  · rfl
  · rfl
  · rfl
  · exact emit_tabWidth _ _ _ _
  · exact emit_tabWidth _ _ _ _
  · exact emit_tabWidth (reader.report _ _) _ _ _

theorem readPiece_tabWidth [XidStart] (reader : Reader) (quote : QuoteForm) (opened : Nat)
    (outer : List Frame) : (reader.readPiece quote opened outer).tabWidth = reader.tabWidth := by
  unfold readPiece
  dsimp only
  split
  · rfl
  · rfl
  · rfl
  · rfl
  · split <;> rfl

theorem run_tabWidth [XidStart] (reader : Reader) : reader.run.tabWidth = reader.tabWidth := by
  fun_induction run reader with
  | case1 reader atEnd => rfl
  | case2 reader unread inductionHypothesis =>
      refine inductionHypothesis.trans ?_
      unfold step
      split
      · rfl
      · split
        · exact readPiece_tabWidth reader _ _ _
        · exact readLexeme_tabWidth reader _ _

end Reader

/-- The lexer reports lexical faults only. -/
theorem lex_reports [XidStart] (source : String) (tabWidth : Nat) :
    ∀ diagnostic ∈ (lex source tabWidth).diagnostics, diagnostic.fault.isLexical = true := by
  have ran := Reader.run_grows (Reader.start tabWidth source.toList)
  unfold lex Reader.finish
  dsimp only
  generalize (Reader.start tabWidth source.toList).run = reader at ran
  have ended := ran.trans (Reader.foldl_closeAtEnd_grows reader.frames reader)
  rcases ended.diagnostics with ⟨reported, added, lexical⟩
  intro diagnostic member
  have among : diagnostic ∈ (reader.frames.foldl Reader.closeAtEnd reader).diagnostics.toList :=
    member
  rw [added] at among
  exact lexical diagnostic among

end Offside
