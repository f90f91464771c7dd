import Offside.Proofs.Lexing.Arrival
import Offside.Proofs.Lexing.Columns
import Offside.Text.XidStart

namespace Offside

/-!
# Where statements begin

What a reader knows of a line agrees with what can be read off the tokens and the text:
the open frames are the scopes of the next token, the column of the reader is the
column of that token, and the reader stands at the beginning of a line if the waiting
trivia has a line feed in it.  So the rules of the reader, which compare a line with its
frames, come down to the offside rule.
-/

/-- A lexeme does not become a token that only layout inserts. -/
theorem Lexeme.Fits.isLayout {text : List Char} {lexeme : Lexeme} {kind : TokenKind}
    (fits : Lexeme.Fits text lexeme) (found : lexeme.kind? = some kind) :
    kind.isLayout = false := by
  cases fits with
  | trivia trivia => cases found
  | faulty fault => cases found
  | opening spells =>
      cases found
      rfl
  | token lexical spells =>
      cases found
      cases kind <;> first | rfl | cases lexical

namespace Reader

variable {tabWidth : Nat} {source : String} {reader : Reader} {kind : TokenKind}
  {text beyond : List Char}

/-- What holds of a silent reader between its steps.  Trivia never waits inside a string,
so what is read there stays in its line. -/
structure Aligned (tabWidth : Nat) (source : String) (reader : Reader) : Prop
    extends Framed (Token.column · tabWidth source) source reader where
  stands : reader.Stands (max tabWidth 1) source.toList
  line : reader.atLineStart =
    (reader.trivia.toList.any (Trivia.breaksLine source) || reader.tokens.toList.isEmpty)
  inString : Frame.inString reader.frames = true →
    reader.trivia = #[] ∧ reader.tokens.toList ≠ []

theorem start_aligned (tabWidth : Nat) (source : String) :
    (start tabWidth source.toList).Aligned tabWidth source where
  arranged := .nil
  held := .nil
  stands := ⟨rfl, [], rfl, rfl, rfl⟩
  line := rfl
  inString := nofun

/-- A string that is opened is no scope. -/
theorem openString_framed (framed : reader.Framed (Token.column · tabWidth source) source)
    (code : kind.isCloser = false → Frame.inString reader.frames = false) (offset : Nat) :
    (reader.openString kind offset).Framed (Token.column · tabWidth source) source ∧
      (reader.openString kind offset).tokens = reader.tokens ∧
      (reader.openString kind offset).trivia = reader.trivia ∧
      (reader.openString kind offset).stance = reader.stance := by
  cases kind with
  | stringStart quote =>
      exact ⟨⟨framed.arranged, framed.held.cons (code rfl) _⟩, rfl, rfl, rfl⟩
  | _ => exact ⟨framed, rfl, rfl, rfl⟩

namespace Aligned

variable (aligned : reader.Aligned tabWidth source)

include aligned

/-- The text that a reader stands at begins at its offset. -/
theorem split (unread : reader.rest = text ++ beyond) : ∃ read,
    source.toList = read ++ text ++ beyond ∧ reader.offset = Utf8.byteLength read ∧
      reader.column = Column.afterText (max tabWidth 1) 0 read := by
  rcases aligned.stands.place with ⟨read, whole, offset, column⟩
  exact ⟨read, by rw [whole, unread, List.append_assoc], offset, column⟩

theorem breaksLine (unread : reader.rest = text ++ beyond) (kind : TriviaKind) :
    Trivia.breaksLine source ⟨kind, reader.spanOf text⟩ = text.contains '\n' := by
  rcases aligned.split unread with ⟨read, whole, offset, _⟩
  unfold spanOf
  rw [offset]
  exact Trivia.breaksLine_of_append whole kind

theorem next? (unread : reader.rest = text ++ beyond) (kind : TokenKind) (leading : List Trivia) :
    Token.next? source ⟨kind, reader.spanOf text, leading⟩ = beyond.head? := by
  rcases aligned.split unread with ⟨read, whole, offset, _⟩
  unfold Token.next? spanOf
  dsimp only
  rw [whole, offset, ← Utf8.byteLength_append, Utf8.dropBytes_append]
  rfl

theorem faces (code : Frame.inString reader.frames = false)
    (unread : reader.rest = text ++ beyond) (kind : TokenKind) :
    reader.Faces (Token.column · tabWidth source) source
      ⟨kind, reader.spanOf text, reader.trivia.toList⟩ where
  toFramed := ⟨aligned.arranged, aligned.held⟩
  code := code
  column := by
    rcases aligned.split unread with ⟨read, whole, offset, column⟩
    rw [column]
    rw [List.append_assoc] at whole
    exact Token.column_of_append whole offset.symm
  line := aligned.line

/-! ## Steps -/

theorem trivia (code : Frame.inString reader.frames = false)
    (unread : reader.rest = text ++ beyond) (kind : TriviaKind) :
    (({ reader.addTrivia kind (reader.spanOf text) with
      atLineStart := reader.atLineStart || text.contains '\n' } : Reader).advance text
        beyond).Aligned tabWidth source where
  stands := aligned.stands.advance unread rfl rfl rfl
  toFramed := ⟨aligned.arranged, aligned.held⟩
  line := line_addTrivia aligned.line (aligned.breaksLine unread kind)
  inString := fun inString => absurd inString (Bool.eq_false_iff.mp code)

theorem token (code : Frame.inString reader.frames = false)
    (unread : reader.rest = text ++ beyond) (real : kind.isLayout = false)
    (silent : (reader.emit kind (reader.spanOf text) beyond.head?).diagnostics = #[]) :
    (((reader.emit kind (reader.spanOf text) beyond.head?).openString kind
      reader.offset).advance text beyond).Aligned tabWidth source := by
  have faces := aligned.faces code unread kind
  have follows := aligned.next? unread kind reader.trivia.toList
  have framed : (reader.emit kind (reader.spanOf text) beyond.head?).Framed
      (Token.column · tabWidth source) source ∧
      (kind.isCloser = false →
        Frame.inString (reader.emit kind (reader.spanOf text) beyond.head?).frames = false) := by
    cases closing : ClosingBracket.ofKind? kind with
    | none =>
        have framed := emit_framed_of_noCloser silent closing real faces follows
        exact ⟨framed.1, fun _ => framed.2⟩
    | some closer =>
        cases kind_of_ofKind? closing
        refine ⟨emit_framed_of_closer silent faces follows, fun noCloser => ?_⟩
        rw [isCloser_mark] at noCloser
        cases noCloser
  rcases emit_marks silent with ⟨marks, tokens, _, trivia⟩
  have stance := emit_stance reader kind (reader.spanOf text) beyond.head?
  generalize reader.emit kind (reader.spanOf text) beyond.head? = after at *
  rcases openString_framed framed.1 framed.2 reader.offset with
    ⟨opened, sameTokens, sameTrivia, sameStance⟩
  generalize after.openString kind reader.offset = inner at *
  have stood := sameStance.trans stance
  have nonempty : inner.tokens.toList ≠ [] := by
    rw [sameTokens, tokens]
    exact List.append_ne_nil_of_right_ne_nil _ (List.cons_ne_nil _ _)
  have waiting : inner.trivia = #[] := sameTrivia.trans trivia
  refine ⟨⟨opened.arranged, opened.held⟩, aligned.stands.advance unread
    (congrArg Stance.tabWidth stood) (congrArg Stance.offset stood)
    (congrArg Stance.column stood), ?_, fun _ => ⟨waiting, nonempty⟩⟩
  show inner.atLineStart = (inner.trivia.toList.any _ || inner.tokens.toList.isEmpty)
  rw [waiting, List.isEmpty_eq_false_iff.mpr nonempty]
  exact congrArg Stance.atLineStart stood

theorem piece {quote : QuoteForm} {opened : Nat} {outer : List Frame}
    {piece : StringText.Piece} {new : List Token} {after : Reader}
    (frames : reader.frames = .string quote opened :: outer)
    (whole : ∀ length, piece ≠ .cutOff length)
    (takes : reader.TakesPiece quote opened outer piece new after)
    (stands : after.Stands (max tabWidth 1) source.toList) : after.Aligned tabWidth source := by
  rcases aligned.inString (by rw [frames]; rfl) with ⟨nothing, some⟩
  have held := aligned.held
  have arranged := aligned.arranged
  have line := aligned.line
  have nonempty : after.tokens.toList ≠ [] := by
    rw [takes.tokens]
    exact List.append_ne_nil_of_left_ne_nil some _
  have real : ∀ kind ∈ new.map Token.kind, kind.isLayout = false := by
    rw [takes.kinds]
    cases piece with
    | cutOff length => exact absurd rfl (whole length)
    | spliceOpening => exact List.forall_mem_cons.mpr ⟨rfl, List.forall_mem_singleton.mpr rfl⟩
    | name length => exact List.forall_mem_cons.mpr ⟨rfl, List.forall_mem_singleton.mpr rfl⟩
    | _ => exact List.forall_mem_singleton.mpr rfl
  have behind := arranged.append (takes.leading nothing) real
  rw [takes.kinds, ← takes.tokens] at behind
  rw [frames] at held behind
  refine ⟨⟨?_, ?_⟩, stands, ?_, fun _ => ⟨takes.trivia, nonempty⟩⟩
  · rw [takes.frames]
    cases piece with
    | cutOff length => exact absurd rfl (whole length)
    | _ => exact behind
  · rw [takes.frames]
    cases piece with
    | closing => exact held.tail
    | spliceOpening => exact List.IsChain.cons held fun _ _ _ => ⟨_, rfl⟩
    | _ => exact held
  · rw [takes.atLineStart, line, nothing, takes.trivia, List.isEmpty_eq_false_iff.mpr some,
      List.isEmpty_eq_false_iff.mpr nonempty]

theorem step [XidStart] (silent : reader.Silent) (unread : reader.rest ≠ []) :
    reader.step.Aligned tabWidth source := by
  cases code : Frame.inString reader.frames with
  | true =>
      rcases Frame.exists_of_inString code with ⟨quote, opened, outer, frames⟩
      have whole := scanPiece_of_silent silent frames unread
      rcases step_takesPiece frames unread rfl whole with ⟨new, takes⟩
      have stands := readPiece_stands aligned.stands quote opened outer
      rw [← step_eq_readPiece frames unread] at stands
      exact aligned.piece frames whole takes stands
  | false =>
      rcases List.exists_cons_of_ne_nil unread with ⟨c, rest, more⟩
      have taken : reader.rest = (c :: rest.take (reader.lexeme c rest).more) ++
          rest.drop (reader.lexeme c rest).more := by
        rw [more, List.cons_append, List.take_append_drop]
      rcases lexeme_cases silent code more with ⟨trivia, found⟩ | ⟨kind, found⟩
      · rw [step_eq_readLexeme code more, readLexeme_eq_of_trivia found rfl rfl]
        exact aligned.trivia code taken trivia
      · have told := (silent.step unread).diagnostics
        rw [step_eq_emit code more found rfl rfl] at told ⊢
        have real : kind.isLayout = false :=
          (Lexeme.fits_scan (reader.lastKind?.any TokenKind.endsOperand) c rest).isLayout found
        have kept := (openString_tokens (reader.emit kind (reader.spanOf
          (c :: rest.take (reader.lexeme c rest).more))
            (rest.drop (reader.lexeme c rest).more).head?) kind reader.offset).2.2
        exact aligned.token code taken real (kept.symm.trans told)

end Aligned

/-- By induction on the run, every state of which is as silent as its end. -/
theorem run_aligned [XidStart] (aligned : reader.Aligned tabWidth source) (silent : reader.Silent) :
    reader.run.Aligned tabWidth source := by
  fun_induction run reader with
  | case1 reader atEnd => exact aligned
  | case2 reader unread inductionHypothesis =>
      rw [List.isEmpty_iff] at unread
      exact inductionHypothesis (aligned.step silent unread) (silent.step unread)

/-- At the end of a source only blocks are closed, and nothing is separated. -/
theorem Aligned.finish [XidStart] (aligned : reader.Aligned tabWidth source)
    (silent : reader.Silent) (read : reader.rest = []) :
    AllOnside (Token.column · tabWidth source) source reader.finish.tokens ∧
      EndsJoined reader.finish.tokens := by
  have kinds := (finish_of_mayEnd (silent.mayEnd read)).1
  have inserts := Inserts.foldl Inserts.closeAtEnd reader.frames reader
  rcases inserts.tokens with ⟨marks, added, inserted⟩
  have tokens : reader.finish.tokens = reader.tokens.toList ++ marks ++
      [⟨.endOfFile, .empty reader.offset,
        (reader.frames.foldl closeAtEnd reader).trivia.toList⟩] := by
    show ((reader.frames.foldl closeAtEnd reader).tokens.push _).toList = _
    rw [Array.toList_push, added]
  rw [tokens, List.map_append, List.map_append, List.append_assoc] at kinds
  have closing := List.append_cancel_right (List.append_cancel_left kinds)
  have glued : ∀ mark ∈ marks, mark.leading = [] := by
    intro mark member
    cases inserted mark member
    rfl
  have noSeparator : ∀ mark ∈ marks, mark.kind ≠ .autoSemicolon := by
    intro mark member separates
    have among : mark.kind ∈ marks.map Token.kind := List.mem_map_of_mem member
    rw [closing, separates] at among
    cases List.eq_of_mem_replicate among
  have closed := aligned.arranged.onside.append_marks aligned.arranged.ends glued noSeparator
  rw [tokens]
  exact ⟨closed.1.concat (.of_joined closed.2 (fun _ other => absurd rfl other)
    fun begins => begins.ne_endOfFile rfl), endsJoined_concat nofun⟩

end Reader

/-! ## The offside rule -/

/-- The columns that the rule compares at a token fit machine words. -/
structure ColumnsFit (tabWidth : Nat) (source : String) (front : List Token) (token : Token) :
    Prop where
  own : token.exactColumn tabWidth source < Column.wordSize
  block : ∀ first, (Scope.ofToken front token).head? = some (.block first) →
    first.exactColumn tabWidth source < Column.wordSize

namespace ColumnsFit

variable {tabWidth : Nat} {source : String} {front : List Token} {token : Token}

/-- Columns that fit are counted as they are. -/
theorem countAlike (fits : ColumnsFit tabWidth source front token) :
    CountAlike (Token.column · tabWidth source) (Token.exactColumn · tabWidth source) front
      token where
  own := (token.column_eq_exact_iff tabWidth source).mpr fits.own
  block := fun first innermost =>
    (first.column_eq_exact_iff tabWidth source).mpr (fits.block first innermost)

/-- If every character of a source were a tab, a line could not be wider than all of them. -/
theorem of_short (short : source.length * max tabWidth 1 < Column.wordSize) :
    ColumnsFit tabWidth source front token where
  own := Nat.lt_of_le_of_lt (token.exactColumn_le tabWidth source) short
  block := fun first _ => Nat.lt_of_le_of_lt (first.exactColumn_le tabWidth source) short

end ColumnsFit

/-- Where nothing is reported, every token keeps to the offside rule: the lines of a block
do not begin left of the block, and a separator stands in front of exactly those tokens
that begin a statement.  Nor does a separator stand at the very end.  The columns of the rule
are the words that the reader counts, and the exact ones wherever those of a token that begins
a line and of the block around it fit words.  Where they do not, a line that is indented
beyond all words can wrap around to the margin and begin a statement there. -/
theorem lex_onside [XidStart] (source : String) (tabWidth : Nat)
    (silent : (lex source tabWidth).diagnostics = []) :
    (∀ front token back, (lex source tabWidth).tokens = front ++ token :: back →
      Onside (Token.column · tabWidth source) source front token ∧
        ((token.beginsLine source = true → ColumnsFit tabWidth source front token) →
          Onside (Token.exactColumn · tabWidth source) source front token)) ∧
      EndsJoined (lex source tabWidth).tokens := by
  have started : (Reader.start tabWidth source.toList).Silent := silent
  have aligned := Reader.run_aligned (Reader.start_aligned tabWidth source) started
  have read := Reader.run_rest (Reader.start tabWidth source.toList)
  have ended : (Reader.start tabWidth source.toList).run.Silent := by
    unfold Reader.Silent
    rw [Reader.run_of_read read]
    exact silent
  have finished := aligned.finish ended read
  refine ⟨fun front token back split => ?_, finished.2⟩
  have onside := finished.1 front token back split
  exact ⟨onside, fun fits => onside.recount fun line => (fits line).countAlike⟩

/-- Lines between brackets, a line that a comment begins, and one that leaves a block. -/
theorem lex_onside_brackets_and_comment :
    (lex "def f() =\n  g(\x7b\n    a\n  \x7d)\n  /*\n*/h\ndef k() = 1\n" 4).diagnostics = [] ∧
    AllOnside
      (Token.exactColumn · 4 "def f() =\n  g(\x7b\n    a\n  \x7d)\n  /*\n*/h\ndef k() = 1\n")
      "def f() =\n  g(\x7b\n    a\n  \x7d)\n  /*\n*/h\ndef k() = 1\n"
      (lex "def f() =\n  g(\x7b\n    a\n  \x7d)\n  /*\n*/h\ndef k() = 1\n" 4).tokens ∧
    EndsJoined
      (lex "def f() =\n  g(\x7b\n    a\n  \x7d)\n  /*\n*/h\ndef k() = 1\n" 4).tokens := by
  have silent : (lex "def f() =\n  g(\x7b\n    a\n  \x7d)\n  /*\n*/h\ndef k() = 1\n"
      4).diagnostics = [] := by decide +kernel
  have short : "def f() =\n  g(\x7b\n    a\n  \x7d)\n  /*\n*/h\ndef k() = 1\n".length * max 4 1 <
      Column.wordSize := by decide +kernel
  rcases lex_onside _ _ silent with ⟨onside, ends⟩
  exact ⟨silent, fun front token back split =>
    (onside front token back split).2 fun _ => .of_short short, ends⟩

end Offside
