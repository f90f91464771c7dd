import Offside.Proofs.Lexing.Interpolation
import Offside.Proofs.Lexing.Lookahead
import Offside.Text.XidStart

namespace Offside

/-!
# Splices are read in order

What a silent reader has found keeps to the grammar of strings with splices.  In a string it
knows from the text ahead how to go on: as long as no splice was read, the text stops at one,
and behind text there is no more text.  A string is opened only where it has a splice, and
the one exception is reported as soon as the string is read.
-/

open StringText

namespace StringText

variable {quote : QuoteForm} {text : List Char}

/-- Where a splice is found behind the end of the line, the string is cut off at that end. -/
theorem scanPiece_of_looksPast [XidStart] (past : LooksPast quote text) :
    scanPiece quote text = .cutOff (length quote text) := by
  have goesOn : stops quote text = false :=
    Bool.eq_false_iff.mpr fun stopped => not_looksPast_of_stops stopped past
  have cutOff : isCutOff quote (stop quote text) = true := by
    unfold isCutOff headIs
    rw [past.broken, past.plain]
    exact Bool.or_true _
  unfold stops at goesOn
  rw [Bool.or_eq_false_iff, Bool.or_eq_false_iff] at goesOn
  unfold stop at cutOff
  unfold scanPiece
  rw [goesOn.1.2, goesOn.2]
  exact if_pos cutOff

theorem closesWith_of_scanPiece [XidStart] (found : scanPiece quote text = .closing) :
    closesWith quote text = true := by
  unfold scanPiece at found
  split at found
  · assumption
  · split at found
    · split at found <;> cases found
    · dsimp only at found
      split at found <;> cases found

theorem text_ne_empty [XidStart] (positive : 0 < length quote text) :
    String.ofList (text.take (length quote text)) ≠ "" := by
  intro nothing
  rcases List.take_eq_nil_iff.mp (String.ofList_eq_empty_iff.mp nothing) with zero | rfl
  · omega
  · cases positive

end StringText

/-- A lexeme becomes a token of code or the beginning of a string. -/
theorem Lexeme.Fits.isLexical {text : List Char} {lexeme : Lexeme} {kind : TokenKind}
    (fits : Lexeme.Fits text lexeme) (found : lexeme.kind? = some kind) :
    kind.isLexical = true ∨ ∃ quote, kind = .stringStart quote := by
  cases fits with
  | trivia trivia => cases found
  | faulty fault => cases found
  | opening spells =>
      cases found
      exact .inr ⟨_, rfl⟩
  | token lexical spells =>
      cases found
      exact .inl lexical

/-- The text ahead leads on to the end of a string.  As long as the string has no splice, the
text stops at one, and behind text of the string it stops at once. -/
def Place.Faces [XidStart] : Place → List Char → Prop
  | .code, _ => True
  | .string quote spliced texted, text =>
    (spliced = false → startsSplice (stop quote text) = true) ∧
      (texted = true → stops quote text = true)

namespace Reader

variable {reader : Reader} {kind : TokenKind} {next : Option Char} {span : Span} {c : Char}
  {rest : List Char}

/-- What was found so far keeps to the grammar, and the text ahead leads on. -/
def Builds [XidStart] (reader : Reader) : Prop :=
  ∃ place, Built place reader.frames reader.kinds ∧ place.Faces reader.rest

theorem start_builds [XidStart] (tabWidth : Nat) (source : List Char) :
    (start tabWidth source).Builds :=
  ⟨.code, .outside .nil, trivial⟩

/-! ## Code -/

theorem applyLayout_built (built : Built .code reader.frames reader.kinds)
    (silent : (reader.applyLayout kind next).diagnostics = #[]) :
    Built .code (reader.applyLayout kind next).frames (reader.applyLayout kind next).kinds := by
  have laid := applyLayout_laid silent
  generalize reader.applyLayout kind next = after at laid
  cases laid with
  | @settles blocks outer separated split closed begins goesOn kinds frames =>
      rw [split] at built
      have shallower := built.closeBlocks closed
      rw [kinds, frames, ← List.append_assoc]
      cases separated with
      | false => exact shallower.append .nil
      | true => exact shallower.append (.of_inert rfl)
  | deepens level active opens kinds frames =>
      rw [kinds, frames]
      exact .block level built .nil

/-- A token is emitted in code.  If it closes a splice, the string goes on. -/
theorem emit_built (built : Built .code reader.frames reader.kinds)
    (lexical : kind.isLexical = true)
    (silent : (reader.emit kind span next).diagnostics = #[]) :
    Built .code (reader.emit kind span next).frames (reader.emit kind span next).kinds ∨
      ∃ quote, Built (.string quote true false) (reader.emit kind span next).frames
        (reader.emit kind span next).kinds := by
  cases closing : ClosingBracket.ofKind? kind with
  | some closer =>
      cases kind_of_ofKind? closing
      rw [emit_of_closer] at silent ⊢
      have placed := applyLayout_built built ((addCloser_grows _ _ _).silent silent)
      rcases addCloser_silent silent with ⟨blocks, target, around, closes⟩
      rw [closes.split] at placed
      rw [closes.kinds, closes.frames, ← List.append_assoc]
      exact (placed.closeBlocks closes.closed).closeGroup closes.fits
  | none =>
      rcases emit_of_noCloser reader closing span next with ⟨kinds, frames, diagnostics⟩
      have placed := applyLayout_built built (diagnostics.symm.trans silent)
      rw [kinds, frames]
      apply Or.inl
      cases opening : Bracket.ofKind? kind with
      | some bracket => exact .group span.start opening placed .nil
      | none => exact placed.append (.of_inert (isInert_of_isLexical lexical closing opening))

theorem openString_of_isLexical (reader : Reader) (lexical : kind.isLexical = true)
    (offset : Nat) : reader.openString kind offset = reader := by
  cases kind <;> first | rfl | cases lexical

theorem emit_stringStart_built {quote : QuoteForm} (built : Built .code reader.frames reader.kinds)
    (silent : (reader.emit (.stringStart quote) span next).diagnostics = #[]) (opened : Nat) :
    Built (.string quote false false)
      (.string quote opened :: (reader.emit (.stringStart quote) span next).frames)
      (reader.emit (.stringStart quote) span next).kinds := by
  have noCloser : ClosingBracket.ofKind? (.stringStart quote) = none := rfl
  rcases emit_of_noCloser reader noCloser span next with ⟨kinds, frames, diagnostics⟩
  have placed := applyLayout_built built (diagnostics.symm.trans silent)
  rw [kinds, frames]
  exact .string quote opened placed .nothing .nil

variable [XidStart]

/-- Where a string is opened, its text stops at a splice. -/
theorem startsSplice_of_silent {quote : QuoteForm} (silent : reader.Silent)
    (code : Frame.inString reader.frames = false) (unread : reader.rest = c :: rest)
    (found : (reader.lexeme c rest).lexeme.kind? = some (.stringStart quote)) :
    startsSplice (stop quote (rest.drop (reader.lexeme c rest).more)) = true := by
  rcases Reads.atString (.lexeme code unread found) rfl with ⟨text, atString, -, forms⟩
  have beyond : rest.drop (reader.lexeme c rest).more = text := by
    have whole := unread.symm.trans atString.unread
    rcases Lexeme.text_of_scan found with shown | ⟨isMod, -⟩
    · rw [← List.take_append_drop (reader.lexeme c rest).more rest, ← List.cons_append] at whole
      exact List.append_cancel_left (whole.trans (congrArg (· ++ text) shown))
    · cases isMod
  rw [beyond]
  cases forms with
  | opened splice =>
      rcases splice with here | past
      · exact here
      · have notEnd : reader.rest ≠ [] := by
          rw [unread]
          exact List.cons_ne_nil _ _
        have further := silent.step notEnd
        have opens := step_eq_emit code unread found rfl rfl
        have inString : reader.step.frames = .string quote reader.offset :: _ :=
          congrArg Reader.frames opens
        have left : reader.step.rest = text := (congrArg Reader.rest opens).trans beyond
        have unfinished := further.unread (by rw [inString]; rfl)
        rw [← left] at past
        exact absurd (scanPiece_of_looksPast past)
          (scanPiece_of_silent further inString unfinished _)

/-! ## Pieces of strings -/

theorem takesPiece_builds {quote : QuoteForm} {opened : Nat} {outer : List Frame}
    {spliced texted : Bool} {new : List Token} {after : Reader}
    (built : Built (.string quote spliced texted) (.string quote opened :: outer) reader.kinds)
    (faces : (Place.string quote spliced texted).Faces reader.rest)
    (whole : ∀ length, scanPiece quote reader.rest ≠ .cutOff length)
    (takes : reader.TakesPiece quote opened outer (scanPiece quote reader.rest) new after) :
    after.Builds := by
  have kinds := kinds_of_tokens takes.tokens
  rw [takes.kinds] at kinds
  unfold Builds
  rw [kinds, takes.frames, takes.rest]
  cases found : scanPiece quote reader.rest with
  | cutOff length => exact absurd found (whole length)
  | closing =>
      have closes := closesWith_of_scanPiece found
      cases spliced with
      | true => exact ⟨.code, built.closeString, trivial⟩
      | false =>
          have splice := faces.1 rfl
          rw [stop_of_stops (stops_of_closesWith closes)] at splice
          rw [(closesWith_of_startsSplice splice).1] at closes
          cases closes
  | spliceOpening => exact ⟨.code, .splice _ built .nil, trivial⟩
  | name length =>
      have name := Interpolation.name (String.ofList ((reader.rest.drop 1).take length))
      have dollar : Code [.punctuation .dollar] := .of_inert rfl
      exact ⟨_, built.appendSplice name (dollar.append (.of_inert rfl)), nofun, nofun⟩
  | text length =>
      rcases scanPiece_eq_text found with ⟨rfl, notCutOff⟩
      have positive := pos_of_scanPiece_text found
      have stopped : stops quote (stop quote reader.rest) = true :=
        stops_drop_length reader.rest notCutOff
      cases texted with
      | true =>
          rw [length_of_stops (faces.2 rfl)] at positive
          cases positive
      | false =>
          refine ⟨_, built.appendText (text_ne_empty positive), fun first => ?_, fun _ => stopped⟩
          show startsSplice (stop quote (stop quote reader.rest)) = true
          rw [stop_of_stops stopped]
          exact faces.1 first

theorem Builds.step (builds : reader.Builds) (silent : reader.Silent) (unread : reader.rest ≠ []) :
    reader.step.Builds := by
  rcases builds with ⟨place, built, faces⟩
  cases code : Frame.inString reader.frames with
  | true =>
      rcases Frame.exists_of_inString code with ⟨quote, opened, outer, frames⟩
      have whole := scanPiece_of_silent silent frames unread
      rcases step_takesPiece frames unread rfl whole with ⟨new, takes⟩
      rw [frames] at built
      rcases built.place_eq_string with ⟨spliced, texted, rfl⟩
      exact takesPiece_builds built faces whole takes
  | false =>
      cases built.place_eq_code code
      rcases List.exists_cons_of_ne_nil unread with ⟨c, rest, more⟩
      rcases lexeme_cases silent code more with ⟨trivia, found⟩ | ⟨kind, found⟩
      · have waits := step_waits code more found
        refine ⟨.code, ?_, trivial⟩
        unfold kinds
        rw [waits.tokens, waits.frames]
        exact built
      · have fits := Lexeme.fits_scan (reader.lastKind?.any TokenKind.endsOperand) c rest
        have told := (silent.step unread).diagnostics
        rw [step_eq_emit code more found rfl rfl] at told ⊢
        rcases fits.isLexical found with lexical | ⟨quote, rfl⟩
        · have same := openString_of_isLexical (reader.emit kind (reader.spanOf
            (c :: rest.take (reader.lexeme c rest).more))
              (rest.drop (reader.lexeme c rest).more).head?) lexical reader.offset
          rw [same] at told ⊢
          rcases emit_built built lexical told with inCode | ⟨quote, inString⟩
          · exact ⟨.code, inCode, trivial⟩
          · exact ⟨_, inString, nofun, nofun⟩
        · have ahead := startsSplice_of_silent silent code more found
          exact ⟨_, emit_stringStart_built built told _, fun _ => ahead, nofun⟩

/-- By induction on the run, every state of which is as silent as its end. -/
theorem Builds.run (builds : reader.Builds) (silent : reader.Silent) : reader.run.Builds := by
  fun_induction Reader.run reader with
  | case1 reader atEnd => exact builds
  | case2 reader more inductionHypothesis =>
      have unread : reader.rest ≠ [] := by simpa using more
      exact inductionHypothesis (builds.step silent unread) (silent.step unread)

end Reader

/-- A source without faults is code. -/
theorem lex_code [XidStart] {source : String} {tabWidth : Nat}
    (silent : (lex source tabWidth).diagnostics = []) :
    Code ((lex source tabWidth).tokens.map Token.kind) := by
  have silentReader : (Reader.start tabWidth source.toList).Silent := silent
  have mayEnd := Reader.mayEnd_of_silent (Array.toList_eq_nil_iff.mp silentReader)
  have kinds : (lex source tabWidth).tokens.map Token.kind = _ :=
    (Reader.finish_of_mayEnd mayEnd).1
  rcases (Reader.start_builds tabWidth source.toList).run silentReader with ⟨place, built, -⟩
  rcases built.of_mayEnd mayEnd with ⟨rfl, blocks⟩
  rw [← List.append_nil (Reader.run _).frames] at built
  have closed := built.closeBlocks blocks
  unfold Reader.outdents at closed
  rw [← List.countP_eq_length.mpr blocks] at closed
  rw [kinds, ← List.append_assoc]
  cases closed.append (.of_inert (rfl : TokenKind.endOfFile.isInert = true)) with
  | outside code => exact code

/-- In a source without faults every string with splices is closed by a mark of its own form.
Directly in it stand one or more splices, each a name or some code between brackets, and next
to these pieces of text that are not empty, never two of them next to each other. -/
theorem lex_interpolated [XidStart] {source : String} {tabWidth : Nat}
    (silent : (lex source tabWidth).diagnostics = []) {front back : List TokenKind}
    {quote : QuoteForm}
    (parts : (lex source tabWidth).tokens.map Token.kind = front ++ .stringStart quote :: back) :
    ∃ inside after texted, back = inside ++ .stringEnd quote :: after ∧
      Nesting.Balanced inside ∧ Interpolated true texted inside :=
  (lex_code silent).strings front quote back parts

/-- A string in the splice of another one. -/
theorem lex_interpolated_nested :
    let front : List TokenKind := [.stringStart .triple, .punctuation .dollar,
      .punctuation .leftBrace, .identifier "f", .punctuation .leftParen]
    let back : List TokenKind := [.stringMiddle "a", .punctuation .dollar, .identifier "x",
      .stringEnd .plain, .punctuation .rightParen, .punctuation .rightBrace, .stringMiddle "b\n",
      .stringEnd .triple, .endOfFile]
    (lex "\"\"\"$\x7bf(\"a$x\")\x7db\n\"\"\"" 4).diagnostics = [] ∧
      (lex "\"\"\"$\x7bf(\"a$x\")\x7db\n\"\"\"" 4).tokens.map Token.kind =
        front ++ .stringStart .plain :: back ∧
      ∃ inside after texted, back = inside ++ .stringEnd .plain :: after ∧
        Nesting.Balanced inside ∧ Interpolated true texted inside := by
  intro front back
  have silent : (lex "\"\"\"$\x7bf(\"a$x\")\x7db\n\"\"\"" 4).diagnostics = [] := by
    decide +kernel
  have parts : (lex "\"\"\"$\x7bf(\"a$x\")\x7db\n\"\"\"" 4).tokens.map Token.kind =
      front ++ .stringStart .plain :: back := by decide +kernel
  exact ⟨silent, parts, lex_interpolated silent parts⟩

end Offside
