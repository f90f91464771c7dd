import Offside.Proofs.Lexing.LineEnd
import Offside.Proofs.Lexing.Lossless
import Offside.Proofs.Lexing.Margin
import Offside.Proofs.Lexing.Transfer
import Offside.Text.XidStart

namespace Offside

/-!
# One source behind another

A source whose last line is ended and about which nothing is reported can be followed by
another source that begins with a definition at the margin.  The lexer then finds the
tokens of the one source and the tokens of the other one.  Between them stands what a new
line at the margin asks for: the blocks of the first source are closed, as they would be
at its end, and a separator stands behind a statement.

The proof follows two readers in three stretches.  In front of the line break that ends
the first source, a reader of that source alone cannot see that another one follows.
Then only trivia is read up to the first token of the second source.  Behind that token
a reader of the second source alone does not know that another one was in front.
-/

theorem Column.afterText_newline (tabWidth column : Nat) (front : List Char) :
    afterText tabWidth column (front ++ ['\n']) = 0 := by
  unfold afterText
  rw [List.foldl_append]
  rfl

/-! ## Lexemes that do not depend on an operand -/

namespace Lexeme

open CharClass

variable {operandBefore : Bool} {c : Char} {rest : List Char}

theorem scan_trivia [XidStart] {kind : TriviaKind}
    (found : (scan operandBefore c rest).lexeme = .trivia kind) (other : Bool) :
    scan other c rest = scan operandBefore c rest := by
  rcases blank_or_comment found with blank | comment
  · by_cases isBreak : c = '\n'
    · subst isBreak
      rfl
    · rw [scan_blank _ _ isBreak blank, scan_blank _ _ isBreak blank]
  · have slash : c = '/' := by
      rw [startsComment_cons, Bool.and_eq_true, beq_iff_eq] at comment
      exact comment.1
    subst slash
    rw [scan_comment _ comment, scan_comment _ comment]

/-- A numeral does not begin a definition. -/
theorem scan_definition [XidStart] {kind : TokenKind}
    (found : (scan false c rest).lexeme = .token kind)
    (starts : kind.startsDefinition = true) (operandBefore : Bool) :
    scan operandBefore c rest = scan false c rest := by
  rcases solid_of_scan (congrArg Lexeme.kind? found) with ⟨solid, noComment⟩
  rw [scan_eq_scanSolid solid noComment] at found
  have same : startsNumeral operandBefore c rest = startsNumeral false c rest := by
    cases digit : isDigit c with
    | true =>
        unfold startsNumeral
        rw [digit]
        rfl
    | false =>
        cases numeric : startsNumeral false c rest with
        | true =>
            rw [numeric, scanSolid_of_startsNumeral numeric digit] at found
            unfold numeral at found
            dsimp only at found
            split at found
            · split at found
              · cases found
                cases starts
              · cases found
                cases starts
            · cases found
        | false =>
            unfold startsNumeral at numeric ⊢
            rw [digit, Bool.false_or, Bool.not_false, Bool.and_true] at numeric
            rw [digit, numeric]
            rfl
  rw [scan_eq_scanSolid solid noComment, scan_eq_scanSolid solid noComment, same]

end Lexeme

theorem Token.IsInserted.startsDefinition {token : Token} (inserted : token.IsInserted) :
    token.kind.startsDefinition = false := by
  cases inserted with
  | @intro kind offset synthetic =>
      show kind.startsDefinition = false
      cases kind with
      | keyword word => cases synthetic
      | _ => rfl

namespace Reader

variable {base front : List Token} {distance : Nat} {back : List Char}
  {first second : Reader}

/-! ## A text whose last line is ended -/

/-- At the end of a line that nothing follows, a reader stands in front of a new line. -/
def EndsAtLine (reader : Reader) : Prop :=
  EndsLine reader.rest ∨
    reader.rest = [] ∧ reader.atLineStart = true ∧ reader.column = 0

theorem readLexeme_endsAtLine [XidStart] {reader : Reader} {c : Char} {rest : List Char}
    (ends : EndsLine (c :: rest)) (within : (reader.lexeme c rest).more ≤ rest.length)
    (whole : (reader.lexeme c rest).more = rest.length →
      (reader.lexeme c rest).lexeme = .trivia .newline ∨
        (reader.lexeme c rest).lexeme = .trivia .blockComment) :
    (reader.readLexeme c rest).EndsAtLine := by
  rcases Nat.lt_or_eq_of_le within with short | reach
  · refine .inl ?_
    show EndsLine ((c :: rest).drop ((reader.lexeme c rest).more + 1))
    refine ends.drop fun none => ?_
    have all : rest.length + 1 ≤ (reader.lexeme c rest).more + 1 := List.drop_eq_nil_iff.mp none
    omega
  · have text : c :: rest.take (reader.lexeme c rest).more = c :: rest := by
      rw [reach, List.take_length]
    have left : rest.drop (reader.lexeme c rest).more = [] := by rw [reach, List.drop_length]
    rcases ends with ⟨front, split⟩
    have breaks : (c :: rest).contains '\n' = true := by
      rw [split, List.contains_iff_mem]
      exact List.mem_append_right _ (List.mem_singleton.mpr rfl)
    have whole := whole reach
    unfold lexeme at text left whole
    unfold readLexeme EndsAtLine
    dsimp only
    rw [text, left]
    refine .inr ⟨rfl, ?_, ?_⟩
    · rcases whole with found | found
      · rw [found]
        rfl
      · rw [found, breaks]
        exact Bool.or_true _
    · show Column.afterText _ _ (c :: rest) = 0
      rw [split]
      exact Column.afterText_newline _ _ _

theorem Tracks.stepCode [XidStart] (tracks : Tracks base front distance back first second)
    (lasts : front.getLast?.map Token.kind = base.getLast?.map Token.kind)
    (silent : first.Silent) (ends : EndsLine first.rest)
    (code : Frame.inString first.frames = false) :
    Tracks base front distance back first.step second.step ∧ first.step.EndsAtLine := by
  have codeThere : Frame.inString second.frames = false := by
    rw [tracks.frames]
    unfold Frame.inString at code ⊢
    rw [List.head?_map]
    cases frame : first.frames.head? with
    | none => rfl
    | some frame' =>
        rw [frame] at code
        exact (Frame.isString_moved distance frame').trans code
  cases unread : first.rest with
  | nil => exact absurd unread ends.ne_nil
  | cons c rest =>
      have unreadThere : second.rest = c :: (rest ++ back) := by
        rw [tracks.rest, unread]
        rfl
      rw [unread] at ends
      have sound : ∀ fault, (first.lexeme c rest).lexeme ≠ .faulty fault := by
        intro fault faulty
        rcases lexeme_cases silent code unread with ⟨trivia, found⟩ | ⟨kind, found⟩
        · rw [faulty] at found
          cases found
        · rw [faulty] at found
          cases found
      have again := ends.scan_append sound back
      have within : (first.lexeme c rest).more ≤ rest.length := again.2.1
      have whole : (first.lexeme c rest).more = rest.length →
          (first.lexeme c rest).lexeme = .trivia .newline ∨
            (first.lexeme c rest).lexeme = .trivia .blockComment := again.2.2
      rw [step_eq_readLexeme code unread, step_eq_readLexeme codeThere unreadThere]
      refine ⟨tracks.readLexeme lasts again.1 (.inr within) (.inr ?_), ?_⟩
      · rcases Nat.lt_or_eq_of_le within with short | reach
        · exact .inr short
        · rcases whole reach with found | found
          · exact .inl ⟨_, found⟩
          · exact .inl ⟨_, found⟩
      · exact readLexeme_endsAtLine ends within whole

theorem Tracks.stepString [XidStart] (tracks : Tracks base front distance back first second)
    (silent : first.Silent) (ends : EndsLine first.rest) {quote : QuoteForm} {opened : Nat}
    {outer : List Frame} (inString : first.frames = .string quote opened :: outer) :
    Tracks base front distance back first.step second.step ∧ first.step.EndsAtLine := by
  have inStringThere : second.frames =
      .string quote (opened + distance) :: outer.map (Frame.moved distance) := by
    rw [tracks.frames, inString]
    rfl
  have unreadThere : second.rest ≠ [] := by
    rw [tracks.rest]
    exact List.append_ne_nil_of_left_ne_nil ends.ne_nil back
  have whole := scanPiece_of_silent silent inString ends.ne_nil
  have again := ends.scanPiece_append whole back
  rcases step_takesPiece inString ends.ne_nil rfl whole with ⟨_, taken⟩
  rw [step_eq_readPiece inStringThere unreadThere]
  refine ⟨?_, .inl ?_⟩
  · rw [step_eq_readPiece inString ends.ne_nil]
    exact tracks.readPiece opened outer again.1 (.inr (Nat.le_of_lt again.2))
  · rw [taken.rest]
    exact ends.drop fun none => Nat.not_le.mpr again.2 (List.drop_eq_nil_iff.mp none)

/-- As long as the line is not ended, what stands behind it does not matter. -/
theorem Tracks.runLine [XidStart] (tracks : Tracks base front distance back first second)
    (lasts : front.getLast?.map Token.kind = base.getLast?.map Token.kind)
    (silent : first.Silent) (ends : first.EndsAtLine) :
    ∃ behind, second.run = behind.run ∧
      Tracks base front distance back first.run behind ∧ first.run.EndsAtLine := by
  fun_induction Reader.run first generalizing second with
  | case1 first atEnd => exact ⟨second, rfl, tracks, ends⟩
  | case2 first unread inductionHypothesis =>
      rw [List.isEmpty_iff] at unread
      have line := ends.resolve_right fun atEnd => unread atEnd.1
      have unreadThere : second.rest ≠ [] := by
        rw [tracks.rest]
        exact List.append_ne_nil_of_left_ne_nil unread back
      have stepped : Tracks base front distance back first.step second.step ∧
          first.step.EndsAtLine := by
        cases code : Frame.inString first.frames with
        | false => exact tracks.stepCode lasts silent line code
        | true =>
            rcases Frame.exists_of_inString code with ⟨quote, opened, outer, inString⟩
            exact tracks.stepString silent line inString
      rw [run_of_unread unreadThere]
      exact inductionHypothesis stepped.1 (silent.step unread) stepped.2

/-! ## Up to the first token -/

variable {reader after alone joined ended : Reader} {c : Char} {rest : List Char}
  {token : Token} {others more : List Token}

/-- The first token that is found is the one that was read, unless it was inserted or
marks a fault. -/
theorem Emits.head {kind : TokenKind} {span : Span} (emits : reader.Emits kind span after)
    (nothing : reader.tokens = #[]) (found : after.tokens.toList ++ more = token :: others)
    (starts : token.kind.startsDefinition = true) : token.kind = kind ∧ token.span = span := by
  have behind : ∀ {placed : Reader} {read : Token}, reader.Inserts placed →
      (placed.tokens.push read).toList ++ more = token :: others → token = read := by
    intro placed read inserts found
    rcases inserts.tokens with ⟨inserted, tokens, each⟩
    rw [Array.toList_push, tokens, nothing] at found
    cases inserted with
    | nil => exact (List.cons.inj found).1.symm
    | cons mark marks =>
        rw [← (List.cons.inj found).1, (each mark List.mem_cons_self).startsDefinition] at starts
        cases starts
  cases emits with
  | kept inserts =>
      cases behind inserts found
      exact ⟨rfl, rfl⟩
  | unmatched inserts closes reported =>
      cases behind inserts found
      cases starts

/-- A definition at the front of a text is read where it stands. -/
theorem readLexeme_first [XidStart] (nothing : reader.tokens = #[])
    (found : (reader.readLexeme c rest).tokens.toList ++ more = token :: others)
    (starts : token.kind.startsDefinition = true) :
    (∃ kind, (reader.lexeme c rest).lexeme = .trivia kind) ∨
      (reader.lexeme c rest).lexeme = .token token.kind ∧ token.span.start = reader.offset := by
  unfold readLexeme at found
  dsimp only at found
  unfold lexeme
  cases lexeme : (Lexeme.scan (reader.lastKind?.any TokenKind.endsOperand) c rest).lexeme with
  | trivia kind => exact .inl ⟨kind, rfl⟩
  | token kind =>
      rw [lexeme] at found
      have first := (emit_emits _ _ _ _).head nothing found starts
      rw [first.1, first.2]
      exact .inr ⟨rfl, rfl⟩
  | stringOpening quote =>
      rw [lexeme] at found
      have first := (emit_emits _ _ _ _).head nothing found starts
      rw [first.1] at starts
      cases starts
  | faulty fault =>
      rw [lexeme] at found
      have first := (emit_emits (reader.report _ _) _ _ _).head nothing found starts
      rw [first.1] at starts
      cases starts

/-- A reader that has found nothing yet, and one that stands in front of the same text
behind a source whose blocks it has still open. -/
structure Meets (ended : Reader) (distance : Nat) (alone joined : Reader) : Prop where
  tabWidth : joined.tabWidth = alone.tabWidth
  rest : joined.rest = alone.rest
  offset : joined.offset = alone.offset + distance
  column : joined.column = alone.column
  frames : alone.frames = []
  tokens : alone.tokens = #[]
  diagnostics : alone.diagnostics = #[]
  atLineStart : alone.atLineStart = true
  framesThere : joined.frames = ended.frames
  tokensThere : joined.tokens = ended.tokens
  diagnosticsThere : joined.diagnostics = ended.diagnostics
  lastEndThere : joined.lastEnd = ended.lastEnd
  atLineStartThere : joined.atLineStart = true

/-- At the start of a line trivia changes nothing but the place of the reader. -/
theorem readLexeme_trivia [XidStart] {kind : TriviaKind}
    (found : (reader.lexeme c rest).lexeme = .trivia kind) (begins : reader.atLineStart = true) :
    ∃ text, reader.readLexeme c rest =
      (reader.addTrivia kind (reader.spanOf text)).advance text
        (rest.drop (reader.lexeme c rest).more) ∧
      text = c :: rest.take (reader.lexeme c rest).more := by
  refine ⟨_, ?_, rfl⟩
  unfold lexeme at found ⊢
  unfold readLexeme
  dsimp only
  rw [found]
  rcases reader with ⟨tabWidth, unread, offset, column, frames, trivia, atLineStart, lineIndent,
    lastEnd, tokens, diagnostics⟩
  cases begins
  cases kind <;> rfl

theorem readLexeme_token [XidStart] {kind : TokenKind}
    (found : (reader.lexeme c rest).lexeme = .token kind) :
    reader.readLexeme c rest =
      (reader.emit kind (reader.spanOf (c :: rest.take (reader.lexeme c rest).more))
        (rest.drop (reader.lexeme c rest).more).head?).advance
        (c :: rest.take (reader.lexeme c rest).more)
        (rest.drop (reader.lexeme c rest).more) := by
  unfold lexeme at found ⊢
  unfold readLexeme
  dsimp only
  rw [found]

theorem emit_definition {kind : TokenKind} (begins : reader.atLineStart = true)
    (column : reader.column = 0) (blocks : ∀ frame ∈ reader.frames, frame.isBlock = true)
    (indented : Frame.Indented reader.frames) (starts : kind.startsDefinition = true)
    (span : Span) (next : Option Char) :
    reader.emit kind span next = reader.atDefinition.add kind span := by
  unfold emit
  dsimp only
  rw [applyLayout_definition begins column blocks indented starts]
  cases kind with
  | keyword word => rfl
  | _ => cases starts

theorem Meets.trivia [XidStart] (meets : ended.Meets distance alone joined) {kind : TriviaKind}
    (found : (alone.lexeme c rest).lexeme = .trivia kind) :
    ended.Meets distance (alone.readLexeme c rest) (joined.readLexeme c rest) := by
  have same : joined.lexeme c rest = alone.lexeme c rest := Lexeme.scan_trivia found _
  rcases readLexeme_trivia found meets.atLineStart with ⟨text, read, isText⟩
  rcases readLexeme_trivia (same ▸ found) meets.atLineStartThere with ⟨_, readThere, rfl⟩
  rw [same, ← isText] at readThere
  rw [read, readThere]
  exact { meets with
    rest := rfl
    offset := by
      show joined.offset + _ = alone.offset + _ + distance
      rw [meets.offset]
      omega
    column := by
      show Column.afterText joined.tabWidth joined.column text = _
      rw [meets.tabWidth, meets.column]
      rfl }

/-- What the first token of the second source finds in front of it. -/
theorem Meets.definition [XidStart] (meets : ended.Meets distance alone joined)
    (blocks : ∀ frame ∈ ended.frames, frame.isBlock = true)
    (indented : Frame.Indented ended.frames) (silent : ended.diagnostics = #[])
    {kind : TokenKind} (found : (alone.lexeme c rest).lexeme = .token kind)
    (starts : kind.startsDefinition = true) (margin : alone.column = 0) :
    ∃ first moved,
      Tracks [first] (ended.atDefinition.tokens.toList ++ [moved]) distance []
        (alone.readLexeme c rest) (joined.readLexeme c rest) ∧
      (alone.readLexeme c rest).tokens = #[first] ∧ moved.kind = first.kind ∧
      moved.span = first.span.moved distance := by
  have same : joined.lexeme c rest = alone.lexeme c rest := by
    unfold lexeme at found ⊢
    rw [show alone.lastKind? = none by unfold lastKind?; rw [meets.tokens]; rfl] at found ⊢
    exact Lexeme.scan_definition found starts _
  have noBlocks : ∀ frame ∈ alone.frames, frame.isBlock = true := by
    rw [meets.frames]
    exact List.forall_mem_nil _
  have noMargin : Frame.Indented alone.frames := by
    rw [meets.frames]
    exact List.forall_mem_nil _
  have nothing : alone.atDefinition.tokens = #[] := by
    unfold atDefinition atMargin lastKind?
    rw [meets.tokens, meets.frames]
    rfl
  have marks : joined.atDefinition.tokens = ended.atDefinition.tokens := by
    unfold atDefinition atMargin lastKind?
    rw [meets.framesThere, meets.tokensThere, meets.lastEndThere]
  have marginThere : joined.column = 0 := meets.column.trans margin
  rw [← meets.framesThere] at blocks indented
  rw [readLexeme_token found, readLexeme_token (same ▸ found), same,
    emit_definition meets.atLineStart margin noBlocks noMargin starts,
    emit_definition meets.atLineStartThere marginThere blocks indented starts]
  generalize c :: rest.take (alone.lexeme c rest).more = text
  generalize rest.drop (alone.lexeme c rest).more = beyond
  have moved : joined.spanOf text = (alone.spanOf text).moved distance := by
    unfold spanOf Span.moved
    rw [meets.offset, Nat.add_right_comm]
  refine ⟨⟨kind, alone.spanOf text, alone.trivia.toList⟩,
    ⟨kind, joined.spanOf text, joined.trivia.toList⟩, ?_, ?_, rfl, moved⟩
  · have added : Tracks [⟨kind, alone.spanOf text, alone.trivia.toList⟩]
        (ended.atDefinition.tokens.toList ++ [⟨kind, joined.spanOf text, joined.trivia.toList⟩])
        distance [] (alone.atDefinition.add kind (alone.spanOf text))
        (joined.atDefinition.add kind (joined.spanOf text)) :=
      { tabWidth := meets.tabWidth
        rest := meets.rest.trans (List.append_nil _).symm
        offset := meets.offset
        column := meets.column
        frames := rfl
        trivia := rfl
        atLineStart := rfl
        lineIndent := rfl
        lastEnd := congrArg Span.stop moved
        tokens := by
          refine ⟨[], ?_, ?_⟩
          · unfold add
            rw [nothing]
            rfl
          · unfold add
            rw [Array.toList_push, marks, List.map_nil, List.append_nil]
            rfl
        diagnostics := by
          show joined.diagnostics.toList = alone.diagnostics.toList.map _
          rw [meets.diagnosticsThere, silent, meets.diagnostics]
          rfl }
    have advanced := added.advance text beyond
    rwa [List.append_nil] at advanced
  · show alone.atDefinition.tokens.push _ = _
    rw [nothing]
    rfl

/-- A reader has read a source from its start on. -/
structure Stands (reader : Reader) (tabWidth : Nat) (source : List Char) : Prop where
  width : reader.tabWidth = tabWidth
  place : ∃ read, source = read ++ reader.rest ∧ reader.offset = Utf8.byteLength read ∧
    reader.column = Column.afterText tabWidth 0 read

/-- A reader that moves on still stands in its source. -/
theorem Stands.advance {width : Nat} {whole text beyond : List Char} {after : Reader}
    (stands : reader.Stands width whole) (unread : reader.rest = text ++ beyond)
    (tabWidth : after.tabWidth = reader.tabWidth) (offset : after.offset = reader.offset)
    (column : after.column = reader.column) : (after.advance text beyond).Stands width whole := by
  rcases stands.place with ⟨read, split, here, reached⟩
  refine ⟨tabWidth.trans stands.width, read ++ text, ?_, ?_, ?_⟩
  · rw [split, unread, List.append_assoc]
    rfl
  · rw [Utf8.byteLength_append, ← here, ← offset]
    rfl
  · show Column.afterText after.tabWidth after.column text = _
    rw [tabWidth, stands.width, column, reached]
    exact List.foldl_append.symm

theorem Stands.trivia [XidStart] {tabWidth : Nat} {source : List Char}
    (stands : reader.Stands tabWidth source) (unread : reader.rest = c :: rest)
    {kind : TriviaKind} (found : (reader.lexeme c rest).lexeme = .trivia kind)
    (begins : reader.atLineStart = true) : (reader.readLexeme c rest).Stands tabWidth source := by
  rcases readLexeme_trivia found begins with ⟨text, advanced, isText⟩
  rw [advanced]
  refine stands.advance ?_ rfl rfl rfl
  rw [unread, isText, List.cons_append, List.take_append_drop]

theorem Meets.run [XidStart] (meets : ended.Meets distance alone joined)
    (blocks : ∀ frame ∈ ended.frames, frame.isBlock = true)
    (indented : Frame.Indented ended.frames) (silent : ended.diagnostics = #[])
    {tabWidth : Nat} {source : List Char} (stands : alone.Stands tabWidth source)
    (found : alone.run.finish.tokens = token :: others)
    (starts : token.kind.startsDefinition = true)
    (margin : ∀ front rest, source = front ++ rest →
      Utf8.byteLength front = token.span.start → Column.afterText tabWidth 0 front = 0) :
    ∃ moved, moved.kind = token.kind ∧ moved.span = token.span.moved distance ∧
      joined.run.finish.tokens = ended.atDefinition.tokens.toList ++
        moved :: others.map (Token.moved distance) ∧
      joined.run.finish.diagnostics =
        alone.run.finish.diagnostics.map (Diagnostic.moved distance) := by
  have codeBehind : Frame.inString ended.frames = false := by
    cases frames : ended.frames with
    | nil => rfl
    | cons frame outer =>
        have isBlock := blocks frame (frames ▸ List.mem_cons_self)
        cases frame with
        | indent level => rfl
        | _ => cases isBlock
  fun_induction Reader.run alone generalizing joined with
  | case1 alone atEnd =>
      unfold finish at found
      rw [meets.frames] at found
      unfold add at found
      dsimp only [List.foldl_nil] at found
      rw [meets.tokens] at found
      cases found
      cases starts
  | case2 alone unread inductionHypothesis =>
      rw [List.isEmpty_iff] at unread
      have code : Frame.inString alone.frames = false := by
        rw [meets.frames]
        rfl
      have codeThere : Frame.inString joined.frames = false := by
        rw [meets.framesThere]
        exact codeBehind
      rw [run_of_unread (fun none => unread (meets.rest.symm.trans none))]
      cases remaining : alone.rest with
      | nil => exact absurd remaining unread
      | cons c rest =>
          have step := step_eq_readLexeme code remaining
          have stepThere := step_eq_readLexeme codeThere (meets.rest.trans remaining)
          have early := found
          rw [tokens_append_ahead, step] at early
          rcases readLexeme_first meets.tokens early starts with
            ⟨kind, trivia⟩ | ⟨definition, atStart⟩
          · rw [step] at inductionHypothesis found ⊢
            rw [stepThere]
            exact inductionHypothesis (meets.trivia trivia)
              (stands.trivia remaining trivia meets.atLineStart) found
          · rcases stands.place with ⟨read, split, offset, column⟩
            have atMargin := column.trans (margin read _ split (offset.symm.trans atStart.symm))
            rcases meets.definition blocks indented silent definition starts atMargin with
              ⟨first, moved, tracks, only, kind, span⟩
            rw [only] at early
            cases early
            have lasts : (ended.atDefinition.tokens.toList ++ [moved]).getLast?.map Token.kind =
                [token].getLast?.map Token.kind := by
              rw [List.getLast?_concat]
              exact congrArg some kind
            rw [step] at found ⊢
            rw [stepThere]
            rcases (tracks.run lasts).finish with ⟨new, here, there, told⟩
            rw [found] at here
            cases here
            refine ⟨moved, kind, span, ?_, told⟩
            rw [there, List.append_assoc]
            rfl

/-- In front of a definition at the margin stand the marks that close the blocks and
perhaps a separator. -/
theorem atDefinition_tokens (reader : Reader) : ∃ separators : List Token,
    reader.atDefinition.tokens.toList = reader.atMargin.tokens.toList ++ separators ∧
      separators.map Token.kind = separator
        (reader.atMargin.tokens.toList.getLast?.any (·.kind.canEndStatement)) := by
  have last : reader.atMargin.lastKind?.any TokenKind.canEndStatement =
      reader.atMargin.tokens.toList.getLast?.any (·.kind.canEndStatement) := by
    unfold lastKind?
    rw [Array.getLast?_toList, Option.any_map]
  rw [← last]
  refine ⟨_, Array.toList_append, ?_⟩
  split
  · rename_i separated
    rw [separated]
    rfl
  · rename_i notSeparated
    rw [Bool.eq_false_iff.mpr notSeparated]
    rfl

end Reader

/-! ## The tokens of two sources -/

/-- The column at which a token of a source begins. -/
def Token.column (token : Token) (tabWidth : Nat) (source : String) : Nat :=
  Column.afterText (max tabWidth 1) 0 ((Utf8.takeBytes token.span.start source.toList).getD [])

theorem Token.column_of_append {token : Token} {tabWidth : Nat} {source : String}
    {front rest : List Char} (split : source.toList = front ++ rest)
    (place : Utf8.byteLength front = token.span.start) :
    token.column tabWidth source = Column.afterText (max tabWidth 1) 0 front := by
  unfold column
  rw [← place, split, Utf8.takeBytes_append]
  rfl

open Reader in
/-- The tokens of a source behind another one, given that the first of them begins a
definition at the margin. -/
theorem lex_append [XidStart] {before after : String} {tabWidth : Nat} {first : Token}
    {others : List Token} (ends : before = "" ∨ before.toList.getLast? = some '\n')
    (silent : (lex before tabWidth).diagnostics = [])
    (found : (lex after tabWidth).tokens = first :: others)
    (starts : first.kind.startsDefinition = true) (margin : first.column tabWidth after = 0) :
    ∃ separators moved, moved.kind = first.kind ∧
      moved.span = first.span.moved (Utf8.byteLength before.toList) ∧
      separators.map Token.kind = separator
        ((lex before tabWidth).tokens.dropLast.getLast?.any (·.kind.canEndStatement)) ∧
      (lex (before ++ after) tabWidth).tokens =
        (lex before tabWidth).tokens.dropLast ++ separators ++
          moved :: others.map (Token.moved (Utf8.byteLength before.toList)) ∧
      (lex (before ++ after) tabWidth).diagnostics = (lex after tabWidth).diagnostics.map
        (Diagnostic.moved (Utf8.byteLength before.toList)) := by
  have line : (start tabWidth before.toList).EndsAtLine := by
    rcases ends with rfl | last
    · exact .inr ⟨rfl, rfl, rfl⟩
    · exact .inl (EndsLine.of_getLast? last)
  have tracks : Tracks [] [] 0 after.toList (start tabWidth before.toList)
      (start tabWidth (before ++ after).toList) :=
    { tabWidth := rfl
      rest := String.toList_append
      offset := rfl
      column := rfl
      frames := rfl
      trivia := rfl
      atLineStart := rfl
      lineIndent := rfl
      lastEnd := rfl
      tokens := ⟨[], rfl, rfl⟩
      diagnostics := rfl }
  rcases tracks.runLine rfl silent line with ⟨behind, joined, passed, atLine⟩
  have honest := run_honest (start_honest tabWidth before.toList)
  have indented : Frame.Indented (start tabWidth before.toList).run.frames :=
    run_indented (List.forall_mem_nil _)
  have offset := (run_hasRead (start_hasRead tabWidth before.toList)).offset
  have width := run_tabWidth (start tabWidth before.toList)
  have read := run_rest (start tabWidth before.toList)
  change (start tabWidth before.toList).run.finish.diagnostics = [] at silent
  change (start tabWidth after.toList).run.finish.tokens = _ at found
  unfold lex
  rw [joined]
  generalize (start tabWidth before.toList).run = ended at *
  have silentBehind : ended.Silent := by
    unfold Silent
    rw [run_of_read read]
    exact silent
  have blocks := silentBehind.blocks read honest
  rcases atLine.resolve_left fun line => line.ne_nil read with ⟨_, begins, column⟩
  rcases passed.same with ⟨frames, tokens, diagnostics⟩
  have meets : ended.Meets (Utf8.byteLength before.toList) (start tabWidth after.toList)
      behind :=
    { tabWidth := passed.tabWidth.trans width
      rest := by rw [passed.rest, read]; rfl
      offset := by rw [passed.offset, offset]; exact Nat.add_comm _ _
      column := passed.column.trans column
      frames := rfl
      tokens := rfl
      diagnostics := rfl
      atLineStart := rfl
      framesThere := frames
      tokensThere := tokens
      diagnosticsThere := diagnostics
      lastEndThere := passed.lastEnd
      atLineStartThere := passed.atLineStart.trans begins }
  have stands : (start tabWidth after.toList).Stands (max tabWidth 1) after.toList :=
    ⟨rfl, [], rfl, rfl, rfl⟩
  rcases meets.run blocks indented silentBehind.diagnostics stands found starts
      fun front rest split place => (Token.column_of_append split place).symm.trans margin with
    ⟨moved, kind, span, all, told⟩
  rcases atDefinition_tokens ended with ⟨separators, tokens, kinds⟩
  rw [finish_of_blocks blocks]
  dsimp only
  rw [List.dropLast_concat]
  refine ⟨separators, moved, kind, span, kinds, ?_, told⟩
  rw [all, tokens]

/-- The kinds of the tokens of a source end with the mark at its end. -/
theorem kinds_lex [XidStart] (source : String) (tabWidth : Nat) :
    (lex source tabWidth).tokens.map Token.kind =
      (lex source tabWidth).tokens.dropLast.map Token.kind ++ [.endOfFile] := by
  unfold lex Reader.finish Reader.add
  dsimp only
  rw [Array.toList_push, List.dropLast_concat, List.map_append]
  rfl

/-- Reading can be taken up again at a definition at the margin.  Whether the source in
front of it can be parsed does not matter, and the one behind may have any faults. -/
theorem lex_resumes [XidStart] {before after : String} {tabWidth : Nat} {first : Token}
    {others : List Token} (ends : before = "" ∨ before.toList.getLast? = some '\n')
    (silent : (lex before tabWidth).diagnostics = [])
    (found : (lex after tabWidth).tokens = first :: others)
    (starts : first.kind.startsDefinition = true) (margin : first.column tabWidth after = 0) :
    (∃ kinds, (lex before tabWidth).tokens.map Token.kind = kinds ++ [.endOfFile] ∧
      (lex (before ++ after) tabWidth).tokens.map Token.kind =
        kinds ++ (if kinds.getLast?.any TokenKind.canEndStatement then [.autoSemicolon] else []) ++
          (lex after tabWidth).tokens.map Token.kind) ∧
      (lex (before ++ after) tabWidth).diagnostics = (lex after tabWidth).diagnostics.map
        (Diagnostic.moved (Utf8.byteLength before.toList)) := by
  rcases lex_append ends silent found starts margin with
    ⟨separators, moved, kind, _, kinds, tokens, told⟩
  refine ⟨⟨_, kinds_lex before tabWidth, ?_⟩, told⟩
  have movedKinds : (others.map (Token.moved (Utf8.byteLength before.toList))).map Token.kind =
      others.map Token.kind := by
    rw [List.map_map]
    rfl
  rw [tokens, found, List.map_append, List.map_append, List.map_cons, List.map_cons, kinds, kind,
    movedKinds, List.getLast?_map, Option.any_map]
  rfl

/-- The first source has an open block at its end and an operator without operand, and the
second one is faulty: a group is closed with the wrong bracket. -/
theorem lex_resumes_block_unmatched :
    "def f() =\n  x +\n".toList.getLast? = some '\n' ∧
      (lex "def f() =\n  x +\n" 4).diagnostics = [] ∧
      (lex "def g( = ]\n" 4).diagnostics =
        [.lexical (.unmatchedDelimiter ']') ⟨9, 10⟩, .lexical (.unterminatedBlock '(') ⟨5, 6⟩] ∧
      (lex ("def f() =\n  x +\n" ++ "def g( = ]\n") 4).tokens.map Token.kind =
        (lex "def f() =\n  x +\n" 4).tokens.dropLast.map Token.kind ++ [.autoSemicolon] ++
          (lex "def g( = ]\n" 4).tokens.map Token.kind ∧
      (lex ("def f() =\n  x +\n" ++ "def g( = ]\n") 4).diagnostics =
        [.lexical (.unmatchedDelimiter ']') ⟨25, 26⟩,
          .lexical (.unterminatedBlock '(') ⟨21, 22⟩] := by
  have ends : "def f() =\n  x +\n".toList.getLast? = some '\n' := by decide +kernel
  have silent : (lex "def f() =\n  x +\n" 4).diagnostics = [] := by decide +kernel
  have alone : (lex "def g( = ]\n" 4).diagnostics =
      [.lexical (.unmatchedDelimiter ']') ⟨9, 10⟩, .lexical (.unterminatedBlock '(') ⟨5, 6⟩] := by
    decide +kernel
  have found : (lex "def g( = ]\n" 4).tokens =
      .bare (.keyword .defKw) ⟨0, 3⟩ :: (lex "def g( = ]\n" 4).tokens.tail := by
    decide +kernel
  have margin : Token.column (.bare (.keyword .defKw) ⟨0, 3⟩) 4 "def g( = ]\n" = 0 := by
    decide +kernel
  have separated : ((lex "def f() =\n  x +\n" 4).tokens.dropLast.map
      Token.kind).getLast?.any TokenKind.canEndStatement = true := by decide +kernel
  have length : Utf8.byteLength "def f() =\n  x +\n".toList = 16 := by decide +kernel
  rcases lex_resumes (.inr ends) silent found rfl margin with ⟨⟨kinds, split, all⟩, told⟩
  cases List.append_cancel_right ((kinds_lex _ _).symm.trans split)
  rw [separated] at all
  rw [length, alone] at told
  exact ⟨ends, silent, alone, all, told⟩

end Offside
