import Offside.Proofs.Lexing.Placement

namespace Offside

/-!
# What a reader still has to find

The tokens of a source are those that a reader has found up to some point and those
ahead of it.  A reader that is silent to the end is so at every point, and then every
token ahead is found in one of few ways: trivia only waits, a lexeme comes to stand
behind what the layout rules insert in front of it, and a piece of a string comes alone.
-/

/-- What a token opens, at an offset. -/
def Frame.opening? (kind : TokenKind) (offset : Nat) : Option Frame :=
  match kind with
  | .stringStart quote => some (.string quote offset)
  | kind => (Bracket.ofKind? kind).map (Frame.group · offset)

/-- Whether the innermost frame is a string, the pieces of which are read by rules of
their own. -/
def Frame.inString (frames : List Frame) : Bool := frames.head?.any Frame.isString

theorem Frame.exists_of_inString {frames : List Frame} (inString : inString frames = true) :
    ∃ quote opened outer, frames = .string quote opened :: outer := by
  cases frames with
  | nil => cases inString
  | cons frame outer =>
      cases frame with
      | string quote opened => exact ⟨quote, opened, outer, rfl⟩
      | _ => cases inString

/-- The constructs that may be open at the end of a source: blocks, which are closed, and
splices, about which nothing has to be said. -/
def Frame.mayEnd : Frame → Bool
  | indent _ | splice _ => true
  | group _ _ | string _ _ => false

namespace StringText.Piece

/-- The tokens that a piece of a string becomes. -/
def kinds (quote : QuoteForm) (text : List Char) : Piece → List TokenKind
  | closing => [.stringEnd quote]
  | spliceOpening => [.punctuation .dollar, .punctuation .leftBrace]
  | name length =>
    [.punctuation .dollar, .identifier (String.ofList ((text.drop 1).take length))]
  | .text length => [.stringMiddle (String.ofList (text.take length))]
  | cutOff _ => []

/-- The number of characters that a piece takes. -/
def reach (quote : QuoteForm) : Piece → Nat
  | closing => marksLength quote
  | spliceOpening => 2
  | name length => length + 1
  | .text length | cutOff length => length

/-- What is open behind a piece, in a string that has `outer` around it. -/
def frames (offset : Nat) (string : Frame) (outer : List Frame) : Piece → List Frame
  | closing => outer
  | spliceOpening => .splice offset :: string :: outer
  | _ => string :: outer

end StringText.Piece

namespace Reader

variable {reader after : Reader} {kind : TokenKind} {next : Option Char} {span : Span}
  {c : Char} {rest : List Char} {tokens new : List Token}

/-- The tokens that a reader still has to find. -/
def ahead [XidStart] (reader : Reader) : List Token :=
  reader.run.finish.tokens.drop reader.tokens.size

/-- Nothing is reported, neither up to some point nor behind it. -/
def Silent [XidStart] (reader : Reader) : Prop := reader.run.finish.diagnostics = []

theorem run_finish_grows [XidStart] (reader : Reader) : ∃ ended : Reader, reader.Grows ended ∧
    reader.run.finish = ⟨ended.tokens.toList, ended.diagnostics.toList⟩ :=
  ⟨(reader.run.frames.foldl closeAtEnd reader.run).add .endOfFile (.empty reader.run.offset),
    (run_grows reader).trans ((foldl_closeAtEnd_grows _ _).trans (.push rfl rfl)), rfl⟩

theorem tokens_append_ahead [XidStart] (reader : Reader) :
    reader.run.finish.tokens = reader.tokens.toList ++ reader.ahead := by
  rcases run_finish_grows reader with ⟨ended, grows, whole⟩
  rcases grows.tokens with ⟨more, added⟩
  have same : reader.run.finish.tokens = reader.tokens.toList ++ more := by rw [whole, added]
  unfold ahead
  rw [same, ← Array.length_toList, List.drop_left]

theorem Silent.diagnostics [XidStart] (silent : reader.Silent) : reader.diagnostics = #[] := by
  rcases run_finish_grows reader with ⟨ended, grows, whole⟩
  unfold Silent at silent
  rw [whole] at silent
  exact grows.silent (Array.toList_eq_nil_iff.mp silent)

theorem run_of_unread [XidStart] (unread : reader.rest ≠ []) : reader.run = reader.step.run := by
  conv => lhs; rw [run]
  exact dif_neg (by rw [List.isEmpty_iff]; exact unread)

theorem run_of_read [XidStart] (read : reader.rest = []) : reader.run = reader := by
  rw [run]
  exact dif_pos (by rw [List.isEmpty_iff]; exact read)

theorem step_of_read [XidStart] (read : reader.rest = []) : reader.step = reader := by
  unfold step
  rw [read]

/-- A step changes nothing about where the reader ends. -/
theorem run_step [XidStart] (reader : Reader) : reader.step.run = reader.run := by
  by_cases read : reader.rest = []
  · rw [step_of_read read]
  · exact (run_of_unread read).symm

theorem Silent.step [XidStart] (silent : reader.Silent) (unread : reader.rest ≠ []) :
    reader.step.Silent := by
  unfold Silent at silent ⊢
  rw [← run_of_unread unread]
  exact silent

theorem ahead_step [XidStart] (unread : reader.rest ≠ [])
    (added : reader.step.tokens.toList = reader.tokens.toList ++ new) :
    reader.ahead = new ++ reader.step.ahead := by
  have whole := tokens_append_ahead reader.step
  rw [← run_of_unread unread, tokens_append_ahead reader, added, List.append_assoc] at whole
  exact List.append_cancel_left whole

theorem kinds_of_tokens (added : after.tokens.toList = reader.tokens.toList ++ new) :
    after.kinds = reader.kinds ++ new.map Token.kind := by
  unfold kinds
  rw [added, List.map_append]

/-! ## Tokens behind what the layout rules insert -/

/-- What is inserted in front of a token where nothing is reported: `frames` are open
before it, `around` are open around it.  Blocks are closed and two statements separated,
or a block is opened, or blocks are closed in front of the bracket that closes the group
around them.  A block that would be closed at once is left out. -/
inductive Emission (kinds : List TokenKind) (kind : TokenKind) (next : Option Char) :
    List Frame → List TokenKind → List Frame → Prop
  | settles {blocks around : List Frame} (separated : Bool) (noCloser : kind.isCloser = false)
      (closed : ∀ frame ∈ blocks, frame.isBlock = true)
      (begins : separated = true → (Frame.level? around).isSome = true ∧
        kind.canStartStatement next = true ∧
        (blocks = [] → kinds.getLast?.any TokenKind.canEndStatement = true))
      (goesOn : separated = false → blocks ≠ [] → (Frame.level? around).isSome = true →
        kind.canStartStatement next = false) :
      Emission kinds kind next (blocks ++ around) (outdents blocks ++ separator separated) around
  | deepens {frames : List Frame} (level : Nat) (noCloser : kind.isCloser = false)
      (active : Frame.layoutActive frames = true)
      (opens : kinds.getLast?.any TokenKind.opensBlock = true) :
      Emission kinds kind next frames [.indent] (.indent level :: frames)
  | closes {blocks around : List Frame} {target : Frame} {closer : ClosingBracket}
      (same : kind = .punctuation closer.mark)
      (closed : ∀ frame ∈ blocks, frame.isBlock = true)
      (fits : target.isClosedBy closer = true) :
      Emission kinds kind next (blocks ++ target :: around) (outdents blocks) around

theorem outdents_append (blocks others : List Frame) :
    outdents (blocks ++ others) = outdents blocks ++ outdents others := by
  unfold outdents
  rw [List.length_append, List.replicate_append_replicate]

/-- A closing bracket starts no statement. -/
theorem canStartStatement_mark (closer : ClosingBracket) (next : Option Char) :
    TokenKind.canStartStatement next (.punctuation closer.mark) = false := by
  cases closer <;> rfl

theorem ofKind?_mark (closer : ClosingBracket) :
    ClosingBracket.ofKind? (.punctuation closer.mark) = some closer := by
  cases closer <;> rfl

theorem isCloser_mark (closer : ClosingBracket) :
    (TokenKind.punctuation closer.mark).isCloser = true :=
  congrArg Option.isSome (ofKind?_mark closer)

/-- A closing bracket opens nothing. -/
theorem ofKind?_bracket_mark (closer : ClosingBracket) :
    Bracket.ofKind? (.punctuation closer.mark) = none := by
  cases closer <;> rfl

theorem kind_of_isCloser (isCloser : kind.isCloser = true) :
    ∃ closer : ClosingBracket, kind = .punctuation closer.mark := by
  unfold TokenKind.isCloser at isCloser
  rcases Option.isSome_iff_exists.mp isCloser with ⟨closer, found⟩
  exact ⟨closer, kind_of_ofKind? found⟩

/-- In front of a closing bracket only the blocks of its group are closed. -/
theorem Emission.of_closer {kinds inserted : List TokenKind} {frames around : List Frame}
    {closer : ClosingBracket}
    (emission : Emission kinds (.punctuation closer.mark) next frames inserted around) :
    ∃ blocks target, frames = blocks ++ target :: around ∧ inserted = outdents blocks ∧
      (∀ frame ∈ blocks, frame.isBlock = true) ∧ target.isClosedBy closer = true := by
  generalize isMark : TokenKind.punctuation closer.mark = kind at emission
  cases emission with
  | settles separated noCloser =>
      rw [← isMark, isCloser_mark] at noCloser
      cases noCloser
  | deepens level noCloser =>
      rw [← isMark, isCloser_mark] at noCloser
      cases noCloser
  | @closes blocks around target other same closed fits =>
      have isCloser : some other = some closer := by
        rw [← ofKind?_mark, ← ofKind?_mark, isMark, same]
      cases isCloser
      exact ⟨blocks, target, rfl, rfl, closed, fits⟩

/-- A closing bracket closes what the line before it and the group around it leave. -/
theorem Emission.of_closesGroup {placed : Reader} {closer : ClosingBracket}
    {blocks around : List Frame} {target : Frame}
    (laid : reader.Laid (.punctuation closer.mark) next placed)
    (closes : placed.ClosesGroup closer blocks target around after)
    (noEmptyBlock : ∀ more, after.kinds ≠ reader.kinds ++ .indent :: .outdent :: more) :
    ∃ inserted, Emission reader.kinds (.punctuation closer.mark) next reader.frames inserted
      around ∧ after.kinds = reader.kinds ++ (inserted ++ [.punctuation closer.mark]) := by
  have kinds := closes.kinds
  have frames := closes.split
  cases laid with
  | @settles blocksBefore inside separated split closed begins goesOn inserted left =>
      have joined : separated = false := by
        refine Bool.eq_false_iff.mpr fun starts => ?_
        have start := (begins starts).2.1
        rw [canStartStatement_mark] at start
        cases start
      rw [joined, separator_false, List.append_nil] at inserted
      have each : ∀ frame ∈ blocksBefore ++ blocks, frame.isBlock = true := by
        intro frame member
        exact (List.mem_append.mp member).elim (closed frame) (closes.closed frame)
      refine ⟨outdents (blocksBefore ++ blocks), ?_, ?_⟩
      · have whole : reader.frames = (blocksBefore ++ blocks) ++ target :: around := by
          rw [split, ← left, frames, List.append_assoc]
        rw [whole]
        exact .closes rfl each closes.fits
      · rw [kinds, inserted, outdents_append]
        simp only [List.append_assoc]
  | deepens level active opens inserted left =>
      -- The new block stands in front of the group, so it is closed at once.
      exfalso
      rw [left] at frames
      cases blocks with
      | nil =>
          have same : target = .indent level := (List.cons.inj frames).1.symm
          have fits := closes.fits
          rw [same] at fits
          cases fits
      | cons block blocks =>
          refine noEmptyBlock (outdents blocks ++ [.punctuation closer.mark]) ?_
          rw [kinds, inserted, List.append_assoc]
          rfl

/-- A closing bracket closes what the layout rules have left. -/
theorem emit_of_closer (reader : Reader) (closer : ClosingBracket) (span : Span)
    (next : Option Char) : reader.emit (.punctuation closer.mark) span next =
      (reader.applyLayout (.punctuation closer.mark) next).addCloser closer span := by
  unfold emit
  rw [ofKind?_mark]

/-- Any other token is added behind what layout has inserted, and perhaps opens a group. -/
theorem emit_of_noCloser (reader : Reader) (noCloser : ClosingBracket.ofKind? kind = none)
    (span : Span) (next : Option Char) :
    (reader.emit kind span next).kinds = (reader.applyLayout kind next).kinds ++ [kind] ∧
      (reader.emit kind span next).frames =
        ((Bracket.ofKind? kind).map (Frame.group · span.start)).toList ++
          (reader.applyLayout kind next).frames ∧
      (reader.emit kind span next).diagnostics = (reader.applyLayout kind next).diagnostics := by
  unfold emit
  rw [noCloser]
  dsimp only
  cases Bracket.ofKind? kind with
  | none => exact ⟨kinds_add _ _ _, rfl, rfl⟩
  | some bracket => exact ⟨kinds_add _ _ _, rfl, rfl⟩

/-- What a silent reader does about a token. -/
theorem emit_emission (silent : (reader.emit kind span next).diagnostics = #[])
    (noEmptyBlock : ∀ more,
      (reader.emit kind span next).kinds ≠ reader.kinds ++ .indent :: .outdent :: more) :
    ∃ inserted around, Emission reader.kinds kind next reader.frames inserted around ∧
      (reader.emit kind span next).kinds = reader.kinds ++ (inserted ++ [kind]) ∧
      (reader.emit kind span next).frames =
        ((Bracket.ofKind? kind).map (Frame.group · span.start)).toList ++ around := by
  cases closing : ClosingBracket.ofKind? kind with
  | some closer =>
      cases kind_of_ofKind? closing
      rw [emit_of_closer] at silent noEmptyBlock ⊢
      have laid := applyLayout_laid ((addCloser_grows _ _ _).silent silent)
      rcases addCloser_silent silent with ⟨blocks, target, around, closes⟩
      rcases Emission.of_closesGroup laid closes noEmptyBlock with ⟨inserted, emission, kinds⟩
      refine ⟨inserted, around, emission, kinds, ?_⟩
      rw [ofKind?_bracket_mark, closes.frames]
      rfl
  | none =>
      have noCloser : kind.isCloser = false := congrArg Option.isSome closing
      rcases emit_of_noCloser reader closing span next with ⟨kinds, frames, diagnostics⟩
      have laid := applyLayout_laid (diagnostics.symm.trans silent)
      rw [kinds, frames]
      cases laid with
      | @settles blocks around separated split closed begins goesOn inserted left =>
          rw [inserted, left, split, List.append_assoc]
          exact ⟨_, around, .settles separated noCloser closed begins goesOn, rfl, rfl⟩
      | deepens level active opens inserted left =>
          rw [inserted, left, List.append_assoc]
          exact ⟨_, _, .deepens level noCloser active opens, rfl, rfl⟩

/-- What was inserted in front of a token, with the token. -/
theorem emit_marks (silent : (reader.emit kind span next).diagnostics = #[]) :
    ∃ marks, (reader.emit kind span next).tokens.toList =
        reader.tokens.toList ++ marks ++ [⟨kind, span, reader.trivia.toList⟩] ∧
      (∀ mark ∈ marks, mark.leading = []) ∧ (reader.emit kind span next).trivia = #[] := by
  have emits := emit_emits reader kind span next
  generalize reader.emit kind span next = after at silent emits
  cases emits with
  | @kept placed inserts =>
      rcases inserts.tokens with ⟨marks, added, inserted⟩
      refine ⟨marks, ?_, fun mark member => ?_, rfl⟩
      · show (placed.tokens.push ⟨kind, span, placed.trivia.toList⟩).toList = _
        rw [Array.toList_push, added, inserts.trivia]
      · cases inserted mark member
        rfl
  | unmatched inserts same reported => exact absurd silent reported

theorem kinds_of_marks {marks : List Token} {leading : List Trivia}
    (tokens : after.tokens.toList = reader.tokens.toList ++ marks ++ [⟨kind, span, leading⟩]) :
    after.kinds = reader.kinds ++ (marks.map Token.kind ++ [kind]) := by
  unfold kinds
  rw [tokens, List.map_append, List.map_append, List.append_assoc]
  rfl

/-- The tokens that are added where nothing is reported. -/
theorem emit_tokens (silent : (reader.emit kind span next).diagnostics = #[]) :
    ∃ inserted, (reader.emit kind span next).tokens.toList =
        reader.tokens.toList ++ (inserted ++ [⟨kind, span, reader.trivia.toList⟩]) ∧
      (reader.emit kind span next).trivia = #[] := by
  rcases emit_marks silent with ⟨marks, tokens, _, trivia⟩
  exact ⟨marks, by rw [tokens, List.append_assoc], trivia⟩

/-! ## Steps -/

theorem step_eq_readLexeme [XidStart] (code : Frame.inString reader.frames = false)
    (unread : reader.rest = c :: rest) : reader.step = reader.readLexeme c rest := by
  unfold step
  rw [unread]
  dsimp only
  split
  · rename_i same
    rw [same] at code
    cases code
  · rfl

/-- The lexeme that a reader stands at, given that it stands in no string. -/
def lexeme [XidStart] (reader : Reader) (c : Char) (rest : List Char) : Lexeme.Found :=
  Lexeme.scan (reader.lastKind?.any TokenKind.endsOperand) c rest

/-- Trivia waits, and nothing else happens. -/
structure Waits (before : Reader) (kind : TriviaKind) (after : Reader) : Prop where
  tokens : after.tokens = before.tokens
  frames : after.frames = before.frames
  waits : ∃ span, after.trivia = before.trivia.push ⟨kind, span⟩

theorem Waits.trivia {before after : Reader} {kind : TriviaKind}
    (waits : before.Waits kind after) : after.trivia ≠ #[] := by
  rcases waits.waits with ⟨span, trivia⟩
  rw [trivia]
  exact Array.push_ne_empty

theorem step_waits [XidStart] (code : Frame.inString reader.frames = false)
    (unread : reader.rest = c :: rest) {trivia : TriviaKind}
    (found : (reader.lexeme c rest).lexeme = .trivia trivia) :
    reader.Waits trivia reader.step := by
  rw [step_eq_readLexeme code unread]
  unfold lexeme at found
  unfold readLexeme
  dsimp only
  rw [found]
  cases trivia <;> exact ⟨rfl, rfl, _, rfl⟩

/-- A faulty lexeme is reported, so a silent reader finds trivia or a token. -/
theorem lexeme_cases [XidStart] (silent : reader.Silent)
    (code : Frame.inString reader.frames = false) (unread : reader.rest = c :: rest) :
    (∃ trivia, (reader.lexeme c rest).lexeme = .trivia trivia) ∨
      ∃ kind, (reader.lexeme c rest).lexeme.kind? = some kind := by
  have told := (silent.step (by rw [unread]; exact List.cons_ne_nil _ _)).diagnostics
  rw [step_eq_readLexeme code unread] at told
  unfold readLexeme at told
  dsimp only at told
  unfold lexeme
  cases found : (Lexeme.scan (reader.lastKind?.any TokenKind.endsOperand) c rest).lexeme with
  | trivia trivia => exact Or.inl ⟨trivia, rfl⟩
  | token kind => exact Or.inr ⟨kind, rfl⟩
  | stringOpening quote => exact Or.inr ⟨_, rfl⟩
  | faulty fault =>
      rw [found] at told
      have reported := (emit_grows (reader.report fault _) _ _ _).silent told
      exact absurd reported (report_diagnostics_ne _ _ _)

/-- A token is read: some tokens are inserted in front of it, it takes the waiting
trivia, and perhaps it opens something. -/
structure Takes (before : Reader) (kind : TokenKind) (next : Option Char)
    (inserted : List Token) (token : Token) (around : List Frame) (after : Reader) : Prop where
  emission : Emission before.kinds kind next before.frames (inserted.map Token.kind) around
  tokens : after.tokens.toList = before.tokens.toList ++ (inserted ++ [token])
  frames : after.frames = (Frame.opening? kind before.offset).toList ++ around
  trivia : after.trivia = #[]
  kind : token.kind = kind
  leading : token.leading = before.trivia.toList

/-- No block is closed as soon as it was opened. -/
def NoEmptyBlock (kinds : List TokenKind) : Prop :=
  ∀ front back, kinds ≠ front ++ .indent :: .outdent :: back

theorem kinds_append_ahead [XidStart] (reader : Reader) :
    reader.run.finish.tokens.map Token.kind =
      reader.kinds ++ reader.ahead.map Token.kind := by
  rw [tokens_append_ahead, List.map_append]
  rfl

/-- Nothing is reported, and no block is closed as soon as it was opened. -/
structure Readable [XidStart] (reader : Reader) : Prop where
  silent : reader.Silent
  noEmptyBlock : NoEmptyBlock (reader.run.finish.tokens.map Token.kind)

theorem Readable.step [XidStart] (readable : reader.Readable) (unread : reader.rest ≠ []) :
    reader.step.Readable where
  silent := readable.silent.step unread
  noEmptyBlock := by
    rw [← run_of_unread unread]
    exact readable.noEmptyBlock

theorem emit_takes (silent : (reader.emit kind span next).diagnostics = #[])
    (noEmptyBlock : ∀ more,
      (reader.emit kind span next).kinds ≠ reader.kinds ++ .indent :: .outdent :: more) :
    ∃ inserted around,
      Emission reader.kinds kind next reader.frames (inserted.map Token.kind) around ∧
      (reader.emit kind span next).tokens.toList =
        reader.tokens.toList ++ (inserted ++ [⟨kind, span, reader.trivia.toList⟩]) ∧
      (reader.emit kind span next).trivia = #[] ∧
      (reader.emit kind span next).frames =
        ((Bracket.ofKind? kind).map (Frame.group · span.start)).toList ++ around := by
  rcases emit_emission silent noEmptyBlock with ⟨kinds, around, emission, added, frames⟩
  rcases emit_tokens silent with ⟨inserted, tokens, trivia⟩
  have same := kinds_of_tokens tokens
  rw [added, List.map_append] at same
  have inner : kinds = inserted.map Token.kind :=
    List.append_cancel_right (List.append_cancel_left same)
  rw [inner] at emission
  exact ⟨inserted, around, emission, tokens, trivia, frames⟩

/-- A string is opened behind its marks. -/
def openString (reader : Reader) (kind : TokenKind) (offset : Nat) : Reader :=
  match kind with
  | .stringStart quote => reader.openFrame (.string quote offset)
  | _ => reader

theorem openString_frames (reader : Reader) (kind : TokenKind) (offset : Nat)
    {around : List Frame}
    (frames : reader.frames =
      ((Bracket.ofKind? kind).map (Frame.group · offset)).toList ++ around) :
    (reader.openString kind offset).frames = (Frame.opening? kind offset).toList ++ around := by
  cases kind with
  | stringStart quote => exact congrArg (_ :: ·) frames
  | _ => exact frames

/-- A token is read as a whole: the reader emits it and moves past it. -/
theorem step_eq_emit [XidStart] (code : Frame.inString reader.frames = false)
    (unread : reader.rest = c :: rest) (found : (reader.lexeme c rest).lexeme.kind? = some kind)
    {text beyond : List Char} (reads : c :: rest.take (reader.lexeme c rest).more = text)
    (leaves : rest.drop (reader.lexeme c rest).more = beyond) :
    reader.step =
      ((reader.emit kind (reader.spanOf text) beyond.head?).openString kind
        reader.offset).advance text beyond := by
  have fits := Lexeme.fits_scan (reader.lastKind?.any TokenKind.endsOperand) c rest
  unfold Lexeme.Found.Fits at fits
  rw [step_eq_readLexeme code unread]
  unfold readLexeme
  unfold lexeme at found reads leaves
  dsimp only
  rw [reads, leaves]
  generalize (Lexeme.scan (reader.lastKind?.any TokenKind.endsOperand) c rest).lexeme =
    lexeme at found fits
  cases lexeme with
  | trivia trivia => cases found
  | faulty fault => cases found
  | stringOpening quote =>
      cases found
      rfl
  | token kindThere =>
      cases found
      cases fits with
      | token lexical spells =>
          cases kind with
          | stringStart quote => cases lexical
          | _ => rfl

theorem openString_tokens (reader : Reader) (kind : TokenKind) (offset : Nat) :
    (reader.openString kind offset).tokens = reader.tokens ∧
      (reader.openString kind offset).trivia = reader.trivia ∧
      (reader.openString kind offset).diagnostics = reader.diagnostics := by
  cases kind <;> exact ⟨rfl, rfl, rfl⟩

/-- A token that is read is emitted, and its string opened behind it. -/
theorem exists_emit_of_step [XidStart] (code : Frame.inString reader.frames = false)
    (unread : reader.rest = c :: rest)
    (found : (reader.lexeme c rest).lexeme.kind? = some kind) :
    ∃ span next, reader.step.kinds = (reader.emit kind span next).kinds ∧
      reader.step.diagnostics = (reader.emit kind span next).diagnostics := by
  rcases openString_tokens (reader.emit kind (reader.spanOf
    (c :: rest.take (reader.lexeme c rest).more)) (rest.drop (reader.lexeme c rest).more).head?)
      kind reader.offset with ⟨tokens, _, diagnostics⟩
  rw [step_eq_emit code unread found rfl rfl]
  exact ⟨_, _, congrArg (fun tokens : Array Token => tokens.toList.map Token.kind) tokens,
    diagnostics⟩

theorem step_takes_of_noBlock [XidStart] (silent : reader.Silent)
    (code : Frame.inString reader.frames = false) (unread : reader.rest = c :: rest)
    (found : (reader.lexeme c rest).lexeme.kind? = some kind)
    (noBlock : ∀ more, reader.step.kinds ≠ reader.kinds ++ .indent :: .outdent :: more) :
    ∃ inserted token around,
      reader.Takes kind reader.step.rest.head? inserted token around reader.step ∧
        reader.step.rest = rest.drop (reader.lexeme c rest).more := by
  have told := (silent.step (by rw [unread]; exact List.cons_ne_nil _ _)).diagnostics
  rw [step_eq_emit code unread found rfl rfl] at told noBlock ⊢
  generalize rest.drop (reader.lexeme c rest).more = beyond at told noBlock ⊢
  generalize c :: rest.take (reader.lexeme c rest).more = text at told noBlock ⊢
  rcases openString_tokens (reader.emit kind (reader.spanOf text) beyond.head?) kind
    reader.offset with ⟨tokens, trivia, diagnostics⟩
  have kinds : (((reader.emit kind (reader.spanOf text) beyond.head?).openString kind
      reader.offset).advance text beyond).kinds =
        (reader.emit kind (reader.spanOf text) beyond.head?).kinds :=
    congrArg (fun tokens : Array Token => tokens.toList.map Token.kind) tokens
  rw [kinds] at noBlock
  rcases emit_takes (diagnostics.symm.trans told) noBlock with
    ⟨inserted, around, emission, added, waiting, frames⟩
  refine ⟨inserted, ⟨kind, reader.spanOf text, reader.trivia.toList⟩, around, ⟨emission, ?_,
    openString_frames _ _ _ frames, trivia.trans waiting, rfl, rfl⟩, rfl⟩
  exact (congrArg Array.toList tokens).trans added

theorem step_takes [XidStart] (readable : reader.Readable)
    (code : Frame.inString reader.frames = false) (unread : reader.rest = c :: rest)
    (found : (reader.lexeme c rest).lexeme.kind? = some kind) :
    ∃ inserted token around,
      reader.Takes kind reader.step.rest.head? inserted token around reader.step ∧
        reader.step.rest = rest.drop (reader.lexeme c rest).more := by
  refine step_takes_of_noBlock readable.silent code unread found fun more same => ?_
  have whole := kinds_append_ahead reader.step
  rw [← run_of_unread (by rw [unread]; exact List.cons_ne_nil _ _), same,
    List.append_assoc] at whole
  exact readable.noEmptyBlock _ _ whole

/-! ## Pieces of strings -/

variable {quote : QuoteForm} {opened : Nat} {outer : List Frame} {piece : StringText.Piece}

/-- A piece of a string is read: its tokens are added and nothing is inserted. -/
structure TakesPiece (before : Reader) (quote : QuoteForm) (opened : Nat)
    (outer : List Frame) (piece : StringText.Piece) (new : List Token) (after : Reader) : Prop where
  tokens : after.tokens.toList = before.tokens.toList ++ new
  kinds : new.map Token.kind = piece.kinds quote before.rest
  leading : before.trivia = #[] → ∀ token ∈ new, token.leading = []
  rest : after.rest = before.rest.drop (piece.reach quote)
  frames : after.frames = piece.frames before.offset (.string quote opened) outer
  trivia : after.trivia = #[]
  lineIndent : after.lineIndent = before.lineIndent
  atLineStart : after.atLineStart = before.atLineStart
  diagnostics : after.diagnostics = before.diagnostics

theorem step_eq_readPiece [XidStart] (inString : reader.frames = .string quote opened :: outer)
    (unread : reader.rest ≠ []) : reader.step = reader.readPiece quote opened outer := by
  unfold step
  cases rest : reader.rest with
  | nil => exact absurd rest unread
  | cons c rest =>
      rw [inString]

theorem toList_push_push (tokens : Array Token) (first second : Token) :
    ((tokens.push first).push second).toList = tokens.toList ++ [first, second] := by
  rw [Array.toList_push, Array.toList_push, List.append_assoc]
  rfl

theorem leading_eq_nil (none : reader.trivia = #[]) : reader.trivia.toList = [] := by
  rw [none]

theorem step_takesPiece [XidStart] (inString : reader.frames = .string quote opened :: outer)
    (unread : reader.rest ≠ []) (found : StringText.scanPiece quote reader.rest = piece)
    (whole : ∀ length, piece ≠ .cutOff length) :
    ∃ new, reader.TakesPiece quote opened outer piece new reader.step := by
  rw [step_eq_readPiece inString unread]
  unfold readPiece
  dsimp only
  rw [found]
  cases piece with
  | cutOff length => exact absurd rfl (whole length)
  | closing =>
      refine ⟨[⟨_, _, reader.trivia.toList⟩], Array.toList_push, rfl, fun none token member => ?_,
        rfl, rfl, rfl, rfl, rfl, rfl⟩
      cases List.mem_singleton.mp member
      exact leading_eq_nil none
  | text length =>
      refine ⟨[⟨_, _, reader.trivia.toList⟩], Array.toList_push, rfl, fun none token member => ?_,
        rfl, inString, rfl, rfl, rfl, rfl⟩
      cases List.mem_singleton.mp member
      exact leading_eq_nil none
  | spliceOpening =>
      refine ⟨_, toList_push_push _ _ _, rfl, fun none token member => ?_,
        List.drop_drop, congrArg (_ :: ·) inString, rfl, rfl, rfl, rfl⟩
      rcases List.mem_cons.mp member with first | second
      · cases first
        exact leading_eq_nil none
      · cases List.mem_singleton.mp second
        rfl
  | name length =>
      refine ⟨_, toList_push_push _ _ _, rfl, fun none token member => ?_,
        List.drop_drop.trans (by rw [Nat.add_comm]; rfl), inString, rfl, rfl, rfl, rfl⟩
      rcases List.mem_cons.mp member with first | second
      · cases first
        exact leading_eq_nil none
      · cases List.mem_singleton.mp second
        rfl

/-- A string that is cut off is reported. -/
theorem scanPiece_of_silent [XidStart] (silent : reader.Silent)
    (inString : reader.frames = .string quote opened :: outer) (unread : reader.rest ≠ [])
    (length : Nat) : StringText.scanPiece quote reader.rest ≠ .cutOff length := by
  intro found
  have told := (silent.step unread).diagnostics
  rw [step_eq_readPiece inString unread] at told
  unfold readPiece at told
  dsimp only at told
  rw [found] at told
  exact absurd told Array.push_ne_empty

/-! ## The end of the source -/

theorem foldl_closeAtEnd_of_mayEnd {frames : List Frame}
    (mayEnd : ∀ frame ∈ frames, frame.mayEnd = true) :
    (frames.foldl closeAtEnd reader).kinds =
        reader.kinds ++ List.replicate (frames.countP Frame.isBlock) .outdent ∧
      (frames.foldl closeAtEnd reader).diagnostics = reader.diagnostics := by
  induction frames generalizing reader with
  | nil => exact ⟨(List.append_nil _).symm, rfl⟩
  | cons frame frames inductionHypothesis =>
      rw [List.forall_mem_cons] at mayEnd
      have ended := @inductionHypothesis (reader.closeAtEnd frame) mayEnd.2
      rw [List.foldl_cons, ended.1, ended.2]
      cases frame with
      | indent column =>
          refine ⟨?_, rfl⟩
          show (reader.insert .outdent reader.lastEnd).kinds ++ _ = _
          rw [kinds_insert, List.countP_cons_of_pos rfl, List.replicate_succ, List.append_assoc]
          rfl
      | splice opened =>
          rw [List.countP_cons_of_neg Bool.false_ne_true]
          exact ⟨rfl, rfl⟩
      | group bracket opened => cases mayEnd.1
      | string quote opened => cases mayEnd.1

theorem mayEnd_of_silent {frames : List Frame}
    (silent : (frames.foldl closeAtEnd reader).diagnostics = #[]) :
    ∀ frame ∈ frames, frame.mayEnd = true := by
  induction frames generalizing reader with
  | nil => exact List.forall_mem_nil _
  | cons frame frames inductionHypothesis =>
      rw [List.foldl_cons] at silent
      refine List.forall_mem_cons.mpr ⟨?_, inductionHypothesis silent⟩
      have told := (foldl_closeAtEnd_grows frames (reader.closeAtEnd frame)).silent silent
      cases frame with
      | indent column => rfl
      | splice opened => rfl
      | group bracket opened => exact absurd told (report_diagnostics_ne _ _ _)
      | string quote opened => exact absurd told (report_diagnostics_ne _ _ _)

theorem Silent.mayEnd [XidStart] (silent : reader.Silent) (read : reader.rest = []) :
    ∀ frame ∈ reader.frames, frame.mayEnd = true := by
  unfold Silent at silent
  rw [run_of_read read] at silent
  exact mayEnd_of_silent (Array.toList_eq_nil_iff.mp silent)

/-- At the end of a source only blocks are closed. -/
theorem finish_of_mayEnd (mayEnd : ∀ frame ∈ reader.frames, frame.mayEnd = true) :
    reader.finish.tokens.map Token.kind = reader.kinds ++
        (List.replicate (reader.frames.countP Frame.isBlock) .outdent ++ [.endOfFile]) ∧
      reader.finish.diagnostics = reader.diagnostics.toList := by
  have closed := @foldl_closeAtEnd_of_mayEnd reader reader.frames mayEnd
  refine ⟨?_, congrArg Array.toList closed.2⟩
  have ended := kinds_add (reader.frames.foldl closeAtEnd reader) .endOfFile (.empty reader.offset)
  rw [closed.1, List.append_assoc] at ended
  exact ended

theorem ahead_of_read [XidStart] (silent : reader.Silent) (read : reader.rest = []) :
    reader.ahead.map Token.kind =
      List.replicate (reader.frames.countP Frame.isBlock) .outdent ++ [.endOfFile] := by
  have whole := kinds_append_ahead reader
  rw [run_of_read read, (finish_of_mayEnd (silent.mayEnd read)).1] at whole
  exact (List.append_cancel_left whole).symm

/-- A string goes on as long as it is open. -/
theorem Silent.unread [XidStart] (silent : reader.Silent)
    (inString : Frame.inString reader.frames = true) : reader.rest ≠ [] := by
  intro read
  rcases Frame.exists_of_inString inString with ⟨quote, opened, outer, frames⟩
  have mayEnd := silent.mayEnd read
  rw [frames] at mayEnd
  cases mayEnd _ List.mem_cons_self

end Reader
end Offside
