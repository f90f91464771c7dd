import Offside.Proofs.Lexing.Boundary
import Offside.Proofs.Lexing.Ledger
import Offside.Proofs.Lexing.Moves
import Offside.Proofs.Lexing.Order

namespace Offside

/-!
# Every delimiter is accounted for

Whatever a source looks like, every bracket and every string that is opened in it is
either closed by one later token of its kind or reported once where it was opened.  A
closing bracket either closes one bracket of its kind, or it becomes an error and is
reported once.  The only thing that is neither closed nor reported is a splice of a
string that is never closed: there the string is reported.

The books are kept by the reader while it goes along.  The moves of the layout rules only
close blocks and give up groups, and each group is reported when it is given up.  A
closing bracket gives up what is open inside of its group.  It never reaches through a
string, so it does not reach a splice, which stands right inside of one.
-/

/-! ## Tokens that show a closing bracket -/

/-- A token that shows a closing bracket is that bracket, an error or text of a string. -/
def TokenKind.ShowsClosers (kind : TokenKind) : Prop :=
  ∀ closer : ClosingBracket, kind.text = closer.char.toString →
    kind = .punctuation closer.mark ∨ kind = .error closer.char.toString ∨
      kind = .stringMiddle closer.char.toString

namespace Lexeme

variable {operandBefore : Bool} {c : Char} {rest : List Char} {kind : TokenKind}

theorem showsClosers_of_scan [XidStart]
    (found : (scan operandBefore c rest).lexeme.kind? = some kind) :
    kind.ShowsClosers := by
  intro closer shown
  rcases text_of_scan found with text | ⟨isMod, _⟩
  · have first : c = closer.char := by
      have both := text.symm.trans (congrArg String.toList shown)
      rw [Char.toString_eq_singleton, String.toList_singleton] at both
      exact (List.cons.inj both).1
    subst first
    rw [scan_closer] at found
    exact .inl (Option.some.inj found).symm
  · subst isMod
    revert shown
    cases closer <;> decide +kernel

/-- A closing bracket is never faulty in itself. -/
theorem isStray_of_faulty [XidStart] {fault : LexicalFault}
    (found : (scan operandBefore c rest).lexeme = .faulty fault) (length : Nat) :
    (TokenKind.error (String.ofList (c :: rest.take length))).isStray = false := by
  refine Bool.eq_false_iff.mpr fun stray => ?_
  rcases List.any_eq_true.mp stray with ⟨closer, _, same⟩
  have first : c = closer.char := by
    have both := congrArg String.toList (beq_iff_eq.mp same)
    rw [Char.toString_eq_singleton, String.toList_singleton, String.toList_ofList] at both
    exact (List.cons.inj both).1.symm
  subst first
  rw [scan_closer] at found
  cases found

end Lexeme

theorem showsClosers_of_textless {kind : TokenKind} (nothing : kind.text = "") :
    kind.ShowsClosers := by
  intro closer shown
  have empty := nothing.symm.trans shown
  exfalso
  revert empty
  cases closer <;> decide +kernel

theorem showsClosers_mark (closer : ClosingBracket) :
    (TokenKind.punctuation closer.mark).ShowsClosers := by
  intro other
  cases closer <;> cases other <;> decide +kernel

theorem showsClosers_error (text : String) : (TokenKind.error text).ShowsClosers :=
  fun _ shown => .inr (.inl (congrArg _ shown))

theorem showsClosers_stringMiddle (text : String) : (TokenKind.stringMiddle text).ShowsClosers :=
  fun _ shown => .inr (.inr (congrArg _ shown))

/-- A name in a string does not begin with a bracket. -/
theorem showsClosers_name [XidStart] {name : List Char} {c : Char} {rest : List Char}
    (name_eq : name = c :: rest) (continues : CharClass.isIdentContinue c = true) :
    (TokenKind.identifier (String.ofList name)).ShowsClosers := by
  intro closer shown
  have both := congrArg String.toList (show String.ofList name = _ from shown)
  rw [Char.toString_eq_singleton, String.toList_singleton, String.toList_ofList, name_eq] at both
  have noName : CharClass.isIdentContinue closer.char = false := by
    unfold CharClass.isIdentContinue
    cases closer <;> rw [CharClass.isIdentStart_of_ascii (by decide)] <;> rfl
  rw [(List.cons.inj both).1, noName] at continues
  cases continues

namespace Ground

variable {limit : Nat} {ground after : Ground} {token : Token} {frame : Frame}
  {frames : List Frame} {kind : TokenKind}

def push (ground : Ground) (token : Token) : Ground :=
  { ground with tokens := ground.tokens ++ [token] }

/-- The books are in order.  No token that waits for a bracket or a name is the last one. -/
structure Books (limit : Nat) (ground : Ground) : Prop where
  ledger : ∃ pairs opens,
    Ledger ground.tokens ground.diagnostics ground.frames limit pairs opens []
  settled : ground.tokens.getLast?.map Token.kind ≠ some (.punctuation .dollar)
  shows : ∀ token ∈ ground.tokens, token.kind.ShowsClosers

namespace Books

theorem mono (books : ground.Books limit) {further : Nat} (more : limit ≤ further) :
    ground.Books further := by
  rcases books with ⟨⟨pairs, opens, ledger⟩, settled, shows⟩
  exact ⟨⟨pairs, opens, ledger.mono more⟩, settled, shows⟩

/-- Some more tokens, given what the ledger says of them. -/
theorem append (books : ground.Books limit) {further : Nat} {more : List Token}
    (tokens : after.tokens = ground.tokens ++ more ++ [token])
    (ledger : ∃ pairs opens,
      Ledger after.tokens after.diagnostics after.frames further pairs opens [])
    (noDollar : token.kind ≠ .punctuation .dollar)
    (shows : ∀ new ∈ more ++ [token], new.kind.ShowsClosers) : after.Books further where
  ledger := ledger
  settled := by
    rw [tokens, List.getLast?_concat]
    exact fun same => noDollar (Option.some.inj same)
  shows other member := by
    rw [tokens, List.append_assoc] at member
    exact (List.mem_append.mp member).elim (books.shows other) (shows other)

theorem concat (books : ground.Books limit) {further : Nat}
    (tokens : after.tokens = ground.tokens ++ [token])
    (ledger : ∃ pairs opens,
      Ledger after.tokens after.diagnostics after.frames further pairs opens [])
    (noDollar : token.kind ≠ .punctuation .dollar) (shows : token.kind.ShowsClosers) :
    after.Books further :=
  books.append (by rw [tokens, List.append_nil]) ledger noDollar fun new member => by
    cases List.mem_singleton.mp member
    exact shows

theorem push (books : ground.Books limit) (unbooked : token.kind.isUnbooked = true)
    (noDollar : token.kind ≠ .punctuation .dollar) (shows : token.kind.ShowsClosers) :
    (ground.push token).Books limit := by
  rcases books.ledger with ⟨pairs, opens, ledger⟩
  exact books.concat rfl ⟨pairs, opens, ledger.push unbooked⟩ noDollar shows

/-- A token that was inserted is of no interest to the books. -/
theorem insert (books : ground.Books limit) (offset : Nat) (synthetic : kind.isSynthetic = true) :
    (ground.insert kind offset).Books limit := by
  have unbooked : kind.isUnbooked = true ∧ kind ≠ .punctuation .dollar := by
    cases kind with
    | error text =>
        cases beq_iff_eq.mp synthetic
        exact ⟨by decide +kernel, nofun⟩
    | indent => exact ⟨rfl, nofun⟩
    | outdent => exact ⟨rfl, nofun⟩
    | autoSemicolon => exact ⟨rfl, nofun⟩
    | _ => cases synthetic
  exact books.push unbooked.1 unbooked.2
    (showsClosers_of_textless (TokenKind.text_of_isSynthetic synthetic))

theorem report (books : ground.Books limit) {fault : LexicalFault} (span : Span)
    (other : (Fault.lexical fault).namesDelimiter = false) :
    (ground.report fault span).Books limit := by
  rcases books with ⟨⟨pairs, opens, ledger⟩, settled, shows⟩
  exact ⟨⟨pairs, opens, ledger.report other⟩, settled, shows⟩

theorem reportAhead (books : ground.Books limit) (fault : LexicalFault) (span : Span)
    (ahead : limit ≤ span.start) : (ground.report fault span).Books (span.start + 1) := by
  rcases books with ⟨⟨pairs, opens, ledger⟩, settled, shows⟩
  exact ⟨⟨pairs, opens, ledger.reportAhead _ ahead⟩, settled, shows⟩

/-- What was opened last is reported where it was opened. -/
theorem reject {tokens : List Token} {diagnostics : List Diagnostic} {fault : LexicalFault}
    {span : Span} (books : Books limit ⟨frame :: frames, tokens, diagnostics⟩)
    (leftOpen : frame.delimiter.isLeftOpenBy (.lexical fault) = true)
    (there : span.start = frame.begins) (noSplice : frame.isSplice = false) :
    (Ground.report ⟨frames, tokens, diagnostics⟩ fault span).Books limit := by
  rcases books with ⟨⟨pairs, opens, ledger⟩, settled, shows⟩
  rcases ledger.reject (.lexical fault span) leftOpen there noSplice with
    ⟨outer, rejected⟩
  exact ⟨⟨pairs, outer, rejected⟩, settled, shows⟩

/-- The books stay in order with every move of the layout rules. -/
theorem move (books : ground.Books limit) (move : Move ground after) : after.Books limit := by
  cases move with
  | outdent column offset frames tokens diagnostics =>
      rcases books with ⟨⟨pairs, opens, ledger⟩, settled, shows⟩
      have left : Books limit ⟨frames, tokens, diagnostics⟩ :=
        ⟨⟨pairs, opens, ledger.leave⟩, settled, shows⟩
      exact left.insert offset rfl
  | indent column offset frames tokens diagnostics =>
      rcases books with ⟨⟨pairs, opens, ledger⟩, settled, shows⟩
      have entered : Books limit ⟨.indent column :: frames, tokens, diagnostics⟩ :=
        ⟨⟨pairs, opens, ledger.enter column⟩, settled, shows⟩
      exact entered.insert offset rfl
  | separate offset => exact books.insert offset rfl
  | misfit column offset => exact (books.report _ rfl).insert offset rfl
  | abandon bracket opened offset frames tokens diagnostics =>
      exact (books.reject rfl rfl rfl).insert offset rfl
  | cutOff bracket opened frames tokens diagnostics => exact books.reject rfl rfl rfl

theorem moves (books : ground.Books limit) (moves : Moves ground after) :
    after.Books limit := by
  induction moves with
  | refl => exact books
  | tail _ last inductionHypothesis => exact inductionHypothesis.move last

end Books
end Ground

/-- No splice is open between a frame that is no string and the string around it. -/
theorem Stacked.noSplice {tokens : List Token} {cut frames : List Frame} {target : Frame}
    {opens : List Nat} (stacked : Stacked tokens (cut ++ target :: frames) opens)
    (noStrings : ∀ frame ∈ cut, frame.isString = false) (noString : target.isString = false) :
    ∀ frame ∈ cut, ∀ opened, frame ≠ .splice opened := by
  induction cut generalizing opens with
  | nil => exact List.forall_mem_nil _
  | cons frame cut inductionHypothesis =>
      rw [List.forall_mem_cons] at noStrings ⊢
      refine ⟨fun opened splice => ?_, ?_⟩
      · subst splice
        rcases stacked.uncons nofun with ⟨_, _, _, _, _, strung, _⟩
        have around := strung rfl
        cases cut with
        | nil => exact absurd (noString.symm.trans around) Bool.false_ne_true
        | cons next cut =>
            have isNone := noStrings.2 next List.mem_cons_self
            exact absurd (isNone.symm.trans around) Bool.false_ne_true
      · cases stacked with
        | block column outer => exact inductionHypothesis outer noStrings.2
        | opened opened behind strung inside outer => exact inductionHypothesis outer noStrings.2

namespace Reader

open Ground

variable {reader placed : Reader} {limit : Nat} {kind : TokenKind} {span : Span}
  {next : Option Char} {frames : List Frame}

theorem groundWith_add (reader : Reader) (kind : TokenKind) (span : Span) (frames : List Frame) :
    (reader.add kind span).groundWith frames =
      (reader.groundWith frames).push ⟨kind, span, reader.trivia.toList⟩ := by
  unfold groundWith add push
  rw [Array.toList_push]

/-! ## Reading code -/

/-- A closing bracket closes something or becomes an error. -/
theorem addCloser_books (books : reader.ground.Books limit) (closer : ClosingBracket)
    (ahead : limit ≤ span.start) :
    (reader.addCloser closer span).ground.Books (span.start + 1) := by
  unfold addCloser
  dsimp only
  cases found : (reader.frames.takeWhile fun frame => !frame.isString).findIdx?
      (Frame.isClosedBy closer) with
  | none =>
      dsimp only
      rcases books.ledger with ⟨pairs, opens, ledger⟩
      have stray := ledger.stray ⟨.error closer.char.toString, span, reader.trivia.toList⟩
        closer rfl ahead
      unfold ground at books ⊢
      rw [groundWith_add, groundWith_report]
      exact books.concat rfl ⟨pairs, opens, stray⟩ nofun (showsClosers_error _)
  | some index =>
      rcases visible_split found with ⟨cut, target, taken, whole, fits, unfit⟩
      dsimp only
      rw [taken]
      have noString : target.isString = false := by
        cases target with
        | string quote opened => cases fits
        | _ => rfl
      have same : target.delimiter = .group closer := by
        cases target with
        | group bracket opened => exact congrArg _ (beq_iff_eq.mp fits)
        | splice opened => exact congrArg _ (beq_iff_eq.mp fits).symm
        | indent column => cases fits
        | string quote opened => cases fits
      have noSplice : ∀ frame ∈ cut, ∀ opened, frame ≠ .splice opened := by
        rcases books.ledger with ⟨pairs, opens, ledger⟩
        have stacked := ledger.stacked
        change Stacked _ reader.frames _ at stacked
        rw [whole] at stacked
        exact stacked.noSplice (fun frame member => (unfit frame member).2) noString
      have cutOff : Moves reader.ground
          ((cut.foldl cutOff reader).groundWith (target :: reader.frames.drop (index + 1))) := by
        unfold ground
        conv => lhs; rw [whole]
        exact foldl_cutOff_moves (fun frame member => ⟨(unfit frame member).2,
          noSplice frame member⟩) reader
      have left := books.moves cutOff
      rcases left.ledger with ⟨pairs, opens, ledger⟩
      have closes : (TokenKind.punctuation closer.mark).closes? = some target.delimiter := by
        rw [same]
        cases closer <;> rfl
      rcases ledger.close ⟨.punctuation closer.mark, span,
          (cut.foldl Reader.cutOff reader).trivia.toList⟩ (by rw [same]; nofun) closes with
        ⟨pairs, outer, closed⟩
      have shows : (TokenKind.punctuation closer.mark).ShowsClosers :=
        showsClosers_mark closer
      have noDollar : TokenKind.punctuation closer.mark ≠ .punctuation .dollar := by
        cases closer <;> nofun
      unfold ground
      rw [groundWith_add]
      refine Books.mono (left.concat rfl ⟨pairs, outer, closed⟩ noDollar shows) ?_
      exact Nat.le_succ_of_le ahead

theorem isUnbooked_of_isInert (inert : kind.isInert = true) (sound : kind.isError = false) :
    kind.isUnbooked = true := by
  unfold TokenKind.isInert at inert
  rw [Bool.and_eq_true, Option.isNone_iff_eq_none, Option.isNone_iff_eq_none] at inert
  have noStray : kind.isStray = false := by
    cases kind with
    | error text => cases sound
    | _ => rfl
  unfold TokenKind.isUnbooked
  rw [inert.1, inert.2, noStray]
  rfl

/-- A token that was read in code.  No dollar sign stands in front of a bracket there. -/
theorem emit_books (books : reader.ground.Books limit) (lexical : kind.isLexical = true)
    (noDollar : kind ≠ .punctuation .dollar) (shows : kind.ShowsClosers)
    (ahead : limit ≤ span.start) (next : Option Char) :
    (reader.emit kind span next).ground.Books (span.start + 1) := by
  have placed := books.moves (applyLayout_moves reader kind next)
  unfold emit
  dsimp only
  generalize reader.applyLayout kind next = laid at placed
  split
  · exact addCloser_books placed _ ahead
  · rename_i noCloser
    split
    · rename_i bracket opener
      rcases placed.ledger with ⟨pairs, opens, ledger⟩
      have opening := ledger.opening (.group bracket span.start)
        ⟨kind, span, laid.trivia.toList⟩ nofun (opens_of_ofKind? opener) rfl ahead
        (by
          rw [BehindDollar, List.take_length]
          exact iff_of_false placed.settled Bool.false_ne_true) nofun
      unfold ground
      rw [groundWith_add]
      exact placed.concat rfl ⟨_, _, opening⟩ noDollar shows
    · rename_i noOpener
      unfold ground
      rw [groundWith_add]
      have unbooked := isUnbooked_of_isInert (isInert_of_isLexical lexical noCloser noOpener)
        (isError_of_isLexical lexical)
      exact (placed.push unbooked noDollar shows).mono (Nat.le_succ_of_le ahead)

theorem emit_error_books {text : String} (books : reader.ground.Books limit)
    (noStray : (TokenKind.error text).isStray = false) (next : Option Char) :
    (reader.emit (.error text) span next).ground.Books limit := by
  have placed := books.moves (applyLayout_moves reader (.error text) next)
  have unbooked : (TokenKind.error text).isUnbooked = true := by
    unfold TokenKind.isUnbooked
    rw [noStray]
    rfl
  have pushed : (reader.emit (.error text) span next).ground =
      (reader.applyLayout (.error text) next).ground.push
        ⟨.error text, span, (reader.applyLayout (.error text) next).trivia.toList⟩ :=
    groundWith_add _ _ _ _
  rw [pushed]
  exact placed.push unbooked nofun (showsClosers_error text)

theorem emit_stringStart_books (books : reader.ground.Books limit) (quote : QuoteForm)
    (ahead : limit ≤ span.start) (next : Option Char) :
    ((reader.emit (.stringStart quote) span next).openFrame
      (.string quote span.start)).ground.Books (span.start + 1) := by
  have placed := books.moves (applyLayout_moves reader (.stringStart quote) next)
  have shows : (TokenKind.stringStart quote).ShowsClosers := by
    intro closer shown
    revert shown
    cases quote <;> cases closer <;> decide +kernel
  have pushed : ((reader.emit (.stringStart quote) span next).openFrame
      (.string quote span.start)).ground =
      ((reader.applyLayout (.stringStart quote) next).groundWith
        (.string quote span.start :: (reader.applyLayout (.stringStart quote) next).frames)).push
        ⟨.stringStart quote, span,
          (reader.applyLayout (.stringStart quote) next).trivia.toList⟩ :=
    groundWith_add _ _ _ _
  rw [pushed]
  generalize reader.applyLayout (.stringStart quote) next = laid at placed
  rcases placed.ledger with ⟨pairs, opens, ledger⟩
  have opening := ledger.opening (.string quote span.start)
    ⟨.stringStart quote, span, laid.trivia.toList⟩ nofun rfl rfl ahead
    (by
      rw [BehindDollar, List.take_length]
      exact iff_of_false placed.settled Bool.false_ne_true) nofun
  exact placed.concat rfl ⟨_, _, opening⟩ nofun shows

theorem emit_offset (reader : Reader) (kind : TokenKind) (span : Span) (next : Option Char) :
    (reader.emit kind span next).offset = reader.offset := by
  have emits := emit_emits reader kind span next
  generalize reader.emit kind span next = after at emits ⊢
  cases emits with
  | kept inserts => exact inserts.offset
  | unmatched inserts closes reported => exact inserts.offset

/-- The books are in order up to where the reader stands. -/
def Kept (reader : Reader) : Prop := reader.ground.Books reader.offset

theorem readLexeme_kept [XidStart] (kept : reader.Kept) (c : Char) (rest : List Char) :
    (reader.readLexeme c rest).Kept := by
  have fits := Lexeme.fits_scan (reader.lastKind?.any TokenKind.endsOperand) c rest
  unfold Lexeme.Found.Fits at fits
  have positive : 0 < Utf8.byteLength
      (c :: rest.take (Lexeme.scan (reader.lastKind?.any TokenKind.endsOperand) c rest).more) :=
    Utf8.byteLength_pos (List.cons_ne_nil _ _)
  unfold Kept readLexeme
  dsimp only
  cases lexeme : (Lexeme.scan (reader.lastKind?.any TokenKind.endsOperand) c rest).lexeme with
  | trivia kind =>
      have waits : reader.ground.Books (reader.offset + Utf8.byteLength (c :: rest.take
          (Lexeme.scan (reader.lastKind?.any TokenKind.endsOperand) c rest).more)) :=
        kept.mono (Nat.le_add_right _ _)
      cases kind <;> exact waits
  | token kind =>
      rw [lexeme] at fits
      cases fits with
      | token lexical spells =>
          have becomes := congrArg Lexeme.kind? lexeme
          refine Books.mono (emit_books kept lexical (Lexeme.ne_dollar_of_scan becomes)
            (Lexeme.showsClosers_of_scan becomes) (Nat.le_refl _) _) ?_
          show reader.offset + 1 ≤ (reader.emit _ _ _).offset + _
          rw [emit_offset]
          omega
  | stringOpening quote =>
      refine Books.mono (emit_stringStart_books kept quote (Nat.le_refl _) _) ?_
      show reader.offset + 1 ≤ (reader.emit _ _ _).offset + _
      rw [emit_offset]
      omega
  | faulty fault =>
      have told : (reader.report fault (reader.spanOf (c :: rest.take (Lexeme.scan
          (reader.lastKind?.any TokenKind.endsOperand) c rest).more))).ground.Books
          (reader.offset + 1) := by
        unfold ground
        rw [groundWith_report]
        exact kept.reportAhead fault (reader.spanOf _) (Nat.le_refl reader.offset)
      refine Books.mono (emit_error_books told (Lexeme.isStray_of_faulty lexeme _) _) ?_
      show reader.offset + 1 ≤ (Reader.emit _ _ _ _).offset + _
      rw [emit_offset]
      show reader.offset + 1 ≤ reader.offset + _
      omega

/-! ## Reading strings -/

variable {quote : QuoteForm} {opened : Nat} {outer : List Frame}

theorem showsClosers_dollar : (TokenKind.punctuation .dollar).ShowsClosers := by
  intro closer
  cases closer <;> decide +kernel

theorem showsClosers_leftBrace : (TokenKind.punctuation .leftBrace).ShowsClosers := by
  intro closer
  cases closer <;> decide +kernel

/-- The dollar sign and the bracket of a splice. -/
theorem splice_books (books : reader.ground.Books limit) (dollar bracket : Token)
    (isDollar : dollar.kind = .punctuation .dollar)
    (isBracket : bracket.kind = .punctuation .leftBrace) (ahead : limit ≤ opened)
    (starts : bracket.span.start = opened + 1)
    (inString : Frame.inString reader.frames = true) :
    Books (opened + 2) (((reader.groundWith (.splice opened :: reader.frames)).push
      dollar).push bracket) := by
  rcases books.ledger with ⟨pairs, opens, ledger⟩
  have pushed : Ledger (reader.tokens.toList ++ [dollar]) reader.diagnostics.toList
      reader.frames limit pairs opens [] :=
    ledger.push (by rw [isDollar]; rfl)
  have opening := pushed.opening (.splice opened) bracket nofun (by rw [isBracket]; rfl)
    starts (Nat.le_succ_of_le ahead)
    (by
      rw [BehindDollar, List.take_length, List.getLast?_concat]
      exact iff_of_true (congrArg some isDollar) rfl) fun _ => inString
  refine books.append rfl ⟨_, _, opening⟩ (by rw [isBracket]; nofun) ?_
  rw [List.singleton_append, List.forall_mem_cons, List.forall_mem_singleton, isDollar, isBracket]
  exact ⟨showsClosers_dollar, showsClosers_leftBrace⟩

/-- The dollar sign of a splice and the name behind it. -/
theorem name_books (books : reader.ground.Books limit) (dollar : Token)
    (isDollar : dollar.kind = .punctuation .dollar) {text : String} {leading : List Trivia}
    (shows : (TokenKind.identifier text).ShowsClosers) :
    Books limit ((reader.ground.push dollar).push ⟨.identifier text, span, leading⟩) := by
  rcases books.ledger with ⟨pairs, opens, ledger⟩
  have pushed : Ledger (reader.tokens.toList ++ [dollar]) reader.diagnostics.toList
      reader.frames limit pairs opens [] :=
    ledger.push (by rw [isDollar]; rfl)
  refine books.append rfl ⟨_, _, pushed.push rfl⟩ nofun ?_
  rw [List.singleton_append, List.forall_mem_cons, List.forall_mem_singleton, isDollar]
  exact ⟨showsClosers_dollar, shows⟩

/-- Behind the dollar sign of a splice without brackets stands a name. -/
theorem isIdentContinue_of_name [XidStart] {c : Char} {beyond : List Char} {length : Nat}
    (found : StringText.scanPiece quote ('$' :: c :: beyond) = .name length) :
    CharClass.isIdentContinue c = true := by
  unfold StringText.scanPiece at found
  split at found
  · cases found
  · split at found
    · rename_i splice
      rcases StringText.text_of_startsSplice splice with ⟨d, rest, same, bracket | continues⟩
      · cases same
        subst bracket
        cases found
      · cases same
        exact continues
    · dsimp only at found
      split at found <;> cases found

/-- The text in front of the place where a string is cut off is of no interest. -/
theorem addFragment_books {frames : List Frame} (books : Books limit (reader.groundWith frames))
    (piece : List Char) :
    Books limit ((reader.addFragment piece).groundWith frames) := by
  unfold addFragment
  split
  · exact books
  · rw [groundWith_add]
    exact books.push rfl nofun (showsClosers_stringMiddle _)

/-- A string that is cut off is reported, and its frame is closed with the report. -/
theorem readPiece_kept_of_cutOff [XidStart] {length : Nat}
    (books : Books reader.offset (reader.groundWith (.string quote opened :: outer)))
    (found : StringText.scanPiece quote reader.rest = .cutOff length) :
    (reader.readPiece quote opened outer).Kept := by
  rw [readPiece_of_cutOff found]
  generalize reader.rest.take length = piece
  have read := addFragment_books books piece
  have offset := reader.addFragment_offset piece
  have told : Books reader.offset (((reader.addFragment piece).groundWith outer).report
      .unterminatedString ⟨opened, (reader.spanOf piece).stop⟩) := read.reject rfl rfl rfl
  have marked := told.insert (reader.spanOf piece).stop
    (show (TokenKind.error "").isSynthetic = true from rfl)
  rw [← groundWith_report, ← groundWith_insert] at marked
  refine Books.mono marked ?_
  show reader.offset ≤ (reader.addFragment piece).offset + _
  omega

/-- The closing quote closes the frame of its string. -/
theorem readPiece_kept_of_closing [XidStart]
    (books : Books reader.offset (reader.groundWith (.string quote opened :: outer)))
    (found : StringText.scanPiece quote reader.rest = .closing) :
    (reader.readPiece quote opened outer).Kept := by
  unfold Kept readPiece
  dsimp only
  rw [found]
  dsimp only
  generalize reader.rest.take (StringText.marksLength quote) = marks
  rcases books.ledger with ⟨pairs, opens, ledger⟩
  rcases ledger.close ⟨.stringEnd quote, reader.spanOf marks, reader.trivia.toList⟩ nofun rfl
    with ⟨pairs, opens, closed⟩
  have shows : (TokenKind.stringEnd quote).ShowsClosers := by
    intro closer shown
    revert shown
    cases quote <;> cases closer <;> decide +kernel
  refine Books.mono ?_ (Nat.le_add_right _ _)
  show Books _ (groundWith (Reader.add { reader with frames := outer } (.stringEnd quote)
    (reader.spanOf marks)) outer)
  rw [groundWith_add]
  exact books.concat rfl ⟨pairs, opens, closed⟩ nofun shows

/-- A splice in brackets opens a frame at its dollar sign. -/
theorem readPiece_kept_of_spliceOpening [XidStart] (kept : reader.Kept)
    (isString : Frame.inString reader.frames = true)
    (found : StringText.scanPiece quote reader.rest = .spliceOpening) :
    (reader.readPiece quote opened outer).Kept := by
  have fits := StringText.fits_scanPiece quote reader.rest
  rw [found] at fits
  unfold Kept readPiece
  dsimp only
  rw [found]
  cases fits with
  | spliceOpening same =>
      have starts : reader.offset + Utf8.byteLength (reader.rest.take 1) =
          reader.offset + 1 := by
        rw [same]
        rfl
      have stops : reader.offset + 2 ≤ reader.offset + Utf8.byteLength (reader.rest.take 1) +
          Utf8.byteLength ((reader.rest.drop 1).take 1) := by
        rw [same]
        exact Nat.le_refl _
      refine Books.mono ?_ stops
      show Books _ (groundWith (Reader.add (Reader.openFrame (Reader.advance
        (reader.add (.punctuation .dollar) (reader.spanOf (reader.rest.take 1))) _ _)
        (.splice reader.offset)) (.punctuation .leftBrace) _) (.splice reader.offset ::
          reader.frames))
      rw [groundWith_add]
      show Books _ (push (groundWith (reader.add _ _) _) _)
      rw [groundWith_add]
      exact splice_books kept _ _ rfl rfl (Nat.le_refl _) starts isString

/-- A name behind a dollar sign shows no closing bracket. -/
theorem readPiece_kept_of_name [XidStart] {length : Nat} (kept : reader.Kept)
    (found : StringText.scanPiece quote reader.rest = .name length) :
    (reader.readPiece quote opened outer).Kept := by
  have fits := StringText.fits_scanPiece quote reader.rest
  rw [found] at fits
  unfold Kept readPiece
  dsimp only
  rw [found]
  cases fits with
  | @name c beyond length same positive =>
      rw [same] at found ⊢
      have continues := isIdentContinue_of_name found
      have named : (c :: beyond).take length = c :: beyond.take (length - 1) := by
        rw [← Nat.sub_add_cancel positive, List.take_succ_cons, Nat.add_sub_cancel]
      have shows := showsClosers_name named continues
      refine Books.mono ?_ (Nat.le_trans (Nat.le_add_right _ _) (Nat.le_add_right _ _))
      show Books _ (groundWith (Reader.add (reader.add (.punctuation .dollar)
        (reader.spanOf ['$'])) _ _) reader.frames)
      rw [groundWith_add, groundWith_add]
      exact name_books kept _ rfl shows

theorem readPiece_kept [XidStart] (kept : reader.Kept)
    (inString : reader.frames = .string quote opened :: outer) :
    (reader.readPiece quote opened outer).Kept := by
  have books : Books reader.offset
      (reader.groundWith (.string quote opened :: outer)) := by
    rw [← inString]
    exact kept
  cases found : StringText.scanPiece quote reader.rest with
  | closing => exact readPiece_kept_of_closing books found
  | spliceOpening =>
      have isString : Frame.inString reader.frames = true := by
        rw [inString]
        rfl
      exact readPiece_kept_of_spliceOpening kept isString found
  | name length => exact readPiece_kept_of_name kept found
  | text length =>
      unfold Kept readPiece
      dsimp only
      rw [found]
      dsimp only
      generalize reader.rest.take length = piece
      refine Books.mono ?_ (Nat.le_add_right _ _)
      show Books _ (groundWith (reader.add (.stringMiddle (String.ofList piece))
        (reader.spanOf piece)) reader.frames)
      rw [groundWith_add]
      exact Books.push kept rfl nofun (showsClosers_stringMiddle _)
  | cutOff length => exact readPiece_kept_of_cutOff books found

/-! ## The whole source -/

theorem step_kept [XidStart] (kept : reader.Kept) : reader.step.Kept := by
  cases unread : reader.rest with
  | nil =>
      unfold step
      rw [unread]
      exact kept
  | cons c rest =>
      cases code : Frame.inString reader.frames with
      | true =>
          rcases Frame.exists_of_inString code with ⟨quote, opened, outer, frames⟩
          rw [step_eq_readPiece frames (by rw [unread]; exact List.cons_ne_nil _ _)]
          exact readPiece_kept kept frames
      | false =>
          rw [step_eq_readLexeme code unread]
          exact readLexeme_kept kept c rest

/-- By induction on the run. -/
theorem run_kept [XidStart] (kept : reader.Kept) : reader.run.Kept := by
  fun_induction run reader with
  | case1 reader atEnd => exact kept
  | case2 reader unread inductionHypothesis => exact inductionHypothesis (step_kept kept)

theorem start_kept (tabWidth : Nat) (source : List Char) : (start tabWidth source).Kept :=
  ⟨⟨[], [], .empty 0⟩, nofun, List.forall_mem_nil _⟩

/-! ## The end of the source -/

theorem toList_insert (reader : Reader) (kind : TokenKind) (offset : Nat) :
    (reader.insert kind offset).tokens.toList =
      reader.tokens.toList ++ [.bare kind (.empty offset)] :=
  Array.toList_push

theorem offset_closeAtEnd (reader : Reader) (frame : Frame) :
    (reader.closeAtEnd frame).offset = reader.offset :=
  (Inserts.closeAtEnd reader frame).offset

/-- Every string that is open at the end is reported. -/
theorem closeAtEnd_reports (opening : .string quote opened ∈ frames) (reader : Reader) :
    .lexical .unterminatedString ⟨opened, reader.offset⟩ ∈
      (frames.foldl closeAtEnd reader).diagnostics.toList := by
  induction frames generalizing reader with
  | nil => cases opening
  | cons frame frames inductionHypothesis =>
      rw [List.foldl_cons]
      rcases List.mem_cons.mp opening with here | further
      · rcases (foldl_closeAtEnd_grows frames (reader.closeAtEnd frame)).diagnostics with
          ⟨more, told, _⟩
        subst here
        rw [told]
        refine List.mem_append_left _ (Array.mem_toList_iff.mpr ?_)
        exact Array.mem_push_self
      · have told := inductionHypothesis further (reader.closeAtEnd frame)
        rwa [offset_closeAtEnd] at told

end Reader

/-- A place stands behind the start of a string of which is reported that it goes on up to
some offset without being closed. -/
inductive InOpenString (tokens : List Token) (diagnostics : List Diagnostic) (stop place : Nat) :
    Prop
  | intro {earlier start : Nat} {quote : QuoteForm} (before : earlier < place)
      (string : OpensAt tokens earlier (.string quote) start)
      (told : .lexical .unterminatedString ⟨start, stop⟩ ∈ diagnostics)

namespace Reader

variable {frames : List Frame} {limit : Nat} {pairs : List (Nat × Nat)}
  {opens lost : List Nat} {reader : Reader}

/-- A report that comes with a mark of width zero. -/
theorem marked_ledger {fault : LexicalFault} {span : Span}
    (told : Ledger reader.tokens.toList (reader.diagnostics.toList ++ [.lexical fault span])
      frames limit pairs opens lost) (offset : Nat) :
    Ledger ((reader.report fault span).insert (.error "") offset).tokens.toList
      ((reader.report fault span).insert (.error "") offset).diagnostics.toList
      frames limit pairs opens lost := by
  have reported : ((reader.report fault span).insert (.error "") offset).diagnostics.toList =
      reader.diagnostics.toList ++ [.lexical fault span] := Array.toList_push
  have unbooked : (TokenKind.error "").isUnbooked = true := by decide +kernel
  rw [toList_insert, reported]
  exact told.push unbooked

/-- At the end everything that is open is reported, apart from splices. -/
theorem foldl_closeAtEnd_ledger
    (ledger : Ledger reader.tokens.toList reader.diagnostics.toList frames limit pairs opens
      lost) :
    ∃ losses, Ledger (frames.foldl closeAtEnd reader).tokens.toList
        (frames.foldl closeAtEnd reader).diagnostics.toList [] limit pairs [] losses ∧
      ∀ place ∈ losses, place ∈ lost ∨
        InOpenString (frames.foldl closeAtEnd reader).tokens.toList
          (frames.foldl closeAtEnd reader).diagnostics.toList reader.offset place := by
  induction frames generalizing reader opens lost with
  | nil =>
      have none : opens = [] := by
        cases ledger.stacked
        rfl
      rw [none] at ledger
      exact ⟨lost, ledger, fun place => .inl⟩
  | cons frame frames inductionHypothesis =>
      have offset := offset_closeAtEnd reader frame
      rw [List.foldl_cons]
      cases frame with
      | indent column =>
          have left : Ledger (reader.closeAtEnd (.indent column)).tokens.toList
              reader.diagnostics.toList frames limit pairs opens lost := by
            unfold closeAtEnd
            rw [toList_insert]
            exact ledger.leave.push rfl
          exact inductionHypothesis left
      | group bracket opened =>
          rcases ledger.reject (.lexical (.unterminatedBlock
              (if bracket = .hashCurly then Bracket.curly else bracket).char)
                ⟨opened, opened + 1⟩) rfl rfl rfl with ⟨outer, told⟩
          exact inductionHypothesis (marked_ledger told reader.offset)
      | string quote opened =>
          rcases ledger.reject (.lexical .unterminatedString ⟨opened, reader.offset⟩) rfl rfl rfl
            with ⟨outer, told⟩
          exact inductionHypothesis (marked_ledger told reader.offset)
      | splice start =>
          rcases ledger.forget with ⟨place, outer, forgotten, earlier, quote, opened, before,
            string, isOpen⟩
          rcases inductionHypothesis forgotten with ⟨losses, closed, known⟩
          refine ⟨losses, closed, fun other member => ?_⟩
          rcases known other member with isLost | inString
          · rcases List.mem_cons.mp isLost with rfl | wasLost
            · rcases (foldl_closeAtEnd_grows frames reader).tokens with ⟨more, added⟩
              refine .inr (.intro before (added ▸ string.append more) ?_)
              exact closeAtEnd_reports isOpen reader
            · exact .inl wasLost
          · exact .inr inString

theorem tokens_finish (reader : Reader) :
    reader.finish.tokens = (reader.frames.foldl closeAtEnd reader).tokens.toList ++
      [⟨.endOfFile, .empty reader.offset,
        (reader.frames.foldl closeAtEnd reader).trivia.toList⟩] :=
  Array.toList_push

theorem finish_grows (reader : Reader) : ∃ more,
    reader.finish.tokens = (reader.frames.foldl closeAtEnd reader).tokens.toList ++ more :=
  ⟨_, tokens_finish reader⟩

theorem finish_shows (shows : ∀ token ∈ reader.tokens.toList, token.kind.ShowsClosers) :
    ∀ token ∈ reader.finish.tokens, token.kind.ShowsClosers := by
  rcases (Inserts.foldl Inserts.closeAtEnd reader.frames reader).tokens with
    ⟨marks, added, inserted⟩
  intro token member
  rw [tokens_finish, added, List.append_assoc] at member
  rcases List.mem_append.mp member with before | behind
  · exact shows token before
  · rcases List.mem_append.mp behind with mark | last
    · cases inserted token mark with
      | intro offset synthetic =>
          exact showsClosers_of_textless (TokenKind.text_of_isSynthetic synthetic)
    · cases List.mem_singleton.mp last
      exact showsClosers_of_textless rfl

end Reader

/-! ## What becomes of everything that is opened -/

/-- What becomes of a bracket or a string that begins at an offset: it is closed and not
reported, or it is reported once and not closed, or it is the bracket of a splice that lies
in a string of which is reported that it is never closed. -/
inductive Lexed.Fate (lexed : Lexed) (pairs : List (Nat × Nat)) (place : Nat)
    (delimiter : Delimiter) (opened : Nat) : Prop
  | closed (paired : place ∈ pairs.map Prod.fst)
      (silent : delimiter.complaints opened lexed.diagnostics = 0)
  | reported (unpaired : place ∉ pairs.map Prod.fst)
      (noSplice : ¬ BehindDollar lexed.tokens place)
      (once : delimiter.complaints opened lexed.diagnostics = 1)
  | inString {earlier start stop : Nat} {quote : QuoteForm}
      (unpaired : place ∉ pairs.map Prod.fst) (splice : BehindDollar lexed.tokens place)
      (silent : delimiter.complaints opened lexed.diagnostics = 0)
      (string : OpensAt lexed.tokens earlier (.string quote) start)
      (told : .lexical .unterminatedString ⟨start, stop⟩ ∈ lexed.diagnostics)
      (inside : start < opened ∧ ∀ token ∈ lexed.tokens[place]?, token.span.stop ≤ stop)

/-- The account of the delimiters of a source.  The pairs hold the places of tokens that open
something and of the tokens that close it. -/
structure Lexed.Accounts (lexed : Lexed) (pairs : List (Nat × Nat)) : Prop where
  /-- The second token of a pair stands behind the first one and closes what that opens. -/
  fits : ∀ pair ∈ pairs, PairsAt lexed.tokens pair
  opensOnce : (pairs.map Prod.fst).Nodup
  closesOnce : (pairs.map Prod.snd).Nodup
  /-- Two pairs do not cross. -/
  nested : ∀ outer ∈ pairs, ∀ inner ∈ pairs, outer.1 < inner.1 → inner.1 < outer.2 →
    inner.2 < outer.2
  openers : ∀ place delimiter opened, OpensAt lexed.tokens place delimiter opened →
    lexed.Fate pairs place delimiter opened
  closers : ∀ place delimiter, ClosesAt lexed.tokens place delimiter →
    place ∈ pairs.map Prod.snd
  /-- A closing bracket is a mark that closes something, text of a string or an error that is
  reported once. -/
  strays : ∀ token ∈ lexed.tokens, ∀ closer : ClosingBracket,
    token.text = closer.char.toString →
      token.kind = .punctuation closer.mark ∨ token.kind = .stringMiddle closer.char.toString ∨
        token.kind = .error closer.char.toString ∧
          token.span.mismatches lexed.diagnostics =
            [.lexical (.unmatchedDelimiter closer.char) token.span]

/-- Every delimiter of a source is accounted for once, whatever the source looks like. -/
theorem lex_accounts [XidStart] (source : String) (tabWidth : Nat) :
    ∃ pairs, (lex source tabWidth).Accounts pairs := by
  have kept := Reader.run_kept (Reader.start_kept tabWidth source.toList)
  have read := Reader.run_hasRead (Reader.start_hasRead tabWidth source.toList)
  have size : source.utf8ByteSize = (Reader.start tabWidth source.toList).run.offset := by
    rw [read.offset, ← Utf8.utf8ByteSize_ofList]
    exact congrArg String.utf8ByteSize (String.ofList_toList).symm
  have within := (lex_leads source tabWidth).2.1
  rw [size] at within
  have isLexed : lex source tabWidth = (Reader.start tabWidth source.toList).run.finish := rfl
  rw [isLexed] at within ⊢
  generalize (Reader.start tabWidth source.toList).run = reader at kept within
  rcases kept.ledger with ⟨pairs, opens, ledger⟩
  change Ledger reader.tokens.toList reader.diagnostics.toList reader.frames _ _ _ _ at ledger
  rcases Reader.foldl_closeAtEnd_ledger ledger with ⟨losses, closed, known⟩
  have shows := Reader.finish_shows kept.shows
  have ended : Ledger reader.finish.tokens reader.finish.diagnostics [] reader.offset pairs []
      losses := by
    rw [Reader.tokens_finish]
    exact closed.push rfl
  refine ⟨pairs, ended.fits, ended.opensOnce, ended.closesOnce, ended.nested, ?_, ended.closers,
    ?_⟩
  · intro place delimiter opened opens
    cases (ended.openers place delimiter opened opens).2 with
    | waits waits unpaired silent => cases waits
    | paired gone paired silent => exact .closed paired silent
    | reported gone unpaired noSplice once => exact .reported unpaired noSplice once
    | forgotten gone unpaired isLost splice silent =>
        rcases (known place isLost).resolve_left List.not_mem_nil with ⟨before, string, told⟩
        rcases Reader.finish_grows reader with ⟨more, added⟩
        have stringThere := string.append more
        rw [← added] at stringThere
        refine .inString unpaired splice silent stringThere told ⟨?_, fun token found => ?_⟩
        · exact ended.increasing _ _ _ _ _ _ stringThere opens before
        · exact (within token (List.mem_of_getElem? found)).2
  · intro token member closer shown
    rcases shows token member closer shown with mark | stray | text
    · exact .inl mark
    · exact .inr (.inr ⟨stray, (ended.strays token member closer stray).2⟩)
    · exact .inr (.inl text)

end Offside
