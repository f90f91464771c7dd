import Offside.Grammar.FirstToken
import Offside.Proofs.Format.Reproducible
import Offside.Proofs.Lexing.Steps

namespace Offside

/-!
# Reading a formatted source

A reader of the formatted source retraces the reader of the source, token by token.
Between two tokens it reads over the blanks that set the pieces apart, and it finds the
next token as it was, behind the same layout tokens.
-/

namespace TokenKind

variable {kind : TokenKind} {next other : Option Char}

theorem canStartStatement_operator (text : String) (next : Option Char) :
    (operator text).canStartStatement next =
      ((operator text).isPrefixOperator && next.any fun follower => !isBlank follower) := by
  unfold canStartStatement TokenKind.isPrefixOperator
  dsimp only
  cases text.toList with
  | nil => rfl
  | cons c others => cases others <;> rfl

/-- Only about a prefix operator the next character matters. -/
theorem canStartStatement_of_not_prefix (noPrefix : kind.isPrefixOperator = false) :
    kind.canStartStatement other = kind.canStartStatement next := by
  cases kind with
  | operator text =>
      rw [canStartStatement_operator, canStartStatement_operator, noPrefix, Bool.false_and,
        Bool.false_and]
  | _ => rfl

theorem canStartStatement_of_prefix (isPrefix : kind.isPrefixOperator = true) :
    kind.canStartStatement next = next.any fun follower => !isBlank follower := by
  cases kind with
  | operator text => rw [canStartStatement_operator, isPrefix, Bool.true_and]
  | _ => cases isPrefix

end TokenKind

/-- Blanks that are read over change nothing that was found. -/
theorem Follows.of_skips [XidStart] {reader other ready : Reader} {width : Nat}
    {arrangement : Arrangement} (follows : Follows width reader other arrangement)
    (skips : other.Skips ready) : Follows width reader ready arrangement where
  kinds := skips.kinds.trans follows.kinds
  silent := skips.diagnostics.trans follows.silent
  frames := by
    rw [skips.frames]
    exact follows.frames
  settled := follows.settled
  previous := follows.previous
  noDollar := follows.noDollar
  lineIndent := by
    rw [skips.lineIndent]
    exact follows.lineIndent

namespace Reader

variable {reader other : Reader} {width : Nat} {arrangement : Arrangement}
  {begins : Token → Bool} {kind : TokenKind} {next : Option Char} {inserted : List Token}
  {token : Token} {around : List Frame} {text blanks : List Char} {piece : Piece}

/-! ## Blanks between pieces -/

/-- Where a reader stands behind the blanks in front of a piece. -/
inductive Reaches (width : Nat) (piece : Piece) (reader : Reader) : Prop
  | inLine (inLine : reader.atLineStart = false) (gap : piece.gap = .none ∨ piece.gap = .space)
  | begins (begins : reader.atLineStart = true) (column : reader.column = piece.level * width)

theorem skips_breaks [XidStart] {gap : Gap} {breaks : List Char}
    (code : Frame.inString other.frames = false) (isBreak : gap.Breaks breaks)
    (unread : other.rest = breaks ++ text) :
    ∃ ready : Reader, other.Skips ready ∧ ready.rest = text ∧ ready.atLineStart = true ∧
      ready.column = 0 := by
  have once : ∀ other : Reader, ∀ text, Frame.inString other.frames = false →
      other.rest = '\n' :: text → ∃ ready : Reader, other.Skips ready ∧ ready.rest = text ∧
        ready.atLineStart = true ∧ ready.column = 0 :=
    fun other text code unread => ⟨other.step, skips_newline code unread⟩
  cases isBreak with
  | line => exact once other text code unread
  | tight => exact once other text code unread
  | wide =>
      rcases once other _ code unread with ⟨middle, skips, rest, _, _⟩
      rcases once middle text (by rw [skips.frames]; exact code) rest with
        ⟨ready, skipsOn, rest, begins, column⟩
      exact ⟨ready, skips.trans skipsOn, rest, begins, column⟩

theorem skips_blanks [XidStart] (code : Frame.inString other.frames = false)
    (inLine : other.atLineStart = false) (apart : piece.Blanks width blanks)
    (unread : other.rest = blanks ++ text) (solid : headIs isBlank text = false)
    (fits : other.rest.length < Column.wordSize) :
    ∃ ready : Reader, other.Skips ready ∧ ready.rest = text ∧ ready.Reaches width piece ∧
      (ready.atLineStart = true → ∃ breaks, piece.gap.Breaks breaks) := by
  cases apart with
  | none gap =>
      refine ⟨other, .refl other, unread, .inLine inLine (Or.inl gap), fun begins => ?_⟩
      rw [inLine] at begins
      cases begins
  | space gap =>
      have behind : other.rest = ' ' :: text := unread
      have step : other.Skips other.step ∧ other.step.rest = text ∧
          other.step.atLineStart = false := by
        have read := step_eq_readLexeme code behind
        have noBlank : runLength (fun c => c != '\n' && isBlank c) text = 0 :=
          @runLength_spaces text 0 solid
        unfold readLexeme at read
        dsimp only at read
        rw [scan_space, noBlank] at read
        rw [read]
        exact ⟨⟨⟨1, read.symm⟩, rfl, rfl, rfl, rfl⟩, rfl, inLine⟩
      rcases step with ⟨skips, rest, stillInLine⟩
      refine ⟨other.step, skips, rest, .inLine stillInLine (Or.inr gap), fun begins => ?_⟩
      rw [stillInLine] at begins
      cases begins
  | @line breaks gap =>
      rw [List.append_assoc] at unread
      rcases skips_breaks code gap unread with ⟨middle, skips, rest, begins, column⟩
      have short : middle.column + piece.level * width < Column.wordSize := by
        rw [unread, List.length_append, List.length_append, List.length_replicate] at fits
        rw [column]
        omega
      rcases skips_spaces (by rw [skips.frames]; exact code) rest solid short with
        ⟨ready, skipsOn, rest, stillBegins, reached⟩
      rw [begins] at stillBegins
      rw [column, Nat.zero_add] at reached
      exact ⟨ready, skips.trans skipsOn, rest, .begins stillBegins reached, fun _ => ⟨breaks, gap⟩⟩

/-! ## In front of a token -/

/-- What a reader of the formatted source has before it: the pieces still to come, in the
line that it stands in or at the front of the page. -/
inductive Awaits (width : Nat) (pieces : List Piece) (reader other : Reader) : Prop
  | inLine (inLine : other.atLineStart = false) (some : reader.kinds ≠ [])
      (shows : Piece.Shows width pieces other.rest)
  | start (begins : other.atLineStart = true) (column : other.column = 0)
      (none : reader.kinds = []) (noFrames : reader.frames = [])
      (shows : Piece.Begins width pieces other.rest)

theorem Takes.pieces [XidStart] (takes : reader.Takes kind next inserted token around reader.step)
    (unread : reader.rest ≠ []) (real : kind.isReal = true) :
    arrangement.pieces begins reader.ahead =
      ((arrangement.through (inserted.map Token.kind)).place token (begins token)
          (reader.step.ahead.head?.any Token.hasNewlineBefore)).1 ::
        ((arrangement.through (inserted.map Token.kind)).place token (begins token)
          (reader.step.ahead.head?.any Token.hasNewlineBefore)).2.pieces begins
            reader.step.ahead := by
  have ahead := ahead_step unread takes.tokens
  rw [List.append_assoc] at ahead
  have layout : ∀ token ∈ inserted, token.kind.isLayout = true := fun token member =>
    takes.emission.isLayout _ (List.mem_map_of_mem member)
  rw [← takes.kind] at real
  rw [ahead, Arrangement.pieces_of_isLayout layout]
  exact Arrangement.pieces_of_isReal real

/-- A reader of the formatted source reads over the blanks in front of a piece. -/
theorem Awaits.skips [XidStart] {pieces : List Piece}
    (awaits : Awaits width (piece :: pieces) reader other)
    (code : Frame.inString other.frames = false)
    (solid : ∀ beyond, headIs isBlank (piece.text.toList ++ beyond) = false)
    (fits : other.rest.length < Column.wordSize) :
    ∃ ready beyond, other.Skips ready ∧ ready.rest = piece.text.toList ++ beyond ∧
      ready.rest.length ≤ other.rest.length ∧ ready.Reaches width piece ∧
      (ready.atLineStart = true → (∃ breaks, piece.gap.Breaks breaks) ∨
        reader.kinds = [] ∧ reader.frames = []) ∧
      Piece.Shows width pieces beyond := by
  cases awaits with
  | inLine inLine some shows =>
      generalize same : other.rest = rest at shows
      cases shows with
      | @cons _ _ blanks beyond apart shows =>
          rcases skips_blanks code inLine apart same (solid beyond) fits with
            ⟨ready, skips, rest, reaches, breaks⟩
          refine ⟨ready, beyond, skips, rest, ?_, reaches, fun begins => Or.inl (breaks begins),
            shows⟩
          rw [rest, @List.length_append _ blanks]
          exact Nat.le_add_left _ _
  | start begins column none noFrames shows =>
      generalize same : other.rest = rest at shows
      cases shows with
      | @cons _ _ beyond shows =>
          have short : other.column + piece.level * width < Column.wordSize := by
            rw [same, List.length_append, List.length_replicate] at fits
            rw [column]
            omega
          rcases skips_spaces code same (solid beyond) short with
            ⟨ready, skips, rest, stillBegins, reached⟩
          rw [begins] at stillBegins
          rw [column, Nat.zero_add] at reached
          refine ⟨ready, beyond, skips, rest, ?_, .begins stillBegins reached,
            fun _ => Or.inr ⟨none, noFrames⟩, shows⟩
          rw [rest, @List.length_append _ (List.replicate _ _)]
          exact Nat.le_add_left _ _

/-- A token that goes on with its line has no layout tokens in front of it, and a group over
several lines is closed in line only right behind a token that opens blocks. -/
theorem Takes.stands_inLine [XidStart]
    (takes : reader.Takes kind next inserted token around reader.step)
    (follows : Follows width reader other arrangement) {newlineBehind : Bool}
    (noEmptyCase : inserted = [] → arrangement.inMultiline = true →
      arrangement.afterOpener = true → kind ≠ .punctuation .rightBrace)
    (inLine : other.atLineStart = false)
    (gap : ((arrangement.through (inserted.map Token.kind)).place token (begins token)
        newlineBehind).1.gap = .none ∨
      ((arrangement.through (inserted.map Token.kind)).place token (begins token)
        newlineBehind).1.gap = .space) :
    Stands width other arrangement (inserted.map Token.kind) kind := by
  rcases takes with ⟨emission, -, -, -, rfl, -⟩
  rcases Arrangement.of_not_breaks gap with ⟨unbroken, onlyAfterOpener⟩
  have none : inserted.map Token.kind = [] := by
    by_contra some
    have broken : (arrangement.through (inserted.map Token.kind)).broken = true :=
      Arrangement.broken_of_emission emission some
    rw [← Arrangement.inside_broken _ token.kind] at broken
    exact Bool.false_ne_true (unbroken.symm.trans broken)
  rw [none] at emission onlyAfterOpener ⊢
  refine .inLine inLine rfl (Bool.eq_false_iff.mpr fun several => ?_)
  have opener : arrangement.afterOpener = true :=
    (Arrangement.inside_afterOpener arrangement token.kind).symm.trans (onlyAfterOpener several)
  rw [Bool.and_eq_true] at several
  rcases kind_of_isCloser several.1 with ⟨closer, isMark⟩
  rw [isMark] at emission noEmptyCase
  rcases emission.of_closer with ⟨blocks, target, split, noMarks, closed, fits⟩
  rw [outdents_eq_nil noMarks.symm, List.nil_append] at split
  have mirrors := follows.frames
  rw [split] at mirrors
  rcases mirrors.close fits with ⟨_, _, _, _, _, _, _, multiline⟩
  refine noEmptyCase (List.map_eq_nil_iff.mp none) several.2 opener ?_
  rw [(multiline several.2).1]
  rfl

/-- Where a line begins without a layout token, it makes no difference to the next token. -/
theorem quiet_of_breaks (follows : Follows width reader other arrangement)
    (code : Frame.inString reader.frames = false) {newlineBehind : Bool} {breaks : List Char}
    (gap : (arrangement.place token (begins token) newlineBehind).1.gap.Breaks breaks) :
    Quiet token.kind other.frames arrangement := by
  rcases Arrangement.of_breaks gap with broken | ⟨noOpener, asks⟩
  · have broken : (arrangement.inside token.kind).broken = true := broken
    rw [Arrangement.inside_broken, follows.settled] at broken
    cases broken
  · have inner : token.kind.isCloser = false →
        arrangement.inCurly = true ∨ arrangement.afterSemicolon = true := by
      intro noCloser
      rcases asks with several | inside
      · rw [noCloser] at several
        cases several
      · have inside : (arrangement.inside token.kind).inCurly = true ∨
          (arrangement.inside token.kind).afterSemicolon = true := inside
        rwa [Arrangement.inside_of_not_closer noCloser] at inside
    refine ⟨(Arrangement.inside_afterOpener _ _).symm.trans noOpener, fun noCloser => ?_,
      fun noCloser levelled => ?_⟩
    · rcases inner noCloser with inCurly | afterSemicolon
      · exact (follows.frames.of_inCurly code inCurly).1
      · unfold Arrangement.afterSemicolon at afterSemicolon
        exact follows.frames.of_noGroup code (Bool.and_eq_true_iff.mp afterSemicolon).2
    · rcases inner noCloser with inCurly | afterSemicolon
      · rw [(follows.frames.of_inCurly code inCurly).2] at levelled
        cases levelled
      · unfold Arrangement.afterSemicolon at afterSemicolon
        rw [beq_iff_eq.mp (Bool.and_eq_true_iff.mp afterSemicolon).1]
        rfl

/-- At the front of the page nothing is open, and nothing comes before. -/
theorem quiet_of_start (follows : Follows width reader other arrangement)
    (noKinds : reader.kinds = []) (noFrames : reader.frames = []) :
    Quiet kind other.frames arrangement := by
  have noPrevious : arrangement.previous = Option.none := by
    rw [follows.previous, noKinds]
    rfl
  have noFramesThere : other.frames = [] := by
    have mirrors := follows.frames
    rw [noFrames] at mirrors
    generalize other.frames = frames at mirrors ⊢
    generalize arrangement.enclosures = enclosures at mirrors
    generalize arrangement.level = level at mirrors
    cases mirrors
    rfl
  refine ⟨?_, fun _ => ?_, fun _ _ => ?_⟩
  · unfold Arrangement.afterOpener
    rw [noPrevious]
    rfl
  · rw [noFramesThere]
    rfl
  · rw [noPrevious]
    rfl

/-- What a token needs at its place: the same line, or one that begins without a layout
token only where that makes no difference. -/
theorem stands_of_reaches [XidStart] (follows : Follows width reader other arrangement)
    (code : Frame.inString reader.frames = false)
    (takes : reader.Takes kind next inserted token around reader.step)
    {newlineBehind : Bool}
    (noEmptyCase : inserted = [] → arrangement.inMultiline = true →
      arrangement.afterOpener = true → kind ≠ .punctuation .rightBrace)
    (reaches : other.Reaches width ((arrangement.through (inserted.map Token.kind)).place token
      (begins token) newlineBehind).1)
    (breaks : other.atLineStart = true → (∃ breaks, ((arrangement.through
      (inserted.map Token.kind)).place token (begins token) newlineBehind).1.gap.Breaks breaks) ∨
        reader.kinds = [] ∧ reader.frames = []) :
    Stands width other arrangement (inserted.map Token.kind) kind := by
  cases reaches with
  | inLine inLine gap => exact takes.stands_inLine follows noEmptyCase inLine gap
  | begins begin column =>
      have isKind := takes.kind
      subst isKind
      refine .begins begin column fun none => ?_
      rcases breaks begin with ⟨_, gap⟩ | ⟨noKinds, noFrames⟩
      · rw [none] at gap
        exact quiet_of_breaks follows code gap
      · exact quiet_of_start follows noKinds noFrames

end Reader
end Offside
