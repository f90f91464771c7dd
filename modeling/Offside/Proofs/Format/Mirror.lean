import Offside.Format.Piece
import Offside.Proofs.Lexing.Ahead

namespace Offside

/-!
# Frames and enclosures

A formatted source is laid out by what stands around its pieces, and read again with a
stack of frames.  The two mirror each other, and both mirror the frames of the source:
blocks and groups lie in the same order, and the lines of a block begin as far to the
right as its level of indentation says.  Under this relation a token that begins a line
of the formatted source comes to stand behind the same layout tokens as in the source.
-/

namespace TokenKind

/-- Whether a token of the kind becomes a piece. -/
def isReal (kind : TokenKind) : Bool := !kind.isLayout && kind != .endOfFile

theorem isReal_of_isLayout {kind : TokenKind} (layout : kind.isLayout = true) :
    kind.isReal = false := by
  unfold isReal
  rw [layout]
  rfl

end TokenKind

namespace Arrangement

variable {arrangement : Arrangement} {token : Token} {rest inserted : List Token}
  {kind : TokenKind} {blocks : List Frame}

/-- Past a layout token, which becomes no piece. -/
def pass (arrangement : Arrangement) : TokenKind → Arrangement
  | .indent => arrangement.enterIndented
  | .outdent => arrangement.leaveIndented
  | .autoSemicolon => { arrangement with broken := true }
  | _ => arrangement

def through (arrangement : Arrangement) (kinds : List TokenKind) : Arrangement :=
  kinds.foldl pass arrangement

/-- Where a token is placed: a closing bracket stands outside of what it closes. -/
def inside (arrangement : Arrangement) (kind : TokenKind) : Arrangement :=
  if kind.isCloser then arrangement.close else arrangement

/-- Behind a token that was placed, perhaps in what it opens. -/
def behind (arrangement : Arrangement) (kind : TokenKind) (newlineBehind : Bool) : Arrangement :=
  { ({ arrangement with broken := false } : Arrangement).enter kind newlineBehind with
    previous := some kind }

theorem place_snd (beginsDefinition newlineBehind : Bool) :
    (arrangement.place token beginsDefinition newlineBehind).2 =
      (arrangement.inside token.kind).behind token.kind newlineBehind := rfl

/-- A token without a text becomes no piece. -/
theorem pieces_of_not_real {begins : Token → Bool} {rest : List Token}
    (noReal : token.kind.isReal = false) :
    arrangement.pieces begins (token :: rest) =
      (arrangement.pass token.kind).pieces begins rest := by
  rcases token with ⟨kind, span, leading⟩
  cases kind with
  | indent => rfl
  | outdent => rfl
  | autoSemicolon => rfl
  | endOfFile => rfl
  | _ => cases noReal

theorem pieces_of_isLayout {begins : Token → Bool}
    (layout : ∀ token ∈ inserted, token.kind.isLayout = true) :
    arrangement.pieces begins (inserted ++ rest) =
      (arrangement.through (inserted.map Token.kind)).pieces begins rest := by
  induction inserted generalizing arrangement with
  | nil => rfl
  | cons token inserted inductionHypothesis =>
      rw [List.forall_mem_cons] at layout
      rw [List.cons_append, pieces_of_not_real (TokenKind.isReal_of_isLayout layout.1),
        inductionHypothesis layout.2]
      rfl

theorem pieces_of_isReal {begins : Token → Bool} (real : token.kind.isReal = true) :
    arrangement.pieces begins (token :: rest) =
      (arrangement.place token (begins token) (rest.head?.any Token.hasNewlineBefore)).1 ::
        (arrangement.place token (begins token)
          (rest.head?.any Token.hasNewlineBefore)).2.pieces begins rest := by
  rcases token with ⟨kind, span, leading⟩
  cases kind with
  | indent => cases real
  | outdent => cases real
  | autoSemicolon => cases real
  | endOfFile => cases real
  | _ => rfl

theorem through_append (kinds others : List TokenKind) :
    arrangement.through (kinds ++ others) = (arrangement.through kinds).through others :=
  List.foldl_append

theorem through_previous (kinds : List TokenKind) :
    (arrangement.through kinds).previous = arrangement.previous := by
  induction kinds generalizing arrangement with
  | nil => rfl
  | cons kind kinds inductionHypothesis =>
      show ((arrangement.pass kind).through kinds).previous = _
      rw [inductionHypothesis]
      cases kind <;> rfl

theorem through_outdents_broken (some : blocks ≠ []) :
    (arrangement.through (Reader.outdents blocks)).broken = true := by
  induction blocks generalizing arrangement with
  | nil => exact absurd rfl some
  | cons block blocks inductionHypothesis =>
      show (arrangement.leaveIndented.through (Reader.outdents blocks)).broken = true
      cases blocks with
      | nil => rfl
      | cons other blocks => exact inductionHypothesis (List.cons_ne_nil _ _)

/-- Every token that is inserted breaks the line. -/
theorem broken_of_emission {kinds inserted : List TokenKind} {next : Option Char}
    {frames around : List Frame}
    (emission : Reader.Emission kinds kind next frames inserted around) (some : inserted ≠ []) :
    (arrangement.through inserted).broken = true := by
  cases emission with
  | @settles blocks around separated noCloser closed begins goesOn =>
      rw [through_append]
      cases separated with
      | true => rfl
      | false =>
          refine through_outdents_broken fun none => some ?_
          rw [none]
          rfl
  | deepens level noCloser active opens => rfl
  | closes same closed fits =>
      refine through_outdents_broken fun none => some ?_
      rw [none]
      rfl

@[simp]
theorem close_previous (arrangement : Arrangement) :
    arrangement.close.previous = arrangement.previous := rfl

theorem inside_previous (arrangement : Arrangement) (kind : TokenKind) :
    (arrangement.inside kind).previous = arrangement.previous := by
  unfold inside
  split
  · rfl
  · rfl

theorem inside_broken (arrangement : Arrangement) (kind : TokenKind) :
    (arrangement.inside kind).broken = arrangement.broken := by
  unfold inside
  split
  · rfl
  · rfl

theorem inside_afterOpener (arrangement : Arrangement) (kind : TokenKind) :
    (arrangement.inside kind).afterOpener = arrangement.afterOpener :=
  congrArg (Option.any TokenKind.opensBlock) (inside_previous arrangement kind)

theorem inside_of_not_closer (noCloser : kind.isCloser = false) :
    arrangement.inside kind = arrangement := by
  unfold inside
  rw [noCloser]
  rfl

theorem inside_of_closer (isCloser : kind.isCloser = true) :
    arrangement.inside kind = arrangement.close := by
  unfold inside
  rw [isCloser]
  rfl

theorem enter_broken (arrangement : Arrangement) (kind : TokenKind) (newlineBehind : Bool) :
    (arrangement.enter kind newlineBehind).broken = arrangement.broken := by
  unfold enter
  split
  · rfl
  · rfl
  · split <;> rfl
  · split <;> rfl
  · rfl

theorem behind_broken (arrangement : Arrangement) (kind : TokenKind) (newlineBehind : Bool) :
    (arrangement.behind kind newlineBehind).broken = false :=
  enter_broken { arrangement with broken := false } kind newlineBehind

end Arrangement

/-! ## Behind some tokens -/

/-- What decides on the next piece behind some tokens. -/
inductive Arrangement.Behind : List TokenKind → Arrangement → Prop
  | start : Behind [] .start
  | pass {kinds : List TokenKind} {arrangement : Arrangement} {kind : TokenKind}
      (behind : Behind kinds arrangement) (noReal : kind.isReal = false) :
      Behind (kinds ++ [kind]) (arrangement.pass kind)
  | place {kinds : List TokenKind} {arrangement : Arrangement} {kind : TokenKind}
      (behind : Behind kinds arrangement) (real : kind.isReal = true) (newlineBehind : Bool) :
      Behind (kinds ++ [kind]) ((arrangement.inside kind).behind kind newlineBehind)

namespace Arrangement.Behind

variable {kinds inserted : List TokenKind} {arrangement : Arrangement}

theorem through (behind : Behind kinds arrangement)
    (layout : ∀ kind ∈ inserted, kind.isLayout = true) :
    Behind (kinds ++ inserted) (arrangement.through inserted) := by
  induction inserted generalizing kinds arrangement with
  | nil =>
      rw [List.append_nil]
      exact behind
  | cons kind inserted inductionHypothesis =>
      rw [List.forall_mem_cons] at layout
      rw [List.append_cons]
      exact inductionHypothesis (behind.pass (TokenKind.isReal_of_isLayout layout.1)) layout.2

/-- Only layout tokens ask for a break. -/
theorem settled (behind : Behind kinds arrangement)
    (real : kinds.getLast?.any TokenKind.isReal = true) : arrangement.broken = false := by
  cases behind with
  | start => rfl
  | pass behind noReal =>
      rw [List.getLast?_concat] at real
      rw [show TokenKind.isReal _ = true from real] at noReal
      cases noReal
  | place behind real newlineBehind => exact behind_broken _ _ _

theorem previous (behind : Behind kinds arrangement) {last : TokenKind}
    (ends : kinds.getLast? = some last) (real : last.isReal = true) :
    arrangement.previous = some last := by
  cases behind with
  | start => cases ends
  | pass behind noReal =>
      rw [List.getLast?_concat] at ends
      cases ends
      rw [noReal] at real
      cases real
  | place behind real newlineBehind =>
      rw [List.getLast?_concat] at ends
      exact ends

theorem broken (behind : Behind kinds arrangement)
    (layout : kinds.getLast?.any TokenKind.isLayout = true) : arrangement.broken = true := by
  cases behind with
  | start => cases layout
  | @pass _ _ kind behind noReal =>
      rw [List.getLast?_concat] at layout
      have isLayout : kind.isLayout = true := layout
      cases kind <;> first | rfl | cases isLayout
  | @place _ _ kind behind real newlineBehind =>
      rw [List.getLast?_concat] at layout
      rw [TokenKind.isReal_of_isLayout layout] at real
      cases real

end Arrangement.Behind

/-! ## Mirrored frames -/

/-- The frames of a source, those of the formatted source and the enclosures of a piece
mirror each other. -/
inductive Mirrors (width : Nat) : List Frame → List Frame → List Enclosure → Nat → Prop
  | nil : Mirrors width [] [] [] 0
  | indent {frames others : List Frame} {enclosures : List Enclosure} {level : Nat}
      (column : Nat) (active : Frame.layoutActive frames = true)
      (mirrors : Mirrors width frames others enclosures level) :
      Mirrors width (.indent column :: frames) (.indent ((level + 1) * width) :: others)
        (.indented :: enclosures) (level + 1)
  | curly {frames others : List Frame} {enclosures : List Enclosure} {level : Nat}
      {bracket : Bracket} (multiline : Bool) (opened openedThere : Nat)
      (isCurly : bracket.closer = .curly) (mirrors : Mirrors width frames others enclosures level) :
      Mirrors width (.group bracket opened :: frames) (.group bracket openedThere :: others)
        (.curly multiline :: enclosures) (if multiline then level + 1 else level)
  | group {frames others : List Frame} {enclosures : List Enclosure} {level : Nat}
      {bracket : Bracket} (opened openedThere : Nat) (noCurly : bracket.closer ≠ .curly)
      (mirrors : Mirrors width frames others enclosures level) :
      Mirrors width (.group bracket opened :: frames) (.group bracket openedThere :: others)
        (.group :: enclosures) level
  | splice {frames others : List Frame} {enclosures : List Enclosure} {level : Nat}
      (opened openedThere : Nat) (mirrors : Mirrors width frames others enclosures level) :
      Mirrors width (.splice opened :: frames) (.splice openedThere :: others)
        (.group :: enclosures) level
  | string {frames others : List Frame} {enclosures : List Enclosure} {level : Nat}
      (quote : QuoteForm) (opened openedThere : Nat)
      (mirrors : Mirrors width frames others enclosures level) :
      Mirrors width (.string quote opened :: frames) (.string quote openedThere :: others)
        enclosures level

namespace Mirrors

variable {width level : Nat} {frames others blocks around : List Frame}
  {enclosures : List Enclosure}

theorem layoutActive (mirrors : Mirrors width frames others enclosures level) :
    Frame.layoutActive others = Frame.layoutActive frames := by
  cases mirrors with
  | curly multiline opened openedThere isCurly mirrors => rename_i bracket; cases bracket <;> rfl
  | group opened openedThere noCurly mirrors => rename_i bracket; cases bracket <;> rfl
  | _ => rfl

theorem inString (mirrors : Mirrors width frames others enclosures level) :
    Frame.inString others = Frame.inString frames := by
  cases mirrors <;> rfl

/-- Where statements begin at some column, they begin at the level of indentation. -/
theorem level? (mirrors : Mirrors width frames others enclosures level) :
    Frame.level? others = (Frame.level? frames).map fun _ => level * width := by
  cases mirrors with
  | nil => exact congrArg some (Nat.zero_mul width).symm
  | _ => rfl

theorem level_le (mirrors : Mirrors width frames others enclosures level) {column : Nat}
    (reaches : level * width ≤ column) :
    others.head?.any (Frame.isDeeperThan column) = false := by
  cases mirrors with
  | indent source active mirrors => exact decide_eq_false (Nat.not_lt.mpr reaches)
  | _ => rfl

/-- Leaving some blocks leaves as many blocks of the formatted source, and a line at the
level of indentation around them does just that. -/
theorem leave (positive : 0 < width) {arrangement : Arrangement}
    (mirrors : Mirrors width (blocks ++ around) others arrangement.enclosures arrangement.level)
    (closed : ∀ frame ∈ blocks, frame.isBlock = true) :
    ∃ left stays,
      Mirrors width around stays (arrangement.through (Reader.outdents blocks)).enclosures
        (arrangement.through (Reader.outdents blocks)).level ∧
      Reader.Leaves others ((arrangement.through (Reader.outdents blocks)).level * width)
        left stays ∧
      left.length = blocks.length ∧
      (arrangement.through (Reader.outdents blocks)).level ≤ arrangement.level ∧
      (blocks ≠ [] → Frame.layoutActive around = true) := by
  induction blocks generalizing arrangement others with
  | nil =>
      exact ⟨[], others, mirrors,
        ⟨rfl, List.forall_mem_nil _, mirrors.level_le (Nat.le_refl _)⟩, rfl, Nat.le_refl _,
        fun some => absurd rfl some⟩
  | cons block blocks inductionHypothesis =>
      rw [List.forall_mem_cons] at closed
      rcases arrangement with ⟨enclosures, level, broken, previous⟩
      cases mirrors with
      | @indent _ others enclosures level column active mirrors =>
          have inner := @inductionHypothesis others ⟨enclosures, level, true, previous⟩ mirrors
            closed.2
          have step : (⟨.indented :: enclosures, level + 1, broken, previous⟩ :
              Arrangement).through (Reader.outdents (.indent column :: blocks)) =
                (⟨enclosures, level, true, previous⟩ : Arrangement).through
                  (Reader.outdents blocks) := rfl
          rw [step]
          rcases inner with ⟨left, stays, mirrored, leaves, long, shallower, isActive⟩
          refine ⟨.indent ((level + 1) * width) :: left, stays, mirrored,
            ⟨?_, ?_, leaves.stays⟩, ?_, ?_, fun _ => ?_⟩
          · rw [leaves.split]
            rfl
          · refine List.forall_mem_cons.mpr ⟨decide_eq_true ?_, leaves.deeper⟩
            exact Nat.mul_lt_mul_of_pos_right (Nat.lt_succ_of_le shallower) positive
          · rw [List.length_cons, List.length_cons, long]
          · exact Nat.le_succ_of_le shallower
          · cases blocks with
            | nil => exact active
            | cons other blocks => exact isActive (List.cons_ne_nil _ _)
      | curly => cases closed.1
      | group => cases closed.1
      | splice => cases closed.1
      | string => cases closed.1

/-- What a closing bracket closes in the source it closes in the formatted source. -/
theorem close {arrangement : Arrangement} {target : Frame} {closer : ClosingBracket}
    (mirrors : Mirrors width (target :: around) others arrangement.enclosures arrangement.level)
    (fits : target.isClosedBy closer = true) :
    ∃ targetThere stays,
      others = targetThere :: stays ∧ targetThere.isClosedBy closer = true ∧
      Mirrors width around stays arrangement.close.enclosures arrangement.close.level ∧
      arrangement.close.level ≤ arrangement.level ∧
      (arrangement.inMultiline = false → arrangement.close.level = arrangement.level) ∧
      (arrangement.inMultiline = true →
        closer = .curly ∧ Frame.layoutActive others = true) := by
  rcases arrangement with ⟨enclosures, level, broken, previous⟩
  cases mirrors with
  | indent column active mirrors => cases fits
  | string quote opened openedThere mirrors => cases fits
  | splice opened openedThere mirrors =>
      exact ⟨_, _, rfl, fits, mirrors, Nat.le_refl _, fun _ => rfl, nofun⟩
  | group opened openedThere noCurly mirrors =>
      exact ⟨_, _, rfl, fits, mirrors, Nat.le_refl _, fun _ => rfl, nofun⟩
  | @curly _ others enclosures level bracket multiline opened openedThere isCurly mirrors =>
      have active : Frame.layoutActive (.group bracket openedThere :: others) = true := by
        cases bracket with
        | round => cases isCurly
        | square => cases isCurly
        | _ => rfl
      have same : closer = .curly := by
        rw [← isCurly]
        exact (beq_iff_eq.mp fits).symm
      cases multiline with
      | true => exact ⟨_, _, rfl, fits, mirrors, Nat.le_succ _, nofun, fun _ => ⟨same, active⟩⟩
      | false => exact ⟨_, _, rfl, fits, mirrors, Nat.le_refl _, fun _ => rfl, nofun⟩

/-- What a token opens in the source it opens in the formatted source. -/
theorem enter {arrangement : Arrangement}
    (mirrors : Mirrors width frames others arrangement.enclosures arrangement.level)
    (noDollar : arrangement.previous ≠ some (.punctuation .dollar)) (kind : TokenKind)
    (newlineBehind : Bool) (offset offsetThere : Nat) :
    Mirrors width ((Frame.opening? kind offset).toList ++ frames)
      ((Frame.opening? kind offsetThere).toList ++ others)
      (arrangement.enter kind newlineBehind).enclosures
      (arrangement.enter kind newlineBehind).level ∧
      arrangement.level ≤ (arrangement.enter kind newlineBehind).level := by
  have noSplice : (arrangement.previous == some (.punctuation .dollar)) = false :=
    beq_eq_false_iff_ne.mpr noDollar
  have curly : ∀ bracket : Bracket, bracket.closer = .curly →
      Bracket.ofKind? kind = some bracket →
      arrangement.enter kind newlineBehind =
        { arrangement with
          enclosures := .curly newlineBehind :: arrangement.enclosures
          level := if newlineBehind then arrangement.level + 1 else arrangement.level } := by
    intro bracket isCurly found
    unfold Arrangement.enter
    rw [found, noSplice]
    cases bracket with
    | round => cases isCurly
    | square => cases isCurly
    | _ => rfl
  have rises : arrangement.level ≤
      if newlineBehind then arrangement.level + 1 else arrangement.level := by
    split
    · exact Nat.le_succ _
    · exact Nat.le_refl _
  have still : ∀ offset, Bracket.ofKind? kind = none → (∀ quote, kind ≠ .stringStart quote) →
      (Frame.opening? kind offset).toList = [] := by
    intro offset none noString
    unfold Frame.opening?
    split
    · exact absurd rfl (noString _)
    · rw [none]
      rfl
  have stays : Bracket.ofKind? kind = none →
      arrangement.enter kind newlineBehind = arrangement := by
    intro none
    unfold Arrangement.enter
    rw [none]
  cases kind with
  | stringStart quote => exact ⟨.string quote offset offsetThere mirrors, Nat.le_refl _⟩
  | punctuation mark =>
      cases found : Bracket.ofKind? (.punctuation mark) with
      | none =>
          rw [still offset found nofun, still offsetThere found nofun, stays found]
          exact ⟨mirrors, Nat.le_refl _⟩
      | some bracket =>
          have opens : ∀ offset, (Frame.opening? (.punctuation mark) offset).toList =
              [.group bracket offset] := by
            intro offset
            unfold Frame.opening?
            dsimp only
            rw [found]
            rfl
          rw [opens, opens]
          cases bracket with
          | round =>
              have entered : arrangement.enter (.punctuation mark) newlineBehind =
                  { arrangement with enclosures := .group :: arrangement.enclosures } := by
                unfold Arrangement.enter
                rw [found]
              rw [entered]
              exact ⟨.group offset offsetThere nofun mirrors, Nat.le_refl _⟩
          | square =>
              have entered : arrangement.enter (.punctuation mark) newlineBehind =
                  { arrangement with enclosures := .group :: arrangement.enclosures } := by
                unfold Arrangement.enter
                rw [found]
              rw [entered]
              exact ⟨.group offset offsetThere nofun mirrors, Nat.le_refl _⟩
          | curly =>
              rw [curly .curly rfl found]
              exact ⟨.curly newlineBehind offset offsetThere rfl mirrors, rises⟩
          | hashCurly =>
              rw [curly .hashCurly rfl found]
              exact ⟨.curly newlineBehind offset offsetThere rfl mirrors, rises⟩
  | _ => exact ⟨mirrors, Nat.le_refl _⟩

/-- Directly between curly brackets lines have a meaning, and statements begin anywhere. -/
theorem of_inCurly {arrangement : Arrangement}
    (mirrors : Mirrors width frames others arrangement.enclosures arrangement.level)
    (code : Frame.inString frames = false) (inCurly : arrangement.inCurly = true) :
    Frame.layoutActive others = true ∧ Frame.level? others = none := by
  rcases arrangement with ⟨enclosures, level, broken, previous⟩
  cases mirrors with
  | @curly _ _ _ _ bracket multiline opened openedThere isCurly mirrors =>
      cases bracket with
      | round => cases isCurly
      | square => cases isCurly
      | _ => exact ⟨rfl, rfl⟩
  | string quote opened openedThere mirrors => cases code
  | _ => cases inCurly

/-- Outside of other groups lines have a meaning. -/
theorem of_noGroup {arrangement : Arrangement}
    (mirrors : Mirrors width frames others arrangement.enclosures arrangement.level)
    (code : Frame.inString frames = false)
    (noGroup : (arrangement.enclosures.head? != some .group) = true) :
    Frame.layoutActive others = true := by
  rcases arrangement with ⟨enclosures, level, broken, previous⟩
  cases mirrors with
  | @curly _ _ _ _ bracket multiline opened openedThere isCurly mirrors =>
      cases bracket with
      | round => cases isCurly
      | square => cases isCurly
      | _ => rfl
  | nil => rfl
  | indent column active mirrors => rfl
  | group opened openedThere noCurly mirrors => cases noGroup
  | splice opened openedThere mirrors => cases noGroup
  | string quote opened openedThere mirrors => cases code

end Mirrors

/-! ## Reproducing a token -/

/-- A reader of the formatted source has found what the reader of the source has found,
and stands in front of the piece that is arranged next. -/
structure Follows (width : Nat) (reader other : Reader) (arrangement : Arrangement) : Prop where
  kinds : other.kinds = reader.kinds
  silent : other.diagnostics = #[]
  frames : Mirrors width reader.frames other.frames arrangement.enclosures arrangement.level
  settled : arrangement.broken = false
  previous : arrangement.previous = reader.kinds.getLast?
  noDollar : arrangement.previous ≠ some (.punctuation .dollar)
  lineIndent : other.lineIndent ≤ arrangement.level * width

/-- A line that begins without a layout token: the token before opens no block, and
where statements may begin none has ended. -/
structure Quiet (kind : TokenKind) (frames : List Frame) (arrangement : Arrangement) : Prop where
  noOpening : arrangement.afterOpener = false
  active : kind.isCloser = false → Frame.layoutActive frames = true
  goesOn : kind.isCloser = false → (Frame.level? frames).isSome = true →
    arrangement.previous.any TokenKind.canEndStatement = false

/-- Where a token stands: behind others in a line, or at the front of a line that is
indented as it should be. -/
inductive Stands (width : Nat) (other : Reader) (arrangement : Arrangement)
    (inserted : List TokenKind) (kind : TokenKind) : Prop
  | inLine (inLine : other.atLineStart = false) (none : inserted = [])
      (noMultiline : (kind.isCloser && arrangement.inMultiline) = false)
  | begins (begins : other.atLineStart = true)
      (column : other.column = ((arrangement.through inserted).inside kind).level * width)
      (quiet : inserted = [] → Quiet kind other.frames arrangement)

namespace Reader

variable {reader other : Reader} {kind : TokenKind} {inserted : List TokenKind}
  {frames blocks around : List Frame} {indentation width : Nat} {next nextThere : Option Char}
  {arrangement : Arrangement}

theorem emit_closer_becomes {closer : ClosingBracket} {target : Frame}
    (fits : target.isClosedBy closer = true)
    (became : other.Becomes inserted (target :: frames) indentation
      (other.applyLayout (.punctuation closer.mark) next)) (span : Span) :
    other.Becomes (inserted ++ [.punctuation closer.mark]) frames indentation
      (other.emit (.punctuation closer.mark) span next) := by
  unfold emit
  rw [ofKind?_mark]
  exact became.addCloser rfl fits span

theorem outdents_eq_nil (none : outdents blocks = []) : blocks = [] := by
  cases blocks with
  | nil => rfl
  | cons block blocks => cases none

theorem through_separator (kinds : List TokenKind) (separated : Bool) :
    (arrangement.through (kinds ++ separator separated)).enclosures =
        (arrangement.through kinds).enclosures ∧
      (arrangement.through (kinds ++ separator separated)).level =
        (arrangement.through kinds).level := by
  rw [Arrangement.through_append]
  cases separated <;> exact ⟨rfl, rfl⟩

theorem layoutActive_of_level? (levelled : (Frame.level? frames).isSome = true) :
    Frame.layoutActive frames = true := by
  unfold Frame.level? at levelled
  split at levelled
  · rfl
  · rfl
  · cases levelled

theorem layoutActive_of_leaves {column : Nat} {left stays : List Frame}
    (leaves : Leaves frames column left stays) (some : left ≠ []) :
    Frame.layoutActive frames = true := by
  cases left with
  | nil => exact absurd rfl some
  | cons block left =>
      have isBlock := leaves.isBlock block List.mem_cons_self
      rw [leaves.split]
      cases block with
      | indent level => rfl
      | _ => cases isBlock

/-- Where a statement begins in the source, it begins in the formatted source, as long as the
token can start one there. -/
theorem separates_again {left stays : List Frame} (follows : Follows width reader other arrangement)
    (levelled : (Frame.level? stays).isSome = (Frame.level? around).isSome)
    (none : left = [] → blocks = [])
    (starts : (Frame.level? around).isSome = true ∧ kind.canStartStatement next = true ∧
      (blocks = [] → reader.kinds.getLast?.any TokenKind.canEndStatement = true))
    (startsThere : kind.canStartStatement next = true → kind.canStartStatement nextThere = true) :
    separates other.kinds left stays kind nextThere = true := by
  rcases starts with ⟨some, start, ended⟩
  have ends : (lastBehind other.kinds left).any TokenKind.canEndStatement = true := by
    cases left with
    | nil =>
        rw [follows.kinds]
        exact ended (none rfl)
    | cons block left => rfl
  unfold separates
  rw [levelled, some, ends, startsThere start]
  rfl

/-- Where no statement begins in the source, none begins in the formatted source: behind the
blocks that a line leaves the token cannot start one, and without them the line is quiet. -/
theorem joined_again {left stays : List Frame} (follows : Follows width reader other arrangement)
    (noCloser : kind.isCloser = false) (split : other.frames = left ++ stays)
    (quiet : left = [] → Quiet kind other.frames arrangement)
    (goesOn : left ≠ [] → (Frame.level? stays).isSome = true →
      kind.canStartStatement nextThere = false) :
    separates other.kinds left stays kind nextThere = false := by
  unfold separates
  cases someLevel : (Frame.level? stays).isSome with
  | false => rfl
  | true =>
      cases left with
      | nil =>
          have quietly := quiet rfl
          rw [split, List.nil_append] at quietly
          have ended := quietly.goesOn noCloser someLevel
          rw [follows.previous, ← follows.kinds] at ended
          show (true && (other.kinds.getLast?.any TokenKind.canEndStatement && _)) = false
          rw [ended]
          rfl
      | cons block left =>
          rw [goesOn (List.cons_ne_nil _ _) someLevel, Bool.and_false, Bool.and_false]

/-- Lines that leave blocks have a meaning, and so have those that begin a statement. -/
theorem layoutActive_again {separated : Bool} {column : Nat} {left stays : List Frame}
    (follows : Follows width reader other arrangement) (noCloser : kind.isCloser = false)
    (split : reader.frames = blocks ++ around) (leaves : Leaves other.frames column left stays)
    (none : left = [] → blocks = [])
    (starts : separated = true → (Frame.level? around).isSome = true)
    (quiet : blocks = [] → separated = false → Quiet kind other.frames arrangement) :
    Frame.layoutActive other.frames = true := by
  cases left with
  | cons block left => exact layoutActive_of_leaves leaves (List.cons_ne_nil _ _)
  | nil =>
      cases separated with
      | false => exact (quiet (none rfl) rfl).active noCloser
      | true =>
          rw [follows.frames.layoutActive, split, none rfl]
          exact layoutActive_of_level? (starts rfl)

/-- A line that leaves blocks and perhaps begins a statement does so again. -/
theorem applyLayout_settles_again (positive : 0 < width)
    (follows : Follows width reader other arrangement) {separated : Bool}
    (noCloser : kind.isCloser = false) (split : reader.frames = blocks ++ around)
    (closed : ∀ frame ∈ blocks, frame.isBlock = true)
    (starts : separated = true → (Frame.level? around).isSome = true ∧
      kind.canStartStatement next = true ∧
      (blocks = [] → reader.kinds.getLast?.any TokenKind.canEndStatement = true))
    (goesOn : separated = false → blocks ≠ [] → (Frame.level? around).isSome = true →
      kind.canStartStatement next = false)
    (startsThere : separated = true → kind.canStartStatement next = true →
      kind.canStartStatement nextThere = true)
    (goesOnThere : kind.canStartStatement next = false →
      kind.canStartStatement nextThere = false)
    (begins : other.atLineStart = true)
    (column : other.column = (arrangement.through (outdents blocks)).level * width)
    (quiet : blocks = [] → separated = false → Quiet kind other.frames arrangement) :
    ∃ stays,
      other.Becomes (outdents blocks ++ separator separated) stays other.column
        (other.applyLayout kind nextThere) ∧
      Mirrors width around stays (arrangement.through (outdents blocks)).enclosures
        (arrangement.through (outdents blocks)).level := by
  have frames := follows.frames
  rw [split] at frames
  rcases frames.leave positive closed with
    ⟨left, stays, mirrored, leaves, long, shallower, isActive⟩
  have sameBlocks : outdents left = outdents blocks := congrArg (List.replicate · _) long
  have none : left = [] → blocks = [] := by
    intro none
    rw [none] at long
    exact List.length_eq_zero_iff.mp long.symm
  have levelled : (Frame.level? stays).isSome = (Frame.level? around).isSome := by
    rw [mirrored.level?, Option.isSome_map]
  have active := layoutActive_again follows noCloser split leaves none
    (fun separated => (starts separated).1) quiet
  have noOpening : left = [] → Frame.level? stays = Option.none →
      other.kinds.getLast?.any TokenKind.opensBlock = false := by
    intro noBlocks noLevel
    cases separated with
    | false =>
        rw [follows.kinds, ← follows.previous]
        exact (quiet (none noBlocks) rfl).noOpening
    | true =>
        rw [noLevel, (starts rfl).1] at levelled
        cases levelled
  have same : separates other.kinds left stays kind nextThere = separated := by
    cases separated with
    | true => exact separates_again follows levelled none (starts rfl) (startsThere rfl)
    | false =>
        refine joined_again follows noCloser leaves.split
          (fun noBlocks => quiet (none noBlocks) rfl)
          fun someLeft someLevel => goesOnThere (goesOn rfl (fun noBlocks => ?_) ?_)
        · rw [noBlocks] at long
          exact someLeft (List.length_eq_zero_iff.mp long)
        · rwa [levelled] at someLevel
  rw [← column] at leaves
  have settles := @applyLayout_settles other kind nextThere left stays begins active leaves
    (by
      intro level found
      rw [mirrored.level?] at found
      rcases Option.map_eq_some_iff.mp found with ⟨_, _, isLevel⟩
      rw [column, isLevel])
    noOpening
  rw [same, sameBlocks] at settles
  exact ⟨stays, settles, mirrored⟩

/-- A line that opens a block does so again. -/
theorem applyLayout_deepens_again (positive : 0 < width)
    (follows : Follows width reader other arrangement)
    (active : Frame.layoutActive reader.frames = true)
    (opens : reader.kinds.getLast?.any TokenKind.opensBlock = true)
    (begins : other.atLineStart = true)
    (column : other.column = (arrangement.level + 1) * width) :
    other.Becomes [.indent] (.indent other.column :: other.frames) other.column
      (other.applyLayout kind nextThere) := by
  have deeper : arrangement.level * width < other.column := by
    rw [column]
    exact Nat.mul_lt_mul_of_pos_right (Nat.lt_succ_self _) positive
  apply applyLayout_deepens begins
  · rw [follows.frames.layoutActive]
    exact active
  · exact follows.frames.level_le (Nat.le_of_lt deeper)
  · intro same
    rw [follows.frames.level?] at same
    rcases Option.map_eq_some_iff.mp same with ⟨_, _, isLevel⟩
    omega
  · rw [follows.kinds]
    exact opens
  · exact Nat.lt_of_le_of_lt follows.lineIndent deeper

theorem isDeeperThan_of_le {frame : Frame} {column lower : Nat} (below : lower ≤ column)
    (deeper : frame.isDeeperThan column = true) : frame.isDeeperThan lower = true := by
  cases frame with
  | indent level =>
      have above : column < level := of_decide_eq_true deeper
      exact decide_eq_true (Nat.lt_of_le_of_lt below above)
  | _ => cases deeper

/-- What a bracket closes is no block. -/
theorem level?_of_isClosedBy {target : Frame} {closer : ClosingBracket}
    (fits : target.isClosedBy closer = true) (outer : List Frame) (column : Nat) :
    Frame.level? (target :: outer) = none ∧ target.isDeeperThan column = false := by
  cases target with
  | indent level => cases fits
  | string quote opened => cases fits
  | group bracket opened => exact ⟨rfl, rfl⟩
  | splice opened => exact ⟨rfl, rfl⟩

theorem startsDefinition_mark (closer : ClosingBracket) :
    TokenKind.startsDefinition (.punctuation closer.mark) = false := rfl

/-- A closing bracket at the front of a line closes the same blocks again. -/
theorem applyLayout_closes_again (positive : 0 < width)
    (follows : Follows width reader other arrangement) {target : Frame}
    {closer : ClosingBracket} (split : reader.frames = blocks ++ target :: around)
    (closed : ∀ frame ∈ blocks, frame.isBlock = true)
    (fits : target.isClosedBy closer = true) (begins : other.atLineStart = true)
    (column : other.column = (arrangement.through (outdents blocks)).close.level * width)
    (quiet : blocks = [] → arrangement.afterOpener = false) :
    ∃ targetThere stays indentation,
      other.Becomes (outdents blocks) (targetThere :: stays) indentation
        (other.applyLayout (.punctuation closer.mark) nextThere) ∧
      targetThere.isClosedBy closer = true ∧
      Mirrors width around stays (arrangement.through (outdents blocks)).close.enclosures
        (arrangement.through (outdents blocks)).close.level ∧
      indentation ≤ (arrangement.through (outdents blocks)).close.level * width := by
  have frames := follows.frames
  rw [split] at frames
  rcases frames.leave positive closed with
    ⟨left, inner, mirroredTarget, leaves, long, shallower, isActive⟩
  rcases mirroredTarget.close fits with
    ⟨targetThere, stays, whole, fitsThere, mirrored, lower, sameLevel, multiline⟩
  subst whole
  have sameBlocks : outdents left = outdents blocks := congrArg (List.replicate · _) long
  have none_iff : left = [] → blocks = [] := by
    intro none
    rw [none] at long
    exact List.length_eq_zero_iff.mp long.symm
  cases active : Frame.layoutActive other.frames with
  | true =>
      have leavesLower : Leaves other.frames other.column left (targetThere :: stays) := by
        refine ⟨leaves.split, fun frame member => ?_, ?_⟩
        · rw [column]
          exact isDeeperThan_of_le (Nat.mul_le_mul_right width lower)
            (leaves.deeper frame member)
        · exact (level?_of_isClosedBy fitsThere stays other.column).2
      have settles := @applyLayout_settles other (.punctuation closer.mark) nextThere left
        (targetThere :: stays) begins active leavesLower
        (by
          intro level found
          rw [(level?_of_isClosedBy fitsThere stays 0).1] at found
          cases found)
        (by
          intro none _
          rw [follows.kinds, ← follows.previous]
          exact quiet (none_iff none))
      have joined : separates other.kinds left (targetThere :: stays)
          (.punctuation closer.mark) nextThere = false := by
        unfold separates
        rw [(level?_of_isClosedBy fitsThere stays 0).1]
        rfl
      rw [joined, separator_false, List.append_nil, sameBlocks] at settles
      exact ⟨targetThere, stays, other.column, settles, fitsThere, mirrored, Nat.le_of_eq column⟩
  | false =>
      -- No block can be left where lines have no meaning.
      have noBlock : left = [] := by
        cases left with
        | nil => rfl
        | cons block left =>
            rw [layoutActive_of_leaves leaves (List.cons_ne_nil _ _)] at active
            cases active
      have none := none_iff noBlock
      subst none
      subst noBlock
      have whole : other.frames = targetThere :: stays := leaves.split
      have still := applyLayout_inactive active (startsDefinition_mark closer) nextThere
      rw [whole] at still active
      refine ⟨targetThere, stays, other.lineIndent, still, fitsThere, mirrored, ?_⟩
      have oneLine : (arrangement.through (outdents [])).inMultiline = false := by
        refine Bool.eq_false_iff.mpr fun several => ?_
        rw [(multiline several).2] at active
        cases active
      rw [sameLevel oneLine]
      exact follows.lineIndent

/-- A token that closes nothing comes to stand behind the ends of the same blocks, and behind a
separator if it begins a statement. -/
theorem emit_settles_again (positive : 0 < width)
    (follows : Follows width reader other arrangement) {separated : Bool}
    (noCloser : kind.isCloser = false) (split : reader.frames = blocks ++ around)
    (closed : ∀ frame ∈ blocks, frame.isBlock = true)
    (starts : separated = true → (Frame.level? around).isSome = true ∧
      kind.canStartStatement next = true ∧
      (blocks = [] → reader.kinds.getLast?.any TokenKind.canEndStatement = true))
    (goesOn : separated = false → blocks ≠ [] → (Frame.level? around).isSome = true →
      kind.canStartStatement next = false)
    (stands : Stands width other arrangement (outdents blocks ++ separator separated) kind)
    (startsThere : .autoSemicolon ∈ outdents blocks ++ separator separated →
      kind.canStartStatement next = true → kind.canStartStatement nextThere = true)
    (goesOnThere : kind.canStartStatement next = false →
      kind.canStartStatement nextThere = false) (span : Span) :
    ∃ stays indentation,
      other.Becomes (outdents blocks ++ separator separated ++ [kind])
        (((Bracket.ofKind? kind).map (Frame.group · span.start)).toList ++ stays) indentation
        (other.emit kind span nextThere) ∧
      Mirrors width around stays (arrangement.through (outdents blocks)).enclosures
        (arrangement.through (outdents blocks)).level ∧
      indentation ≤ (arrangement.through (outdents blocks)).level * width := by
  cases stands with
  | inLine inLine none noMultiline =>
      rcases List.append_eq_nil_iff.mp none with ⟨noBlocks, joined⟩
      have none := outdents_eq_nil noBlocks
      subst none
      rw [joined]
      have became := emit_becomes noCloser (applyLayout_inLine inLine kind nextThere) span
      have frames := follows.frames
      rw [split] at frames
      exact ⟨other.frames, other.lineIndent, became, frames, follows.lineIndent⟩
  | begins begins column quiet =>
      rw [Arrangement.inside_of_not_closer noCloser, (through_separator _ _).2] at column
      have isQuiet : blocks = [] → separated = false → Quiet kind other.frames arrangement :=
        fun none joined => quiet (by rw [none, joined]; rfl)
      have separates : separated = true → kind.canStartStatement next = true →
          kind.canStartStatement nextThere = true := by
        intro separated
        apply startsThere
        rw [separated]
        exact List.mem_append_right _ List.mem_cons_self
      rcases applyLayout_settles_again positive follows noCloser split closed starts goesOn
        separates goesOnThere begins column isQuiet with ⟨stays, became, mirrored⟩
      exact ⟨stays, other.column, emit_becomes noCloser became span, mirrored,
        Nat.le_of_eq column⟩

/-- A closing bracket comes to stand behind the ends of the same blocks, and closes the same. -/
theorem emit_closes_again (positive : 0 < width)
    (follows : Follows width reader other arrangement) {target : Frame}
    {closer : ClosingBracket} (split : reader.frames = blocks ++ target :: around)
    (closed : ∀ frame ∈ blocks, frame.isBlock = true)
    (fits : target.isClosedBy closer = true)
    (stands : Stands width other arrangement (outdents blocks) (.punctuation closer.mark))
    (span : Span) :
    ∃ stays indentation,
      other.Becomes (outdents blocks ++ [.punctuation closer.mark]) stays indentation
        (other.emit (.punctuation closer.mark) span nextThere) ∧
      Mirrors width around stays (arrangement.through (outdents blocks)).close.enclosures
        (arrangement.through (outdents blocks)).close.level ∧
      indentation ≤ (arrangement.through (outdents blocks)).close.level * width := by
  cases stands with
  | inLine inLine none noMultiline =>
      have none := outdents_eq_nil none
      subst none
      rw [isCloser_mark, Bool.true_and] at noMultiline
      have frames := follows.frames
      rw [split] at frames
      rcases frames.close fits with
        ⟨targetThere, stays, whole, fitsThere, mirrored, lower, sameLevel, multiline⟩
      have still := applyLayout_inLine inLine (.punctuation closer.mark) nextThere
      rw [whole] at still
      refine ⟨stays, other.lineIndent, emit_closer_becomes fitsThere still span, mirrored, ?_⟩
      show other.lineIndent ≤ arrangement.close.level * width
      rw [sameLevel noMultiline]
      exact follows.lineIndent
  | begins begins column quiet =>
      rw [Arrangement.inside_of_closer (isCloser_mark closer)] at column
      have isQuiet : blocks = [] → arrangement.afterOpener = false :=
        fun none => (quiet (by rw [none]; rfl)).noOpening
      rcases applyLayout_closes_again positive follows split closed fits begins column isQuiet
        with ⟨targetThere, stays, indentation, became, fitsThere, mirrored, within⟩
      exact ⟨stays, indentation, emit_closer_becomes fitsThere became span, mirrored, within⟩

/-- A token of the source comes to stand in the formatted source behind the same layout
tokens, and opens and closes the same. -/
theorem emit_follows (positive : 0 < width)
    (follows : Follows width reader other arrangement)
    (emission : Emission reader.kinds kind next reader.frames inserted around)
    (stands : Stands width other arrangement inserted kind)
    (startsThere : .autoSemicolon ∈ inserted → kind.canStartStatement next = true →
      kind.canStartStatement nextThere = true)
    (goesOnThere : kind.canStartStatement next = false →
      kind.canStartStatement nextThere = false) (span : Span) :
    ∃ stays indentation,
      other.Becomes (inserted ++ [kind])
        (((Bracket.ofKind? kind).map (Frame.group · span.start)).toList ++ stays) indentation
        (other.emit kind span nextThere) ∧
      Mirrors width around stays ((arrangement.through inserted).inside kind).enclosures
        ((arrangement.through inserted).inside kind).level ∧
      indentation ≤ ((arrangement.through inserted).inside kind).level * width := by
  generalize split : reader.frames = frames at emission
  cases emission with
  | @settles blocks around separated noCloser closed starts goesOn =>
      rw [Arrangement.inside_of_not_closer noCloser]
      rcases @through_separator arrangement (outdents blocks) separated with
        ⟨sameEnclosures, sameLevel⟩
      rw [sameEnclosures, sameLevel]
      exact emit_settles_again positive follows noCloser split closed starts goesOn stands
        startsThere goesOnThere span
  | deepens level noCloser active opens =>
      rw [Arrangement.inside_of_not_closer noCloser]
      cases stands with
      | inLine inLine none noMultiline => cases none
      | begins begins column quiet =>
          rw [Arrangement.inside_of_not_closer noCloser] at column
          subst split
          have became := @applyLayout_deepens_again reader other kind width nextThere arrangement
            positive follows active opens begins column
          refine ⟨_, other.column, emit_becomes noCloser became span, ?_, Nat.le_of_eq column⟩
          rw [column]
          exact .indent level active follows.frames
  | @closes blocks around target closer same closed fits =>
      subst same
      rw [Arrangement.inside_of_closer (isCloser_mark closer), ofKind?_bracket_mark]
      exact emit_closes_again positive follows split closed fits stands span

end Reader
end Offside
