import Offside.Proofs.Lexing.Balance

namespace Offside

/-!
# What comes to stand in front of a token

The layout rules are a matter of cases: whether the token begins a line, what is open
there, how far to the right the line begins and what the last token was.  A reader that
reports nothing comes out of them in few ways.  It closes some blocks and perhaps
separates two statements, or it opens one block, and where a bracket closes it closes the
blocks inside.  Read the other way round, the same cases tell what a reader makes of a
line of which it is known how far to the right it begins.
-/

namespace Reader

variable {reader before after : Reader} {kind : TokenKind} {next : Option Char}
  {column : Nat} {blocks outer : List Frame}

theorem lastKind?_eq (reader : Reader) : reader.lastKind? = reader.kinds.getLast? := by
  unfold lastKind? kinds
  rw [List.getLast?_map, Array.getLast?_toList]

theorem kinds_insert (reader : Reader) (kind : TokenKind) (offset : Nat) :
    (reader.insert kind offset).kinds = reader.kinds ++ [kind] := by
  have pushed : (reader.insert kind offset).tokens =
    reader.tokens.push (.bare kind (.empty offset)) := rfl
  exact kinds_push pushed

theorem kinds_add (reader : Reader) (kind : TokenKind) (span : Span) :
    (reader.add kind span).kinds = reader.kinds ++ [kind] := by
  have pushed : (reader.add kind span).tokens =
    reader.tokens.push ⟨kind, span, reader.trivia.toList⟩ := rfl
  exact kinds_push pushed

/-- A reader that has reported nothing in the end never did. -/
theorem Grows.silent (grows : before.Grows after) (silent : after.diagnostics = #[]) :
    before.diagnostics = #[] := by
  rcases grows.diagnostics with ⟨more, told, _⟩
  rw [silent] at told
  exact Array.toList_eq_nil_iff.mp (List.append_eq_nil_iff.mp told.symm).1

/-! ## Closing blocks -/

/-- The tokens that close some blocks. -/
def outdents (blocks : List Frame) : List TokenKind :=
  List.replicate blocks.length .outdent

/-- Blocks were closed and nothing else happened. -/
structure Closes (before after : Reader) (blocks : List Frame) : Prop where
  kinds : after.kinds = before.kinds ++ outdents blocks
  diagnostics : after.diagnostics = before.diagnostics
  frames : after.frames = before.frames
  lineIndent : after.lineIndent = before.lineIndent
  atLineStart : after.atLineStart = before.atLineStart

theorem Closes.foldl (blocks : List Frame) (reader : Reader) :
    reader.Closes
      (blocks.foldl (fun reader _ => reader.insert .outdent reader.lastEnd) reader) blocks := by
  induction blocks generalizing reader with
  | nil => exact ⟨(List.append_nil _).symm, rfl, rfl, rfl, rfl⟩
  | cons block blocks inductionHypothesis =>
      have closed := inductionHypothesis (reader.insert .outdent reader.lastEnd)
      refine ⟨?_, closed.diagnostics, closed.frames, closed.lineIndent, closed.atLineStart⟩
      rw [List.foldl_cons, closed.kinds, kinds_insert, List.append_assoc]
      rfl

/-- Some open blocks lie deeper than a column, and what is around them does not. -/
structure Leaves (frames : List Frame) (column : Nat) (blocks outer : List Frame) : Prop where
  split : frames = blocks ++ outer
  deeper : ∀ frame ∈ blocks, frame.isDeeperThan column = true
  stays : outer.head?.any (Frame.isDeeperThan column) = false

namespace Leaves

variable {frames : List Frame}

theorem takeWhile (leaves : Leaves frames column blocks outer) :
    frames.takeWhile (Frame.isDeeperThan column) = blocks := by
  rw [leaves.split, List.takeWhile_append_of_pos leaves.deeper]
  have stays := leaves.stays
  cases outer with
  | nil => exact List.append_nil _
  | cons frame outer =>
      have shallow : frame.isDeeperThan column = false := stays
      rw [List.takeWhile_cons, shallow]
      exact List.append_nil _

/-- Whether a line leaves a block shows in the innermost frame. -/
theorem any_deeper (leaves : Leaves frames column blocks outer) :
    frames.head?.any (Frame.isDeeperThan column) = !blocks.isEmpty := by
  rw [leaves.split]
  cases blocks with
  | nil => exact leaves.stays
  | cons block blocks => exact leaves.deeper block List.mem_cons_self

theorem isBlock (leaves : Leaves frames column blocks outer) (frame : Frame)
    (member : frame ∈ blocks) : frame.isBlock = true := by
  have deeper := leaves.deeper frame member
  cases frame with
  | indent level => rfl
  | _ => cases deeper

end Leaves

theorem exists_leaves (frames : List Frame) (column : Nat) :
    ∃ blocks outer, Leaves frames column blocks outer := by
  refine ⟨frames.takeWhile (Frame.isDeeperThan column),
    frames.dropWhile (Frame.isDeeperThan column), List.takeWhile_append_dropWhile.symm,
    List.all_eq_true.mp List.all_takeWhile, ?_⟩
  have stopped := List.head?_dropWhile_not (Frame.isDeeperThan column) frames
  cases first : (frames.dropWhile (Frame.isDeeperThan column)).head? with
  | none => rfl
  | some frame =>
      rw [first] at stopped
      exact stopped

/-! ## The first token of a line -/

/-- The reader behind the blocks that a line has left. -/
def fitted (reader : Reader) (column : Nat) : Reader :=
  { reader.closeBlocks column with lineIndent := column }

theorem fitted_closes (leaves : Leaves reader.frames column blocks outer) :
    (reader.fitted column).kinds = reader.kinds ++ outdents blocks ∧
      (reader.fitted column).frames = outer ∧
      (reader.fitted column).diagnostics = reader.diagnostics ∧
      (reader.fitted column).atLineStart = reader.atLineStart := by
  have closed := Closes.foldl (reader.frames.takeWhile (Frame.isDeeperThan column))
    { reader with
      frames := reader.frames.drop (reader.frames.takeWhile (Frame.isDeeperThan column)).length }
  rw [leaves.takeWhile] at closed
  unfold fitted closeBlocks
  dsimp only
  rw [leaves.takeWhile]
  refine ⟨closed.kinds, ?_, closed.diagnostics, closed.atLineStart⟩
  rw [closed.frames]
  dsimp only
  rw [leaves.split, List.drop_left]

/-- The separator of two statements, if there is one. -/
def separator (separated : Bool) : List TokenKind :=
  if separated then [.autoSemicolon] else []

theorem separator_false : separator false = [] := rfl

theorem isLayout_of_mem_outdents {blocks : List Frame} {kind : TokenKind}
    (member : kind ∈ outdents blocks) : kind.isLayout = true := by
  rw [List.eq_of_mem_replicate member]
  rfl

theorem isLayout_of_mem_marks {blocks : List Frame} {separated : Bool} :
    ∀ kind ∈ outdents blocks ++ separator separated, kind.isLayout = true := by
  intro kind member
  rcases List.mem_append.mp member with outdent | isSeparator
  · exact isLayout_of_mem_outdents outdent
  · cases separated with
    | false => cases isSeparator
    | true =>
        rw [List.mem_singleton.mp isSeparator]
        rfl

/-- The last of some tokens behind which some blocks were closed. -/
def lastBehind (kinds : List TokenKind) (blocks : List Frame) : Option TokenKind :=
  if blocks.isEmpty then kinds.getLast? else some .outdent

theorem lastBehind_of_ne {blocks : List Frame} (kinds : List TokenKind) (some : blocks ≠ []) :
    lastBehind kinds blocks = Option.some .outdent := by
  cases blocks with
  | nil => exact absurd rfl some
  | cons block blocks => rfl

theorem getLast?_outdents (kinds : List TokenKind) (blocks : List Frame) :
    (kinds ++ outdents blocks).getLast? = lastBehind kinds blocks := by
  cases blocks with
  | nil => exact congrArg List.getLast? (List.append_nil kinds)
  | cons block blocks =>
      unfold outdents
      rw [List.getLast?_append, List.getLast?_replicate]
      rfl

/-- What is inserted in front of the first token of a line that reports nothing. -/
inductive Laid (before : Reader) (kind : TokenKind) (next : Option Char) : Reader → Prop
  /-- The line leaves some blocks and may begin a statement. -/
  | settles {after : Reader} {blocks outer : List Frame} (separated : Bool)
      (split : before.frames = blocks ++ outer)
      (closed : ∀ frame ∈ blocks, frame.isBlock = true)
      (begins : separated = true → (Frame.level? outer).isSome = true ∧
        kind.canStartStatement next = true ∧
        (blocks = [] → before.kinds.getLast?.any TokenKind.canEndStatement = true))
      (goesOn : separated = false → blocks ≠ [] → (Frame.level? outer).isSome = true →
        kind.canStartStatement next = false)
      (kinds : after.kinds = before.kinds ++ (outdents blocks ++ separator separated))
      (frames : after.frames = outer) : Laid before kind next after
  /-- The line opens a block. -/
  | deepens {after : Reader} (level : Nat) (active : Frame.layoutActive before.frames = true)
      (opens : before.kinds.getLast?.any TokenKind.opensBlock = true)
      (kinds : after.kinds = before.kinds ++ [.indent])
      (frames : after.frames = .indent level :: before.frames) : Laid before kind next after

namespace Laid

/-- Nothing is inserted in front of the other tokens. -/
theorem still (kinds : after.kinds = before.kinds) (frames : after.frames = before.frames) :
    Laid before kind next after :=
  .settles false rfl (List.forall_mem_nil _) nofun (fun _ some => absurd rfl some)
    (by rw [kinds]; exact (List.append_nil _).symm) frames

theorem openBlock {fitted : Reader} {offset : Nat}
    (active : Frame.layoutActive fitted.frames = true) :
    Laid fitted kind next (beginLine.openBlock reader column offset fitted) := by
  unfold beginLine.openBlock
  split
  · rename_i opens
    rw [Bool.and_eq_true, lastKind?_eq] at opens
    exact .deepens column active opens.1 (kinds_insert _ _ _) rfl
  · exact .still rfl rfl

theorem of_same (laid : Laid before kind next after) {other : Reader}
    (kinds : other.kinds = before.kinds) (frames : other.frames = before.frames) :
    Laid other kind next after := by
  cases laid with
  | settles separated split closed begins goesOn inserted left =>
      rw [← kinds] at begins inserted
      exact .settles separated (frames.trans split) closed begins goesOn inserted left
  | deepens level active opens inserted left =>
      rw [← kinds] at opens inserted
      rw [← frames] at active left
      exact .deepens level active opens inserted left

end Laid

/-- The rules for the first token of a line, in terms of what it leaves. -/
theorem beginLine_eq (leaves : Leaves reader.frames column blocks outer) (offset : Nat) :
    reader.beginLine column offset kind next =
      match Frame.level? outer with
      | some level =>
        if column = level then
          if (lastBehind reader.kinds blocks).any TokenKind.canEndStatement &&
              kind.canStartStatement next then
            (reader.fitted column).insert .autoSemicolon (reader.fitted column).lastEnd
          else reader.fitted column
        else if !blocks.isEmpty then
          ((reader.fitted column).report (.inconsistentIndentation column) (.empty offset)).insert
            (.error "") offset
        else beginLine.openBlock reader column offset (reader.fitted column)
      | none =>
        if !blocks.isEmpty then reader.fitted column
        else beginLine.openBlock reader column offset (reader.fitted column) := by
  rcases fitted_closes leaves with ⟨kinds, frames, _, _⟩
  have lastKind := lastKind?_eq (reader.fitted column)
  rw [kinds, getLast?_outdents] at lastKind
  rw [← lastKind, ← frames, ← leaves.any_deeper]
  rfl

theorem beginLine_laid {offset : Nat} (active : Frame.layoutActive reader.frames = true)
    (silent : (reader.beginLine column offset kind next).diagnostics = #[]) :
    Laid reader kind next (reader.beginLine column offset kind next) := by
  rcases exists_leaves reader.frames column with ⟨blocks, outer, leaves⟩
  rcases fitted_closes leaves with ⟨kinds, frames, _, _⟩
  rw [beginLine_eq leaves] at silent ⊢
  -- A line that leaves no block and begins no statement may open a block.
  have opening : blocks = [] →
      Laid reader kind next
        (beginLine.openBlock reader column offset (reader.fitted column)) := by
    intro nothing
    subst nothing
    have split : reader.frames = outer := leaves.split
    have laid : Laid (reader.fitted column) kind next
        (beginLine.openBlock reader column offset (reader.fitted column)) := by
      apply Laid.openBlock
      rw [frames, ← split]
      exact active
    exact laid.of_same (by rw [kinds]; exact (List.append_nil _).symm) (split.trans frames.symm)
  have closing : (blocks ≠ [] → (Frame.level? outer).isSome = true →
      kind.canStartStatement next = false) → Laid reader kind next (reader.fitted column) :=
    fun goesOn => .settles false leaves.split leaves.isBlock nofun (fun _ => goesOn)
      (by rw [kinds, separator_false, List.append_nil]) frames
  cases levelled : Frame.level? outer with
  | some level =>
      rw [levelled] at silent closing
      dsimp only at silent ⊢
      by_cases here : column = level
      · rw [if_pos here]
        split
        · rename_i begins
          rw [Bool.and_eq_true] at begins
          refine .settles true leaves.split leaves.isBlock (fun _ => ?_) nofun ?_ frames
          · refine ⟨by rw [levelled]; rfl, begins.2, fun nothing => ?_⟩
            rw [nothing] at begins
            exact begins.1
          · rw [kinds_insert, kinds, List.append_assoc]
            rfl
        · rename_i goesOn
          refine closing fun some _ => Bool.eq_false_iff.mpr fun starts => goesOn ?_
          rw [Bool.and_eq_true]
          exact ⟨by rw [lastBehind_of_ne _ some]; rfl, starts⟩
      · rw [if_neg here] at silent ⊢
        cases blocks with
        | nil => exact opening rfl
        | cons block blocks =>
            exact absurd silent (report_diagnostics_ne _ _ _)
  | none =>
      rw [levelled] at closing
      dsimp only
      cases blocks with
      | nil => exact opening rfl
      | cons block blocks => exact closing fun _ => nofun

/-- Where no group is given up, nothing happens. -/
theorem abandonGroups_of_silent (silent : reader.abandonGroups.diagnostics = #[]) :
    reader.abandonGroups = reader := by
  unfold abandonGroups at silent ⊢
  dsimp only at silent ⊢
  cases abandoned : reader.frames.takeWhile Frame.ignoresLines with
  | nil => rfl
  | cons frame others =>
      rw [abandoned, List.foldl_cons] at silent
      have ignores : frame.ignoresLines = true := by
        apply List.all_eq_true.mp (List.all_takeWhile (l := reader.frames)) frame
        rw [abandoned]
        exact List.mem_cons_self
      have grows := (Inserts.foldl Inserts.abandon others (abandonGroups.abandon
        { reader with frames := reader.frames.drop (frame :: others).length } frame)).grows
      have told := grows.silent silent
      cases frame with
      | group bracket opened => exact absurd told (report_diagnostics_ne _ _ _)
      | _ => cases ignores

theorem applyLayout_active (begins : reader.atLineStart = true)
    (active : Frame.layoutActive reader.frames = true) :
    reader.applyLayout kind next =
      ({ reader with atLineStart := false } : Reader).beginLine reader.column reader.offset
        kind next := by
  unfold applyLayout
  rw [if_pos begins]
  dsimp only
  rw [active]
  exact if_pos active

/-- Where lines have no meaning, a silent reader only goes on. -/
theorem applyLayout_eq_of_inactive (line : reader.atLineStart = true)
    (inactive : Frame.layoutActive reader.frames = false)
    (silent : (reader.applyLayout kind next).diagnostics = #[]) :
    reader.applyLayout kind next = { reader with atLineStart := false } := by
  unfold applyLayout at silent ⊢
  rw [if_pos line] at silent ⊢
  dsimp only at silent ⊢
  rw [inactive, Bool.not_false, Bool.true_and] at silent ⊢
  have still : ¬ Frame.layoutActive reader.frames = true := Bool.eq_false_iff.mp inactive
  split
  · rename_i walksOut
    rw [if_pos walksOut] at silent
    have kept : ({ reader with atLineStart := false } : Reader).abandonGroups.diagnostics =
        #[] := by
      split at silent
      · exact (Inserts.beginLine _ _ _ _ _).grows.silent silent
      · exact silent
    rw [abandonGroups_of_silent kept]
    exact if_neg still
  · rfl

theorem applyLayout_laid (silent : (reader.applyLayout kind next).diagnostics = #[]) :
    Laid reader kind next (reader.applyLayout kind next) := by
  cases line : reader.atLineStart with
  | false =>
      unfold applyLayout
      rw [line]
      exact .still rfl rfl
  | true =>
      cases active : Frame.layoutActive reader.frames with
      | false =>
          rw [applyLayout_eq_of_inactive line active silent]
          exact .still rfl rfl
      | true =>
          rw [applyLayout_active line active] at silent ⊢
          have begun : ({ reader with atLineStart := false } : Reader).Laid kind next _ :=
            beginLine_laid active silent
          exact begun.of_same rfl rfl

/-! ## Closing brackets -/

/-- What a closing bracket closes without a report: the blocks in its group, and the
group. -/
structure ClosesGroup (before : Reader) (closer : ClosingBracket) (blocks : List Frame)
    (target : Frame) (outer : List Frame) (after : Reader) : Prop where
  split : before.frames = blocks ++ target :: outer
  closed : ∀ frame ∈ blocks, frame.isBlock = true
  fits : target.isClosedBy closer = true
  kinds : after.kinds = before.kinds ++ (outdents blocks ++ [.punctuation closer.mark])
  frames : after.frames = outer

theorem foldl_cutOff_silent {cut : List Frame} (noString : ∀ frame ∈ cut, frame.isString = false)
    (silent : (cut.foldl cutOff reader).diagnostics = #[]) :
    (∀ frame ∈ cut, frame.isBlock = true) ∧
      (cut.foldl cutOff reader).kinds = reader.kinds ++ outdents cut := by
  induction cut generalizing reader with
  | nil => exact ⟨List.forall_mem_nil _, (List.append_nil _).symm⟩
  | cons frame cut inductionHypothesis =>
      rw [List.forall_mem_cons] at noString
      rw [List.foldl_cons] at silent ⊢
      have told := (Inserts.foldl Inserts.cutOff cut (reader.cutOff frame)).grows.silent silent
      rcases inductionHypothesis noString.2 silent with ⟨each, kinds⟩
      cases frame with
      | indent level =>
          refine ⟨List.forall_mem_cons.mpr ⟨rfl, each⟩, ?_⟩
          rw [kinds]
          show (reader.insert .outdent reader.lastEnd).kinds ++ _ = _
          rw [kinds_insert, List.append_assoc]
          rfl
      | group bracket opened => exact absurd told (report_diagnostics_ne _ _ _)
      | splice opened => exact absurd told (report_diagnostics_ne _ _ _)
      | string quote opened => cases noString.1

theorem addCloser_silent {closer : ClosingBracket} {span : Span}
    (silent : (reader.addCloser closer span).diagnostics = #[]) :
    ∃ blocks target outer,
      ClosesGroup reader closer blocks target outer (reader.addCloser closer span) := by
  unfold addCloser at silent ⊢
  dsimp only at silent ⊢
  cases found : (reader.frames.takeWhile fun frame => !frame.isString).findIdx?
      (Frame.isClosedBy closer) with
  | none =>
      rw [found] at silent
      exact absurd silent (report_diagnostics_ne _ _ _)
  | some index =>
      rw [found] at silent
      rcases visible_split found with ⟨cut, target, taken, whole, fits, unfit⟩
      dsimp only at silent ⊢
      rw [taken] at silent ⊢
      have closed := foldl_cutOff_silent (fun frame member => (unfit frame member).2) silent
      refine ⟨cut, target, reader.frames.drop (index + 1), whole, closed.1, fits, ?_, rfl⟩
      rw [kinds_add, ← List.append_assoc, ← closed.2]
      rfl

/-! ## Reading a line that is known -/

/-- A reader has inserted some tokens, has some frames open and stands in a line that
begins at some column. -/
structure Becomes (before : Reader) (inserted : List TokenKind) (frames : List Frame)
    (lineIndent : Nat) (after : Reader) : Prop where
  kinds : after.kinds = before.kinds ++ inserted
  frames : after.frames = frames
  lineIndent : after.lineIndent = lineIndent
  diagnostics : after.diagnostics = before.diagnostics
  atLineStart : after.atLineStart = false

namespace Becomes

variable {middle : Reader} {first second : List TokenKind} {frames inner : List Frame}
  {indentation : Nat}

theorem refl (inLine : reader.atLineStart = false) :
    Becomes reader [] reader.frames reader.lineIndent reader :=
  ⟨(List.append_nil _).symm, rfl, rfl, rfl, inLine⟩

/-- Adding a token changes nothing else, and opening a frame only that. -/
theorem add (became : before.Becomes first inner indentation middle) (kind : TokenKind)
    (span : Span) : before.Becomes (first ++ [kind]) inner indentation (middle.add kind span) where
  kinds := by rw [kinds_add, became.kinds, List.append_assoc]
  frames := became.frames
  lineIndent := became.lineIndent
  diagnostics := became.diagnostics
  atLineStart := became.atLineStart

theorem openFrame (became : before.Becomes first inner indentation middle) (frame : Frame) :
    before.Becomes first (frame :: inner) indentation (middle.openFrame frame) where
  kinds := became.kinds
  frames := congrArg _ became.frames
  lineIndent := became.lineIndent
  diagnostics := became.diagnostics
  atLineStart := became.atLineStart

theorem advance (became : before.Becomes first inner indentation middle)
    (text rest : List Char) :
    before.Becomes first inner indentation (middle.advance text rest) :=
  ⟨became.kinds, became.frames, became.lineIndent, became.diagnostics, became.atLineStart⟩

/-- A bracket that fits the innermost group closes it at once. -/
theorem addCloser (became : before.Becomes first inner indentation middle)
    {closer : ClosingBracket} {target : Frame} (innermost : inner = target :: outer)
    (fits : target.isClosedBy closer = true) (span : Span) :
    before.Becomes (first ++ [.punctuation closer.mark]) outer indentation
      (middle.addCloser closer span) := by
  have noString : (!target.isString) = true := by
    cases target with
    | string quote opened => cases fits
    | _ => rfl
  have found : (middle.frames.takeWhile fun frame => !frame.isString).findIdx?
      (Frame.isClosedBy closer) = some 0 := by
    rw [became.frames, innermost, List.takeWhile_cons, if_pos noString, List.findIdx?_cons,
      if_pos fits]
  have whole : middle.addCloser closer span =
      ({ middle with frames := middle.frames.drop 1 } : Reader).add
        (.punctuation closer.mark) span := by
    unfold Reader.addCloser
    dsimp only
    rw [found]
    rfl
  have dropped : before.Becomes first outer indentation
      { middle with frames := middle.frames.drop 1 } :=
    ⟨became.kinds, by rw [became.frames, innermost]; rfl, became.lineIndent,
      became.diagnostics, became.atLineStart⟩
  rw [whole]
  exact dropped.add _ _

end Becomes

/-- Inside a line the layout rules do nothing. -/
theorem applyLayout_inLine (inLine : reader.atLineStart = false) (kind : TokenKind)
    (next : Option Char) :
    reader.Becomes [] reader.frames reader.lineIndent (reader.applyLayout kind next) := by
  unfold applyLayout
  rw [inLine]
  exact .refl inLine

/-- In a group that ignores lines, only a definition matters. -/
theorem applyLayout_inactive (inactive : Frame.layoutActive reader.frames = false)
    (noDefinition : kind.startsDefinition = false) (next : Option Char) :
    reader.Becomes [] reader.frames reader.lineIndent (reader.applyLayout kind next) := by
  cases begins : reader.atLineStart with
  | false => exact applyLayout_inLine begins kind next
  | true =>
      have ignored : reader.applyLayout kind next = { reader with atLineStart := false } := by
        unfold applyLayout
        rw [begins]
        dsimp only
        rw [noDefinition, Bool.and_false, Bool.false_and]
        have still : ¬ Frame.layoutActive reader.frames = true := Bool.eq_false_iff.mp inactive
        exact if_neg still
      rw [ignored]
      exact ⟨(List.append_nil _).symm, rfl, rfl, rfl, rfl⟩

theorem fitted_becomes (inLine : reader.atLineStart = false)
    (leaves : Leaves reader.frames column blocks outer) :
    reader.Becomes (outdents blocks) outer column (reader.fitted column) := by
  rcases fitted_closes leaves with ⟨kinds, frames, diagnostics, atLineStart⟩
  exact ⟨kinds, frames, rfl, diagnostics, atLineStart.trans inLine⟩

theorem Becomes.insert {middle : Reader} {first : List TokenKind} {inner : List Frame}
    {indentation : Nat} (became : before.Becomes first inner indentation middle)
    (kind : TokenKind) (offset : Nat) :
    before.Becomes (first ++ [kind]) inner indentation (middle.insert kind offset) :=
  ⟨by rw [kinds_insert, became.kinds, List.append_assoc], became.frames, became.lineIndent,
    became.diagnostics, became.atLineStart⟩

theorem Becomes.since {first : List TokenKind} {inner : List Frame} {indentation : Nat}
    (became : before.Becomes first inner indentation after) {other : Reader}
    (kinds : before.kinds = other.kinds) (diagnostics : before.diagnostics = other.diagnostics) :
    other.Becomes first inner indentation after :=
  ⟨by rw [became.kinds, kinds], became.frames, became.lineIndent,
    became.diagnostics.trans diagnostics, became.atLineStart⟩

/-- Whether a line at a known column begins a statement. -/
def separates (kinds : List TokenKind) (blocks outer : List Frame) (kind : TokenKind)
    (next : Option Char) : Bool :=
  (Frame.level? outer).isSome &&
    ((lastBehind kinds blocks).any TokenKind.canEndStatement && kind.canStartStatement next)

/-- A line that goes back to the column of a block, or to no block in particular, leaves
what is deeper.  It begins a statement where statements may begin. -/
theorem beginLine_settles (inLine : reader.atLineStart = false)
    (leaves : Leaves reader.frames column blocks outer)
    (level : ∀ level, Frame.level? outer = some level → column = level)
    (noOpening : blocks = [] → Frame.level? outer = none →
      reader.kinds.getLast?.any TokenKind.opensBlock = false) (offset : Nat) :
    reader.Becomes
      (outdents blocks ++ separator (separates reader.kinds blocks outer kind next))
      outer column (reader.beginLine column offset kind next) := by
  have fitted := fitted_becomes inLine leaves
  rw [beginLine_eq leaves]
  unfold separates
  cases levelled : Frame.level? outer with
  | some here =>
      dsimp only
      rw [if_pos (level here levelled)]
      cases starts : (lastBehind reader.kinds blocks).any TokenKind.canEndStatement &&
          kind.canStartStatement next with
      | true => exact fitted.insert _ _
      | false =>
          rw [Bool.and_false, separator_false, List.append_nil]
          exact fitted
  | none =>
      rw [Option.isSome_none, Bool.false_and, separator_false, List.append_nil]
      cases blocks with
      | cons block blocks => exact fitted
      | nil =>
          show reader.Becomes _ _ _
            (beginLine.openBlock reader column offset (reader.fitted column))
          have lastKind : (reader.fitted column).lastKind? = reader.kinds.getLast? := by
            rw [lastKind?_eq, fitted.kinds, getLast?_outdents]
            rfl
          unfold beginLine.openBlock
          rw [lastKind, noOpening rfl levelled]
          exact fitted

/-- A line that is deeper than the one before, behind a token that opens blocks, opens
a block. -/
theorem beginLine_deepens (inLine : reader.atLineStart = false)
    (stays : reader.frames.head?.any (Frame.isDeeperThan column) = false)
    (level : Frame.level? reader.frames ≠ some column)
    (opens : reader.kinds.getLast?.any TokenKind.opensBlock = true)
    (deeper : reader.lineIndent < column) (offset : Nat) :
    reader.Becomes [.indent] (.indent column :: reader.frames) column
      (reader.beginLine column offset kind next) := by
  have leaves : Leaves reader.frames column [] reader.frames :=
    ⟨rfl, List.forall_mem_nil _, stays⟩
  have fitted := fitted_becomes inLine leaves
  have lastKind : (reader.fitted column).lastKind? = reader.kinds.getLast? := by
    rw [lastKind?_eq, fitted.kinds, getLast?_outdents]
    rfl
  have opened : reader.beginLine column offset kind next =
      ((reader.fitted column).openFrame (.indent column)).insert .indent offset := by
    have both : beginLine.openBlock reader column offset (reader.fitted column) =
        ((reader.fitted column).openFrame (.indent column)).insert .indent offset := by
      unfold beginLine.openBlock
      rw [lastKind, opens, decide_eq_true deeper]
      rfl
    rw [beginLine_eq leaves]
    split
    · rename_i here levelled
      rw [if_neg fun same => level (by rw [same]; exact levelled)]
      exact both
    · exact both
  rw [opened]
  exact (fitted.openFrame _).insert _ _

theorem applyLayout_settles (begins : reader.atLineStart = true)
    (active : Frame.layoutActive reader.frames = true)
    (leaves : Leaves reader.frames reader.column blocks outer)
    (level : ∀ level, Frame.level? outer = some level → reader.column = level)
    (noOpening : blocks = [] → Frame.level? outer = none →
      reader.kinds.getLast?.any TokenKind.opensBlock = false) :
    reader.Becomes
      (outdents blocks ++ separator (separates reader.kinds blocks outer kind next))
      outer reader.column (reader.applyLayout kind next) := by
  rw [applyLayout_active begins active]
  exact (@beginLine_settles { reader with atLineStart := false } kind next reader.column blocks
    outer rfl leaves level noOpening reader.offset).since rfl rfl

theorem applyLayout_deepens (begins : reader.atLineStart = true)
    (active : Frame.layoutActive reader.frames = true)
    (stays : reader.frames.head?.any (Frame.isDeeperThan reader.column) = false)
    (level : Frame.level? reader.frames ≠ some reader.column)
    (opens : reader.kinds.getLast?.any TokenKind.opensBlock = true)
    (deeper : reader.lineIndent < reader.column) :
    reader.Becomes [.indent] (.indent reader.column :: reader.frames) reader.column
      (reader.applyLayout kind next) := by
  rw [applyLayout_active begins active]
  exact (@beginLine_deepens { reader with atLineStart := false } kind next reader.column rfl
    stays level opens deeper reader.offset).since rfl rfl

/-- A token that closes nothing is added behind what is inserted in front of it, and a
bracket opens its group. -/
theorem emit_becomes {inserted : List TokenKind} {frames : List Frame} {indentation : Nat}
    (noCloser : kind.isCloser = false)
    (became : reader.Becomes inserted frames indentation (reader.applyLayout kind next))
    (span : Span) :
    reader.Becomes (inserted ++ [kind])
      (((Bracket.ofKind? kind).map (Frame.group · span.start)).toList ++ frames) indentation
      (reader.emit kind span next) := by
  have closing : ClosingBracket.ofKind? kind = none :=
    Option.not_isSome_iff_eq_none.mp (Bool.eq_false_iff.mp noCloser)
  unfold emit
  rw [closing]
  dsimp only
  cases Bracket.ofKind? kind with
  | none => exact became.add kind span
  | some bracket => exact (became.openFrame _).add kind span

end Reader
end Offside
