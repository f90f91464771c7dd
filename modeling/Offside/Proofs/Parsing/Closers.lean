import Mathlib.Algebra.Group.Nat.Defs
import Mathlib.Order.Bounds.Basic
import Offside.Proofs.Lexing.Interpolation
import Offside.Proofs.Parsing.Reports
import Offside.Text.XidStart

namespace Offside

/-!
# The closing bracket of a group

The parser finds the end of a group by counting, with one counter for brackets of all shapes.
The count stops at the first place up to which as many brackets have been closed as opened.
In an arbitrary stream that place may be behind a bracket of another shape, and it may lie
within a block or a string that begins inside of the group.  The counter is a word of 32 bits,
which holds the count unless there are `2 ^ 31` tokens or more.

Where the lexer is silent the tokens are nested, and then that place is the right one.  What
is opened behind an opening bracket is closed again in front of the bracket that belongs to
it, so up to there more brackets have been opened than closed.
-/

/-! ## Reading on top of what is open -/

namespace Nesting

variable {stack after upper lower : List Delimiter} {kind : TokenKind} {kinds : List TokenKind}
  {delimiter : Delimiter}

/-- What is open below does not matter as long as it is not closed. -/
theorem step_append (stepped : exact.step stack kind = some after) (below : List Delimiter) :
    exact.step (stack ++ below) kind = some (after ++ below) := by
  cases closes : kind.closes? with
  | some closed =>
      rw [exact.eq_cons_of_closes closes stepped]
      exact step_of_closes exact (after ++ below) closes
  | none =>
      cases opens : kind.opens? with
      | some opened =>
          rw [step_of_opens _ opens] at stepped ⊢
          cases stepped
          rfl
      | none =>
          have inert := TokenKind.isInert_of_none opens closes
          rw [step_of_inert _ inert] at stepped ⊢
          cases stepped
          rfl

theorem read_append_below (readThrough : exact.read stack kinds = some after)
    (below : List Delimiter) : exact.read (stack ++ below) kinds = some (after ++ below) := by
  induction kinds generalizing stack with
  | nil =>
      cases readThrough
      rfl
  | cons kind kinds inductionHypothesis =>
      rw [read_cons] at readThrough ⊢
      rcases Option.bind_eq_some_iff.mp readThrough with ⟨inner, stepped, rest⟩
      rw [step_append stepped below, Option.bind_some]
      exact inductionHypothesis rest

theorem balanced_of_read (readThrough : exact.read [] kinds = some []) : Balanced kinds :=
  fun stack => read_append_below readThrough stack

/-- A token closes the delimiter it comes upon, or it only changes what is open above. -/
theorem step_above (stepped : exact.step (upper ++ delimiter :: lower) kind = some after) :
    upper = [] ∧ kind.closes? = some delimiter ∨
      ∃ inner, exact.step upper kind = some inner ∧ after = inner ++ delimiter :: lower := by
  cases closes : kind.closes? with
  | some closed =>
      have same := exact.eq_cons_of_closes closes stepped
      cases upper with
      | nil =>
          cases same
          exact .inl ⟨rfl, rfl⟩
      | cons top upper =>
          cases same
          exact .inr ⟨upper, step_of_closes exact upper closes, rfl⟩
  | none =>
      cases opens : kind.opens? with
      | some opened =>
          rw [step_of_opens _ opens] at stepped ⊢
          cases stepped
          exact .inr ⟨_, rfl, rfl⟩
      | none =>
          have inert := TokenKind.isInert_of_none opens closes
          rw [step_of_inert _ inert] at stepped ⊢
          cases stepped
          exact .inr ⟨_, rfl, rfl⟩

/-- Where in the end nothing is open, some token closes a delimiter that is open now.  What
is opened above it in the meantime has to be closed first. -/
theorem exists_closing (readThrough : exact.read (upper ++ delimiter :: lower) kinds = some []) :
    ∃ inside closing beyond, kinds = inside ++ closing :: beyond ∧
      exact.read upper inside = some [] ∧ closing.closes? = some delimiter := by
  induction kinds generalizing upper with
  | nil => cases upper <;> cases readThrough
  | cons kind kinds inductionHypothesis =>
      rw [read_cons] at readThrough
      rcases Option.bind_eq_some_iff.mp readThrough with ⟨after, stepped, rest⟩
      rcases step_above stepped with ⟨rfl, closes⟩ | ⟨inner, steppedAbove, rfl⟩
      · exact ⟨[], kind, kinds, rfl, rfl, closes⟩
      · rcases inductionHypothesis rest with ⟨inside, closing, beyond, rfl, readInside, closes⟩
        refine ⟨kind :: inside, closing, beyond, rfl, ?_, closes⟩
        rw [read_cons, steppedAbove, Option.bind_some]
        exact readInside

theorem groupCount_read (readThrough : loose.read stack kinds = some after) :
    groupCount after + kinds.countP TokenKind.isCloser =
      groupCount stack + kinds.countP TokenKind.isOpener := by
  induction kinds generalizing stack with
  | nil =>
      cases readThrough
      rfl
  | cons kind kinds inductionHypothesis =>
      rw [read_cons] at readThrough
      rcases Option.bind_eq_some_iff.mp readThrough with ⟨inner, stepped, rest⟩
      have first := groupCount_step stepped
      have others := inductionHypothesis rest
      rw [List.countP_cons, List.countP_cons]
      omega

/-- From where nothing is open, no more brackets can be closed than opened. -/
theorem countP_isCloser_le (readThrough : exact.read [] kinds = some after) :
    kinds.countP TokenKind.isCloser ≤ kinds.countP TokenKind.isOpener := by
  have counted := groupCount_read (read_loose readThrough)
  have none : groupCount ([].map Delimiter.loosen) = 0 := rfl
  omega

theorem Balanced.countP_eq (balanced : Balanced kinds) :
    kinds.countP TokenKind.isOpener = kinds.countP TokenKind.isCloser := by
  have counted := groupCount_read (read_loose (balanced []))
  omega

end Nesting

/-! ## Counting brackets -/

namespace TokenKind

variable {kind : TokenKind}

theorem exists_opens_of_isOpener (opener : kind.isOpener = true) :
    ∃ closer, kind.opens? = some (.group closer) := by
  rcases Option.isSome_iff_exists.mp opener with ⟨bracket, found⟩
  exact ⟨bracket.closer, Reader.opens_of_ofKind? found⟩

theorem isCloser_of_closes {closer : ClosingBracket}
    (closes : kind.closes? = some (.group closer)) : kind.isCloser = true := by
  cases kind with
  | punctuation mark => cases mark <;> first | rfl | cases closes
  | _ => cases closes

end TokenKind

namespace TokenStream

/-- The kinds of the tokens from one position up to another one. -/
def kindsBetween (stream : TokenStream) (start stop : Nat) : List TokenKind :=
  (List.range' start (stop - start)).map fun position => (stream.tokenAt position).kind

def openersBetween (stream : TokenStream) (start stop : Nat) : Nat :=
  (stream.kindsBetween start stop).countP TokenKind.isOpener

def closersBetween (stream : TokenStream) (start stop : Nat) : Nat :=
  (stream.kindsBetween start stop).countP TokenKind.isCloser

variable {stream : TokenStream} {start middle stop position : Nat}

theorem kindsBetween_eq_cons (stream : TokenStream) (before : start < stop) :
    stream.kindsBetween start stop =
      (stream.tokenAt start).kind :: stream.kindsBetween (start + 1) stop := by
  unfold kindsBetween
  have length : stop - start = stop - (start + 1) + 1 := by omega
  rw [length, List.range'_succ, List.map_cons]

theorem kindsBetween_append (stream : TokenStream) (first : start ≤ middle)
    (second : middle ≤ stop) :
    stream.kindsBetween start middle ++ stream.kindsBetween middle stop =
      stream.kindsBetween start stop := by
  unfold kindsBetween
  have whole := @List.range'_append_1 start (middle - start) (stop - middle)
  rw [Nat.add_sub_cancel' first] at whole
  rw [← List.map_append, whole]
  congr 2
  omega

theorem length_kindsBetween (stream : TokenStream) (start stop : Nat) :
    (stream.kindsBetween start stop).length = stop - start := by
  unfold kindsBetween
  rw [List.length_map, List.length_range']

theorem kindsBetween_self (stream : TokenStream) (position : Nat) :
    stream.kindsBetween position position = [] := by
  unfold kindsBetween
  rw [Nat.sub_self]
  rfl

theorem openersBetween_eq_add (stream : TokenStream) (before : start < stop) :
    stream.openersBetween start stop = stream.openersBetween (start + 1) stop +
      if (stream.tokenAt start).kind.isOpener then 1 else 0 := by
  unfold openersBetween
  rw [stream.kindsBetween_eq_cons before, List.countP_cons]

theorem closersBetween_eq_add (stream : TokenStream) (before : start < stop) :
    stream.closersBetween start stop = stream.closersBetween (start + 1) stop +
      if (stream.tokenAt start).kind.isCloser then 1 else 0 := by
  unfold closersBetween
  rw [stream.kindsBetween_eq_cons before, List.countP_cons]

theorem endOfFile_not_mem_step (stream : TokenStream) (stop : Nat)
    (noEnd : (stream.tokenAt position).kind ≠ .endOfFile) :
    .endOfFile ∉ stream.kindsBetween position stop ↔
      .endOfFile ∉ stream.kindsBetween (position + 1) stop := by
  rcases Nat.lt_or_ge position stop with before | beyond
  · rw [stream.kindsBetween_eq_cons before, List.mem_cons, or_iff_right noEnd.symm]
  · unfold kindsBetween
    rw [Nat.sub_eq_zero_of_le beyond, Nat.sub_eq_zero_of_le (Nat.le_succ_of_le beyond)]
    exact Iff.rfl

/-- As long as a bracket is open the count never has to stop at zero. -/
theorem depth_step {kind : TokenKind} {depth : Nat} (counts : 0 < depth ∨ kind.isOpener = true) :
    (if kind.isOpener then depth + 1 else if kind.isCloser then depth - 1 else depth) +
      (if kind.isCloser then 1 else 0) = depth + if kind.isOpener then 1 else 0 := by
  cases opener : kind.isOpener with
  | true =>
      rw [TokenKind.isCloser_of_isOpener opener]
      rfl
  | false =>
      have positive : 0 < depth := counts.resolve_right (by rw [opener]; exact nofun)
      cases kind.isCloser with
      | true => exact Nat.sub_add_cancel positive
      | false => rfl

/-- The places up to which a count from a position on comes down to nothing, with some
brackets open where it begins. -/
def closings (stream : TokenStream) (depth position : Nat) : Set Nat :=
  {place | position < place ∧
    depth + stream.openersBetween position place = stream.closersBetween position place}

theorem mem_closings_step {depth inside place : Nat}
    (level : inside + (if (stream.tokenAt position).kind.isCloser then 1 else 0) =
      depth + if (stream.tokenAt position).kind.isOpener then 1 else 0) :
    place ∈ stream.closings depth position ↔
      place = position + 1 ∧ inside = 0 ∨ place ∈ stream.closings inside (position + 1) := by
  unfold closings
  rw [Set.mem_ofPred_eq, Set.mem_ofPred_eq]
  rcases Nat.lt_or_ge position place with before | beyond
  · rw [stream.openersBetween_eq_add before, stream.closersBetween_eq_add before]
    rcases Nat.eq_or_lt_of_le before with next | later
    · subst next
      unfold openersBetween closersBetween
      rw [kindsBetween_self, List.countP_nil, List.countP_nil]
      omega
    · omega
  · omega

/-- What the count from a position on stops at. -/
theorem closeFrom_eq_some_iff (stream : TokenStream) (stop : Nat) {depth position : Nat}
    (counts : 0 < depth ∨ (stream.tokenAt position).kind.isOpener = true) :
    stream.closeFrom depth position = some stop ↔
      .endOfFile ∉ stream.kindsBetween position stop ∧
        IsLeast (stream.closings depth position) stop := by
  fun_induction closeFrom stream depth position with
  | case1 depth position within kind isEnd =>
      refine ⟨nofun, fun ⟨goesOn, least⟩ => absurd ?_ goesOn⟩
      rw [stream.kindsBetween_eq_cons least.1.1]
      exact isEnd ▸ List.mem_cons_self
  | case2 depth position within kind inside noEnd closed =>
      have least : IsLeast (stream.closings depth position) (position + 1) :=
        ⟨(mem_closings_step (depth_step counts)).mpr (.inl ⟨rfl, closed⟩), fun _ member => member.1⟩
      have runsOn := (stream.endOfFile_not_mem_step (position + 1) noEnd).mpr
        (by rw [kindsBetween_self]; exact List.not_mem_nil)
      constructor
      · intro same
        cases same
        exact ⟨runsOn, least⟩
      · exact fun ⟨_, also⟩ => congrArg some (least.unique also)
  | case3 depth position within kind inside noEnd goesOn inductionHypothesis =>
      have same : stream.closings depth position = stream.closings inside (position + 1) := by
        ext place
        rw [mem_closings_step (depth_step counts)]
        exact or_iff_right fun ⟨_, closed⟩ => goesOn closed
      rw [inductionHypothesis (.inl (Nat.pos_of_ne_zero goesOn)),
        stream.endOfFile_not_mem_step stop noEnd, same]
  | case4 depth position beyond =>
      refine ⟨nofun, fun ⟨goesOn, least⟩ => absurd ?_ goesOn⟩
      rw [stream.kindsBetween_eq_cons least.1.1, stream.tokenAt_of_size_le position (by omega),
        stream.ending_kind]
      exact List.mem_cons_self

/-- The end of a group is the first place up to which as many brackets are closed as opened. -/
theorem matchingClose?_eq_some_iff (stream : TokenStream) (start stop : Nat) :
    stream.matchingClose? start = some stop ↔
      (stream.tokenAt start).kind.isOpener = true ∧
        .endOfFile ∉ stream.kindsBetween start stop ∧
        IsLeast {place | start < place ∧
          stream.openersBetween start place = stream.closersBetween start place} stop := by
  have whole : stream.closings 0 start = {place | start < place ∧
      stream.openersBetween start place = stream.closersBetween start place} := by
    unfold closings
    simp only [Nat.zero_add]
  unfold matchingClose?
  rw [← whole]
  cases opener : (stream.tokenAt start).kind.isOpener with
  | true =>
      rw [if_pos rfl, stream.closeFrom_eq_some_iff stop (.inr opener)]
      exact (and_iff_right rfl).symm
  | false => exact ⟨nofun, nofun⟩

/-! ## Counting in a word -/

/-- The search for the end of a group with its count in a signed word of 32 bits. -/
def wordCloseFrom (stream : TokenStream) (depth : Int32) (position : Nat) : Option Nat :=
  if position < stream.body.size then
    let kind := (stream.tokenAt position).kind
    let inside :=
      if kind.isOpener then depth + 1 else if kind.isCloser then depth - 1 else depth
    if kind = .endOfFile then none
    else if inside = 0 then some (position + 1)
    else wordCloseFrom stream inside (position + 1)
  else none
termination_by stream.body.size - position

def wordMatchingClose? (stream : TokenStream) (position : Nat) : Option Nat :=
  if (stream.tokenAt position).kind.isOpener then stream.wordCloseFrom 0 position else none

/-- One token changes a count by one at most, and a word that holds the count follows it. -/
theorem toInt_inside {word : Int32} {depth : Nat} (same : word.toInt = depth)
    (room : depth + 1 < 2 ^ 31) {kind : TokenKind}
    (counts : 0 < depth ∨ kind.isOpener = true) {inside : Nat}
    (step : (if kind.isOpener then depth + 1 else if kind.isCloser then depth - 1 else depth) =
      inside) :
    (if kind.isOpener then word + 1 else if kind.isCloser then word - 1 else word).toInt =
      inside ∧ inside ≤ depth + 1 := by
  subst step
  split
  · refine ⟨?_, Nat.le_refl _⟩
    rw [Int32.toInt_add, same]
    exact Int.bmod_eq_of_le (by simp; omega) (by simp; omega)
  · rename_i noOpener
    have positive := counts.resolve_right noOpener
    split
    · refine ⟨?_, by omega⟩
      rw [Int32.toInt_sub, same, Int.natCast_sub positive]
      exact Int.bmod_eq_of_le (by simp; omega) (by simp; omega)
    · exact ⟨same, Nat.le_succ _⟩

/-- The count fits the word where fewer than `2 ^ 31` brackets can be open. -/
theorem wordCloseFrom_eq (stream : TokenStream) {depth position : Nat}
    (counts : 0 < depth ∨ (stream.tokenAt position).kind.isOpener = true)
    (room : depth + (stream.body.size - position) < 2 ^ 31) :
    ∀ {word : Int32}, word.toInt = depth →
      stream.wordCloseFrom word position = stream.closeFrom depth position := by
  fun_induction closeFrom stream depth position with
  | case1 depth position within kind isEnd =>
      intro word same
      rw [wordCloseFrom, if_pos within]
      exact if_pos isEnd
  | case2 depth position within kind inside noEnd closed =>
      intro word same
      have step := (toInt_inside same (by omega) counts (rfl : _ = inside)).1
      rw [closed] at step
      rw [wordCloseFrom, if_pos within]
      exact (if_neg noEnd).trans (if_pos (Int32.toInt_inj.mp step))
  | case3 depth position within kind inside noEnd goesOn inductionHypothesis =>
      intro word same
      rcases toInt_inside same (by omega) counts (rfl : _ = inside) with ⟨step, fewer⟩
      have goesOnThere : ¬ (if kind.isOpener then word + 1 else if kind.isCloser then word - 1
          else word) = 0 := by
        intro closed
        rw [closed] at step
        exact goesOn (Int.natCast_eq_zero.mp step.symm)
      rw [wordCloseFrom, if_pos within]
      refine ((if_neg noEnd).trans (if_neg goesOnThere)).trans ?_
      exact inductionHypothesis (.inl (Nat.pos_of_ne_zero goesOn)) (by omega) step
  | case4 depth position beyond =>
      intro word same
      rw [wordCloseFrom, if_neg beyond]

/-- A word is large enough for the brackets of any source with fewer than `2 ^ 31` tokens. -/
theorem wordMatchingClose?_eq (stream : TokenStream) (fits : stream.body.size < 2 ^ 31)
    (position : Nat) : stream.wordMatchingClose? position = stream.matchingClose? position := by
  unfold wordMatchingClose? matchingClose?
  cases opener : (stream.tokenAt position).kind.isOpener with
  | true =>
      have room : 0 + (stream.body.size - position) < 2 ^ 31 := by omega
      exact stream.wordCloseFrom_eq (.inr opener) room Int32.toInt_zero
  | false => rfl

/-! ## Pairs of tokens -/

/-- The token at one position opens what the token at a later one closes. -/
structure Pairs (stream : TokenStream) (first second : Nat) : Prop where
  later : first < second
  meets : ∃ delimiter, (stream.tokenAt first).kind.opens? = some delimiter ∧
    (stream.tokenAt second).kind.closes? = some delimiter
  balanced : Nesting.Balanced (stream.kindsBetween (first + 1) second)

namespace Pairs

variable {first second third outer closing inner other : Nat}

theorem not_opens_second (pairs : stream.Pairs first second) :
    (stream.tokenAt second).kind.opens? = none := by
  rcases pairs.meets with ⟨delimiter, _, closes⟩
  exact Nesting.opens_of_closes closes

theorem opens_first (pairs : stream.Pairs first second) :
    (stream.tokenAt first).kind.opens? ≠ none := by
  rcases pairs.meets with ⟨delimiter, opens, _⟩
  rw [opens]
  exact nofun

/-- What an opening bracket belongs to is a closing one. -/
theorem isCloser_second (pairs : stream.Pairs first second)
    (opener : (stream.tokenAt first).kind.isOpener = true) :
    (stream.tokenAt second).kind.isOpener = false ∧
      (stream.tokenAt second).kind.isCloser = true := by
  rcases TokenKind.exists_opens_of_isOpener opener with ⟨closer, opensGroup⟩
  rcases pairs.meets with ⟨delimiter, opens, closes⟩
  have same : delimiter = .group closer := Option.some.inj (opens.symm.trans opensGroup)
  rw [same] at closes
  refine ⟨?_, TokenKind.isCloser_of_closes closes⟩
  by_contra also
  rw [Bool.not_eq_false] at also
  rcases TokenKind.exists_opens_of_isOpener also with ⟨other, opensToo⟩
  rw [pairs.not_opens_second] at opensToo
  cases opensToo

/-- Whatever begins within a pair ends there: it would have to be closed by a token behind
the pair, but the pair leaves nothing open. -/
theorem within (around : stream.Pairs outer closing) (pairs : stream.Pairs inner other)
    (behind : outer < inner) (before : inner < closing) : other < closing := by
  by_contra beyond
  rcases pairs.meets with ⟨delimiter, opens, _⟩
  have whole := around.balanced []
  rw [← stream.kindsBetween_append behind (Nat.le_of_lt before),
    stream.kindsBetween_eq_cons before, Nesting.read_append] at whole
  rcases Option.bind_eq_some_iff.mp whole with ⟨stack, _, rest⟩
  rw [Nesting.read_cons, Nesting.step_of_opens _ opens, Option.bind_some] at rest
  have inside := pairs.balanced []
  rw [← stream.kindsBetween_append before (Nat.le_of_not_lt beyond), Nesting.read_append] at inside
  rcases Option.bind_eq_some_iff.mp inside with ⟨upper, readSoFar, _⟩
  have onTop := Nesting.read_append_below readSoFar (delimiter :: stack)
  have same := Option.some.inj (onTop.symm.trans rest)
  exact List.append_ne_nil_of_right_ne_nil _ (List.cons_ne_nil _ _) same

theorem le_of_pairs (pairs : stream.Pairs first second) (also : stream.Pairs first third) :
    third ≤ second := by
  by_contra further
  rcases pairs.meets with ⟨delimiter, _, closes⟩
  have readOn := also.balanced []
  rw [← stream.kindsBetween_append pairs.later (Nat.le_of_not_le further),
    stream.kindsBetween_eq_cons (Nat.lt_of_not_le further), Nesting.read_append,
    pairs.balanced [], Option.bind_some, Nesting.read_cons] at readOn
  rcases Option.bind_eq_some_iff.mp readOn with ⟨stack, stepped, _⟩
  exact List.cons_ne_nil _ _ (Nesting.exact.eq_cons_of_closes closes stepped).symm

/-- A pair lies within the range of another one, or around it, or elsewhere. -/
theorem not_cut (around : stream.Pairs outer closing) (pairs : stream.Pairs first second) :
    outer ≤ first ∧ first ≤ closing ↔ outer ≤ second ∧ second ≤ closing := by
  have later := pairs.later
  have wide := around.later
  constructor
  · rintro ⟨behind, before⟩
    refine ⟨by omega, ?_⟩
    rcases Nat.eq_or_lt_of_le behind with rfl | inner
    · exact around.le_of_pairs pairs
    · have notLast : first ≠ closing := fun same =>
        pairs.opens_first (same ▸ around.not_opens_second)
      exact Nat.le_of_lt (around.within pairs inner (by omega))
  · rintro ⟨behind, before⟩
    refine ⟨?_, by omega⟩
    by_contra outside
    have notFirst : second ≠ outer := fun same =>
      around.opens_first (same ▸ pairs.not_opens_second)
    have crossed := pairs.within around (Nat.lt_of_not_le outside) (by omega)
    omega

/-- Up to the bracket that belongs to an opening one more brackets are opened than closed. -/
theorem isLeast (pairs : stream.Pairs first second)
    (opener : (stream.tokenAt first).kind.isOpener = true) :
    IsLeast {place | first < place ∧
      stream.openersBetween first place = stream.closersBetween first place} (second + 1) := by
  have opens := TokenKind.isCloser_of_isOpener opener
  have closes := pairs.isCloser_second opener
  have later : first + 1 ≤ second := pairs.later
  constructor
  · refine ⟨by omega, ?_⟩
    have inside := pairs.balanced.countP_eq
    have ends := stream.kindsBetween_append later (Nat.le_succ second)
    rw [stream.kindsBetween_eq_cons (Nat.lt_succ_self second), kindsBetween_self] at ends
    rw [stream.openersBetween_eq_add (by omega), stream.closersBetween_eq_add (by omega)]
    unfold openersBetween closersBetween
    rw [← ends, List.countP_append, List.countP_append, List.countP_singleton,
      List.countP_singleton, opener, opens, closes.1, closes.2]
    simp only [Bool.false_eq_true, if_false, if_true]
    omega
  · rintro place ⟨behind, level⟩
    by_contra early
    have next : first + 1 ≤ place := behind
    have whole := pairs.balanced []
    rw [← stream.kindsBetween_append next (by omega : place ≤ second), Nesting.read_append]
      at whole
    rcases Option.bind_eq_some_iff.mp whole with ⟨upper, readSoFar, _⟩
    have fewer := Nesting.countP_isCloser_le readSoFar
    rw [stream.openersBetween_eq_add behind, stream.closersBetween_eq_add behind, opener, opens,
      if_pos rfl, if_neg Bool.false_ne_true] at level
    unfold openersBetween closersBetween at level
    omega

end Pairs

/-! ## Nested streams -/

theorem kindsFrom_eq_append (stream : TokenStream) (first : start ≤ stop)
    (inside : stop ≤ stream.body.size) :
    stream.kindsFrom start = stream.kindsBetween start stop ++ stream.kindsFrom stop := by
  induction stop, first using Nat.le_induction with
  | base => rw [kindsBetween_self, List.nil_append]
  | succ stop behind inductionHypothesis =>
      rw [inductionHypothesis (Nat.le_of_succ_le inside), stream.kindsFrom_eq_cons inside,
        ← stream.kindsBetween_append behind (Nat.le_succ stop),
        stream.kindsBetween_eq_cons (Nat.lt_succ_self stop), kindsBetween_self,
        List.append_assoc, List.singleton_append]

theorem length_kindsFrom (stream : TokenStream) (position : Nat) :
    (stream.kindsFrom position).length = stream.body.size - position := by
  unfold kindsFrom
  rw [List.length_map, List.length_drop, Array.length_toList]

theorem EndsOnce.endOfFile_not_mem (endsOnce : stream.EndsOnce) (inside : stop ≤ stream.body.size) :
    .endOfFile ∉ stream.kindsBetween start stop := by
  intro member
  rcases List.mem_map.mp member with ⟨position, among, isEnd⟩
  have bounds := List.mem_range'_1.mp among
  exact endsOnce.kind_ne (by omega) isEnd

/-- In a nested stream every token that opens something has one that closes it. -/
theorem exists_pairs (nested : Nesting.exact.read [] (stream.kindsFrom 0) = some [])
    {delimiter : Delimiter} (opens : (stream.tokenAt start).kind.opens? = some delimiter) :
    ∃ last < stream.body.size, stream.Pairs start last := by
  have inside : start < stream.body.size := by
    by_contra beyond
    rw [stream.tokenAt_of_size_le start (Nat.le_of_not_lt beyond), stream.ending_kind] at opens
    cases opens
  rw [stream.kindsFrom_eq_append (Nat.zero_le start) (Nat.le_of_lt inside),
    stream.kindsFrom_eq_cons inside, Nesting.read_append] at nested
  rcases Option.bind_eq_some_iff.mp nested with ⟨stack, _, rest⟩
  rw [Nesting.read_cons, Nesting.step_of_opens _ opens, Option.bind_some] at rest
  rcases @Nesting.exists_closing [] stack _ delimiter rest with
    ⟨between, closing, beyond, parts, readBetween, closes⟩
  have lengths := stream.length_kindsFrom (start + 1)
  rw [parts, List.length_append, List.length_cons] at lengths
  have last : start + 1 + between.length < stream.body.size := by omega
  have split := stream.kindsFrom_eq_append (Nat.le_add_right (start + 1) between.length)
    (Nat.le_of_lt last)
  have measured := stream.length_kindsBetween (start + 1) (start + 1 + between.length)
  rw [Nat.add_sub_cancel_left] at measured
  rw [parts, stream.kindsFrom_eq_cons last] at split
  rcases List.append_inj split measured.symm with ⟨same, ends⟩
  refine ⟨_, last, by omega, ⟨delimiter, opens, ?_⟩, ?_⟩
  · rw [← (List.cons.inj ends).1]
    exact closes
  · rw [← same]
    exact Nesting.balanced_of_read readBetween

theorem Pairs.matchingClose?_eq (pairs : stream.Pairs start middle) (endsOnce : stream.EndsOnce)
    (inside : middle < stream.body.size)
    (opener : (stream.tokenAt start).kind.isOpener = true) :
    stream.matchingClose? start = some (middle + 1) :=
  (stream.matchingClose?_eq_some_iff start (middle + 1)).mpr
    ⟨opener, endsOnce.endOfFile_not_mem inside, pairs.isLeast opener⟩

variable {source : String} {tabWidth : Nat}

theorem endsOnce_of_toList [XidStart] (same : stream.toList = (lex source tabWidth).tokens) :
    stream.EndsOnce := by
  rcases lex_ends source tabWidth with ⟨others, ending, parts, _, early⟩
  have body := (List.append_inj' (same.trans parts) rfl).1
  exact fun token member => early token (body ▸ Array.mem_toList_iff.mpr member)

theorem nested_of_toList [XidStart] (silent : (lex source tabWidth).diagnostics = [])
    (same : stream.toList = (lex source tabWidth).tokens) :
    Nesting.exact.read [] (stream.kindsFrom 0) = some [] := by
  rw [kindsFrom_zero, ← stream.read_toList, same]
  exact (lex_silent silent).nested

/-- Looking for the end of a group stops at the first place up to which as many brackets are
closed as opened, unless the source ends before.  In a stream over the tokens of a source for
which nothing is reported there always is such a place.  It is the one behind the bracket that
closes what the group opens, and nothing that is opened or closed in this range, be it a block,
a group or a string, reaches out of it. -/
theorem matchingClose?_finds [XidStart] :
    (∀ (stream : TokenStream) (start stop : Nat), stream.matchingClose? start = some stop ↔
      (stream.tokenAt start).kind.isOpener = true ∧
        .endOfFile ∉ stream.kindsBetween start stop ∧
        IsLeast {place | start < place ∧
          stream.openersBetween start place = stream.closersBetween start place} stop) ∧
    ∀ (source : String) (tabWidth : Nat), (lex source tabWidth).diagnostics = [] →
      ∀ stream : TokenStream, stream.toList = (lex source tabWidth).tokens →
        ∀ start, (stream.tokenAt start).kind.isOpener = true →
          ∃ last, stream.matchingClose? start = some (last + 1) ∧ stream.Pairs start last ∧
            ∀ first second, stream.Pairs first second →
              (start ≤ first ∧ first ≤ last ↔ start ≤ second ∧ second ≤ last) := by
  refine ⟨matchingClose?_eq_some_iff, ?_⟩
  intro source tabWidth silent stream same start opener
  rcases TokenKind.exists_opens_of_isOpener opener with ⟨closer, opens⟩
  rcases exists_pairs (nested_of_toList silent same) opens with ⟨last, inside, pairs⟩
  exact ⟨last, pairs.matchingClose?_eq (endsOnce_of_toList same) inside opener, pairs,
    fun first second also => pairs.not_cut also⟩

/-- A group with a block in it, and in the block a string with a splice. -/
theorem matchingClose?_finds_around_block :
    (lex "f \x7b x =>\n  \"a$b\" \x7d" 4).diagnostics = [] ∧
      ∃ last, (ofList (lex "f \x7b x =>\n  \"a$b\" \x7d" 4).tokens).matchingClose? 1 =
          some (last + 1) ∧
        (ofList (lex "f \x7b x =>\n  \"a$b\" \x7d" 4).tokens).Pairs 1 last := by
  have silent : (lex "f \x7b x =>\n  \"a$b\" \x7d" 4).diagnostics = [] := by decide +kernel
  rcases matchingClose?_finds.2 _ 4 silent _ (toList_lex _ _) 1 (by decide +kernel) with
    ⟨last, found, pairs, _⟩
  exact ⟨silent, last, found, pairs⟩

end TokenStream
end Offside
