import Offside.Text.CharClass

namespace Offside

/-!
# Looking up ranges

What bisection finds in a table lies in one of its ranges, whatever the order of the table.
For the converse the order matters.  In a table whose ranges are nonempty and apart, every
range in front of the one that holds a character is to the left of it and every range behind
that one is to the right of it.  So the half of the interval that bisection drops does not
have the range in it.
-/

namespace CharRange

theorem compareTo_eq_lt_iff (range : CharRange) (c : Char) :
    range.compareTo c = .lt ↔ range.last < c.toNat := by
  unfold compareTo
  split
  · simpa
  · split
    · simp; omega
    · simp; omega

theorem lt_first_of_compareTo_eq_gt (range : CharRange) (c : Char)
    (right : range.compareTo c = .gt) : c.toNat < range.first := by
  unfold compareTo at right
  split at right
  · cases right
  · split at right
    · assumption
    · cases right

end CharRange

namespace CharTable

variable {table : CharTable} {c : Char} {lo hi : Nat}

/-- What bisection finds lies in some range of the table. -/
theorem exists_of_searchBetween (found : table.searchBetween c lo hi = true) :
    ∃ range ∈ table, range.Holds c := by
  fun_induction searchBetween table c lo hi with
  | case1 => cases found
  | case2 lo hi wide middle range here around =>
      exact ⟨range, Array.mem_of_getElem? here, (range.compareTo_eq_eq_iff c).mp around⟩
  | case3 lo hi wide middle range here left inductionHypothesis =>
      exact inductionHypothesis found
  | case4 lo hi wide middle range here right inductionHypothesis =>
      exact inductionHypothesis found
  | case5 => cases found

theorem exists_of_contains (found : table.contains c = true) : ∃ range ∈ table, range.Holds c :=
  exists_of_searchBetween found

/-! ## Tables in order -/

/-- It is enough that every range ends before the next one begins. -/
theorem ordered_of_adjacent (nonempty : ∀ range ∈ table, range.first ≤ range.last)
    (apart : ∀ index, ∀ next : index + 1 < table.size,
      table[index].last < table[index + 1].first) : table.Ordered := by
  refine ⟨nonempty, List.pairwise_iff_getElem.mpr ?_⟩
  intro earlier later earlierInside laterInside before
  simp only [Array.getElem_toList]
  induction later with
  | zero => omega
  | succ later inductionHypothesis =>
      have inside : later + 1 < table.size := laterInside
      have step := apart later inside
      rcases Nat.lt_succ_iff_lt_or_eq.mp before with further | same
      · have wide := nonempty table[later] (Array.getElem_mem _)
        have reached := inductionHypothesis (Nat.lt_of_succ_lt inside) further
        omega
      · subst same
        exact step

variable {index place : Nat} {range other : CharRange}

theorem Ordered.last_lt_first (ordered : table.Ordered) (there : table[index]? = some range)
    (behind : table[place]? = some other) (before : index < place) : range.last < other.first := by
  rcases Array.getElem?_eq_some_iff.mp there with ⟨inside, rfl⟩
  rcases Array.getElem?_eq_some_iff.mp behind with ⟨insideToo, rfl⟩
  exact List.pairwise_iff_getElem.mp ordered.2 index place inside insideToo before

theorem Ordered.first_le_last (ordered : table.Ordered) (there : table[index]? = some range) :
    range.first ≤ range.last := ordered.1 range (Array.mem_of_getElem? there)

/-- A range to the left of a character stands in front of the range that holds it. -/
theorem Ordered.lt_of_left (ordered : table.Ordered) (there : table[index]? = some range)
    (holds : range.Holds c) (here : table[place]? = some other)
    (left : other.compareTo c = .lt) : place < index := by
  have short := (other.compareTo_eq_lt_iff c).mp left
  have reaches := holds.2
  rcases Nat.lt_trichotomy place index with before | same | behind
  · exact before
  · rw [same, there] at here
    cases here
    omega
  · have apart := ordered.last_lt_first there here behind
    have wide := ordered.first_le_last here
    omega

/-- A range to the right of a character stands behind the range that holds it. -/
theorem Ordered.lt_of_right (ordered : table.Ordered) (there : table[index]? = some range)
    (holds : range.Holds c) (here : table[place]? = some other)
    (right : other.compareTo c = .gt) : index < place := by
  have late := (other.lt_first_of_compareTo_eq_gt c right)
  have begins := holds.1
  rcases Nat.lt_trichotomy place index with before | same | behind
  · have apart := ordered.last_lt_first here there before
    have wide := ordered.first_le_last here
    omega
  · rw [same, there] at here
    cases here
    omega
  · exact behind

/-- Bisection finds the range that holds a character, if the range is in the interval. -/
theorem Ordered.searchBetween_of_holds (ordered : table.Ordered)
    (there : table[index]? = some range) (holds : range.Holds c) (bounded : hi ≤ table.size)
    (behind : lo ≤ index) (before : index < hi) : table.searchBetween c lo hi = true := by
  fun_induction searchBetween table c lo hi with
  | case1 lo hi wide middle none =>
      have beyond := Array.getElem?_eq_none_iff.mp none
      omega
  | case2 => rfl
  | case3 lo hi wide middle other here left inductionHypothesis =>
      have further := ordered.lt_of_left there holds here left
      exact inductionHypothesis bounded further before
  | case4 lo hi wide middle other here right inductionHypothesis =>
      have nearer := ordered.lt_of_right there holds here right
      exact inductionHypothesis (by omega) behind nearer
  | case5 lo hi narrow => omega

/-- In a table whose ranges are nonempty, each ending before the next one begins, a character is
found just if some range has it. -/
theorem contains_iff_holds (nonempty : ∀ range ∈ table, range.first ≤ range.last)
    (apart : ∀ index, ∀ next : index + 1 < table.size,
      table[index].last < table[index + 1].first) (c : Char) :
    table.contains c = true ↔ ∃ range ∈ table, range.Holds c := by
  refine ⟨exists_of_contains, ?_⟩
  rintro ⟨range, member, holds⟩
  have ordered := ordered_of_adjacent nonempty apart
  rcases Array.getElem?_of_mem member with ⟨index, there⟩
  have inside := (Array.getElem?_eq_some_iff.mp there).1
  exact ordered.searchBetween_of_holds there holds (Nat.le_refl _) (Nat.zero_le _) inside

/-- At the end of the arrows and right behind it, in the table of symbols. -/
theorem contains_iff_holds_arrows :
    (∃ range ∈ CharClass.symbolRanges, range.Holds (Char.ofNat 0x2307)) ∧
      ¬ ∃ range ∈ CharClass.symbolRanges, range.Holds (Char.ofNat 0x2308) := by
  have ordered : CharTable.Ordered CharClass.symbolRanges := by decide +kernel
  have lookUp := contains_iff_holds ordered.1 fun index next =>
    ordered.last_lt_first (Array.getElem?_eq_getElem (Nat.lt_of_succ_lt next))
      (Array.getElem?_eq_getElem next) (Nat.lt_succ_self index)
  refine ⟨(lookUp _).mp (by decide +kernel), fun found => ?_⟩
  exact absurd ((lookUp _).mpr found) (by decide +kernel)

end CharTable

/-! ## Tests that go through a range -/

/-- A test that every character between two ends passes. -/
theorem holds_of_between (test : Char → Bool) {first last : Nat} {c : Char}
    (each : ∀ code ∈ List.range' first (last + 1 - first), test (Char.ofNat code) = true)
    (above : first ≤ c.toNat) (below : c.toNat ≤ last) : test c = true := by
  rw [← Char.ofNat_toNat c]
  apply each
  rw [List.mem_range'_1]
  omega

/-- No blank passes a test that none of the few blanks passes. -/
theorem isBlank_of_holds (test : Char → Bool) {c : Char}
    (none : ∀ range ∈ CharTable.whiteSpace.toList,
      ∀ code ∈ List.range' range.first (range.last + 1 - range.first),
        (!test (Char.ofNat code)) = true)
    (holds : test c = true) : isBlank c = false := by
  refine Bool.eq_false_iff.mpr fun blank => ?_
  rcases CharTable.exists_of_contains blank with ⟨range, member, above, below⟩
  have fails : (!test c) = true := holds_of_between (fun c => !test c)
    (none range (Array.mem_toList_iff.mpr member)) above below
  rw [holds] at fails
  cases fails

end Offside
