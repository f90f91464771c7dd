namespace Offside

/-!
# Tables of character ranges

Large character classes are kept as tables of code point ranges and are looked
up by bisection.  A table is expected to be ordered: every range is nonempty
and ends before the next one begins.  Under that expectation a lookup succeeds
exactly when some range of the table holds the character, although it inspects
only logarithmically many of them.
-/

/-- An inclusive range of code points. -/
structure CharRange where
  first : Nat
  last : Nat
deriving DecidableEq, Repr

namespace CharRange

/-- The range holds the character when its code point lies between the ends. -/
def Holds (range : CharRange) (c : Char) : Prop :=
  range.first ≤ c.toNat ∧ c.toNat ≤ range.last

instance (range : CharRange) (c : Char) : Decidable (range.Holds c) :=
  inferInstanceAs (Decidable (_ ∧ _))

/-- Where a range lies relative to a character: `lt` to the left of it, `gt` to
the right of it, and `eq` around it. -/
def compareTo (range : CharRange) (c : Char) : Ordering :=
  if range.last < c.toNat then .lt
  else if c.toNat < range.first then .gt
  else .eq

/-- A range is neither to the left nor to the right of exactly the characters it holds. -/
theorem compareTo_eq_eq_iff (range : CharRange) (c : Char) :
    range.compareTo c = .eq ↔ range.Holds c := by
  unfold compareTo Holds
  split
  · simp; omega
  · split
    · simp; omega
    · simp; omega

end CharRange

abbrev CharTable := Array CharRange

namespace CharTable

/-- Every range is nonempty and ends before the next one begins. -/
def Ordered (table : CharTable) : Prop :=
  (∀ range ∈ table, range.first ≤ range.last) ∧
    table.toList.Pairwise fun earlier later => earlier.last < later.first

instance (table : CharTable) : Decidable table.Ordered :=
  inferInstanceAs (Decidable (_ ∧ _))

/-- Bisect the half-open index interval `[lo, hi)` for a range that holds `c`. -/
def searchBetween (table : CharTable) (c : Char) (lo hi : Nat) : Bool :=
  if lo < hi then
    let middle := lo + (hi - lo) / 2
    match table[middle]? with
    | none => false
    | some range =>
      match range.compareTo c with
      | .eq => true
      | .lt => searchBetween table c (middle + 1) hi
      | .gt => searchBetween table c lo middle
  else
    false
termination_by hi - lo

/-- Whether the class has the character, found by bisection of its table. -/
def contains (table : CharTable) (c : Char) : Bool :=
  table.searchBetween c 0 table.size

end CharTable

end Offside
