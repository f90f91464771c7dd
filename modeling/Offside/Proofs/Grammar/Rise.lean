import Offside.Grammar
import Offside.Proofs.Parsing.Outcomes

namespace Offside

/-!
# How high the rules of the grammar build

Rules build upwards in two ways: a node stands above what was built inside it, and a wrap
puts a node above everything that stands there already.  Neither is free of charge for
long.  Whatever can be repeated charges a level, either by nesting or as a link of a chain,
so the number of levels that are left bounds the height of what is built.

The bound is quadratic.  A chain gives its levels back when it is done, so a chain of full
length may stand in each link of another chain, and only brackets around it cost a level
for good.  With `levels` left around some place and `charged` of them in use, what is
built there stays below `16 * (levels * levels) + base + slope * levels + 2 * charged`.  The
analysis follows `base` and `slope` through the rules.  Nesting takes care of all of it,
because the square grows by more than that from one level to the next.
-/

/-- How far the children of a node rise above what one level of nesting less would allow. -/
structure Rise where
  base : Nat
  slope : Nat

namespace Rise

def zero : Rise := ⟨0, 0⟩

/-- The height that a rise stands for. -/
def bound (rise : Rise) (levels charged : Nat) : Nat :=
  16 * (levels * levels) + rise.base + rise.slope * levels + 2 * charged

/-- The higher one of two rises, in each respect. -/
def sup (rise other : Rise) : Rise := ⟨max rise.base other.base, max rise.slope other.slope⟩

/-- One node higher. -/
def up (rise : Rise) : Rise := ⟨rise.base + 1, rise.slope⟩

/-- Without the levels of a chain, which are given back. -/
def released (rise : Rise) : Rise := ⟨rise.base, rise.slope + 2⟩

/-- With one more level charged, which already allows for two more nodes. -/
def linked (rise : Rise) : Rise := ⟨rise.base - 2, rise.slope⟩

def within (rise other : Rise) : Bool := rise.base ≤ other.base && rise.slope ≤ other.slope

/-- Whether one level of nesting pays for the rise. -/
def fits (rise : Rise) : Bool := rise.base ≤ 16 && rise.slope ≤ 30

/-- The rise of a token. -/
def token : Rise := ⟨1, 0⟩

/-- The rise of a node of faulty input. -/
def faulty : Rise := ⟨2, 0⟩

/-! ## Comparing rises -/

variable {rise other third : Rise} {levels charged : Nat}

theorem within_iff :
    rise.within other = true ↔ rise.base ≤ other.base ∧ rise.slope ≤ other.slope := by
  simp [within]

theorem within_refl (rise : Rise) : rise.within rise = true :=
  within_iff.mpr ⟨Nat.le_refl _, Nat.le_refl _⟩

theorem zero_within (rise : Rise) : zero.within rise = true :=
  within_iff.mpr ⟨Nat.zero_le _, Nat.zero_le _⟩

theorem within_sup_left (rise other : Rise) : rise.within (rise.sup other) = true :=
  within_iff.mpr ⟨Nat.le_max_left _ _, Nat.le_max_left _ _⟩

theorem within_sup_right (rise other : Rise) : other.within (rise.sup other) = true :=
  within_iff.mpr ⟨Nat.le_max_right _ _, Nat.le_max_right _ _⟩

theorem bound_le (within : rise.within other = true) {levels' charged' : Nat}
    (moreLevels : levels ≤ levels') (moreCharged : charged ≤ charged') :
    rise.bound levels charged ≤ other.bound levels' charged' := by
  rcases within_iff.mp within with ⟨base, slope⟩
  have squares : levels * levels ≤ levels' * levels' := Nat.mul_le_mul moreLevels moreLevels
  have slopes : rise.slope * levels ≤ other.slope * levels' := Nat.mul_le_mul slope moreLevels
  unfold bound
  omega

theorem max_bound_le {kept : Nat} (within : rise.within other = true) {levels' charged' : Nat}
    (moreLevels : levels ≤ levels') (moreCharged : charged ≤ charged') :
    max kept (rise.bound levels charged) ≤ max kept (other.bound levels' charged') := by
  have le := bound_le within moreLevels moreCharged
  omega

@[simp]
theorem bound_zero (levels : Nat) : zero.bound levels 0 = 16 * (levels * levels) := by
  simp [bound, zero]

theorem bound_up (rise : Rise) (levels charged : Nat) :
    rise.up.bound levels charged = rise.bound levels charged + 1 := by
  unfold bound up
  dsimp only
  omega

/-- A chain that gives its levels back has charged no more than there were. -/
theorem bound_le_released (rise : Rise) (enough : charged ≤ levels) :
    rise.bound levels charged ≤ rise.released.bound levels 0 := by
  unfold bound released
  dsimp only
  rw [Nat.add_mul]
  omega

theorem bound_le_linked (rise : Rise) (levels charged : Nat) :
    rise.bound levels charged ≤ rise.linked.bound levels (charged + 1) := by
  unfold bound linked
  dsimp only
  omega

/-- One level of nesting pays for a rise that fits, whatever was charged. -/
theorem bound_le_of_fits (rise : Rise) (fits : rise.fits = true) (enough : charged ≤ levels) :
    rise.bound levels charged ≤ zero.bound (levels + 1) 0 := by
  unfold Rise.fits at fits
  simp only [Bool.and_eq_true, decide_eq_true_eq] at fits
  have slopes : rise.slope * levels ≤ 30 * levels := Nat.mul_le_mul_right _ fits.2
  have square : (levels + 1) * (levels + 1) = levels * levels + 2 * levels + 1 := by
    rw [Nat.add_mul, Nat.mul_add]
    omega
  unfold bound zero
  dsimp only
  rw [square]
  omega

end Rise

/-! ## Estimating rules -/

/-- What a nonterminal builds, as far as it does not charge a level for it. -/
def Nonterminal.rise : Nonterminal → Rise
  | parameterType => ⟨2, 0⟩
  | simpleType => ⟨5, 2⟩
  | annotatedType => ⟨8, 2⟩
  | primaryPattern _ => ⟨5, 2⟩
  | alternatives _ => ⟨11, 6⟩
  | expression => ⟨1, 0⟩
  | _ => .zero

/-- Whether the rule leaves everything where it is that was built before it. -/
def Rule.keepsBuilt : Rule → Bool
  | wrap _ => false
  | seq first second => first.keepsBuilt && second.keepsBuilt
  | choose _ yes no => yes.keepsBuilt && no.keepsBuilt
  | settle _ first second => first.keepsBuilt && second.keepsBuilt
  | loop rule | nested rule | chain rule | withBraces _ rule | recover rule => rule.keepsBuilt
  | _ => true

/-- How far the children of a node rise, if they rise as far as `rise` before the rule. -/
def Rule.rise : Rule → Rise → Estimate Rise
  | seq first second, rise =>
    let one := first.rise rise
    let two := second.rise one.done
    ⟨two.done, one.left.sup two.left, one.sound && two.sound⟩
  | take, rise => ⟨rise.sup .token, .zero, true⟩
  | call nonterminal, rise => ⟨rise.sup nonterminal.rise, rise.sup nonterminal.rise, true⟩
  | node _ _ rule, rise =>
    let inside := rule.rise .zero
    ⟨rise.sup inside.done.up, rise.sup inside.left.up, inside.sound⟩
  | wrap _, rise => ⟨rise.up, .zero, true⟩
  | choose _ one other, rise | settle _ one other, rise =>
    let either := one.rise rise
    let or := other.rise rise
    ⟨either.done.sup or.done, either.left.sup or.left, either.sound && or.sound⟩
  | loop rule, rise =>
    let anyRound := rise.sup (rule.rise rise).done
    let round := rule.rise anyRound
    ⟨anyRound.sup round.left, .zero, round.sound && round.done.within anyRound⟩
  | leave, rise => ⟨.zero, rise, true⟩
  | nested rule, rise =>
    let inside := rule.rise .zero
    ⟨rise, rise, rule.keepsBuilt && inside.done.fits && inside.left.fits && inside.sound⟩
  | chain rule, rise =>
    let inside := rule.rise rise
    ⟨inside.done.released, inside.left.released, inside.sound⟩
  | link, rise => ⟨rise.linked, .zero, true⟩
  | withBraces _ rule, rise => rule.rise rise
  | recover rule, rise =>
    let inside := rule.rise rise
    ⟨inside.done.sup (rise.sup .faulty), inside.left, inside.sound⟩
  | reject _, rise => ⟨rise.sup .faulty, .zero, true⟩
  | fail _, _ | failMissing _ _, _ => ⟨.zero, .zero, true⟩
  | done, rise | become _, rise | nameFirst _, rise => ⟨rise, .zero, true⟩

/-- Whether a nonterminal builds no higher than it is said to. -/
def Nonterminal.isLow (nonterminal : Nonterminal) : Bool :=
  let estimate := nonterminal.rule.rise .zero
  nonterminal.rule.keepsBuilt && estimate.sound && estimate.done.within nonterminal.rise &&
    estimate.left.within nonterminal.rise

theorem Nonterminal.isLow_eq_true : ∀ nonterminal : Nonterminal, nonterminal.isLow = true := by
  decide +kernel

end Offside
