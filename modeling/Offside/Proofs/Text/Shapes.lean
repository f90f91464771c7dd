import Mathlib.Computability.Language
import Offside.Proofs.Text.Classes

namespace Offside

/-!
# Shapes of texts

How a literal may be written is said by a formal language: the texts of its shape are put
together from single characters by choice, by juxtaposition and by repetition.

A scanner measures how far a shape reaches at the front of a text.  It takes a text of the
shape, and it takes all of such a text where nothing behind it could go on with it.  Scanners
one behind the other measure shapes one behind the other, if no text of the second shape
begins with a character that the first shape could go on with.
-/

open scoped Computability

namespace Shape

variable {test : Char → Bool} {shape : Language Char} {text front back : List Char} {c : Char}

/-- A single character that passes a test. -/
def one (test : Char → Bool) : Language Char := {text | ∃ c, test c = true ∧ text = [c]}

/-- A shape that may be missing. -/
def optional (shape : Language Char) : Language Char := 1 + shape

theorem mem_one : text ∈ one test ↔ ∃ c, test c = true ∧ text = [c] := Iff.rfl

theorem singleton_mem_one : [c] ∈ one test ↔ test c = true := by
  refine ⟨fun ⟨d, passes, same⟩ => ?_, fun passes => ⟨c, passes, rfl⟩⟩
  rw [(List.cons.inj same).1]
  exact passes

theorem mem_word {word : List Char} : text ∈ ({word} : Language Char) ↔ text = word := Iff.rfl

theorem mem_optional : text ∈ optional shape ↔ text = [] ∨ text ∈ shape := by
  unfold optional
  rw [Language.mem_add, Language.mem_one]

theorem nil_mem_optional (shape : Language Char) : [] ∈ optional shape :=
  mem_optional.mpr (.inl rfl)

theorem mem_optional_of_mem (member : text ∈ shape) : text ∈ optional shape :=
  mem_optional.mpr (.inr member)

theorem append_mem_kstar (first : front ∈ shape) (others : text ∈ shape∗) :
    front ++ text ∈ shape∗ :=
  Set.mem_of_mem_of_subset (Language.append_mem_mul first others) (mul_kstar_le_kstar (a := shape))

theorem nil_notMem_one (test : Char → Bool) : [] ∉ one test :=
  fun ⟨_, _, same⟩ => List.cons_ne_nil _ _ same.symm

theorem nil_notMem_mul {other : Language Char} (some : [] ∉ shape) : [] ∉ shape * other := by
  intro member
  rcases Language.mem_mul.mp member with ⟨front, inShape, back, -, nothing⟩
  rw [(List.append_eq_nil_iff.mp nothing).1] at inShape
  exact some inShape

/-- A repetition of single characters is a text of such characters. -/
theorem mem_one_kstar : text ∈ (one test)∗ ↔ ∀ c ∈ text, test c = true := by
  constructor
  · intro member c inside
    rcases Language.mem_kstar.mp member with ⟨parts, rfl, each⟩
    rcases List.mem_flatten.mp inside with ⟨part, isPart, inPart⟩
    rcases each part isPart with ⟨d, passes, rfl⟩
    rw [List.mem_singleton.mp inPart]
    exact passes
  · intro each
    induction text with
    | nil => exact Language.nil_mem_kstar _
    | cons c text inductionHypothesis =>
        rw [List.forall_mem_cons] at each
        exact append_mem_kstar (singleton_mem_one.mpr each.1) (inductionHypothesis each.2)

/-- The same for one or more characters. -/
theorem mem_one_mul_kstar :
    text ∈ one test * (one test)∗ ↔ text ≠ [] ∧ ∀ c ∈ text, test c = true := by
  rw [Language.mem_mul]
  constructor
  · rintro ⟨_, ⟨c, passes, rfl⟩, others, member, rfl⟩
    exact ⟨List.cons_ne_nil _ _, List.forall_mem_cons.mpr ⟨passes, mem_one_kstar.mp member⟩⟩
  · rintro ⟨nonempty, each⟩
    rcases List.exists_cons_of_ne_nil nonempty with ⟨c, others, rfl⟩
    rw [List.forall_mem_cons] at each
    exact ⟨[c], singleton_mem_one.mpr each.1, others, mem_one_kstar.mpr each.2, rfl⟩

/-- The same for a fixed number of characters. -/
theorem mem_one_pow {count : Nat} :
    text ∈ one test ^ count ↔ text.length = count ∧ ∀ c ∈ text, test c = true := by
  induction count generalizing text with
  | zero =>
      rw [pow_zero, Language.mem_one, List.length_eq_zero_iff]
      exact ⟨fun nothing => ⟨nothing, nothing ▸ List.forall_mem_nil _⟩, And.left⟩
  | succ count inductionHypothesis =>
      rw [pow_succ', Language.mem_mul]
      constructor
      · rintro ⟨first, ⟨c, passes, rfl⟩, others, member, rfl⟩
        rcases inductionHypothesis.mp member with ⟨rfl, each⟩
        exact ⟨rfl, List.forall_mem_cons.mpr ⟨passes, each⟩⟩
      · rintro ⟨measured, each⟩
        cases text with
        | nil => cases measured
        | cons c text =>
            rw [List.forall_mem_cons] at each
            exact ⟨[c], singleton_mem_one.mpr each.1, text,
              inductionHypothesis.mpr ⟨Nat.succ.inj measured, each.2⟩, rfl⟩

/-! ## What a shape begins with -/

/-- No text of the shape begins with such a character. -/
def Apart (shape : Language Char) (goesOn : Char → Bool) : Prop :=
  ∀ text ∈ shape, headIs goesOn text = false

namespace Apart

variable {goesOn : Char → Bool} {first second : Language Char}

theorem one (none : ∀ c, test c = true → goesOn c = false) : Apart (one test) goesOn := by
  rintro _ ⟨c, passes, rfl⟩
  exact none c passes

/-- For a test that only a few letters pass. -/
theorem letters (letters : List Char) (isLetter : ∀ c, test c = true → c ∈ letters)
    (none : letters.any goesOn = false) : Apart (Shape.one test) goesOn :=
  .one fun c passes => Bool.eq_false_iff.mpr (List.any_eq_false.mp none c (isLetter c passes))

theorem optional (apart : Apart shape goesOn) : Apart (optional shape) goesOn := by
  intro text member
  rcases mem_optional.mp member with rfl | member
  · rfl
  · exact apart text member

theorem kstar (apart : Apart shape goesOn) : Apart shape∗ goesOn := by
  intro text member
  rcases Language.mem_kstar.mp member with ⟨parts, rfl, each⟩
  induction parts with
  | nil => rfl
  | cons part parts inductionHypothesis =>
      rw [List.forall_mem_cons] at each
      have others := inductionHypothesis each.2 (Language.join_mem_kstar each.2)
      rw [List.flatten_cons]
      cases part with
      | nil => exact others
      | cons c part => exact apart (c :: part) each.1

/-- The second shape matters where the first one may be missing. -/
theorem mul (apart : Apart first goesOn) (behind : [] ∈ first → Apart second goesOn) :
    Apart (first * second) goesOn := by
  intro text member
  rcases Language.mem_mul.mp member with ⟨front, inFirst, back, inSecond, rfl⟩
  cases front with
  | nil => exact behind inFirst back inSecond
  | cons c front => exact apart (c :: front) inFirst

end Apart

/-! ## Scanners -/

/-- A scanner measures how far a shape reaches.  Only in front of the given characters may
the shape go on. -/
structure Measures (scanner : List Char → Nat) (shape : Language Char) (goesOn : Char → Bool) :
    Prop where
  within (text : List Char) : scanner text ≤ text.length
  sound (text : List Char) : text.take (scanner text) ∈ shape
  exact {front back : List Char} (member : front ∈ shape) (ends : headIs goesOn back = false) :
    scanner (front ++ back) = front.length

theorem headIs_or {other : Char → Bool} :
    headIs (fun c => test c || other c) text = (headIs test text || headIs other text) := by
  cases text <;> rfl

namespace Measures

variable {first second : List Char → Nat} {shapeFirst shapeSecond : Language Char}
  {goesOnFirst goesOnSecond : Char → Bool}

/-- A scanner takes the whole of a text of its shape. -/
theorem whole {scanner : List Char → Nat} {goesOn : Char → Bool}
    (measures : Measures scanner shape goesOn) (member : text ∈ shape) :
    scanner text = text.length := by
  have exact := measures.exact member (rfl : headIs goesOn [] = false)
  rwa [List.append_nil] at exact

/-- A scanner that takes something takes a text that may not be missing. -/
theorem sound_of_ne_zero {scanner : List Char → Nat} {goesOn : Char → Bool}
    (measures : Measures scanner (optional shape) goesOn) (some : scanner text ≠ 0) :
    text.take (scanner text) ∈ shape := by
  rcases mem_optional.mp (measures.sound text) with nothing | member
  · have none := congrArg List.length nothing
    rw [List.length_take_of_le (measures.within text)] at none
    exact absurd none some
  · exact member

/-- Two scanners one behind the other. -/
theorem andThen (measures : Measures first shapeFirst goesOnFirst)
    (behind : Measures second shapeSecond goesOnSecond)
    (apart : Apart shapeSecond goesOnFirst) :
    Measures (fun text => first text + second (text.drop (first text)))
      (shapeFirst * shapeSecond) (fun c => goesOnFirst c || goesOnSecond c) where
  within := by
    intro text
    have inside := measures.within text
    have beyond := behind.within (text.drop (first text))
    rw [List.length_drop] at beyond
    omega
  sound := by
    intro text
    rw [List.take_add]
    exact Language.append_mem_mul (measures.sound text) (behind.sound _)
  exact := by
    intro front back member ends
    rw [headIs_or, Bool.or_eq_false_iff] at ends
    rcases Language.mem_mul.mp member with ⟨front, inFirst, inner, inSecond, rfl⟩
    have stop : headIs goesOnFirst (inner ++ back) = false := by
      cases inner with
      | nil => exact ends.1
      | cons c inner => exact apart (c :: inner) inSecond
    have taken := measures.exact inFirst stop
    have others := behind.exact inSecond ends.2
    rw [List.append_assoc]
    simp only [taken, List.drop_left, others, List.length_append]

/-- The run of the characters that pass a test. -/
theorem run (test : Char → Bool) : Measures (runLength test) (one test)∗ test where
  within := runLength_le test
  sound := by
    intro text
    rw [take_runLength]
    exact mem_one_kstar.mpr (List.all_eq_true.mp List.all_takeWhile)
  exact member ends := runLength_append (mem_one_kstar.mp member) ends

/-- One character, if it passes a test. -/
theorem single (test : Char → Bool) :
    Measures (fun text => if headIs test text then 1 else 0) (optional (one test)) test where
  within := by
    intro text
    cases text with
    | nil => exact Nat.zero_le _
    | cons c text =>
        split
        · exact Nat.succ_le_succ (Nat.zero_le _)
        · exact Nat.zero_le _
  sound := by
    intro text
    cases text with
    | nil => exact nil_mem_optional _
    | cons c text =>
        split
        · rename_i passes
          exact mem_optional_of_mem (singleton_mem_one.mpr passes)
        · exact nil_mem_optional _
  exact := by
    intro front back member ends
    rcases mem_optional.mp member with rfl | ⟨c, passes, rfl⟩
    · exact if_neg (Bool.eq_false_iff.mp ends)
    · exact if_pos passes

end Measures
end Shape
end Offside
