import Offside.Layout.Column
import Offside.Proofs.Text.Classes

namespace Offside

/-!
# Texts with other blanks

Most things that are read from a text are without blanks: whoever reads them looks at the
text up to its first blank and no further.  So two texts that agree up to there are the
same to such a reader.

A text is respaced when some of its blanks are replaced by others.  Behind a common front
the two texts still agree up to the first blank, and what is no blank stays where it was
among the others.
-/

/-! ## Up to the first blank -/

/-- Two texts that agree up to their first blank. -/
inductive SameWord : List Char → List Char → Prop
  | nil : SameWord [] []
  | blank {c d : Char} {text other : List Char} (here : isBlank c = true)
      (there : isBlank d = true) : SameWord (c :: text) (d :: other)
  | keep {text other : List Char} (c : Char) (behind : SameWord text other) :
      SameWord (c :: text) (c :: other)

namespace SameWord

variable {text other : List Char} {test : Char → Bool}

theorem append (same : SameWord text other) (front : List Char) :
    SameWord (front ++ text) (front ++ other) := by
  induction front with
  | nil => exact same
  | cons c front inductionHypothesis => exact .keep c inductionHypothesis

theorem headIs (same : SameWord text other)
    (noBlank : ∀ c, test c = true → isBlank c = false) :
    Offside.headIs test other = Offside.headIs test text := by
  cases same with
  | nil => rfl
  | keep c behind => rfl
  | @blank c d text other here there =>
      have fails : ∀ {c : Char}, isBlank c = true → test c = false := by
        intro c blank
        refine Bool.eq_false_iff.mpr fun passes => ?_
        rw [noBlank c passes] at blank
        cases blank
      exact (fails there).trans (fails here).symm

theorem runLength (same : SameWord text other)
    (noBlank : ∀ c, test c = true → isBlank c = false) :
    Offside.runLength test other = Offside.runLength test text := by
  induction same with
  | nil => rfl
  | blank here there =>
      have fails : ∀ {c : Char} (rest : List Char), isBlank c = true →
          Offside.runLength test (c :: rest) = 0 := by
        intro c rest blank
        refine runLength_eq_zero (Bool.eq_false_iff.mpr fun passes => ?_)
        rw [noBlank c passes] at blank
        cases blank
      exact (fails _ there).trans (fails _ here).symm
  | keep c behind inductionHypothesis =>
      rw [runLength_cons, runLength_cons, inductionHypothesis]

/-- Characters that are no blanks are the same in both texts. -/
theorem split {count : Nat} (same : SameWord text other) (solid : Solid count text) :
    SameWord (text.drop count) (other.drop count) ∧ other.take count = text.take count := by
  induction count generalizing text other with
  | zero => exact ⟨same, rfl⟩
  | succ count inductionHypothesis =>
      cases same with
      | nil => exact ⟨.nil, rfl⟩
      | blank here there =>
          have solidHere := solid.noBlank _ List.mem_cons_self
          rw [here] at solidHere
          cases solidHere
      | keep c behind =>
          have solidBehind : Solid count _ :=
            ⟨Nat.le_of_succ_le_succ solid.within,
              fun d member => solid.noBlank d (List.mem_cons_of_mem _ member)⟩
          have rest := inductionHypothesis behind solidBehind
          exact ⟨rest.1, congrArg (c :: ·) rest.2⟩

theorem drop {count : Nat} (same : SameWord text other) (solid : Solid count text) :
    SameWord (text.drop count) (other.drop count) :=
  (same.split solid).1

theorem take {count : Nat} (same : SameWord text other) (solid : Solid count text) :
    other.take count = text.take count :=
  (same.split solid).2

end SameWord

/-! ## Other blanks -/

/-- A text, and the text in which some of its characters have given way to stretches of
others, all of them of one class. -/
inductive Respaced (inert : Char → Bool) : List Char → List Char → Prop
  | nil : Respaced inert [] []
  | keep {text other : List Char} (c : Char) (behind : Respaced inert text other) :
      Respaced inert (c :: text) (c :: other)
  | replace {c d : Char} {more text other : List Char} (here : inert c = true)
      (there : inert d = true) (each : ∀ e ∈ more, inert e = true)
      (behind : Respaced inert text other) : Respaced inert (c :: text) (d :: (more ++ other))

namespace Respaced

variable {inert test : Char → Bool} {text other : List Char}

theorem refl : ∀ text : List Char, Respaced inert text text
  | [] => .nil
  | c :: text => .keep c (refl text)

theorem append (respaced : Respaced inert text other) (front : List Char) :
    Respaced inert (front ++ text) (front ++ other) := by
  induction front with
  | nil => exact respaced
  | cons c front inductionHypothesis => exact .keep c inductionHypothesis

theorem sameWord (blank : ∀ c, inert c = true → isBlank c = true)
    (respaced : Respaced inert text other) : SameWord text other := by
  induction respaced with
  | nil => exact .nil
  | keep c behind inductionHypothesis => exact .keep c inductionHypothesis
  | replace here there each behind => exact .blank (blank _ here) (blank _ there)

theorem isEmpty (respaced : Respaced inert text other) : other.isEmpty = text.isEmpty := by
  cases respaced <;> rfl

/-- A part of a text in front of what has become of the other part. -/
theorem take_append {count : Nat} (respaced : Respaced inert (text.drop count) other) :
    (text.take count ++ other).take count = text.take count ∧
      (text.take count ++ other).drop count = other := by
  rcases Nat.le_total count text.length with within | beyond
  · have length := List.length_take_of_le within
    exact ⟨List.take_left' length, List.drop_left' length⟩
  · rw [List.drop_of_length_le beyond] at respaced
    cases respaced
    rw [List.append_nil, List.take_of_length_le beyond]
    exact ⟨List.take_of_length_le beyond, List.drop_of_length_le beyond⟩

/-- A text of one class stays a text of that class. -/
theorem all (respaced : Respaced inert text other) (each : ∀ c ∈ text, inert c = true) :
    ∀ c ∈ other, inert c = true := by
  induction respaced with
  | nil => exact each
  | keep c behind inductionHypothesis =>
      rw [List.forall_mem_cons] at each ⊢
      exact ⟨each.1, inductionHypothesis each.2⟩
  | replace here there more behind inductionHypothesis =>
      rw [List.forall_mem_cons] at each ⊢
      refine ⟨there, fun e member => ?_⟩
      exact (List.mem_append.mp member).elim (more e) (inductionHypothesis each.2 e)

/-- A test that gives one answer for the whole class tells nothing about the change. -/
theorem headIs (answer : Bool) (blind : ∀ c, inert c = true → test c = answer)
    (respaced : Respaced inert text other) :
    Offside.headIs test other = Offside.headIs test text := by
  cases respaced with
  | nil => rfl
  | keep c behind => rfl
  | replace here there each behind => exact (blind _ there).trans (blind _ here).symm

/-- Marks that are not of the class stand in front of both texts or of none. -/
theorem isPrefixOf {marks : List Char} (fixed : ∀ mark ∈ marks, inert mark = false)
    (respaced : Respaced inert text other) : marks.isPrefixOf other = marks.isPrefixOf text := by
  induction marks generalizing text other with
  | nil => rw [List.isPrefixOf_nil_left, List.isPrefixOf_nil_left]
  | cons mark marks inductionHypothesis =>
      rw [List.forall_mem_cons] at fixed
      have differs : ∀ {c : Char} (rest : List Char), inert c = true →
          (mark :: marks).isPrefixOf (c :: rest) = false := by
        intro c rest isInert
        rw [List.isPrefixOf_cons_cons, Bool.and_eq_false_iff, beq_eq_false_iff_ne]
        refine .inl fun same => ?_
        rw [← same, fixed.1] at isInert
        cases isInert
      cases respaced with
      | nil => rfl
      | keep c behind =>
          rw [List.isPrefixOf_cons_cons, List.isPrefixOf_cons_cons,
            inductionHypothesis fixed.2 behind]
      | replace here there each behind => exact (differs _ there).trans (differs _ here).symm

/-- Skipping a run that takes in the whole class. -/
theorem dropWhile (passes : ∀ c, inert c = true → test c = true)
    (respaced : Respaced inert text other) :
    Respaced inert (text.dropWhile test) (other.dropWhile test) := by
  induction respaced with
  | nil => exact .nil
  | keep c behind inductionHypothesis =>
      rw [List.dropWhile_cons, List.dropWhile_cons]
      split
      · exact inductionHypothesis
      · exact .keep c behind
  | replace here there each behind inductionHypothesis =>
      rw [List.dropWhile_cons_of_pos (passes _ here), List.dropWhile_cons_of_pos (passes _ there),
        List.dropWhile_append_of_pos fun e member => passes e (each e member)]
      exact inductionHypothesis

/-- A run that stops at the class ends at the same place. -/
theorem runLength (stops : ∀ c, inert c = true → test c = false)
    (respaced : Respaced inert text other) :
    Offside.runLength test other = Offside.runLength test text := by
  induction respaced with
  | nil => rfl
  | keep c behind inductionHypothesis => rw [runLength_cons, runLength_cons, inductionHypothesis]
  | replace here there each behind =>
      rw [runLength_cons, runLength_cons, stops _ here, stops _ there]
      rfl

end Respaced

/-!
## Carriage returns in front of line feeds

Some systems end a line with a carriage return and a line feed.  The carriage return is a
blank, so a text with such line ends is the text with other blanks.  It fills a column of
its line, but the line feed behind it ends the line anyhow.
-/

/-- A text with a carriage return in front of each of its line feeds. -/
def crlf : List Char → List Char
  | [] => []
  | c :: text => if c == '\n' then '\r' :: '\n' :: crlf text else c :: crlf text

/-- A text of a source with a carriage return in front of each of its line feeds. -/
def withReturns (text : String) : String := String.ofList (crlf text.toList)

theorem isBlank_return : isBlank '\r' = true := by decide +kernel

/-- A text within a line. -/
def Unbroken (text : List Char) : Prop := ∀ c ∈ text, c ≠ '\n'

variable {text other : List Char} {c : Char}

theorem crlf_newline (text : List Char) : crlf ('\n' :: text) = '\r' :: '\n' :: crlf text := rfl

theorem crlf_cons (noBreak : c ≠ '\n') (text : List Char) : crlf (c :: text) = c :: crlf text :=
  if_neg (by simpa using noBreak)

theorem crlf_ne_nil (nonempty : text ≠ []) : crlf text ≠ [] := by
  cases text with
  | nil => exact absurd rfl nonempty
  | cons c text =>
      unfold crlf
      split <;> exact List.cons_ne_nil _ _

theorem crlf_append (text other : List Char) : crlf (text ++ other) = crlf text ++ crlf other := by
  induction text with
  | nil => rfl
  | cons c text inductionHypothesis =>
      rw [List.cons_append, crlf, crlf, inductionHypothesis]
      split <;> rfl

/-- What stands at the front of a text and what stands behind it. -/
theorem crlf_take_drop (count : Nat) (text : List Char) :
    (crlf text).take (crlf (text.take count)).length = crlf (text.take count) ∧
      (crlf text).drop (crlf (text.take count)).length = crlf (text.drop count) := by
  have split : crlf text = crlf (text.take count) ++ crlf (text.drop count) := by
    rw [← crlf_append, List.take_append_drop]
  constructor
  · rw [split]
    exact List.take_left
  · conv => lhs; rw [split]
    exact List.drop_left

namespace Unbroken

theorem nil : Unbroken [] := List.forall_mem_nil _

theorem cons (unbroken : Unbroken text) (noBreak : c ≠ '\n') : Unbroken (c :: text) :=
  List.forall_mem_cons.mpr ⟨noBreak, unbroken⟩

theorem append (unbroken : Unbroken text) (further : Unbroken other) : Unbroken (text ++ other) :=
  List.forall_mem_append.mpr ⟨unbroken, further⟩

theorem of_noBlank (noBlank : ∀ c ∈ text, isBlank c = false) : Unbroken text := by
  intro c member lineBreak
  have solid := noBlank c member
  rw [lineBreak, isBlank_newline] at solid
  cases solid

theorem of_contains (noBreak : text.contains '\n' = false) : Unbroken text := by
  intro c member lineBreak
  rw [lineBreak] at member
  rw [List.contains_iff_mem.mpr member] at noBreak
  cases noBreak

/-- A run of a class without the line feed. -/
theorem run {test : Char → Bool} (stops : test '\n' = false) (text : List Char) :
    Unbroken (text.take (runLength test text)) := by
  intro c member lineBreak
  rw [take_runLength] at member
  have passes := List.all_eq_true.mp List.all_takeWhile c member
  rw [lineBreak, stops] at passes
  cases passes

theorem take (unbroken : Unbroken text) (count : Nat) : Unbroken (text.take count) :=
  fun c member => unbroken c (List.mem_of_mem_take member)

theorem crlf_eq (unbroken : Unbroken text) : crlf text = text := by
  induction text with
  | nil => rfl
  | cons c text inductionHypothesis =>
      rcases List.forall_mem_cons.mp unbroken with ⟨noBreak, behind⟩
      rw [crlf_cons noBreak, inductionHypothesis behind]

theorem contains (unbroken : Unbroken text) : text.contains '\n' = false := by
  rw [Bool.eq_false_iff, Ne, List.contains_iff_mem]
  exact fun member => unbroken _ member rfl

end Unbroken

/-- A carriage return comes in front of a blank. -/
theorem crlf_respaced (text : List Char) : Respaced isBlank text (crlf text) := by
  induction text with
  | nil => exact .nil
  | cons c text inductionHypothesis =>
      by_cases lineBreak : c = '\n'
      · rw [lineBreak, crlf_newline]
        exact .replace isBlank_newline isBlank_return
          (List.forall_mem_singleton.mpr isBlank_newline) inductionHypothesis
      · rw [crlf_cons lineBreak]
        exact .keep c inductionHypothesis

theorem crlf_sameWord (text : List Char) : SameWord text (crlf text) :=
  (crlf_respaced text).sameWord fun _ blank => blank

theorem contains_newline_crlf (text : List Char) :
    (crlf text).contains '\n' = text.contains '\n' := by
  induction text with
  | nil => rfl
  | cons c text inductionHypothesis =>
      by_cases lineBreak : c = '\n'
      · rw [lineBreak, crlf_newline]
        rfl
      · rw [crlf_cons lineBreak, List.contains_cons, List.contains_cons, inductionHypothesis]

/-- A line begins in the same column, however the line before it ends. -/
theorem Column.afterText_crlf (tabWidth column : Nat) (text : List Char) :
    afterText tabWidth column (crlf text) = afterText tabWidth column text := by
  induction text generalizing column with
  | nil => rfl
  | cons c text inductionHypothesis =>
      by_cases lineBreak : c = '\n'
      · rw [lineBreak, crlf_newline]
        exact inductionHypothesis _
      · rw [crlf_cons lineBreak]
        exact inductionHypothesis _

end Offside
