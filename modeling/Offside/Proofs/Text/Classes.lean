import Offside.Lexeme.Run
import Offside.Proofs.Text.Ranges
import Offside.Text.Blank

namespace Offside

/-!
# Classes of characters and runs of them

No blank is part of a name or of an operator, and every digit may go on a name.  The
classes are tables that are searched by bisection, and what is found in a table lies in
one of its ranges.  There are few blanks, so they are checked one by one.

A run of characters of one class ends in front of a character that is not of the class.
What follows that character has no say in it, so a run keeps its length in front of any
other text that does not go on with it either.
-/

theorem isBlank_newline : isBlank '\n' = true := by decide +kernel

theorem isBlank_space : isBlank ' ' = true := by decide +kernel

/-- The visible characters of ASCII. -/
def isVisible (c : Char) : Bool := '!' ≤ c && c ≤ '~'

theorem isBlank_of_visible {c : Char} (visible : isVisible c = true) : isBlank c = false :=
  isBlank_of_holds isVisible (by decide +kernel) visible

/-- A visible character of ASCII is no blank. -/
theorem isBlank_of_beq {mark : Char} (visible : isVisible mark = true) (c : Char)
    (same : (c == mark) = true) : isBlank c = false := by
  rw [beq_iff_eq.mp same]
  exact isBlank_of_visible visible

theorem isBlank_of_beq_or {mark second : Char} (visible : isVisible mark = true)
    (visibleToo : isVisible second = true) (c : Char)
    (same : (c == mark || c == second) = true) : isBlank c = false :=
  ((Bool.or_eq_true _ _).mp same).elim (isBlank_of_beq visible c) (isBlank_of_beq visibleToo c)

/-- Between two visible characters there is no blank. -/
theorem isBlank_of_between {first last c : Char} (visible : isVisible first = true)
    (visibleToo : isVisible last = true) (between : (first ≤ c && c ≤ last) = true) :
    isBlank c = false := by
  simp only [isVisible, Bool.and_eq_true, decide_eq_true_eq] at visible visibleToo between
  refine isBlank_of_visible ?_
  simp only [isVisible, Bool.and_eq_true, decide_eq_true_eq]
  exact ⟨Char.le_trans visible.1 between.1, Char.le_trans between.2 visibleToo.2⟩

namespace CharClass

theorem isBlank_of_isDigit (c : Char) (digit : isDigit c = true) : isBlank c = false :=
  isBlank_of_between (by decide) (by decide) digit

theorem isBlank_of_isHexDigit (c : Char) (digit : isHexDigit c = true) : isBlank c = false := by
  unfold isHexDigit at digit
  rw [Bool.or_eq_true, Bool.or_eq_true] at digit
  rcases digit with (decimal | small) | capital
  · exact isBlank_of_isDigit c decimal
  · exact isBlank_of_between (by decide) (by decide) small
  · exact isBlank_of_between (by decide) (by decide) capital

theorem isBlank_of_isOperatorSymbol {c : Char} (symbol : isOperatorSymbol c = true) :
    isBlank c = false :=
  isBlank_of_holds isOperatorSymbol (by decide +kernel) symbol

variable [XidStart]

theorem isIdentContinue_of_isDigit {c : Char} (digit : isDigit c = true) :
    isIdentContinue c = true := by
  unfold isIdentContinue
  rw [digit, Bool.or_true]

theorem isIdentContinue_of_isIdentStart {c : Char} (starts : isIdentStart c = true) :
    isIdentContinue c = true := by
  unfold isIdentContinue
  rw [starts, Bool.true_or]

theorem isIdentStart_of_ascii {c : Char} (ascii : c.toNat < 0x80) :
    isIdentStart c = (c == '$' || c == '_' || isLetter c) := by
  have noExtra : (!identExtra.contains c) = true :=
    holds_of_between (fun c => !identExtra.contains c) (by decide +kernel) (Nat.zero_le _)
      (Nat.le_of_lt_succ ascii)
  unfold isIdentStart
  rw [XidStart.ascii c ascii, (Bool.not_eq_true' _).mp noExtra, Bool.or_false]

theorem isIdentStart_of_isLetter {c : Char} (letter : isLetter c = true) :
    isIdentStart c = true := by
  rw [isIdentStart_of_ascii, letter, Bool.or_true]
  simp only [isLetter, Bool.or_eq_true, Bool.and_eq_true, decide_eq_true_eq] at letter
  rcases letter with ⟨-, below⟩ | ⟨-, below⟩
  · exact Nat.lt_of_le_of_lt below (by decide)
  · exact Nat.lt_of_le_of_lt below (by decide)

theorem isIdentContinue_of_isLetter {c : Char} (letter : isLetter c = true) :
    isIdentContinue c = true :=
  isIdentContinue_of_isIdentStart (isIdentStart_of_isLetter letter)

theorem isIdentContinue_of_isHexDigit {c : Char} (digit : isHexDigit c = true) :
    isIdentContinue c = true := by
  unfold isHexDigit at digit
  simp only [Bool.or_eq_true, Bool.and_eq_true, decide_eq_true_eq] at digit
  rcases digit with (decimal | ⟨above, below⟩) | ⟨above, below⟩
  · exact isIdentContinue_of_isDigit decimal
  · refine isIdentContinue_of_isLetter ?_
    simp only [isLetter, Bool.or_eq_true, Bool.and_eq_true, decide_eq_true_eq]
    exact Or.inr ⟨above, Char.le_trans below (by decide)⟩
  · refine isIdentContinue_of_isLetter ?_
    simp only [isLetter, Bool.or_eq_true, Bool.and_eq_true, decide_eq_true_eq]
    exact Or.inl ⟨above, Char.le_trans below (by decide)⟩

theorem isBlank_of_isIdentContinue {c : Char} (continues : isIdentContinue c = true) :
    isBlank c = false := by
  unfold isIdentContinue isIdentStart at continues
  rw [Bool.or_eq_true, Bool.or_eq_true, Bool.or_eq_true] at continues
  rcases continues with ((mark | starts) | extra) | digit
  · exact isBlank_of_beq_or (by decide) (by decide) c mark
  · exact XidStart.noBlank c starts
  · exact isBlank_of_holds identExtra.contains (by decide +kernel) extra
  · exact isBlank_of_isDigit c digit

end CharClass

/-! ## Runs -/

variable {test : Char → Bool} {front text other : List Char}

theorem headIs_of_headIs_not (solid : headIs (fun c => !test c) text = true) :
    headIs test text = false := by
  cases text with
  | nil => rfl
  | cons c text => exact (Bool.not_eq_true' _).mp solid

/-- A text in front of which a test fails may be put behind anything in place of
another one. -/
theorem headIs_append_eq_false (further : headIs test other = true → headIs test text = true)
    (fails : headIs test (front ++ text) = false) : headIs test (front ++ other) = false := by
  cases front with
  | nil => exact Bool.eq_false_iff.mpr fun passes => Bool.eq_false_iff.mp fails (further passes)
  | cons c front => exact fails

theorem runLength_eq_zero (ends : headIs test text = false) : runLength test text = 0 := by
  cases text with
  | nil => rfl
  | cons c text =>
      have fails : test c = false := ends
      rw [runLength_cons, fails]
      rfl

theorem runLength_append_add (each : ∀ c ∈ front, test c = true) (text : List Char) :
    runLength test (front ++ text) = front.length + runLength test text := by
  induction front with
  | nil => exact (Nat.zero_add _).symm
  | cons c front inductionHypothesis =>
      rw [List.forall_mem_cons] at each
      rw [List.cons_append, runLength_cons, if_pos each.1, inductionHypothesis each.2,
        List.length_cons]
      omega

theorem runLength_append (each : ∀ c ∈ front, test c = true)
    (ends : headIs test text = false) : runLength test (front ++ text) = front.length := by
  rw [runLength_append_add each, runLength_eq_zero ends, Nat.add_zero]

/-- What a run takes passes its test, and what comes next does not. -/
theorem all_of_runLength_append (measured : runLength test (front ++ text) = front.length) :
    (∀ c ∈ front, test c = true) ∧ headIs test text = false := by
  induction front with
  | nil =>
      refine ⟨List.forall_mem_nil _, ?_⟩
      cases text with
      | nil => rfl
      | cons c text =>
          rw [List.nil_append, runLength_cons] at measured
          split at measured
          · cases measured
          · rename_i fails
            exact Bool.eq_false_iff.mpr fails
  | cons c front inductionHypothesis =>
      rw [List.cons_append, runLength_cons] at measured
      split at measured
      · rename_i passes
        rcases inductionHypothesis (Nat.succ.inj measured) with ⟨each, ends⟩
        exact ⟨List.forall_mem_cons.mpr ⟨passes, each⟩, ends⟩
      · cases measured

theorem headIs_of_runLength_eq_zero (none : runLength test text = 0) :
    headIs test text = false :=
  (@all_of_runLength_append test [] text none).2

/-- A run keeps its length in front of a text that does not go on with it. -/
theorem runLength_append_of_further
    (measured : runLength test (front ++ text) = front.length)
    (further : headIs test other = true → headIs test text = true) :
    runLength test (front ++ other) = front.length := by
  rcases all_of_runLength_append measured with ⟨each, ends⟩
  refine runLength_append each (Bool.eq_false_iff.mpr fun passes => ?_)
  exact Bool.eq_false_iff.mp ends (further passes)

/-! ## Text without blanks -/

/-- A text does not end in a blank. -/
def EndsSolid (text : List Char) : Prop := ∀ c ∈ text.getLast?, isBlank c = false

theorem EndsSolid.concat {c : Char} (solid : isBlank c = false) (text : List Char) :
    EndsSolid (text ++ [c]) := by
  intro d last
  rw [List.getLast?_concat] at last
  cases last
  exact solid

theorem EndsSolid.of_all (noBlank : ∀ c ∈ text, isBlank c = false) : EndsSolid text :=
  fun c last => noBlank c (List.mem_of_getLast? last)

theorem EndsSolid.of_visible (visible : text.all isVisible = true) : EndsSolid text :=
  .of_all fun c member => isBlank_of_visible (List.all_eq_true.mp visible c member)

theorem EndsSolid.cons {c : Char} (solid : isBlank c = false) (ends : EndsSolid text) :
    EndsSolid (c :: text) := by
  cases text with
  | nil => exact EndsSolid.concat solid []
  | cons d text => exact ends

theorem EndsSolid.append (nonempty : text ≠ []) (ends : EndsSolid text) :
    EndsSolid (front ++ text) := by
  intro c last
  rw [List.getLast?_append, List.getLast?_eq_some_getLast nonempty, Option.some_or] at last
  exact ends c (by rw [List.getLast?_eq_some_getLast nonempty]; exact last)

theorem EndsSolid.exists_concat (ends : EndsSolid text) (nonempty : text ≠ []) :
    ∃ front c, text = front ++ [c] ∧ isBlank c = false :=
  ⟨text.dropLast, text.getLast nonempty, (List.dropLast_concat_getLast nonempty).symm,
    ends _ (List.getLast?_eq_some_getLast nonempty)⟩

/-- A number of characters at the front of a text, none of them blank. -/
structure Solid (count : Nat) (text : List Char) : Prop where
  within : count ≤ text.length
  noBlank : ∀ c ∈ text.take count, isBlank c = false

namespace Solid

variable {count more : Nat} {c : Char}

theorem zero (text : List Char) : Solid 0 text :=
  ⟨Nat.zero_le _, by rw [List.take_zero]; exact List.forall_mem_nil _⟩

theorem cons (behind : Solid count text) (solid : isBlank c = false) :
    Solid (count + 1) (c :: text) where
  within := Nat.succ_le_succ behind.within
  noBlank := by
    rw [List.take_succ_cons]
    exact List.forall_mem_cons.mpr ⟨solid, behind.noBlank⟩

theorem add (first : Solid count text) (second : Solid more (text.drop count)) :
    Solid (count + more) text where
  within := by
    have beyond := second.within
    have within := first.within
    rw [List.length_drop] at beyond
    omega
  noBlank := by
    rw [List.take_add]
    intro c member
    exact (List.mem_append.mp member).elim (first.noBlank c) (second.noBlank c)

theorem one (noBlank : ∀ c, test c = true → isBlank c = false) :
    Solid (if headIs test text then 1 else 0) text := by
  cases text with
  | nil => exact .zero []
  | cons c text =>
      split
      · rename_i passes
        exact (Solid.zero text).cons (noBlank c passes)
      · exact .zero _

theorem run (noBlank : ∀ c, test c = true → isBlank c = false) (text : List Char) :
    Solid (runLength test text) text where
  within := runLength_le test text
  noBlank := by
    rw [take_runLength]
    intro c member
    exact noBlank c (List.all_eq_true.mp List.all_takeWhile c member)

end Solid

end Offside
