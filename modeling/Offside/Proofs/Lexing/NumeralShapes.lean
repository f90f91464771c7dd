import Offside.Proofs.Lexing.Numerals
import Offside.Proofs.Text.Shapes

namespace Offside

/-!
# The shapes of numerals

An integer has decimal digits, or hexadecimal digits behind `0x`, and perhaps the letter of
a long integer.  A floating point numeral has a fraction, an exponent or the letter of a
type, and it may begin with its point.  The parts come in a fixed order, and no part begins
with a character that the part in front of it could go on with.  So every part is measured
as a whole where it stands, and so is the numeral.

A minus sign in front belongs to a numeral that begins with a digit.
-/

open CharClass Shape
open scoped Computability

namespace Numeral

/-! ## Shapes -/

/-- Digits, with at most one underscore between two of them. -/
def digits (digit : Char → Bool) : Language Char :=
  one digit * (optional {['_']} * one digit)∗

def fraction : Language Char := {['.']} * digits isDigit

def isSign (c : Char) : Bool := c == '+' || c == '-'

def exponent : Language Char :=
  one startsExponent * (optional (one isSign) * (one isDigit * (one isDigit)∗))

def isFloatLetter (c : Char) : Bool := c == 'd' || c == 'f' || c == 'D' || c == 'F'

def isLongLetter (c : Char) : Bool := c == 'l' || c == 'L'

def isHexadecimalLetter (c : Char) : Bool := c == 'x' || c == 'X'

def hexadecimal : Language Char :=
  {['0']} * (one isHexadecimalLetter * digits isHexDigit)

/-- Integers without a sign. -/
def wholeIntegers : Language Char :=
  (digits isDigit + hexadecimal) * optional (one isLongLetter)

/-- What a floating point numeral may end in: an exponent and the letter of its type. -/
def ending : Language Char := optional exponent * optional (one isFloatLetter)

/-- Floating point numerals that begin with their point. -/
def pointFloats : Language Char := fraction * ending

/-- Floating point numerals that begin with a digit: with a fraction, with an exponent or with
the letter of a type. -/
def wholeFloats : Language Char :=
  digits isDigit * pointFloats +
    digits isDigit * (exponent * optional (one isFloatLetter)) +
    digits isDigit * (optional exponent * one isFloatLetter)

def integers : Language Char := optional {['-']} * wholeIntegers

/-- The floating point numerals.  One that begins with its point has no sign. -/
def floats : Language Char := optional {['-']} * wholeFloats + pointFloats

/-! ## Digits -/

variable {digit : Char → Bool} {text front back : List Char} {c : Char}

theorem mem_grouped :
    text ∈ optional {['_']} * one digit ↔
      ∃ d, digit d = true ∧ (text = [d] ∨ text = ['_', d]) := by
  rw [Language.mem_mul]
  constructor
  · rintro ⟨mark, marked, _, ⟨d, passes, rfl⟩, rfl⟩
    rcases mem_optional.mp marked with rfl | marked
    · exact ⟨d, passes, .inl rfl⟩
    · rw [mem_word.mp marked]
      exact ⟨d, passes, .inr rfl⟩
  · rintro ⟨d, passes, rfl | rfl⟩
    · exact ⟨[], nil_mem_optional _, [d], singleton_mem_one.mpr passes, rfl⟩
    · exact ⟨['_'], mem_optional_of_mem rfl, [d], singleton_mem_one.mpr passes, rfl⟩

/-- By the cases of the scanner. -/
theorem take_moreDigitsLength (digit : Char → Bool) : ∀ text : List Char,
    text.take (moreDigitsLength digit text) ∈ (optional {['_']} * one digit)∗
  | [] => Language.nil_mem_kstar _
  | c :: rest => by
      rw [moreDigitsLength_cons]
      split
      · rename_i first
        have others := take_moreDigitsLength digit rest
        exact append_mem_kstar (mem_grouped.mpr ⟨c, first, .inl rfl⟩) others
      · split
        · rename_i grouped
          rw [Bool.and_eq_true, beq_iff_eq] at grouped
          rcases grouped with ⟨rfl, first⟩
          cases rest with
          | nil => cases first
          | cons d rest =>
              have others := take_moreDigitsLength digit rest
              exact append_mem_kstar (mem_grouped.mpr ⟨d, first, .inr rfl⟩) others
        · exact Language.nil_mem_kstar _

/-- By induction on the groups. -/
theorem moreDigitsLength_flatten {groups : List (List Char)}
    (each : ∀ group ∈ groups, group ∈ optional {['_']} * one digit)
    (ends : headIs (fun c => digit c || c == '_') back = false) :
    moreDigitsLength digit (groups.flatten ++ back) = groups.flatten.length := by
  induction groups with
  | nil =>
      rw [headIs_or, Bool.or_eq_false_iff] at ends
      cases back with
      | nil => rfl
      | cons c back =>
          have noDigit : digit c = false := ends.1
          have noMark : (c == '_') = false := ends.2
          rw [List.flatten_nil, List.nil_append, moreDigitsLength_cons, noDigit, noMark]
          rfl
  | cons group groups inductionHypothesis =>
      rw [List.forall_mem_cons] at each
      have others := inductionHypothesis each.2
      rw [List.flatten_cons, List.append_assoc, List.length_append]
      generalize groups.flatten ++ back = rest at others
      have further : ∀ d, digit d = true →
          moreDigitsLength digit (d :: rest) = 1 + groups.flatten.length := by
        intro d passes
        rw [moreDigitsLength_cons, if_pos passes, others, Nat.add_comm]
      rcases mem_grouped.mp each.1 with ⟨d, passes, rfl | rfl⟩
      · exact further d passes
      · show moreDigitsLength digit ('_' :: d :: rest) = 2 + groups.flatten.length
        have grouped : ('_' == '_' && headIs digit (d :: rest)) = true := passes
        rw [moreDigitsLength_cons, further d passes, if_pos grouped, List.drop_succ_cons,
          List.drop_zero, others]
        split <;> omega

theorem measures_digits (noBlank : ∀ c, digit c = true → isBlank c = false) :
    Measures (digitsLength digit) (optional (digits digit)) (fun c => digit c || c == '_') where
  within text := (digitsLength_solid noBlank text).within
  sound := by
    intro text
    cases text with
    | nil => exact nil_mem_optional _
    | cons c rest =>
        rw [digitsLength_cons]
        split
        · rename_i first
          exact mem_optional_of_mem (Language.append_mem_mul (singleton_mem_one.mpr first)
            (take_moreDigitsLength digit rest))
        · exact nil_mem_optional _
  exact := by
    intro front back member ends
    rcases mem_optional.mp member with rfl | member
    · rw [headIs_or, Bool.or_eq_false_iff] at ends
      cases back with
      | nil => rfl
      | cons c back => exact if_neg (Bool.eq_false_iff.mp ends.1)
    · rcases Language.mem_mul.mp member with ⟨_, ⟨c, first, rfl⟩, others, grouped, rfl⟩
      rcases Language.mem_kstar.mp grouped with ⟨groups, rfl, each⟩
      rw [List.append_assoc, List.cons_append, List.nil_append, digitsLength_cons, if_pos first,
        moreDigitsLength_flatten each ends]
      rfl

theorem measures_decimal :
    Measures (digitsLength isDigit) (optional (digits isDigit))
      (fun c => isDigit c || c == '_') :=
  measures_digits isBlank_of_isDigit

theorem digitsLength_ne_zero (first : headIs digit text = true) : digitsLength digit text ≠ 0 := by
  cases text with
  | nil => cases first
  | cons c text =>
      have passes : digit c = true := first
      rw [digitsLength_cons, if_pos passes]
      exact Nat.succ_ne_zero _

theorem exists_of_mem_digits (member : text ∈ digits digit) :
    ∃ c rest, text = c :: rest ∧ digit c = true := by
  rcases Language.mem_mul.mp member with ⟨_, ⟨c, first, rfl⟩, others, -, rfl⟩
  exact ⟨c, others, rfl, first⟩

/-! ## Fractions, exponents and letters -/

theorem measures_fraction :
    Measures fractionLength (optional fraction) (fun c => (isDigit c || c == '_') || c == '.') where
  within text := (fractionLength_solid text).within
  sound := by
    intro text
    cases text with
    | nil => exact nil_mem_optional _
    | cons c rest =>
        rw [fractionLength_cons]
        split
        · rename_i starts
          rw [Bool.and_eq_true, beq_iff_eq] at starts
          rcases starts with ⟨rfl, first⟩
          exact mem_optional_of_mem (Language.append_mem_mul (mem_word.mpr rfl)
            (measures_decimal.sound_of_ne_zero (digitsLength_ne_zero first)))
        · exact nil_mem_optional _
  exact := by
    intro front back member ends
    rw [headIs_or, Bool.or_eq_false_iff] at ends
    rcases mem_optional.mp member with rfl | member
    · cases back with
      | nil => rfl
      | cons c back =>
          have noPoint : (c == '.') = false := ends.2
          rw [List.nil_append, fractionLength_cons, noPoint]
          rfl
    · rcases Language.mem_mul.mp member with ⟨_, rfl, others, inside, rfl⟩
      have measured := measures_decimal.exact (mem_optional_of_mem inside) ends.1
      rcases exists_of_mem_digits inside with ⟨c, rest, rfl, first⟩
      have starts : ('.' == '.' && headIs isDigit (c :: rest ++ back)) = true := first
      rw [List.append_assoc, List.cons_append, List.nil_append, fractionLength_cons,
        if_pos starts, measured]
      rfl

/-- The decimal digits, one by one. -/
def decimals : List Char := ['0', '1', '2', '3', '4', '5', '6', '7', '8', '9']

theorem mem_of_isDigit (digit : isDigit c = true) : c ∈ decimals := by
  unfold isDigit at digit
  simp only [Bool.and_eq_true, decide_eq_true_eq] at digit
  exact of_decide_eq_true
    (holds_of_between (fun c => decide (c ∈ decimals)) (by decide) digit.1 digit.2)

theorem apart_digit {goesOn : Char → Bool} (none : decimals.any goesOn = false) :
    Apart (one isDigit) goesOn :=
  .letters _ (fun _ => mem_of_isDigit) none

theorem take_exponentLength (text : List Char) :
    text.take (exponentLength text) ∈ optional exponent := by
  cases text with
  | nil => exact nil_mem_optional _
  | cons c rest =>
      rw [exponentLength_cons]
      split
      · rename_i starts
        have sign : rest.take (if headIs (fun c => c == '+' || c == '-') rest then 1 else 0) ∈
            optional (one isSign) := (Measures.single isSign).sound rest
        dsimp only
        generalize (if headIs _ rest = true then 1 else 0) = mark at sign ⊢
        have number := mem_one_kstar.mp ((Measures.run isDigit).sound (rest.drop mark))
        have within := runLength_le isDigit (rest.drop mark)
        generalize runLength isDigit (rest.drop mark) = length at number within ⊢
        split
        · exact nil_mem_optional _
        · rename_i some
          have nonempty : (rest.drop mark).take length ≠ [] := by
            rw [← List.length_pos_iff, List.length_take_of_le within]
            exact Nat.pos_of_ne_zero some
          rw [Nat.add_assoc, Nat.add_comm, List.take_succ_cons, List.take_add]
          exact mem_optional_of_mem (Language.append_mem_mul (singleton_mem_one.mpr starts)
            (Language.append_mem_mul sign (mem_one_mul_kstar.mpr ⟨nonempty, number⟩)))
      · exact nil_mem_optional _

/-- The digits cannot begin with a second sign. -/
theorem exponentLength_of_mem (member : front ∈ optional exponent)
    (ends : headIs (fun c => startsExponent c || isDigit c) back = false) :
    exponentLength (front ++ back) = front.length := by
  rw [headIs_or, Bool.or_eq_false_iff] at ends
  rcases mem_optional.mp member with rfl | member
  · cases back with
    | nil => rfl
    | cons c back => exact if_neg (Bool.eq_false_iff.mp ends.1)
  · rcases Language.mem_mul.mp member with ⟨_, ⟨c, starts, rfl⟩, _, inside, rfl⟩
    rcases Language.mem_mul.mp inside with ⟨mark, isMark, number, inNumber, rfl⟩
    rcases mem_one_mul_kstar.mp inNumber with ⟨nonempty, each⟩
    have noSign : headIs isSign (number ++ back) = false := by
      rcases List.exists_cons_of_ne_nil nonempty with ⟨d, others, rfl⟩
      exact apart_digit (by decide) [d] (singleton_mem_one.mpr (each d List.mem_cons_self))
    have sign : (if headIs (fun c => c == '+' || c == '-') (mark ++ (number ++ back)) then 1
        else 0) = mark.length := (Measures.single isSign).exact isMark noSign
    have some : number.length ≠ 0 := mt List.length_eq_zero_iff.mp nonempty
    rw [List.append_assoc, List.cons_append, List.nil_append, List.append_assoc,
      exponentLength_cons, if_pos starts, sign]
    dsimp only
    rw [List.drop_left, runLength_append each ends.2, if_neg some, List.length_append,
      List.length_append, ← Nat.add_assoc]
    rfl

theorem measures_exponent :
    Measures exponentLength (optional exponent) (fun c => startsExponent c || isDigit c) where
  within text := (exponentLength_solid text).within
  sound := take_exponentLength
  exact := exponentLength_of_mem

theorem mem_of_isFloatLetter (letter : isFloatLetter c = true) : c ∈ ['d', 'f', 'D', 'F'] := by
  simpa [isFloatLetter, or_assoc] using letter

theorem mem_of_isLongLetter (letter : isLongLetter c = true) : c ∈ ['l', 'L'] := by
  simpa [isLongLetter] using letter

theorem mem_of_startsExponent (letter : startsExponent c = true) : c ∈ ['e', 'E'] := by
  simpa [startsExponent] using letter

/-! ## What stands behind the digits -/

theorem apart_exponent {goesOn : Char → Bool}
    (none : ['e', 'E'].any goesOn = false) : Apart exponent goesOn :=
  .mul (.letters _ (fun _ => mem_of_startsExponent) none)
    fun nothing => absurd nothing (nil_notMem_one _)

theorem apart_letter {goesOn : Char → Bool}
    (none : ['d', 'f', 'D', 'F'].any goesOn = false) :
    Apart (optional (one isFloatLetter)) goesOn :=
  .optional (.letters _ (fun _ => mem_of_isFloatLetter) none)

def endingLength (text : List Char) : Nat :=
  exponentLength text + floatSuffixLength (text.drop (exponentLength text))

theorem apart_ending {goesOn : Char → Bool}
    (none : (['e', 'E'] ++ ['d', 'f', 'D', 'F']).any goesOn = false) :
    Apart ending goesOn := by
  rw [List.any_append, Bool.or_eq_false_iff] at none
  exact .mul (.optional (apart_exponent none.1)) fun _ => apart_letter none.2

theorem measures_ending :
    Measures endingLength ending (fun c => (startsExponent c || isDigit c) || isFloatLetter c) :=
  measures_exponent.andThen (Measures.single isFloatLetter) (apart_letter (by decide))

/-- What makes a numeral a floating point numeral, if there is any of it. -/
def tail : Language Char := optional fraction * ending

def tailLength (text : List Char) : Nat :=
  fractionLength text + endingLength (text.drop (fractionLength text))

theorem apart_tail {goesOn : Char → Bool}
    (none : ('.' :: (['e', 'E'] ++ ['d', 'f', 'D', 'F'])).any goesOn = false) :
    Apart tail goesOn := by
  rw [List.any_cons, Bool.or_eq_false_iff] at none
  refine .mul (.optional (.mul ?_ nofun)) fun _ => apart_ending none.2
  rintro _ rfl
  exact none.1

theorem measures_tail :
    Measures tailLength tail (fun c => ((isDigit c || c == '_') || c == '.') ||
      ((startsExponent c || isDigit c) || isFloatLetter c)) :=
  measures_fraction.andThen measures_ending (apart_ending (by decide))

theorem scanPoint_eq (text : List Char) : scanPoint text = ⟨tailLength text, true, true⟩ := by
  unfold scanPoint tailLength endingLength
  dsimp only
  rw [List.drop_drop, Nat.add_assoc]

theorem scanDecimal_eq (text : List Char) :
    scanDecimal text =
      let whole := digitsLength isDigit text
      let behind := text.drop whole
      if tailLength behind = 0 then ⟨whole + longSuffixLength behind, false, true⟩
      else ⟨whole + tailLength behind, true, true⟩ := by
  unfold scanDecimal tailLength endingLength
  dsimp only
  generalize digitsLength isDigit text = whole
  rw [List.drop_drop, List.drop_drop, Nat.add_assoc whole, Nat.add_assoc whole,
    ← Nat.add_assoc (fractionLength _)]
  generalize fractionLength _ + _ + _ = behind
  by_cases none : behind = 0
  · rw [if_pos none, if_pos (by omega)]
  · rw [if_neg none, if_neg (by omega)]

theorem mem_tail_of_mem_ending (member : text ∈ ending) : text ∈ tail :=
  Language.append_mem_mul (nil_mem_optional fraction) member

theorem mem_tail_of_mem_pointFloats (member : text ∈ pointFloats) : text ∈ tail := by
  rcases Language.mem_mul.mp member with ⟨front, inFraction, back, inEnding, rfl⟩
  exact Language.append_mem_mul (mem_optional_of_mem inFraction) inEnding

theorem nil_notMem_pointFloats : [] ∉ pointFloats :=
  nil_notMem_mul (nil_notMem_mul nofun)

/-- A floating point numeral has something behind its digits. -/
theorem mem_wholeFloats :
    text ∈ wholeFloats ↔
      ∃ whole ∈ digits isDigit, ∃ behind ∈ tail, behind ≠ [] ∧ whole ++ behind = text := by
  have ofParts : ∀ shape : Language Char, (∀ text ∈ shape, text ∈ tail) → [] ∉ shape →
      text ∈ digits isDigit * shape →
        ∃ whole ∈ digits isDigit, ∃ behind ∈ tail, behind ≠ [] ∧ whole ++ behind = text := by
    intro shape isTail some member
    rcases Language.mem_mul.mp member with ⟨whole, inDigits, behind, inShape, same⟩
    exact ⟨whole, inDigits, behind, isTail behind inShape,
      fun nothing => some (nothing ▸ inShape), same⟩
  unfold wholeFloats
  rw [Language.mem_add, Language.mem_add]
  constructor
  · rintro ((member | member) | member)
    · exact ofParts _ (fun _ => mem_tail_of_mem_pointFloats) nil_notMem_pointFloats member
    · refine ofParts _ (fun text inside => mem_tail_of_mem_ending ?_)
        (nil_notMem_mul (nil_notMem_mul (nil_notMem_one _))) member
      rcases Language.mem_mul.mp inside with ⟨front, inExponent, back, isLetter, rfl⟩
      exact Language.append_mem_mul (mem_optional_of_mem inExponent) isLetter
    · refine ofParts _ (fun text inside => mem_tail_of_mem_ending ?_) ?_ member
      · rcases Language.mem_mul.mp inside with ⟨front, inExponent, back, isLetter, rfl⟩
        exact Language.append_mem_mul inExponent (mem_optional_of_mem isLetter)
      · intro nothing
        rcases Language.mem_mul.mp nothing with ⟨front, -, _, ⟨c, -, rfl⟩, same⟩
        exact List.append_ne_nil_of_right_ne_nil _ (List.cons_ne_nil _ _) same
  · rintro ⟨whole, inDigits, behind, inTail, some, rfl⟩
    rcases Language.mem_mul.mp inTail with ⟨point, isFraction, _, inEnding, rfl⟩
    rcases mem_optional.mp isFraction with rfl | inFraction
    · rw [List.nil_append] at some ⊢
      rcases Language.mem_mul.mp inEnding with ⟨power, isExponent, letter, isLetter, rfl⟩
      rcases mem_optional.mp isExponent with rfl | inExponent
      · rcases mem_optional.mp isLetter with rfl | inLetters
        · exact absurd rfl some
        · exact .inr (Language.append_mem_mul inDigits
            (Language.append_mem_mul isExponent inLetters))
      · exact .inl (.inr (Language.append_mem_mul inDigits
          (Language.append_mem_mul inExponent isLetter)))
    · exact .inl (.inl (Language.append_mem_mul inDigits
        (Language.append_mem_mul inFraction inEnding)))

/-! ## Numerals without a sign -/

/-- The numerals that begin with a digit, by whether they are floating point numerals. -/
def wholes : Bool → Language Char
  | false => wholeIntegers
  | true => wholeFloats

theorem measures_long :
    Measures longSuffixLength (optional (one isLongLetter)) isLongLetter :=
  Measures.single isLongLetter

theorem measures_hexadecimal :
    Measures (digitsLength isHexDigit) (optional (digits isHexDigit))
      (fun c => isHexDigit c || c == '_') :=
  measures_digits isBlank_of_isHexDigit

theorem apart_long {goesOn : Char → Bool} (none : ['l', 'L'].any goesOn = false) :
    Apart (optional (one isLongLetter)) goesOn :=
  .optional (.letters _ (fun _ => mem_of_isLongLetter) none)

/-- No letter of a hexadecimal numeral stands among decimal digits. -/
theorem startsHexadecimal_of_mem_digits (member : text ∈ digits isDigit)
    (ends : headIs isHexadecimalLetter back = false) :
    startsHexadecimal (text ++ back) = false := by
  rcases Language.mem_mul.mp member with ⟨_, ⟨c, first, rfl⟩, others, grouped, rfl⟩
  have apart : Apart (optional {['_']} * one isDigit) isHexadecimalLetter := by
    refine .mul (.optional ?_) fun _ => apart_digit (by decide)
    rintro _ rfl
    rfl
  have none : headIs isHexadecimalLetter (others ++ back) = false := by
    cases others with
    | nil => exact ends
    | cons d others => exact apart.kstar (d :: others) grouped
  unfold startsHexadecimal
  rw [List.append_assoc, List.cons_append, List.drop_succ_cons, List.nil_append, List.drop_zero]
  exact (congrArg _ none).trans (Bool.and_false _)

theorem scanUnsigned_of_digits (member : text ∈ digits isDigit)
    (ends : headIs isHexadecimalLetter back = false) :
    scanUnsigned (text ++ back) = scanDecimal (text ++ back) := by
  refine scanUnsigned_of_decimal ?_ (startsHexadecimal_of_mem_digits member ends)
  rcases exists_of_mem_digits member with ⟨c, rest, rfl, first⟩
  refine beq_eq_false_iff_ne.mpr fun point => ?_
  rw [point] at first
  cases first

theorem scanUnsigned_integer (member : text ∈ wholeIntegers) :
    scanUnsigned text = ⟨text.length, false, true⟩ := by
  rcases Language.mem_mul.mp member with ⟨number, inNumber, letter, isLetter, rfl⟩
  have long := measures_long.whole isLetter
  rcases inNumber with inDigits | inHexadecimal
  · have whole := measures_decimal.exact (mem_optional_of_mem inDigits)
      (apart_long (by decide) letter isLetter)
    have noTail : tailLength letter = 0 :=
      measures_tail.exact (mem_tail_of_mem_ending (Language.append_mem_mul (nil_mem_optional _)
        (nil_mem_optional _))) (apart_long (by decide) letter isLetter)
    rw [scanUnsigned_of_digits inDigits (apart_long (by decide) letter isLetter), scanDecimal_eq]
    dsimp only
    rw [whole, List.drop_left, if_pos noTail, long, List.length_append]
  · rcases Language.mem_mul.mp inHexadecimal with ⟨_, rfl, _, inside, rfl⟩
    rcases Language.mem_mul.mp inside with ⟨_, ⟨d, isX, rfl⟩, number, inDigits, rfl⟩
    have whole := measures_hexadecimal.exact (mem_optional_of_mem inDigits)
      (apart_long (by decide) letter isLetter)
    have starts : startsHexadecimal ('0' :: d :: (number ++ letter)) = true := isX
    have some : number.length ≠ 0 := by
      rcases exists_of_mem_digits inDigits with ⟨c, rest, rfl, -⟩
      exact Nat.succ_ne_zero _
    have outer : ['0'] ++ ([d] ++ number) ++ letter = '0' :: d :: (number ++ letter) := rfl
    rw [outer, scanUnsigned_of_hexadecimal starts]
    unfold scanHexadecimal
    dsimp only
    rw [whole, List.drop_left, long, bne_iff_ne.mpr some, List.length_cons, List.length_cons,
      List.length_append]

theorem scanUnsigned_float (member : text ∈ wholeFloats) :
    scanUnsigned text = ⟨text.length, true, true⟩ := by
  rcases mem_wholeFloats.mp member with ⟨number, inDigits, behind, inTail, some, rfl⟩
  have whole := measures_decimal.exact (mem_optional_of_mem inDigits)
    (apart_tail (by decide) behind inTail)
  have others := measures_tail.whole inTail
  rw [scanUnsigned_of_digits inDigits (apart_tail (by decide) behind inTail), scanDecimal_eq]
  dsimp only
  rw [whole, List.drop_left, others, if_neg (mt List.length_eq_zero_iff.mp some),
    List.length_append]

theorem scanUnsigned_point (member : text ∈ pointFloats) :
    scanUnsigned text = ⟨text.length, true, true⟩ := by
  have measured := measures_tail.whole (mem_tail_of_mem_pointFloats member)
  rcases Language.mem_mul.mp member with ⟨_, inFraction, back, inEnding, rfl⟩
  rcases Language.mem_mul.mp inFraction with ⟨_, rfl, number, inDigits, rfl⟩
  rw [← measured]
  exact scanPoint_eq _

theorem exists_of_startsHexadecimal (starts : startsHexadecimal text = true) :
    ∃ d rest, text = '0' :: d :: rest ∧ isHexadecimalLetter d = true := by
  unfold startsHexadecimal at starts
  rw [Bool.and_eq_true] at starts
  match text with
  | [] => cases starts.1
  | [c] => cases starts.2
  | c :: d :: rest =>
      have zero : c = '0' := beq_iff_eq.mp starts.1
      subst zero
      exact ⟨d, rest, rfl, starts.2⟩

theorem take_scanHexadecimal (wellFormed : (scanHexadecimal text).wellFormed = true) :
    text.take (scanHexadecimal text).length ∈
      digits isHexDigit * optional (one isLongLetter) := by
  unfold scanHexadecimal at wellFormed ⊢
  dsimp only at wellFormed ⊢
  rw [List.take_add]
  exact Language.append_mem_mul
    (measures_hexadecimal.sound_of_ne_zero (bne_iff_ne.mp wellFormed)) (measures_long.sound _)

theorem take_scanDecimal (digit : headIs isDigit text = true) :
    text.take (scanDecimal text).length ∈ wholes (scanDecimal text).isFloat := by
  have whole := measures_decimal.sound_of_ne_zero (digitsLength_ne_zero digit)
  rw [scanDecimal_eq]
  dsimp only
  split
  · rw [List.take_add]
    exact Language.append_mem_mul ((Language.mem_add _ _ _).mpr (.inl whole))
      (measures_long.sound _)
  · rename_i some
    rw [List.take_add]
    refine mem_wholeFloats.mpr ⟨_, whole, _, measures_tail.sound _, fun nothing => some ?_, rfl⟩
    have none := congrArg List.length nothing
    rwa [List.length_take_of_le (measures_tail.within _)] at none

/-- What is found where a digit stands. -/
theorem take_scanUnsigned (digit : headIs isDigit text = true)
    (wellFormed : (scanUnsigned text).wellFormed = true) :
    text.take (scanUnsigned text).length ∈ wholes (scanUnsigned text).isFloat := by
  by_cases starts : startsHexadecimal text = true
  · rcases exists_of_startsHexadecimal starts with ⟨d, rest, rfl, isX⟩
    rw [scanUnsigned_of_hexadecimal starts] at wellFormed ⊢
    rcases Language.mem_mul.mp (take_scanHexadecimal wellFormed) with
      ⟨number, inDigits, letter, isLetter, parts⟩
    dsimp only
    rw [List.take_succ_cons, List.take_succ_cons, ← parts]
    have prefixed : ['0'] ++ ([d] ++ number) ∈ hexadecimal :=
      Language.append_mem_mul (mem_word.mpr rfl)
        (Language.append_mem_mul (singleton_mem_one.mpr isX) inDigits)
    exact Language.append_mem_mul ((Language.mem_add _ _ _).mpr (.inr prefixed)) isLetter
  · have noPoint : headIs (· == '.') text = false := by
      cases text with
      | nil => rfl
      | cons c text => exact apart_digit (by decide) [c] (singleton_mem_one.mpr digit)
    rw [scanUnsigned_of_decimal noPoint (Bool.eq_false_iff.mpr starts)]
    exact take_scanDecimal digit

theorem take_scanUnsigned_point (digit : headIs isDigit text = true) :
    ('.' :: text).take (scanUnsigned ('.' :: text)).length ∈ pointFloats := by
  have starts : ('.' == '.' && headIs isDigit text) = true := digit
  have some : fractionLength ('.' :: text) ≠ 0 := by
    rw [fractionLength_cons, if_pos starts]
    exact Nat.succ_ne_zero _
  have reach : scanUnsigned ('.' :: text) = _ := scanPoint_eq ('.' :: text)
  rw [reach]
  unfold tailLength
  dsimp only
  rw [List.take_add]
  exact Language.append_mem_mul (measures_fraction.sound_of_ne_zero some)
    (measures_ending.sound _)

/-! ## Numerals as a whole -/

/-- The numerals, by whether they are floating point numerals. -/
def shape : Bool → Language Char
  | false => integers
  | true => floats

theorem mem_shape {isFloat : Bool} :
    text ∈ shape isFloat ↔
      text ∈ optional {['-']} * wholes isFloat ∨ isFloat = true ∧ text ∈ pointFloats := by
  cases isFloat with
  | false => exact ⟨.inl, fun either => either.resolve_right nofun⟩
  | true =>
      exact (Language.mem_add _ _ _).trans
        (or_congr_right ⟨fun member => ⟨rfl, member⟩, And.right⟩)

theorem headIs_of_mem_wholes {isFloat : Bool} (member : text ∈ wholes isFloat) :
    headIs isDigit text = true := by
  cases isFloat with
  | false =>
      rcases Language.mem_mul.mp member with ⟨number, inDigits | inHexadecimal, letter, -, rfl⟩
      · rcases exists_of_mem_digits inDigits with ⟨c, rest, rfl, first⟩
        exact first
      · rcases Language.mem_mul.mp inHexadecimal with ⟨_, rfl, behind, -, rfl⟩
        rfl
  | true =>
      rcases mem_wholeFloats.mp member with ⟨number, inDigits, behind, -, -, rfl⟩
      rcases exists_of_mem_digits inDigits with ⟨c, rest, rfl, first⟩
      exact first

theorem nil_notMem_shape (isFloat : Bool) : [] ∉ shape isFloat := by
  intro member
  rcases mem_shape.mp member with signed | ⟨-, pointed⟩
  · rcases Language.mem_mul.mp signed with ⟨mark, -, number, inWholes, nothing⟩
    have digit := headIs_of_mem_wholes inWholes
    rw [(List.append_eq_nil_iff.mp nothing).2] at digit
    cases digit
  · exact nil_notMem_pointFloats pointed

theorem scanUnsigned_of_mem {isFloat : Bool} (member : text ∈ wholes isFloat) :
    scanUnsigned text = ⟨text.length, isFloat, true⟩ := by
  cases isFloat with
  | false => exact scanUnsigned_integer member
  | true => exact scanUnsigned_float member

variable [XidStart]

theorem scan_of_scanUnsigned {mark : List Char} {isFloat : Bool} (isMark : mark ∈ optional {['-']})
    (noMark : headIs (· == '-') text = false)
    (found : scanUnsigned text = ⟨text.length, isFloat, true⟩) :
    scan (mark ++ text) = ⟨(mark ++ text).length, isFloat, true⟩ := by
  have sign : (if headIs (· == '-') (mark ++ text) then 1 else 0) = mark.length := by
    rcases mem_optional.mp isMark with rfl | isMark
    · exact if_neg (Bool.eq_false_iff.mp noMark)
    · rw [mem_word.mp isMark]
      rfl
  unfold scan
  dsimp only
  rw [sign, List.drop_left, found, ← List.length_append, List.drop_length]
  rfl

/-- A text of the shape is a numeral. -/
theorem scan_of_mem {isFloat : Bool} (member : text ∈ shape isFloat) :
    scan text = ⟨text.length, isFloat, true⟩ := by
  rcases mem_shape.mp member with signed | ⟨rfl, pointed⟩
  · rcases Language.mem_mul.mp signed with ⟨mark, isMark, number, inWholes, rfl⟩
    refine scan_of_scanUnsigned isMark ?_ (scanUnsigned_of_mem inWholes)
    have digit := headIs_of_mem_wholes inWholes
    cases number with
    | nil => rfl
    | cons c number => exact apart_digit (by decide) [c] (singleton_mem_one.mpr digit)
  · have found := scanUnsigned_point pointed
    rcases Language.mem_mul.mp pointed with ⟨_, inFraction, back, -, rfl⟩
    rcases Language.mem_mul.mp inFraction with ⟨_, rfl, number, -, rfl⟩
    show scan ([] ++ (['.'] ++ number ++ back)) = _
    exact scan_of_scanUnsigned (nil_mem_optional _) rfl found

theorem scan_of_wellFormed {mark : List Char}
    (sign : (if headIs (· == '-') (mark ++ text) then 1 else 0) = mark.length)
    (wellFormed : (scan (mark ++ text)).wellFormed = true) :
    (scanUnsigned text).wellFormed = true ∧
      scan (mark ++ text) =
        ⟨mark.length + (scanUnsigned text).length, (scanUnsigned text).isFloat, true⟩ := by
  unfold scan at wellFormed ⊢
  dsimp only at wellFormed ⊢
  rw [sign] at wellFormed ⊢
  rw [List.drop_left, Bool.and_eq_true, beq_iff_eq] at wellFormed
  rw [List.drop_left, wellFormed.1, wellFormed.2]
  exact ⟨rfl, rfl⟩

/-- What is found where a numeral may begin is a text of the shape. -/
theorem take_scan {operandBefore : Bool} {rest : List Char}
    (starts : Lexeme.startsNumeral operandBefore c rest = true)
    (wellFormed : (scan (c :: rest)).wellFormed = true) :
    (c :: rest).take (scan (c :: rest)).length ∈ shape (scan (c :: rest)).isFloat := by
  unfold Lexeme.startsNumeral at starts
  simp only [Bool.or_eq_true, Bool.and_eq_true, beq_iff_eq] at starts
  rcases starts with digit | ⟨⟨rfl | rfl, digits⟩, -⟩
  · have noMark : headIs (· == '-') ([] ++ c :: rest) = false :=
      apart_digit (by decide) [c] (singleton_mem_one.mpr digit)
    rcases scan_of_wellFormed (if_neg (Bool.eq_false_iff.mp noMark)) wellFormed with ⟨whole, found⟩
    rw [List.nil_append, List.length_nil, Nat.zero_add] at found
    rw [found, ← List.nil_append (List.take _ _)]
    exact mem_shape.mpr (.inl (Language.append_mem_mul (nil_mem_optional _)
      (take_scanUnsigned digit whole)))
  · have sign : (if headIs (· == '-') (['-'] ++ rest) then 1 else 0) = ['-'].length := rfl
    rcases scan_of_wellFormed sign wellFormed with ⟨whole, found⟩
    rw [List.singleton_append, List.length_singleton, Nat.add_comm] at found
    rw [found, List.take_succ_cons]
    exact mem_shape.mpr (.inl (Language.append_mem_mul (mem_optional_of_mem (mem_word.mpr rfl))
      (take_scanUnsigned digits whole)))
  · have sign : (if headIs (· == '-') ([] ++ '.' :: rest) then 1 else 0) =
        ([] : List Char).length := rfl
    rcases scan_of_wellFormed sign wellFormed with ⟨-, found⟩
    have reach : scanUnsigned ('.' :: rest) = _ := scanPoint_eq ('.' :: rest)
    rw [List.nil_append, List.length_nil, Nat.zero_add] at found
    rw [found]
    exact mem_shape.mpr (.inr ⟨congrArg Found.isFloat reach, take_scanUnsigned_point digits⟩)

end Numeral
end Offside
