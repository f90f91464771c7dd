import Offside.Lexeme
import Offside.Proofs.Text.Classes

namespace Offside

/-!
# Where a numeral ends

A numeral ends where nothing can be added to it, and that is for the text behind it to
say.  One character is enough for most of it, and two where a point might begin a
fraction.  So a numeral stays what it is in front of any other text that has nothing to
add to it either.
-/

open CharClass

/-- What could be added to a lexeme in front of the second text could have been added in
front of the first one. -/
structure NoFurther [XidStart] (text other : List Char) : Prop where
  word : headIs isIdentContinue other = true → headIs isIdentContinue text = true
  digit : headIs isDigit other = true → headIs isDigit text = true
  fraction : 0 < Numeral.fractionLength other → 0 < Numeral.fractionLength text
  operators : 0 < Lexeme.operatorRunLength other → 0 < Lexeme.operatorRunLength text
  /-- A slash in front of the text begins a comment. -/
  comment : headIs (fun c => c == '/' || c == '*') other = true →
    headIs (fun c => c == '/' || c == '*') text = true
  brace : headIs (· == '{') other = true → headIs (· == '{') text = true
  quote : headIs (· == '"') other = true → headIs (· == '"') text = true

theorem NoFurther.nil [XidStart] (text : List Char) : NoFurther text [] :=
  ⟨nofun, nofun, nofun, nofun, nofun, nofun, nofun⟩

theorem exists_append {length : Nat} {text : List Char} (within : length ≤ text.length) :
    ∃ front back, text = front ++ back ∧ front.length = length :=
  ⟨text.take length, text.drop length, (List.take_append_drop length text).symm,
    List.length_take_of_le within⟩

/-! ## Numerals -/

namespace Numeral

/-- A text that cannot continue a name. -/
def Ends [XidStart] (text : List Char) : Prop := headIs isIdentContinue text = false

theorem Ends.headIs [XidStart] {test : Char → Bool} {text : List Char} (ends : Ends text)
    (continues : ∀ c, test c = true → isIdentContinue c = true) :
    Offside.headIs test text = false := by
  cases text with
  | nil => rfl
  | cons c text =>
      refine Bool.eq_false_iff.mpr fun passes => ?_
      have stop : isIdentContinue c = false := ends
      rw [continues c passes] at stop
      cases stop

theorem moreDigitsLength_cons (digit : Char → Bool) (c : Char) (rest : List Char) :
    moreDigitsLength digit (c :: rest) =
      if digit c then moreDigitsLength digit rest + 1
      else if c == '_' && headIs digit rest then moreDigitsLength digit (rest.drop 1) + 2
      else 0 := by
  conv => lhs; unfold moreDigitsLength
  by_cases underscore : c = '_'
  · subst underscore
    cases rest with
    | nil => rfl
    | cons d beyond => rfl
  · have other : (c == '_') = false := beq_eq_false_iff_ne.mpr underscore
    rw [other, Bool.false_and]
    split
    · rfl
    · split
      · exact absurd rfl underscore
      · rfl

variable {digit : Char → Bool} {text other : List Char}

theorem moreDigitsLength_of_ends [XidStart]
    (continues : ∀ c, digit c = true → isIdentContinue c = true)
    (ends : Ends text) : moreDigitsLength digit text = 0 := by
  cases text with
  | nil => rfl
  | cons c text =>
      have noDigit : digit c = false := ends.headIs continues
      have underscoreContinues : ∀ d, (d == '_') = true → isIdentContinue d = true := by
        intro d underscore
        rw [beq_iff_eq.mp underscore]
        rfl
      have noUnderscore : (c == '_') = false := ends.headIs underscoreContinues
      rw [moreDigitsLength_cons, noDigit, noUnderscore]
      rfl

/-- The digits of a group end where a name would end. -/
theorem moreDigitsLength_append [XidStart]
    (continues : ∀ c, digit c = true → isIdentContinue c = true)
    (ends : Ends text) (endsThere : Ends other) :
    ∀ front : List Char,
      moreDigitsLength digit (front ++ text) = moreDigitsLength digit (front ++ other)
  | [] => by
      rw [List.nil_append, List.nil_append, moreDigitsLength_of_ends continues ends,
        moreDigitsLength_of_ends continues endsThere]
  | [c] => by
      rw [List.cons_append, List.cons_append, moreDigitsLength_cons, moreDigitsLength_cons,
        List.nil_append, List.nil_append, moreDigitsLength_of_ends continues ends,
        moreDigitsLength_of_ends continues endsThere, ends.headIs continues,
        endsThere.headIs continues, Bool.and_false, if_neg Bool.false_ne_true,
        if_neg Bool.false_ne_true]
  | c :: d :: front => by
      have shorter := moreDigitsLength_append continues ends endsThere front
      have short := moreDigitsLength_append continues ends endsThere (d :: front)
      have outer : ∀ text, c :: d :: front ++ text = c :: (d :: front ++ text) := fun _ => rfl
      rw [outer, outer, moreDigitsLength_cons, moreDigitsLength_cons, short]
      simp only [List.cons_append, List.drop_succ_cons, List.drop_zero, shorter]
      rfl

theorem digitsLength_cons (digit : Char → Bool) (c : Char) (rest : List Char) :
    digitsLength digit (c :: rest) =
      if digit c then moreDigitsLength digit rest + 1 else 0 := rfl

theorem digitsLength_append [XidStart] (continues : ∀ c, digit c = true → isIdentContinue c = true)
    (ends : Ends text) (endsThere : Ends other) (front : List Char) :
    digitsLength digit (front ++ text) = digitsLength digit (front ++ other) := by
  cases front with
  | nil =>
      have none : ∀ {text : List Char}, Ends text → digitsLength digit text = 0 := by
        intro text ends
        cases text with
        | nil => rfl
        | cons c text =>
            have noDigit : digit c = false := ends.headIs continues
            rw [digitsLength_cons, noDigit, if_neg Bool.false_ne_true]
      rw [List.nil_append, List.nil_append, none ends, none endsThere]
  | cons c front =>
      rw [List.cons_append, List.cons_append, digitsLength_cons, digitsLength_cons,
        moreDigitsLength_append continues ends endsThere front]

/-! ### Fractions, exponents and suffixes -/

theorem headIs_append_of_ends [XidStart] {test : Char → Bool}
    (continues : ∀ c, test c = true → isIdentContinue c = true) (ends : Ends text)
    (endsThere : Ends other) (front : List Char) :
    Offside.headIs test (front ++ text) = Offside.headIs test (front ++ other) := by
  cases front with
  | nil => rw [List.nil_append, List.nil_append, ends.headIs continues, endsThere.headIs continues]
  | cons c front => rfl

theorem runLength_append_of_ends [XidStart] {test : Char → Bool}
    (continues : ∀ c, test c = true → isIdentContinue c = true) (ends : Ends text)
    (endsThere : Ends other) (front : List Char) :
    runLength test (front ++ text) = runLength test (front ++ other) := by
  induction front with
  | nil =>
      have none : ∀ {text : List Char}, Ends text → runLength test text = 0 := by
        intro text ends
        exact runLength_eq_zero (ends.headIs continues)
      rw [List.nil_append, List.nil_append, none ends, none endsThere]
  | cons c front inductionHypothesis =>
      rw [List.cons_append, List.cons_append, runLength_cons, runLength_cons, inductionHypothesis]

/-- Letters of the alphabet continue a name. -/
theorem isIdentContinue_of_mem [XidStart] (letters : List Char)
    (each : letters.all isLetter = true) {c : Char} (isLetter : c ∈ letters) :
    isIdentContinue c = true :=
  isIdentContinue_of_isLetter (List.all_eq_true.mp each c isLetter)

theorem isIdentContinue_of_floatSuffix [XidStart] (c : Char)
    (letter : (c == 'd' || c == 'f' || c == 'D' || c == 'F') = true) :
    isIdentContinue c = true :=
  isIdentContinue_of_mem ['d', 'f', 'D', 'F'] (by decide)
    (by simpa [or_assoc] using letter)

theorem isIdentContinue_of_longSuffix [XidStart] (c : Char)
    (letter : (c == 'l' || c == 'L') = true) : isIdentContinue c = true :=
  isIdentContinue_of_mem ['l', 'L'] (by decide) (by simpa using letter)

theorem floatSuffixLength_of_ends [XidStart] (ends : Ends text) : floatSuffixLength text = 0 := by
  unfold floatSuffixLength
  rw [ends.headIs isIdentContinue_of_floatSuffix]
  rfl

theorem floatSuffixLength_append [XidStart] (ends : Ends text) (endsThere : Ends other)
    (front : List Char) :
    floatSuffixLength (front ++ text) = floatSuffixLength (front ++ other) := by
  unfold floatSuffixLength
  rw [headIs_append_of_ends isIdentContinue_of_floatSuffix ends endsThere front]

theorem longSuffixLength_append [XidStart] (ends : Ends text) (endsThere : Ends other)
    (front : List Char) :
    longSuffixLength (front ++ text) = longSuffixLength (front ++ other) := by
  unfold longSuffixLength
  rw [headIs_append_of_ends isIdentContinue_of_longSuffix ends endsThere front]

theorem fractionLength_cons (c : Char) (rest : List Char) :
    fractionLength (c :: rest) =
      if c == '.' && headIs isDigit rest then digitsLength isDigit rest + 1 else 0 := by
  by_cases point : c = '.'
  · subst point
    rfl
  · simp [fractionLength, point]

/-- Behind something, a fraction ends where a name would end. -/
theorem fractionLength_append [XidStart] (ends : Ends text) (endsThere : Ends other)
    {front : List Char} (nonempty : front ≠ []) :
    fractionLength (front ++ text) = fractionLength (front ++ other) := by
  have continues : ∀ c, isDigit c = true → isIdentContinue c = true :=
    fun _ => isIdentContinue_of_isDigit
  cases front with
  | nil => exact absurd rfl nonempty
  | cons c front =>
      rw [List.cons_append, List.cons_append, fractionLength_cons, fractionLength_cons,
        headIs_append_of_ends continues ends endsThere front,
        digitsLength_append continues ends endsThere front]

def startsExponent (c : Char) : Bool := c == 'e' || c == 'E'

theorem exponentLength_cons (c : Char) (rest : List Char) :
    exponentLength (c :: rest) =
      if startsExponent c then
        let sign := if headIs (fun c => c == '+' || c == '-') rest then 1 else 0
        let digits := runLength isDigit (rest.drop sign)
        if digits = 0 then 0 else 1 + sign + digits
      else 0 := rfl

theorem exponentLength_of_ends [XidStart] (ends : Ends text) : exponentLength text = 0 := by
  cases text with
  | nil => rfl
  | cons c text =>
      have noLetter : startsExponent c = false := by
        refine (ends.headIs fun d letter => ?_ : Offside.headIs startsExponent (c :: text) = false)
        exact isIdentContinue_of_mem ['e', 'E'] (by decide)
          (by simpa [startsExponent] using letter)
      rw [exponentLength_cons, noLetter, if_neg Bool.false_ne_true]

/-- An exponent ends where a name would end.  Only behind its letter alone a sign in
the text could begin one. -/
theorem exponentLength_append [XidStart] (ends : Ends text) (endsThere : Ends other)
    {front : List Char} (notAlone : ∀ c, front = [c] → startsExponent c = false) :
    exponentLength (front ++ text) = exponentLength (front ++ other) := by
  have continues : ∀ c, isDigit c = true → isIdentContinue c = true :=
    fun _ => isIdentContinue_of_isDigit
  match front with
  | [] =>
      rw [List.nil_append, List.nil_append, exponentLength_of_ends ends,
        exponentLength_of_ends endsThere]
  | [c] =>
      rw [List.cons_append, List.cons_append, exponentLength_cons, exponentLength_cons,
        notAlone c rfl, if_neg Bool.false_ne_true, if_neg Bool.false_ne_true]
  | c :: d :: front =>
      have measured := runLength_append_of_ends continues ends endsThere (d :: front)
      have measuredBehind := runLength_append_of_ends continues ends endsThere front
      have outer : ∀ text, c :: d :: front ++ text = c :: d :: (front ++ text) := fun _ => rfl
      rw [outer, outer, exponentLength_cons, exponentLength_cons]
      by_cases signed : (d == '+' || d == '-') = true
      · simp only [headIs, List.head?_cons, Option.any_some, signed, if_true,
          List.drop_succ_cons, List.drop_zero, measuredBehind]
      · simp only [headIs, List.head?_cons, Option.any_some, signed, if_false,
          Bool.false_eq_true, List.drop_zero]
        rw [List.cons_append, List.cons_append] at measured
        rw [measured]

/-- The exponent and the suffix of a numeral that ends there. -/
theorem exponent_suffix_append [XidStart] (ends : Ends text) (endsThere : Ends other)
    {front : List Char} (measured : exponentLength (front ++ text) +
      floatSuffixLength ((front ++ text).drop (exponentLength (front ++ text))) = front.length) :
    exponentLength (front ++ other) = exponentLength (front ++ text) ∧
      floatSuffixLength ((front ++ other).drop (exponentLength (front ++ other))) =
        floatSuffixLength ((front ++ text).drop (exponentLength (front ++ text))) := by
  have notAlone : ∀ c, front = [c] → startsExponent c = false := by
    intro c alone
    subst alone
    refine Bool.eq_false_iff.mpr fun letter => ?_
    have whole : exponentLength ([c] ++ text) = 0 ∨ 2 ≤ exponentLength ([c] ++ text) := by
      rw [List.cons_append, exponentLength_cons, if_pos letter]
      dsimp only
      generalize (if headIs _ _ = true then 1 else 0) = sign
      by_cases noDigits : runLength isDigit (([] ++ text).drop sign) = 0
      · exact Or.inl (if_pos noDigits)
      · rw [if_neg noDigits]
        exact Or.inr (by omega)
    rcases whole with none | long
    · have noSuffix : floatSuffixLength ([c] ++ text) = 0 := by
        unfold startsExponent at letter
        rw [Bool.or_eq_true, beq_iff_eq, beq_iff_eq] at letter
        rcases letter with small | capital
        · rw [small]
          rfl
        · rw [capital]
          rfl
      rw [none, List.drop_zero, noSuffix] at measured
      cases measured
    · rw [List.length_singleton] at measured
      omega
  have exponents := exponentLength_append ends endsThere notAlone
  rw [← exponents]
  generalize exponentLength (front ++ text) = exponent at measured
  have inside : exponent ≤ front.length := by omega
  refine ⟨rfl, ?_⟩
  rw [List.drop_append_of_le_length inside, List.drop_append_of_le_length inside]
  exact (floatSuffixLength_append ends endsThere _).symm

/-! ### Numerals as a whole -/

theorem scanPoint_append [XidStart] (ends : Ends text) (endsThere : Ends other) {front : List Char}
    (nonempty : front ≠ []) (measured : (scanPoint (front ++ text)).length = front.length) :
    scanPoint (front ++ other) = scanPoint (front ++ text) := by
  have fractions := fractionLength_append ends endsThere nonempty
  unfold scanPoint at measured ⊢
  dsimp only at measured ⊢
  rw [← fractions]
  generalize fractionLength (front ++ text) = fraction at measured
  have inside : fraction ≤ front.length := by omega
  rw [← List.drop_drop, ← List.drop_drop, List.drop_append_of_le_length inside,
    List.drop_append_of_le_length inside]
  rw [← List.drop_drop, List.drop_append_of_le_length inside] at measured
  have remaining : (front.drop fraction).length = front.length - fraction := List.length_drop
  generalize front.drop fraction = rest at measured remaining
  have tail : exponentLength (rest ++ text) +
      floatSuffixLength ((rest ++ text).drop (exponentLength (rest ++ text))) = rest.length := by
    omega
  rcases exponent_suffix_append ends endsThere tail with ⟨exponents, suffixes⟩
  rw [suffixes, exponents]

theorem scanHexadecimal_append [XidStart] (ends : Ends text) (endsThere : Ends other)
    {front : List Char} (measured : (scanHexadecimal (front ++ text)).length = front.length) :
    scanHexadecimal (front ++ other) = scanHexadecimal (front ++ text) := by
  have continues : ∀ c, isHexDigit c = true → isIdentContinue c = true :=
    fun _ => isIdentContinue_of_isHexDigit
  have digits := digitsLength_append continues ends endsThere front
  unfold scanHexadecimal at measured ⊢
  dsimp only at measured ⊢
  rw [← digits]
  generalize digitsLength isHexDigit (front ++ text) = whole at measured
  have inside : whole ≤ front.length := by omega
  rw [List.drop_append_of_le_length inside, List.drop_append_of_le_length inside,
    longSuffixLength_append ends endsThere]

theorem longSuffixLength_le_one (text : List Char) : longSuffixLength text ≤ 1 := by
  unfold longSuffixLength
  split <;> omega

/-- Behind the digits of an integer that ends there, nothing makes it a fraction. -/
theorem noFloat_append [XidStart] (endsThere : Ends other)
    (noFraction : 0 < fractionLength other → 0 < fractionLength text) {front : List Char}
    (integer : fractionLength (front ++ text) = 0)
    (measured : longSuffixLength (front ++ text) = front.length) :
    fractionLength (front ++ other) = 0 ∧ exponentLength (front ++ other) = 0 ∧
      floatSuffixLength (front ++ other) = 0 := by
  match front with
  | [] =>
      refine ⟨?_, exponentLength_of_ends endsThere, floatSuffixLength_of_ends endsThere⟩
      rw [List.nil_append] at integer ⊢
      omega
  | [c] =>
      have letter : ¬ c = 'l' → c = 'L' := by
        simpa [longSuffixLength, headIs] using measured
      by_cases small : c = 'l'
      · rw [small]
        exact ⟨rfl, rfl, rfl⟩
      · rw [letter small]
        exact ⟨rfl, rfl, rfl⟩
  | c :: d :: front =>
      have short := longSuffixLength_le_one (c :: d :: front ++ text)
      rw [measured] at short
      simp only [List.length_cons] at short
      omega

theorem scanDecimal_append [XidStart] (ends : Ends text) (endsThere : Ends other)
    (noFraction : 0 < fractionLength other → 0 < fractionLength text) {front : List Char}
    (measured : (scanDecimal (front ++ text)).length = front.length) :
    scanDecimal (front ++ other) = scanDecimal (front ++ text) := by
  have continues : ∀ c, isDigit c = true → isIdentContinue c = true :=
    fun _ => isIdentContinue_of_isDigit
  have digits := digitsLength_append continues ends endsThere front
  unfold scanDecimal at measured ⊢
  dsimp only at measured ⊢
  rw [← digits]
  generalize digitsLength isDigit (front ++ text) = whole at measured
  have inside : whole ≤ front.length := by
    split at measured
    · rw [← measured]
      exact Nat.le_add_right _ _
    · dsimp only at measured
      omega
  simp only [← List.drop_drop, List.drop_append_of_le_length inside] at measured ⊢
  have remaining : (front.drop whole).length = front.length - whole := List.length_drop
  generalize front.drop whole = rest at measured remaining ⊢
  split at measured
  · rename_i integer
    dsimp only at measured
    have noParts : fractionLength (rest ++ text) = 0 := by omega
    rcases noFloat_append endsThere noFraction noParts (by omega) with
      ⟨fraction, exponent, suffix⟩
    rw [if_pos integer, longSuffixLength_append ends endsThere]
    simp only [fraction, List.drop_zero, exponent, suffix, Nat.add_zero, if_true]
  · rename_i float
    dsimp only at measured
    have nonempty : rest ≠ [] := by
      intro nothing
      rw [nothing] at float remaining measured
      simp only [List.length_nil] at remaining
      omega
    rw [if_neg float]
    have fractions := fractionLength_append ends endsThere nonempty
    rw [← fractions]
    generalize fractionLength (rest ++ text) = fraction at *
    have within : fraction ≤ rest.length := by omega
    rw [List.drop_append_of_le_length within] at measured float
    rw [List.drop_append_of_le_length within, List.drop_append_of_le_length within]
    have left : (rest.drop fraction).length = rest.length - fraction := List.length_drop
    generalize rest.drop fraction = rest at *
    have tail : exponentLength (rest ++ text) +
        floatSuffixLength ((rest ++ text).drop (exponentLength (rest ++ text))) =
          rest.length := by
      omega
    rcases exponent_suffix_append ends endsThere tail with ⟨exponents, suffixes⟩
    rw [suffixes, exponents, if_neg float]

def startsHexadecimal (text : List Char) : Bool :=
  headIs (· == '0') text && headIs (fun c => c == 'x' || c == 'X') (text.drop 1)

theorem scanUnsigned_of_decimal {text : List Char} (noPoint : headIs (· == '.') text = false)
    (noHexadecimal : startsHexadecimal text = false) : scanUnsigned text = scanDecimal text := by
  unfold scanUnsigned
  split
  · cases noPoint
  · cases noHexadecimal
  · cases noHexadecimal
  · rfl

theorem scanUnsigned_of_hexadecimal {c d : Char} {text : List Char}
    (hexadecimal : startsHexadecimal (c :: d :: text) = true) :
    scanUnsigned (c :: d :: text) =
      { scanHexadecimal text with length := (scanHexadecimal text).length + 2 } := by
  simp only [startsHexadecimal, headIs, List.head?_cons, Option.any_some, List.drop_succ_cons,
    List.drop_zero, Bool.and_eq_true, Bool.or_eq_true, beq_iff_eq] at hexadecimal
  rcases hexadecimal with ⟨zero, small | capital⟩
  · rw [zero, small]
    rfl
  · rw [zero, capital]
    rfl

theorem isIdentContinue_of_hexadecimal [XidStart] (c : Char)
    (letter : (c == 'x' || c == 'X') = true) : isIdentContinue c = true :=
  isIdentContinue_of_mem ['x', 'X'] (by decide) (by simpa using letter)

/-- Whether a numeral is hexadecimal shows in front of where it ends. -/
theorem startsHexadecimal_append [XidStart] (ends : Ends text) (endsThere : Ends other)
    {front : List Char} (nonempty : front ≠ []) :
    startsHexadecimal (front ++ text) = startsHexadecimal (front ++ other) := by
  cases front with
  | nil => exact absurd rfl nonempty
  | cons c front =>
      have behind := headIs_append_of_ends isIdentContinue_of_hexadecimal ends endsThere front
      unfold startsHexadecimal
      rw [List.cons_append, List.cons_append, List.drop_succ_cons, List.drop_succ_cons,
        List.drop_zero, List.drop_zero, behind]
      rfl

theorem scanUnsigned_append [XidStart] (ends : Ends text) (endsThere : Ends other)
    (noFraction : 0 < fractionLength other → 0 < fractionLength text) {front : List Char}
    (nonempty : front ≠ []) (measured : (scanUnsigned (front ++ text)).length = front.length) :
    scanUnsigned (front ++ other) = scanUnsigned (front ++ text) := by
  have samePrefix := startsHexadecimal_append ends endsThere nonempty
  match front with
  | [] => exact absurd rfl nonempty
  | c :: front =>
      by_cases point : c = '.'
      · subst point
        exact scanPoint_append ends endsThere nonempty measured
      · have noPoint : ∀ text, headIs (· == '.') (c :: front ++ text) = false :=
          fun _ => beq_eq_false_iff_ne.mpr point
        by_cases hexadecimal : startsHexadecimal (c :: front ++ text) = true
        · rw [hexadecimal] at samePrefix
          cases front with
          | nil =>
              have noLetter := ends.headIs isIdentContinue_of_hexadecimal
              unfold startsHexadecimal at hexadecimal
              rw [List.cons_append, List.nil_append, List.drop_succ_cons, List.drop_zero,
                noLetter, Bool.and_false] at hexadecimal
              cases hexadecimal
          | cons d front =>
              have outer : ∀ text, c :: d :: front ++ text = c :: d :: (front ++ text) :=
                fun _ => rfl
              rw [outer] at hexadecimal measured samePrefix
              rw [outer, outer, scanUnsigned_of_hexadecimal hexadecimal,
                scanUnsigned_of_hexadecimal samePrefix.symm]
              rw [scanUnsigned_of_hexadecimal hexadecimal] at measured
              rw [scanHexadecimal_append ends endsThere (Nat.add_right_cancel measured)]
        · have decimal := Bool.eq_false_iff.mpr hexadecimal
          rw [scanUnsigned_of_decimal (noPoint text) decimal] at measured ⊢
          rw [scanUnsigned_of_decimal (noPoint other) (samePrefix.symm.trans decimal)]
          exact scanDecimal_append ends endsThere noFraction measured

/-! ### A numeral goes over no blank -/

theorem moreDigitsLength_solid (noBlank : ∀ c, digit c = true → isBlank c = false) :
    ∀ text : List Char, Solid (moreDigitsLength digit text) text
  | [] => .zero []
  | c :: rest => by
      rw [moreDigitsLength_cons]
      split
      · rename_i first
        exact (moreDigitsLength_solid noBlank rest).cons (noBlank c first)
      · split
        · rename_i grouped
          rw [Bool.and_eq_true] at grouped
          have underscore : isBlank c = false := isBlank_of_beq (by decide) c grouped.1
          cases rest with
          | nil => cases grouped.2
          | cons d rest =>
              have digits := (moreDigitsLength_solid noBlank rest).cons (noBlank d grouped.2)
              exact digits.cons underscore
        · exact .zero _

theorem digitsLength_solid (noBlank : ∀ c, digit c = true → isBlank c = false)
    (text : List Char) : Solid (digitsLength digit text) text := by
  cases text with
  | nil => exact .zero []
  | cons c rest =>
      rw [digitsLength_cons]
      split
      · rename_i first
        exact (moreDigitsLength_solid noBlank rest).cons (noBlank c first)
      · exact .zero _

theorem fractionLength_solid (text : List Char) : Solid (fractionLength text) text := by
  cases text with
  | nil => exact .zero []
  | cons c rest =>
      rw [fractionLength_cons]
      split
      · rename_i point
        rw [Bool.and_eq_true] at point
        exact (digitsLength_solid isBlank_of_isDigit rest).cons
          (isBlank_of_beq (by decide) c point.1)
      · exact .zero _

theorem isBlank_of_startsExponent (c : Char) (starts : startsExponent c = true) :
    isBlank c = false :=
  isBlank_of_beq_or (by decide) (by decide) c starts

theorem isBlank_of_sign (c : Char) (sign : (c == '+' || c == '-') = true) : isBlank c = false :=
  isBlank_of_beq_or (by decide) (by decide) c sign

theorem isBlank_of_floatSuffix (c : Char)
    (letter : (c == 'd' || c == 'f' || c == 'D' || c == 'F') = true) : isBlank c = false := by
  rw [Bool.or_eq_true, Bool.or_eq_true] at letter
  rcases letter with (small | double) | single
  · exact isBlank_of_beq_or (by decide) (by decide) c small
  · exact isBlank_of_beq (by decide) c double
  · exact isBlank_of_beq (by decide) c single

theorem exponentLength_solid (text : List Char) : Solid (exponentLength text) text := by
  cases text with
  | nil => exact .zero []
  | cons c rest =>
      rw [exponentLength_cons]
      split
      · rename_i starts
        dsimp only
        have sign := @Solid.one _ rest isBlank_of_sign
        generalize (if headIs _ rest = true then 1 else 0) = length at sign ⊢
        have digits := Solid.run isBlank_of_isDigit (rest.drop length)
        split
        · exact .zero _
        · rw [Nat.add_assoc, Nat.add_comm]
          exact (sign.add digits).cons (isBlank_of_startsExponent c starts)
      · exact .zero _

theorem floatSuffixLength_solid (text : List Char) : Solid (floatSuffixLength text) text :=
  .one isBlank_of_floatSuffix

theorem longSuffixLength_solid (text : List Char) : Solid (longSuffixLength text) text :=
  .one (isBlank_of_beq_or (by decide) (by decide))

theorem scanPoint_solid (text : List Char) : Solid (scanPoint text).length text :=
  ((fractionLength_solid text).add (exponentLength_solid _)).add (floatSuffixLength_solid _)

theorem scanDecimal_solid (text : List Char) : Solid (scanDecimal text).length text := by
  have whole := digitsLength_solid isBlank_of_isDigit text
  unfold scanDecimal
  dsimp only
  split
  · exact whole.add (longSuffixLength_solid _)
  · exact ((whole.add (fractionLength_solid _)).add (exponentLength_solid _)).add
      (floatSuffixLength_solid _)

theorem scanHexadecimal_solid (text : List Char) : Solid (scanHexadecimal text).length text :=
  (digitsLength_solid isBlank_of_isHexDigit text).add (longSuffixLength_solid _)

theorem scanUnsigned_solid (text : List Char) : Solid (scanUnsigned text).length text := by
  unfold scanUnsigned
  split
  · exact scanPoint_solid _
  · exact ((scanHexadecimal_solid _).cons (isBlank_of_visible (by decide))).cons
      (isBlank_of_visible (by decide))
  · exact ((scanHexadecimal_solid _).cons (isBlank_of_visible (by decide))).cons
      (isBlank_of_visible (by decide))
  · exact scanDecimal_solid text

theorem scan_solid [XidStart] (text : List Char) : Solid (scan text).length text := by
  have sign : ∀ c, (c == '-') = true → isBlank c = false := isBlank_of_beq (by decide)
  unfold scan
  dsimp only
  exact ((Solid.one sign).add (scanUnsigned_solid _)).add
    (Solid.run (fun _ => isBlank_of_isIdentContinue) _)

/-- A well-formed numeral is the same numeral in front of a text that has nothing to add. -/
theorem scan_append [XidStart] {front : List Char} (further : NoFurther text other)
    (unsigned : front.drop (if headIs (· == '-') front then 1 else 0) ≠ [])
    (measured : (scan (front ++ text)).length = front.length)
    (wellFormed : (scan (front ++ text)).wellFormed = true) :
    scan (front ++ other) = scan (front ++ text) := by
  have nonempty : front ≠ [] := by
    intro nothing
    rw [nothing] at unsigned
    exact unsigned rfl
  have sign : ∀ text, headIs (· == '-') (front ++ text) = headIs (· == '-') front := by
    intro text
    cases front with
    | nil => exact absurd rfl nonempty
    | cons c front => rfl
  unfold scan at measured wellFormed ⊢
  dsimp only at measured wellFormed ⊢
  rw [sign] at measured wellFormed ⊢
  rw [sign]
  generalize signed : (if headIs (· == '-') front = true then 1 else 0) = length at *
  have inside : length ≤ front.length := by
    apply Nat.le_of_lt
    rw [← List.length_pos_iff, List.length_drop] at unsigned
    omega
  have remaining : (front.drop length).length = front.length - length := List.length_drop
  simp only [← List.drop_drop, List.drop_append_of_le_length inside] at measured wellFormed ⊢
  generalize front.drop length = number at *
  rw [Bool.and_eq_true, beq_iff_eq] at wellFormed
  have within : (scanUnsigned (number ++ text)).length = number.length := by omega
  have ends : Ends text := by
    have none := wellFormed.2
    rw [within, List.drop_left] at none
    exact headIs_of_runLength_eq_zero none
  have endsThere : Ends other := Bool.eq_false_iff.mpr fun continues =>
    Bool.eq_false_iff.mp ends (further.word continues)
  rw [scanUnsigned_append ends endsThere further.fraction unsigned within]
  rw [within, List.drop_left, List.drop_left, runLength_eq_zero ends, runLength_eq_zero endsThere]

end Numeral
end Offside
