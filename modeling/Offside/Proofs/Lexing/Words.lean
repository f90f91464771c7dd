import Offside.Proofs.Lexing.Boundary
import Offside.Proofs.Text.Respaced

namespace Offside

/-!
# Lexemes without blanks

Numerals, words, operators and marks are scanned up to a blank at most.  So in two texts
that agree up to their first blank the same is found, be it well formed or not.
-/

open CharClass

theorem Solid.head {test : Char → Bool} {text : List Char} (passes : headIs test text = true)
    (noBlank : ∀ c, test c = true → isBlank c = false) : Solid 1 text := by
  cases text with
  | nil => cases passes
  | cons c text => exact (Solid.zero text).cons (noBlank c passes)

namespace SameWord

variable {text other : List Char}

/-! ## Numerals -/

open Numeral

theorem moreDigitsLength {digit : Char → Bool}
    (noBlank : ∀ c, digit c = true → isBlank c = false) (same : SameWord text other) :
    Numeral.moreDigitsLength digit other = Numeral.moreDigitsLength digit text := by
  induction measured : text.length using Nat.strongRecOn generalizing text other with
  | ind bound inductionHypothesis =>
      cases same with
      | nil => rfl
      | blank here there =>
          have stops : ∀ {c : Char} (rest : List Char), isBlank c = true →
              Numeral.moreDigitsLength digit (c :: rest) = 0 := by
            intro c rest blank
            rw [moreDigitsLength_cons, if_neg, if_neg]
            · intro group
              rw [Bool.and_eq_true] at group
              rw [isBlank_of_beq (by decide) c group.1] at blank
              cases blank
            · intro passes
              rw [noBlank c passes] at blank
              cases blank
          exact (stops _ there).trans (stops _ here).symm
      | @keep text other c behind =>
          rw [List.length_cons] at measured
          rw [moreDigitsLength_cons, moreDigitsLength_cons, behind.headIs noBlank,
            inductionHypothesis _ (by omega) behind rfl]
          split
          · rfl
          · split
            · rename_i group
              rw [Bool.and_eq_true] at group
              have shorter : (text.drop 1).length < bound := by
                rw [List.length_drop]
                omega
              rw [inductionHypothesis _ shorter (behind.drop (.head group.2 noBlank)) rfl]
            · rfl

theorem digitsLength {digit : Char → Bool}
    (noBlank : ∀ c, digit c = true → isBlank c = false) (same : SameWord text other) :
    Numeral.digitsLength digit other = Numeral.digitsLength digit text := by
  cases same with
  | nil => rfl
  | blank here there =>
      have stops : ∀ {c : Char} (rest : List Char), isBlank c = true →
          Numeral.digitsLength digit (c :: rest) = 0 := by
        intro c rest blank
        refine if_neg fun passes => ?_
        rw [noBlank c passes] at blank
        cases blank
      exact (stops _ there).trans (stops _ here).symm
  | keep c behind =>
      rw [digitsLength_cons, digitsLength_cons, behind.moreDigitsLength noBlank]

theorem decimalsLength (same : SameWord text other) :
    Numeral.digitsLength isDigit other = Numeral.digitsLength isDigit text :=
  same.digitsLength isBlank_of_isDigit

theorem fractionLength (same : SameWord text other) :
    Numeral.fractionLength other = Numeral.fractionLength text := by
  cases same with
  | nil => rfl
  | blank here there =>
      have stops : ∀ {c : Char} (rest : List Char), isBlank c = true →
          Numeral.fractionLength (c :: rest) = 0 := by
        intro c rest blank
        rw [fractionLength_cons, if_neg]
        intro point
        rw [Bool.and_eq_true] at point
        rw [isBlank_of_beq (by decide) c point.1] at blank
        cases blank
      exact (stops _ there).trans (stops _ here).symm
  | keep c behind =>
      rw [fractionLength_cons, fractionLength_cons, behind.headIs isBlank_of_isDigit,
        behind.decimalsLength]

theorem exponentLength (same : SameWord text other) :
    Numeral.exponentLength other = Numeral.exponentLength text := by
  cases same with
  | nil => rfl
  | blank here there =>
      have stops : ∀ {c : Char} (rest : List Char), isBlank c = true →
          Numeral.exponentLength (c :: rest) = 0 := by
        intro c rest blank
        refine if_neg fun letter => ?_
        rw [isBlank_of_startsExponent c letter] at blank
        cases blank
      exact (stops _ there).trans (stops _ here).symm
  | @keep text other c behind =>
      have sign := behind.headIs isBlank_of_sign
      have behindSign := behind.drop (.one isBlank_of_sign)
      rw [exponentLength_cons, exponentLength_cons, sign]
      dsimp only
      rw [behindSign.runLength isBlank_of_isDigit]

theorem floatSuffixLength (same : SameWord text other) :
    Numeral.floatSuffixLength other = Numeral.floatSuffixLength text := by
  unfold Numeral.floatSuffixLength
  rw [same.headIs isBlank_of_floatSuffix]

theorem longSuffixLength (same : SameWord text other) :
    Numeral.longSuffixLength other = Numeral.longSuffixLength text := by
  unfold Numeral.longSuffixLength
  rw [same.headIs (isBlank_of_beq_or (by decide) (by decide))]

theorem scanPoint (same : SameWord text other) :
    Numeral.scanPoint other = Numeral.scanPoint text := by
  have fraction := fractionLength_solid text
  have exponent := exponentLength_solid (text.drop (Numeral.fractionLength text))
  unfold Numeral.scanPoint
  dsimp only
  rw [same.fractionLength, (same.drop fraction).exponentLength,
    (same.drop (fraction.add exponent)).floatSuffixLength]

theorem scanHexadecimal (same : SameWord text other) :
    Numeral.scanHexadecimal other = Numeral.scanHexadecimal text := by
  have digits := digitsLength_solid isBlank_of_isHexDigit text
  unfold Numeral.scanHexadecimal
  dsimp only
  rw [same.digitsLength isBlank_of_isHexDigit, (same.drop digits).longSuffixLength]

theorem scanDecimal (same : SameWord text other) :
    Numeral.scanDecimal other = Numeral.scanDecimal text := by
  have whole := digitsLength_solid isBlank_of_isDigit text
  have fraction := whole.add (fractionLength_solid _)
  have exponent := fraction.add (exponentLength_solid _)
  unfold Numeral.scanDecimal
  dsimp only
  rw [same.decimalsLength, (same.drop whole).fractionLength, (same.drop fraction).exponentLength,
    (same.drop exponent).floatSuffixLength, (same.drop whole).longSuffixLength]

theorem startsHexadecimal (same : SameWord text other) :
    Numeral.startsHexadecimal other = Numeral.startsHexadecimal text := by
  have zero : ∀ c, (c == '0') = true → isBlank c = false := isBlank_of_beq (by decide)
  unfold Numeral.startsHexadecimal
  rw [same.headIs zero]
  cases starts : Offside.headIs (· == '0') text with
  | false => rfl
  | true =>
      rw [(same.drop (.head starts zero)).headIs (isBlank_of_beq_or (by decide) (by decide))]

theorem scanUnsigned (same : SameWord text other) :
    Numeral.scanUnsigned other = Numeral.scanUnsigned text := by
  have point := same.headIs (isBlank_of_beq (by decide : isVisible '.' = true))
  have hexadecimal := same.startsHexadecimal
  cases isPoint : Offside.headIs (· == '.') text with
  | true =>
      rw [isPoint] at point
      have begins : ∀ {text : List Char}, Offside.headIs (· == '.') text = true →
          Numeral.scanUnsigned text = Numeral.scanPoint text := by
        intro text point
        cases text with
        | nil => cases point
        | cons c rest =>
            cases beq_iff_eq.mp point
            rfl
      rw [begins isPoint, begins point, same.scanPoint]
  | false =>
      rw [isPoint] at point
      cases isHexadecimal : Numeral.startsHexadecimal text with
      | false =>
          rw [isHexadecimal] at hexadecimal
          rw [scanUnsigned_of_decimal isPoint isHexadecimal,
            scanUnsigned_of_decimal point hexadecimal, same.scanDecimal]
      | true =>
          rw [isHexadecimal] at hexadecimal
          match text, other, same with
          | [], _, _ => cases isHexadecimal
          | [c], _, _ =>
              rw [Numeral.startsHexadecimal, Bool.and_eq_true] at isHexadecimal
              cases isHexadecimal.2
          | c :: d :: text, _, .blank here there =>
              rw [Numeral.startsHexadecimal, Bool.and_eq_true] at isHexadecimal
              rw [isBlank_of_beq (by decide) c isHexadecimal.1] at here
              cases here
          | c :: d :: text, _, .keep _ (.blank here there) =>
              rw [Numeral.startsHexadecimal, Bool.and_eq_true] at isHexadecimal
              rw [isBlank_of_beq_or (by decide) (by decide) d isHexadecimal.2] at here
              cases here
          | c :: d :: text, _, .keep _ (.keep _ behind) =>
              rw [scanUnsigned_of_hexadecimal isHexadecimal,
                scanUnsigned_of_hexadecimal hexadecimal, behind.scanHexadecimal]

theorem scan [XidStart] (same : SameWord text other) : Numeral.scan other = Numeral.scan text := by
  have minus : ∀ c, (c == '-') = true → isBlank c = false := isBlank_of_beq (by decide)
  have sign : Solid (if Offside.headIs (· == '-') text then 1 else 0) text := .one minus
  have unsigned := sign.add (scanUnsigned_solid _)
  unfold Numeral.scan
  dsimp only
  rw [same.headIs minus, (same.drop sign).scanUnsigned,
    (same.drop unsigned).runLength fun _ => isBlank_of_isIdentContinue]

/-! ## Scanners -/

open Lexeme

theorem startsComment (same : SameWord text other) (c : Char) :
    Lexeme.startsComment (c :: other) = Lexeme.startsComment (c :: text) := by
  rw [startsComment_cons, startsComment_cons,
    same.headIs (isBlank_of_beq_or (by decide) (by decide))]

theorem operatorRunLength (same : SameWord text other) :
    Lexeme.operatorRunLength other = Lexeme.operatorRunLength text := by
  induction same with
  | nil => rfl
  | blank here there =>
      have stops : ∀ {c : Char} (rest : List Char), isBlank c = true →
          Lexeme.operatorRunLength (c :: rest) = 0 := by
        intro c rest blank
        refine if_neg fun goesOn => ?_
        rw [Bool.and_eq_true] at goesOn
        rw [isBlank_of_isOperatorSymbol goesOn.1] at blank
        cases blank
      exact (stops _ there).trans (stops _ here).symm
  | keep c behind inductionHypothesis =>
      rw [operatorRunLength_cons, operatorRunLength_cons, behind.startsComment,
        inductionHypothesis]

theorem numeral [XidStart] (same : SameWord text other) (c : Char) :
    Lexeme.numeral c other = Lexeme.numeral c text := by
  have whole := same.keep c
  unfold Lexeme.numeral
  dsimp only
  rw [whole.scan, whole.take (scan_solid _)]

theorem word [XidStart] (same : SameWord text other) (c : Char) :
    Lexeme.word c other = Lexeme.word c text := by
  have letters : Solid (Offside.runLength isIdentContinue text) text :=
    .run (fun _ => isBlank_of_isIdentContinue) text
  have suffix := letters.add (suffixLength_solid c
    (text.take (Offside.runLength isIdentContinue text)) _)
  unfold suffixLength at suffix
  unfold Lexeme.word
  dsimp only
  rw [same.runLength fun _ => isBlank_of_isIdentContinue, same.take letters,
    (same.drop letters).operatorRunLength, same.take suffix]

theorem operator (same : SameWord text other) (c : Char) :
    Lexeme.operator c other = Lexeme.operator c text := by
  have run := operatorRunLength_solid text
  unfold Lexeme.operator
  dsimp only
  rw [same.operatorRunLength, same.take run, same.headIs (isBlank_of_beq (by decide))]

theorem startsNumeral (same : SameWord text other) (operandBefore : Bool) (c : Char) :
    Lexeme.startsNumeral operandBefore c other = Lexeme.startsNumeral operandBefore c text := by
  unfold Lexeme.startsNumeral
  rw [same.headIs isBlank_of_isDigit]

/-- What is not between quotation marks is scanned up to the first blank. -/
theorem scanSolid [XidStart] (same : SameWord text other) {numeric : Bool} {c : Char}
    (noMark : c ≠ '"' ∧ c ≠ '\'' ∧ c ≠ '`') :
    Lexeme.scanSolid numeric c other = Lexeme.scanSolid numeric c text := by
  unfold Lexeme.scanSolid
  rw [beq_eq_false_iff_ne.mpr noMark.1, beq_eq_false_iff_ne.mpr noMark.2.1,
    beq_eq_false_iff_ne.mpr noMark.2.2, same.numeral, same.word, same.operator]
  rfl

/-- A text that is the same up to its first blank has nothing to add to what stands in
front of the other one. -/
theorem noFurther [XidStart] (same : SameWord text other) : NoFurther text other where
  word further := by rwa [same.headIs fun _ => isBlank_of_isIdentContinue] at further
  digit further := by rwa [same.headIs isBlank_of_isDigit] at further
  fraction further := by rwa [same.fractionLength] at further
  operators further := by rwa [same.operatorRunLength] at further
  comment further := by rwa [same.headIs (isBlank_of_beq_or (by decide) (by decide))] at further
  brace further := by rwa [same.headIs (isBlank_of_beq (by decide))] at further
  quote further := by rwa [same.headIs (isBlank_of_beq (by decide))] at further

end SameWord
end Offside
