import Offside.Lexeme
import Offside.Proofs.Lexing.Numerals
import Offside.Proofs.Text.Shapes

namespace Offside

/-!
# The shapes of character literals

Between its quotation marks a character literal holds nothing, one character that is
no quotation mark, no backslash and no line break, or an escape.  An escape is a backslash
and what stands behind it: two hexadecimal digits after an `x`, four of them or any number
between curly brackets after a `u`, or any other character of the line.

The quotation mark that closes a literal is not known in advance, for an escape may hold
one.  What is found between the marks does not depend on where the literal is thought to
end, and so no text of the shape is cut short.
-/

open CharClass Shape
open scoped Computability

namespace CharacterLiteral

def isSimpleEscape (c : Char) : Bool := c != 'x' && c != 'u' && c != '\n'

/-- What stands behind the backslash of an escape. -/
def escapes : Language Char :=
  {['x']} * one isHexDigit ^ 2 + {['u']} * one isHexDigit ^ 4 +
    {['u', '{']} * ((one isHexDigit * (one isHexDigit)∗) * {['}']}) + one isSimpleEscape

def isPlain (c : Char) : Bool := c != '\'' && c != '\\' && c != '\n'

/-- What stands between the quotation marks. -/
def contents : Language Char := optional (one isPlain + {['\\']} * escapes)

def literals : Language Char := {['\'']} * (contents * {['\'']})

variable {text front back : List Char} {c : Char}

theorem mem_literals :
    text ∈ literals ↔ ∃ content ∈ contents, text = '\'' :: (content ++ ['\'']) := by
  constructor
  · intro member
    rcases Language.mem_mul.mp member with ⟨_, rfl, _, inside, rfl⟩
    rcases Language.mem_mul.mp inside with ⟨content, isContent, _, rfl, rfl⟩
    exact ⟨content, isContent, rfl⟩
  · rintro ⟨content, isContent, rfl⟩
    exact ⟨_, rfl, _, ⟨content, isContent, _, rfl, rfl⟩, rfl⟩

/-! ## Scanners, case by case -/

theorem scanEscape_hexadecimal (rest : List Char) :
    scanEscape ('x' :: rest) =
      (1 + runLength isHexDigit (rest.take 2), runLength isHexDigit (rest.take 2) == 2) := rfl

theorem scanEscape_braces (rest : List Char) :
    scanEscape ('u' :: '{' :: rest) =
      if runLength isHexDigit rest = 0 then (2, false)
      else
        match rest.drop (runLength isHexDigit rest) with
        | [] => (2 + runLength isHexDigit rest, false)
        | c :: _ => (3 + runLength isHexDigit rest, c == '}') := rfl

theorem scanEscape_unicode {rest : List Char} (noBrace : headIs (· == '{') rest = false) :
    scanEscape ('u' :: rest) =
      (1 + runLength isHexDigit (rest.take 4), runLength isHexDigit (rest.take 4) == 4) := by
  cases rest with
  | nil => rfl
  | cons c rest =>
      have other : ¬ c = '{' := beq_eq_false_iff_ne.mp noBrace
      simp [scanEscape, other]

theorem scanEscape_simple {c : Char} (noBreak : c ≠ '\n') (noHexadecimal : c ≠ 'x')
    (noUnicode : c ≠ 'u') (rest : List Char) : scanEscape (c :: rest) = (1, true) := by
  unfold scanEscape
  split <;> rename_i same
  · cases same
  · exact absurd (List.cons.inj same).1 noBreak
  · exact absurd (List.cons.inj same).1 noHexadecimal
  · exact absurd (List.cons.inj same).1 noUnicode
  · exact absurd (List.cons.inj same).1 noUnicode
  · rfl

theorem scanContent_simple {c : Char} (noBreak : c ≠ '\n') (noMark : c ≠ '\'')
    (noBackslash : c ≠ '\\') (rest : List Char) : scanContent (c :: rest) = (1, true) := by
  unfold scanContent
  split <;> rename_i same
  · cases same
  · exact absurd (List.cons.inj same).1 noBreak
  · exact absurd (List.cons.inj same).1 noMark
  · exact absurd (List.cons.inj same).1 noBackslash
  · rfl

theorem scanContent_escape (rest : List Char) :
    scanContent ('\\' :: rest) = (1 + (scanEscape rest).1, (scanEscape rest).2) := rfl

/-! ## Digits -/

theorem runLength_of_mem_pow {count : Nat} (member : text ∈ one isHexDigit ^ count)
    (back : List Char) :
    (text ++ back).take count = text ∧ runLength isHexDigit text = count := by
  rcases mem_one_pow.mp member with ⟨rfl, each⟩
  exact ⟨List.take_left, (Measures.run isHexDigit).whole (mem_one_kstar.mpr each)⟩

/-- So many digits that the count asked for is reached. -/
theorem take_mem_pow {count : Nat} (measured : runLength isHexDigit (text.take count) = count) :
    text.take count ∈ one isHexDigit ^ count := by
  have within := runLength_le isHexDigit (text.take count)
  rw [measured] at within
  have each := mem_one_kstar.mp ((Measures.run isHexDigit).sound (text.take count))
  rw [measured, List.take_take, Nat.min_self] at each
  exact mem_one_pow.mpr ⟨Nat.le_antisymm (List.length_take_le _ _) within, each⟩

/-! ## Escapes -/

theorem scanEscape_of_braces {digits : List Char}
    (inDigits : digits ∈ one isHexDigit * (one isHexDigit)∗) (back : List Char) :
    scanEscape ('u' :: '{' :: (digits ++ '}' :: back)) = (3 + digits.length, true) := by
  rcases mem_one_mul_kstar.mp inDigits with ⟨nonempty, each⟩
  have measured : runLength isHexDigit (digits ++ '}' :: back) = digits.length :=
    runLength_append each rfl
  rw [scanEscape_braces, measured, if_neg (mt List.length_eq_zero_iff.mp nonempty),
    List.drop_left]
  rfl

/-- Wherever an escape of the shape stands, it is found as a whole. -/
theorem scanEscape_of_mem (member : front ∈ escapes) (back : List Char) :
    scanEscape (front ++ back) = (front.length, true) := by
  rcases member with ((hexadecimal | unicode) | braces) | ⟨c, simple, rfl⟩
  · rcases Language.mem_mul.mp hexadecimal with ⟨_, rfl, digits, inDigits, rfl⟩
    rcases runLength_of_mem_pow inDigits back with ⟨taken, measured⟩
    have long := (mem_one_pow.mp inDigits).1
    rw [List.append_assoc, List.singleton_append, scanEscape_hexadecimal, taken, measured,
      List.length_append, long]
    rfl
  · rcases Language.mem_mul.mp unicode with ⟨_, rfl, digits, inDigits, rfl⟩
    rcases runLength_of_mem_pow inDigits back with ⟨taken, measured⟩
    rcases mem_one_pow.mp inDigits with ⟨long, each⟩
    have noBrace : headIs (· == '{') (digits ++ back) = false := by
      cases digits with
      | nil => cases long
      | cons d digits =>
          refine beq_eq_false_iff_ne.mpr fun brace => ?_
          have digit := each d List.mem_cons_self
          rw [brace] at digit
          cases digit
    rw [List.append_assoc, List.singleton_append, scanEscape_unicode noBrace, taken, measured,
      List.length_append, long]
    rfl
  · rcases Language.mem_mul.mp braces with ⟨_, rfl, _, inside, rfl⟩
    rcases Language.mem_mul.mp inside with ⟨digits, inDigits, _, rfl, rfl⟩
    rw [List.append_assoc, List.append_assoc]
    refine (scanEscape_of_braces inDigits back).trans (Prod.ext ?_ rfl)
    simp only [List.length_append, List.length_cons, List.length_nil]
    omega
  · unfold isSimpleEscape at simple
    simp only [Bool.and_eq_true, bne_iff_ne] at simple
    exact scanEscape_simple simple.2 simple.1.1 simple.1.2 back

theorem take_scanEscape_braces (wellFormed : (scanEscape ('u' :: '{' :: text)).2 = true) :
    ('u' :: '{' :: text).take (scanEscape ('u' :: '{' :: text)).1 ∈ escapes := by
  rcases exists_append (runLength_le isHexDigit text) with ⟨digits, tail, rfl, taken⟩
  have measured := taken.symm
  rw [scanEscape_braces, measured] at wellFormed ⊢
  split at wellFormed
  · cases wellFormed
  · rename_i some
    rw [if_neg some]
    rw [List.drop_left] at wellFormed ⊢
    cases tail with
    | nil => cases wellFormed
    | cons c back =>
        have closes : c = '}' := beq_iff_eq.mp wellFormed
        subst closes
        have inDigits : digits ∈ one isHexDigit * (one isHexDigit)∗ :=
          mem_one_mul_kstar.mpr ⟨fun nothing => some (congrArg List.length nothing),
            (all_of_runLength_append measured).1⟩
        have reads : ('u' :: '{' :: (digits ++ '}' :: back)).take (3 + digits.length) =
            ['u', '{'] ++ (digits ++ ['}']) := by
          rw [Nat.add_comm, List.take_succ_cons, List.take_succ_cons, List.take_length_add_append]
          rfl
        dsimp only
        rw [reads]
        exact .inl (.inr (Language.append_mem_mul (mem_word.mpr rfl)
          (Language.append_mem_mul inDigits (mem_word.mpr rfl))))

/-- What is found as an escape is of the shape. -/
theorem take_scanEscape (wellFormed : (scanEscape text).2 = true) :
    text.take (scanEscape text).1 ∈ escapes := by
  cases text with
  | nil => cases wellFormed
  | cons c rest =>
      by_cases hexadecimal : c = 'x'
      · subst hexadecimal
        rw [scanEscape_hexadecimal] at wellFormed ⊢
        have measured : runLength isHexDigit (rest.take 2) = 2 := beq_iff_eq.mp wellFormed
        have digits := take_mem_pow measured
        dsimp only
        rw [measured]
        exact .inl (.inl (.inl (Language.append_mem_mul (mem_word.mpr rfl) digits)))
      · by_cases unicode : c = 'u'
        · subst unicode
          by_cases brace : headIs (· == '{') rest = true
          · cases rest with
            | nil => cases brace
            | cons d rest =>
                have isBrace : d = '{' := beq_iff_eq.mp brace
                subst isBrace
                exact take_scanEscape_braces wellFormed
          · rw [scanEscape_unicode (Bool.eq_false_iff.mpr brace)] at wellFormed ⊢
            have measured : runLength isHexDigit (rest.take 4) = 4 := beq_iff_eq.mp wellFormed
            have digits := take_mem_pow measured
            dsimp only
            rw [measured]
            exact .inl (.inl (.inr (Language.append_mem_mul (mem_word.mpr rfl) digits)))
        · by_cases lineBreak : c = '\n'
          · subst lineBreak
            cases wellFormed
          · rw [scanEscape_simple lineBreak hexadecimal unicode]
            refine .inr (singleton_mem_one.mpr ?_)
            unfold isSimpleEscape
            rw [bne_iff_ne.mpr hexadecimal, bne_iff_ne.mpr unicode, bne_iff_ne.mpr lineBreak]
            rfl

/-! ## Literals -/

theorem scanContent_of_mem (member : front ∈ contents) (back : List Char) :
    scanContent (front ++ '\'' :: back) = (front.length, true) := by
  rcases mem_optional.mp member with rfl | ⟨c, plain, rfl⟩ | escape
  · rfl
  · unfold isPlain at plain
    simp only [Bool.and_eq_true, bne_iff_ne] at plain
    exact scanContent_simple plain.2 plain.1.1 plain.1.2 _
  · rcases Language.mem_mul.mp escape with ⟨_, rfl, escape, inEscapes, rfl⟩
    rw [List.append_assoc, List.singleton_append, scanContent_escape,
      scanEscape_of_mem inEscapes, List.length_append]
    rfl

theorem take_scanContent (wellFormed : (scanContent text).2 = true) :
    text.take (scanContent text).1 ∈ contents := by
  cases text with
  | nil => cases wellFormed
  | cons c rest =>
      by_cases backslash : c = '\\'
      · subst backslash
        rw [scanContent_escape] at wellFormed ⊢
        have escape := take_scanEscape wellFormed
        dsimp only
        rw [Nat.add_comm, List.take_succ_cons]
        exact mem_optional_of_mem (.inr (Language.append_mem_mul (mem_word.mpr rfl) escape))
      · by_cases mark : c = '\''
        · subst mark
          exact nil_mem_optional _
        · by_cases lineBreak : c = '\n'
          · subst lineBreak
            cases wellFormed
          · rw [scanContent_simple lineBreak mark backslash]
            refine mem_optional_of_mem (.inl (singleton_mem_one.mpr ?_))
            unfold isPlain
            rw [bne_iff_ne.mpr mark, bne_iff_ne.mpr backslash, bne_iff_ne.mpr lineBreak]
            rfl

theorem scan_of_mem (member : front ∈ contents) (back : List Char) :
    scan (front ++ '\'' :: back) = (front.length + 1, true) := by
  unfold scan
  rw [scanContent_of_mem member]
  dsimp only
  rw [List.drop_left]
  rfl

/-- What is found as the rest of a literal ends with its mark. -/
theorem exists_of_wellFormed (wellFormed : (scan text).2 = true) :
    ∃ content ∈ contents, ∃ back, text = content ++ '\'' :: back := by
  unfold scan at wellFormed
  dsimp only at wellFormed
  split at wellFormed
  · rename_i closes
    rw [Bool.and_eq_true] at closes
    refine ⟨_, take_scanContent closes.1, ?_⟩
    generalize (scanContent text).1 = length at closes
    cases behind : text.drop length with
    | nil =>
        rw [behind] at closes
        cases closes.2
    | cons c back =>
        rw [behind] at closes
        have isMark : c = '\'' := beq_iff_eq.mp closes.2
        refine ⟨back, ?_⟩
        rw [← isMark, ← behind, List.take_append_drop]
  · cases wellFormed

end CharacterLiteral

end Offside
