namespace Offside

/-!
# Runs of characters

The lexer measures how far a lexeme reaches: every scanner answers how many
characters at the front of a text belong to what it looks for, and none when
the text does not begin with it.  Cutting the text at such a length loses
nothing, whatever the scanner does, and lengths of consecutive parts add up.
-/

/-- The number of characters at the front of a text that satisfy a test. -/
def runLength (test : Char → Bool) (text : List Char) : Nat :=
  (text.takeWhile test).length

def headIs (test : Char → Bool) (text : List Char) : Bool :=
  text.head?.any test

@[simp]
theorem runLength_nil (test : Char → Bool) : runLength test [] = 0 := rfl

theorem runLength_cons (test : Char → Bool) (c : Char) (text : List Char) :
    runLength test (c :: text) = if test c then runLength test text + 1 else 0 := by
  unfold runLength
  rw [List.takeWhile_cons]
  split <;> simp

theorem runLength_le (test : Char → Bool) (text : List Char) :
    runLength test text ≤ text.length := by
  unfold runLength
  exact (List.takeWhile_prefix test).length_le

/-- The characters of a run satisfy its test. -/
theorem take_runLength (test : Char → Bool) (text : List Char) :
    text.take (runLength test text) = text.takeWhile test := by
  unfold runLength
  exact (List.prefix_iff_eq_take.mp (List.takeWhile_prefix test)).symm

/-- A run ends where its test fails. -/
theorem drop_runLength (test : Char → Bool) (text : List Char) :
    text.drop (runLength test text) = text.dropWhile test := by
  unfold runLength
  induction text with
  | nil => rfl
  | cons c text inductionHypothesis =>
      rw [List.takeWhile_cons, List.dropWhile_cons]
      split
      · simpa using inductionHypothesis
      · rfl

end Offside
