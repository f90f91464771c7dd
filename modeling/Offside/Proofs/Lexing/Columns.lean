import Mathlib.Data.List.DropRight
import Offside.Proofs.Lexing.Spans
import Offside.Proofs.Lexing.Tabs
import Offside.Text.XidStart

namespace Offside

open Utf8

/-!
# Columns that fit a machine word

The width of a tab is multiplied by the number of tab stops behind it, and nobody bounds
that width.  So it is not the length of a source that decides whether a column fits a
machine word, but the tabs in front of it on its line.  Between characters the width of a
line only grows: what fits at the end of a stretch of text has fitted all along, and then
the words are the widths.  Where it does not fit, the word falls short of the width, and the
layout rules see the line further to the left than it is.
-/

/-- The text in front of an offset of a source, from the last line feed on. -/
def lineBefore (source : String) (offset : Nat) : List Char :=
  ((takeBytes offset source.toList).getD []).rtakeWhile (· != '\n')

namespace Column

variable {width column : Nat} {text more : List Char}

/-! ## The width of a line -/

theorem newline_notMem_rtakeWhile (text : List Char) : '\n' ∉ text.rtakeWhile (· != '\n') :=
  fun member => absurd (List.mem_rtakeWhile_imp member) (by decide)

/-- What starts anew at every line feed depends on the last line alone.  By induction from
the end. -/
theorem foldl_rtakeWhile {next : Nat → Char → Nat} (anew : ∀ column, next column '\n' = 0)
    (text : List Char) : (text.rtakeWhile (· != '\n')).foldl next 0 = text.foldl next 0 := by
  induction text using List.reverseRecOn with
  | nil => rfl
  | append_singleton text c inductionHypothesis =>
      by_cases isBreak : c = '\n'
      · subst isBreak
        rw [List.rtakeWhile_concat_neg _ _ _ (by decide), List.foldl_concat, anew]
        rfl
      · rw [List.rtakeWhile_concat_pos (· != '\n') _ _ (bne_iff_ne.mpr isBreak),
          List.foldl_concat, List.foldl_concat, inductionHypothesis]

/-- What is in front of a line has no part in its width. -/
theorem exactAfterText_rtakeWhile (width : Nat) (text : List Char) :
    exactAfterText width 0 (text.rtakeWhile (· != '\n')) = exactAfterText width 0 text :=
  foldl_rtakeWhile (fun _ => rfl) text

theorem afterText_rtakeWhile (width : Nat) (text : List Char) :
    afterText width 0 (text.rtakeWhile (· != '\n')) = afterText width 0 text :=
  foldl_rtakeWhile (fun _ => rfl) text

theorem exactAfter_of_ne {c : Char} (noBreak : c ≠ '\n') (noTab : c ≠ '\t') :
    exactAfter width column c = column + 1 := by
  unfold exactAfter
  rw [if_neg (by rwa [beq_iff_eq]), if_neg (by rwa [beq_iff_eq])]

theorem le_exactAfter (positive : 0 < width) {c : Char} (noBreak : c ≠ '\n') :
    column ≤ exactAfter width column c := by
  by_cases isTab : c = '\t'
  · rw [isTab]
    exact Nat.le_of_lt (lt_exactAfter_tab positive column)
  · rw [exactAfter_of_ne noBreak isTab]
    exact Nat.le_succ column

/-- A line only becomes wider. -/
theorem exactAfterText_le_append (positive : 0 < width) (unbroken : '\n' ∉ more) :
    exactAfterText width column text ≤ exactAfterText width column (text ++ more) := by
  unfold exactAfterText
  rw [List.foldl_append]
  generalize text.foldl (exactAfter width) column = reached
  induction more generalizing reached with
  | nil => exact Nat.le_refl _
  | cons c more inductionHypothesis =>
      rw [List.mem_cons, not_or] at unbroken
      exact Nat.le_trans (le_exactAfter positive (Ne.symm unbroken.1))
        (inductionHypothesis unbroken.2 _)

/-- Every tab leads to the next tab stop at least. -/
theorem stops_le_exactAfterText (positive : 0 < width) (unbroken : '\n' ∉ text) :
    (column / width + text.count '\t') * width ≤ exactAfterText width column text := by
  induction text generalizing column with
  | nil => exact Nat.div_mul_le_self column width
  | cons c text inductionHypothesis =>
      rw [List.mem_cons, not_or] at unbroken
      refine Nat.le_trans (Nat.mul_le_mul_right width ?_) (inductionHypothesis unbroken.2)
      by_cases isTab : c = '\t'
      · have stop : exactAfter width column c = (column / width + 1) * width := by
          rw [isTab]
          rfl
        rw [stop, Nat.mul_div_cancel _ positive, isTab, List.count_cons_self]
        omega
      · rw [List.count_cons_of_ne isTab]
        have wider : column ≤ exactAfter width column c :=
          le_exactAfter positive (Ne.symm unbroken.1)
        have further := Nat.div_le_div_right (c := width) wider
        omega

/-- No tab is wider than the tab width, and no other character is wider than one column. -/
theorem exactAfterText_le (unbroken : '\n' ∉ text) :
    exactAfterText width column text ≤
      column + (text.count '\t' * width + (text.length - text.count '\t')) := by
  induction text generalizing column with
  | nil => exact Nat.le_add_right _ _
  | cons c text inductionHypothesis =>
      rw [List.mem_cons, not_or] at unbroken
      refine Nat.le_trans (inductionHypothesis unbroken.2) ?_
      have counted := List.count_le_length (a := '\t') (l := text)
      by_cases isTab : c = '\t'
      · have stop : exactAfter width column c = column / width * width + width := by
          rw [isTab]
          exact Nat.succ_mul _ _
        have reached := Nat.div_mul_le_self column width
        rw [stop, isTab, List.count_cons_self, List.length_cons, Nat.succ_mul]
        omega
      · rw [exactAfter_of_ne (Ne.symm unbroken.1) isTab, List.count_cons_of_ne isTab,
          List.length_cons]
        omega

theorem exactAfter_le_add (positive : 0 < width) (c : Char) :
    exactAfter width column c ≤ column + width := by
  by_cases isBreak : c = '\n'
  · rw [isBreak]
    exact Nat.zero_le _
  · by_cases isTab : c = '\t'
    · have stop : exactAfter width column c = column / width * width + width := by
        rw [isTab]
        exact Nat.succ_mul _ _
      rw [stop]
      exact Nat.add_le_add_right (Nat.div_mul_le_self column width) width
    · rw [exactAfter_of_ne isBreak isTab]
      exact Nat.add_le_add_left positive column

/-- Nothing is wider than a tab. -/
theorem exactAfterText_le_mul (positive : 0 < width) (text : List Char) :
    exactAfterText width column text ≤ column + text.length * width := by
  induction text generalizing column with
  | nil => exact Nat.le_add_right _ _
  | cons c text inductionHypothesis =>
      have one : exactAfter width column c ≤ column + width := exactAfter_le_add positive c
      have others : exactAfterText width (exactAfter width column c) text ≤
        exactAfter width column c + text.length * width := inductionHypothesis
      rw [List.length_cons, Nat.succ_mul]
      exact Nat.le_trans others (by omega)

/-! ## The words -/

theorem afterText_lt (inside : column < wordSize) : afterText width column text < wordSize := by
  induction text generalizing column with
  | nil => exact inside
  | cons c text inductionHypothesis =>
      exact inductionHypothesis (Nat.mod_lt _ (by decide))

/-- What has fitted all along is computed as it is. -/
theorem afterText_eq_exact
    (fits : ∀ front, front <+: text → exactAfterText width column front < wordSize) :
    afterText width column text = exactAfterText width column text := by
  induction text generalizing column with
  | nil => rfl
  | cons c text inductionHypothesis =>
      have inside : exactAfter width column c < wordSize :=
        fits [c] (List.cons_prefix_cons.mpr ⟨rfl, List.nil_prefix⟩)
      have next : after width column c = exactAfter width column c := Nat.mod_eq_of_lt inside
      show afterText width (after width column c) text = _
      rw [next]
      exact inductionHypothesis fun front begins =>
        fits (c :: front) (List.cons_prefix_cons.mpr ⟨rfl, begins⟩)

/-- The word that is computed for a text is the width of its last line just if this width
fits a word. -/
theorem afterText_eq_exact_iff (positive : 0 < width) (text : List Char) :
    afterText width 0 text = exactAfterText width 0 text ↔
      exactAfterText width 0 text < wordSize := by
  rw [← afterText_rtakeWhile, ← exactAfterText_rtakeWhile]
  have unbroken := newline_notMem_rtakeWhile text
  generalize text.rtakeWhile (· != '\n') = line at unbroken
  constructor
  · intro same
    rw [← same]
    exact afterText_lt (by decide)
  · intro fits
    refine afterText_eq_exact fun front begins => ?_
    rcases begins with ⟨more, rfl⟩
    refine Nat.lt_of_le_of_lt (exactAfterText_le_append positive fun broken => ?_) fits
    exact unbroken (List.mem_append_right front broken)

end Column

/-- The exact column at which a token of a source begins, which may fit no word. -/
def Token.exactColumn (token : Token) (tabWidth : Nat) (source : String) : Nat :=
  Column.exactAfterText (max tabWidth 1) 0
    ((Utf8.takeBytes token.span.start source.toList).getD [])

/-- The column of a token is exact just if the exact one fits a word. -/
theorem Token.column_eq_exact_iff (token : Token) (tabWidth : Nat) (source : String) :
    token.column tabWidth source = token.exactColumn tabWidth source ↔
      token.exactColumn tabWidth source < Column.wordSize :=
  Column.afterText_eq_exact_iff (Nat.le_max_right tabWidth 1) _

/-- The exact column of a token is the width of the text in front of it on its line. -/
theorem Token.exactColumn_eq (token : Token) (tabWidth : Nat) (source : String) :
    token.exactColumn tabWidth source =
      Column.exactAfterText (max tabWidth 1) 0 (lineBefore source token.span.start) :=
  (Column.exactAfterText_rtakeWhile _ _).symm

theorem Token.exactColumn_le (token : Token) (tabWidth : Nat) (source : String) :
    token.exactColumn tabWidth source ≤ source.length * max tabWidth 1 := by
  have positive : 0 < max tabWidth 1 := Nat.le_max_right tabWidth 1
  have wide : token.exactColumn tabWidth source ≤ 0 + _ :=
    Column.exactAfterText_le_mul positive _
  rw [Nat.zero_add] at wide
  refine Nat.le_trans wide (Nat.mul_le_mul_right _ ?_)
  rw [← String.length_toList]
  exact length_takeBytes_le token.span.start source.toList

namespace Reader

/-! ## The column of a reader -/

theorem step_passes [XidStart] (reader : Reader) : ∃ text, reader.Passes text reader.step := by
  unfold step
  split
  · exact ⟨[], rfl, rfl, rfl, rfl⟩
  · rename_i c rest unread
    split
    · exact ⟨_, readPiece_passes _ _ _ _⟩
    · exact ⟨_, readLexeme_passes unread⟩

theorem Passes.stands {before after : Reader} {text whole : List Char} {width : Nat}
    (passes : before.Passes text after) (stands : before.Stands width whole) :
    after.Stands width whole := by
  rcases stands.place with ⟨read, split, here, reached⟩
  refine ⟨passes.tabWidth.trans stands.width, read ++ text, ?_, ?_, ?_⟩
  · rw [split, passes.rest, List.append_assoc]
  · rw [passes.offset, here, byteLength_append]
  · rw [passes.column, stands.width, reached]
    exact List.foldl_append.symm

theorem afterSteps_stands [XidStart] (source : String) (tabWidth steps : Nat) :
    (afterSteps source tabWidth steps).Stands (max tabWidth 1) source.toList := by
  induction steps with
  | zero => exact ⟨rfl, [], rfl, rfl, rfl⟩
  | succ steps inductionHypothesis =>
      rw [afterSteps_succ]
      rcases step_passes (afterSteps source tabWidth steps) with ⟨text, passes⟩
      exact passes.stands inductionHypothesis

/-- A reader in front of a token is in the column of the token. -/
theorem afterSteps_column [XidStart] {source : String} {tabWidth steps : Nat} {token : Token}
    (here : (afterSteps source tabWidth steps).offset = token.span.start) :
    (afterSteps source tabWidth steps).column = token.column tabWidth source := by
  rcases (afterSteps_stands source tabWidth steps).place with ⟨read, split, place, reached⟩
  rw [reached, Token.column_of_append split (place.symm.trans here)]

end Reader

theorem Utf8.length_le_byteLength (text : List Char) : text.length ≤ byteLength text := by
  induction text with
  | nil => exact Nat.le_refl _
  | cons c text inductionHypothesis =>
      have positive := c.utf8Size_pos
      rw [List.length_cons, byteLength_cons]
      omega

/-- The column of a token, which is that of a reader in front of it, is the width of the text
in front of the token on its line just if this width fits a machine word.  The width only
grows along the line, so everything in between fits with it.  It is that of the tabs at least,
and at most one more for each of the other characters.  So where a source has fewer bytes than
half of all words, only tabs that take the other half can spoil a column. -/
theorem lex_columns [XidStart] {source : String} {tabWidth : Nat} {token : Token}
    (short : source.utf8ByteSize < 2 ^ 63) (member : token ∈ (lex source tabWidth).tokens) :
    let width := max tabWidth 1
    let line := lineBefore source token.span.start
    let exact := Column.exactAfterText width 0 line
    (∀ steps, (Reader.afterSteps source tabWidth steps).offset = token.span.start →
      (Reader.afterSteps source tabWidth steps).column = token.column tabWidth source) ∧
    (token.column tabWidth source = exact ↔ exact < 2 ^ 64) ∧
    (∀ early, early <+: line → Column.exactAfterText width 0 early ≤ exact) ∧
    line.count '\t' * width ≤ exact ∧
    exact ≤ line.count '\t' * width + (line.length - line.count '\t') ∧
    (line.count '\t' * width ≤ 2 ^ 63 → exact < 2 ^ 64) := by
  intro width line exact
  have positive : 0 < width := Nat.le_max_right tabWidth 1
  have fits := ((lex_fits source tabWidth).1 token member).1
  rcases holdsAt_nil_iff.mpr fits.start with ⟨front, rest, split, place⟩
  rw [List.nil_append] at split
  have isLine : line = front.rtakeWhile (· != '\n') := by
    show ((takeBytes token.span.start source.toList).getD []).rtakeWhile _ = _
    rw [split, ← place, takeBytes_append]
    rfl
  have unbroken : '\n' ∉ line := isLine ▸ Column.newline_notMem_rtakeWhile front
  have lower : (0 / width + line.count '\t') * width ≤ Column.exactAfterText width 0 line :=
    Column.stops_le_exactAfterText positive unbroken
  have upper : Column.exactAfterText width 0 line ≤
      0 + (line.count '\t' * width + (line.length - line.count '\t')) :=
    Column.exactAfterText_le unbroken
  rw [Nat.zero_div, Nat.zero_add] at lower
  rw [Nat.zero_add] at upper
  refine ⟨fun steps => Reader.afterSteps_column, ?_, fun early begins => ?_, lower, upper,
    fun narrow => ?_⟩
  · have same : token.exactColumn tabWidth source = exact :=
      token.exactColumn_eq tabWidth source
    rw [← same]
    exact token.column_eq_exact_iff tabWidth source
  · rcases begins with ⟨more, whole⟩
    have noBreak : '\n' ∉ more := fun broken =>
      unbroken (whole ▸ List.mem_append_right early broken)
    have wider : Column.exactAfterText width 0 early ≤
        Column.exactAfterText width 0 (early ++ more) :=
      Column.exactAfterText_le_append positive noBreak
    rwa [whole] at wider
  · have within : line.length ≤ source.utf8ByteSize := by
      have shorter : line.length ≤ front.length := by
        rw [isLine]
        exact (List.rtakeWhile_suffix _ _).length_le
      have bytes := length_le_byteLength front
      have stops := fits.stop_le
      have ordered := fits.ordered
      omega
    show Column.exactAfterText width 0 line < 2 ^ 64
    omega

/-- Four tabs, each as wide as a quarter of all words.  The line that they indent wraps around
to the margin, and the block that it should open is not there. -/
theorem lex_columns_wide_tabs :
    "a =\n\t\t\t\tx\n".utf8ByteSize < 2 ^ 63 ∧
    ∃ token ∈ (lex "a =\n\t\t\t\tx\n" (2 ^ 62)).tokens, token.kind = .identifier "x" ∧
      token.column (2 ^ 62) "a =\n\t\t\t\tx\n" = 0 ∧
      2 ^ 64 ≤
        Column.exactAfterText (2 ^ 62) 0 (lineBefore "a =\n\t\t\t\tx\n" token.span.start) ∧
      .indent ∉ (lex "a =\n\t\t\t\tx\n" (2 ^ 62)).tokens.map Token.kind := by
  have short : "a =\n\t\t\t\tx\n".utf8ByteSize < 2 ^ 63 := by decide +kernel
  have member : ⟨.identifier "x", ⟨8, 9⟩, [⟨.newline, ⟨3, 4⟩⟩, ⟨.whitespace, ⟨4, 8⟩⟩]⟩ ∈
      (lex "a =\n\t\t\t\tx\n" (2 ^ 62)).tokens := by decide +kernel
  have tabs : (lineBefore "a =\n\t\t\t\tx\n" 8).count '\t' = 4 := by decide +kernel
  rcases lex_columns short member with ⟨-, -, -, wide, -, -⟩
  rw [tabs] at wide
  exact ⟨short, _, member, rfl, by decide +kernel, wide, by decide +kernel⟩

end Offside
