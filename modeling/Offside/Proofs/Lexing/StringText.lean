import Offside.Lexeme.StringText
import Offside.Proofs.Text.Classes

namespace Offside
namespace StringText

/-!
# Where the text of a string stops

Plain text of a string is passed over character by character until marks, a splice or
an unfinished end come in sight.  What is in sight of a character are itself and the two
characters behind it.  So a stretch of plain text stays what it is in front of any other
text that shows the same stop.
-/

open CharClass

/-! ## One character of plain text -/

/-- Whether plain text stops in front of a text. -/
def stops [XidStart] (quote : QuoteForm) (text : List Char) : Bool :=
  quote == .plain && headIs (· == '\n') text || closesWith quote text || startsSplice text

variable {quote : QuoteForm} {text other : List Char} {c : Char} {rest : List Char}

theorem length_of_stops [XidStart] (stop : stops quote text = true) : length quote text = 0 := by
  unfold stops at stop
  cases text with
  | nil => rfl
  | cons c rest =>
      unfold length
      split
      · rfl
      · rename_i noBreak
        split
        · rfl
        · rename_i noMarks
          have splice : startsSplice (c :: rest) = true := by
            have broken : (quote == .plain && headIs (· == '\n') (c :: rest)) = false := by
              simpa [headIs] using noBreak
            simpa [broken, noMarks] using stop
          rw [if_pos splice]

/-- Where nothing stops it, plain text goes on behind its next character, and behind two
characters where the first one is a backslash. -/
theorem length_cons [XidStart] :
    stops quote (c :: rest) = false →
      length quote (c :: rest) =
        if c == '\\' then
          match rest with
          | [] => 1
          | d :: beyond => if quote == .plain && d == '\n' then 1 else length quote beyond + 2
        else length quote rest + 1 := by
  intro goesOn
  unfold stops at goesOn
  simp only [Bool.or_eq_false_iff, headIs, List.head?_cons, Option.any_some] at goesOn
  conv => lhs; unfold length
  exact (if_neg (Bool.eq_false_iff.mp goesOn.1.1)).trans
    ((if_neg (Bool.eq_false_iff.mp goesOn.1.2)).trans (if_neg (Bool.eq_false_iff.mp goesOn.2)))

theorem hasSplice_cons [XidStart] :
    stops quote (c :: rest) = false →
      hasSplice quote (c :: rest) =
        if c == '\\' then
          match rest with
          | [] => false
          | _ :: beyond => hasSplice quote beyond
        else hasSplice quote rest := by
  intro goesOn
  unfold stops at goesOn
  simp only [Bool.or_eq_false_iff, headIs, List.head?_cons, Option.any_some] at goesOn
  have noStop := Bool.or_eq_false_iff.mpr ⟨goesOn.1.2, goesOn.1.1⟩
  conv => lhs; unfold hasSplice
  exact (if_neg (Bool.eq_false_iff.mp noStop)).trans (if_neg (Bool.eq_false_iff.mp goesOn.2))

/-- A stretch of plain text is never stopped before its end. -/
theorem stops_of_length_pos [XidStart] (passed : 0 < length quote text) :
    stops quote text = false := by
  cases stop : stops quote text with
  | false => rfl
  | true =>
      rw [length_of_stops stop] at passed
      cases passed

/-! ## What is in sight -/

/-- Two texts look the same from any character in front of them. -/
structure SameSight (quote : QuoteForm) (text other : List Char) : Prop where
  head : text.head? = other.head?
  /-- Three marks are seen as a whole. -/
  marks : quote = .triple → text.take 2 = other.take 2

theorem closesWith_triple (text : List Char) :
    closesWith .triple text = (text.take 3 == ['"', '"', '"']) := by
  unfold closesWith
  rw [Bool.eq_iff_iff, List.isPrefixOf_iff_prefix, beq_iff_eq, List.prefix_iff_eq_take]
  exact eq_comm

theorem startsSplice_singleton [XidStart] (c : Char) : startsSplice [c] = false := by
  simp [startsSplice]

theorem startsSplice_cons_cons [XidStart] (c d : Char) (rest : List Char) :
    startsSplice (c :: d :: rest) = (c == '$' && (d == '{' || d != '$' && isIdentStart d)) := by
  by_cases dollar : c = '$'
  · subst dollar
    by_cases brace : d = '{'
    · subst brace
      rfl
    · simp [startsSplice, brace]
  · simp [startsSplice, dollar]

namespace SameSight

theorem closesWith (same : SameSight quote text other) (c : Char) (front : List Char) :
    closesWith quote (c :: (front ++ text)) = closesWith quote (c :: (front ++ other)) := by
  cases quote with
  | plain => rfl
  | triple =>
      have marks : text.take (2 - front.length) = other.take (2 - front.length) := by
        have within : 2 - front.length ≤ 2 := Nat.sub_le _ _
        rw [← Nat.min_eq_left within, ← List.take_take, ← List.take_take, same.marks rfl]
      rw [closesWith_triple, closesWith_triple, List.take_succ_cons, List.take_succ_cons,
        List.take_append, List.take_append, marks]

theorem startsSplice [XidStart] (same : SameSight quote text other) (c : Char) (front : List Char) :
    startsSplice (c :: (front ++ text)) = startsSplice (c :: (front ++ other)) := by
  cases front with
  | cons d front => rw [List.cons_append, List.cons_append, startsSplice_cons_cons,
      startsSplice_cons_cons]
  | nil =>
      have heads := same.head
      cases text with
      | nil =>
          cases other with
          | nil => rfl
          | cons e other => cases heads
      | cons d text =>
          cases other with
          | nil => cases heads
          | cons e other =>
              cases heads
              rw [List.nil_append, List.nil_append, startsSplice_cons_cons,
                startsSplice_cons_cons]

theorem stops [XidStart] (same : SameSight quote text other) (c : Char) (front : List Char) :
    stops quote (c :: (front ++ text)) = stops quote (c :: (front ++ other)) := by
  unfold StringText.stops
  rw [same.closesWith, same.startsSplice]
  rfl

end SameSight

/-! ## Stretches of plain text -/

/-- A text that is not cut off begins with no line break that would cut it off. -/
theorem noBreak_of_isCutOff (notCutOff : isCutOff quote (c :: rest) = false) :
    (quote == .plain && c == '\n') = false := by
  simpa [isCutOff, headIs] using notCutOff

/-- What a character sees in front of a text decides where plain text in front of it ends. -/
theorem length_before [XidStart]
    (sight : ∀ c front, stops quote (c :: (front ++ text)) = stops quote (c :: (front ++ other)))
    (cut : isCutOff quote other = isCutOff quote text) (ends : length quote other = 0) :
    ∀ plain : List Char, length quote (plain ++ text) = plain.length →
      length quote (plain ++ other) = plain.length
  | [], _ => ends
  | [c], passed => by
      have goesOn : stops quote (c :: ([] ++ text)) = false :=
        stops_of_length_pos (by rw [← List.cons_append, passed]; exact Nat.one_pos)
      have goesOnThere : stops quote (c :: ([] ++ other)) = false :=
        (sight c []).symm.trans goesOn
      rw [List.cons_append, length_cons goesOn] at passed
      rw [List.cons_append, length_cons goesOnThere]
      split at passed
      · rename_i backslash
        rw [if_pos backslash]
        -- The backslash takes the next character with it, unless the string is cut off there.
        have ended : isCutOff quote text = true := by
          cases text with
          | nil => rfl
          | cons d beyond =>
              refine Bool.of_not_eq_false fun notCutOff => ?_
              simp only [List.nil_append, noBreak_of_isCutOff notCutOff, Bool.false_eq_true,
                if_false, List.length_singleton] at passed
              omega
        cases other with
        | nil => rfl
        | cons d beyond =>
            have broken : (quote == .plain && d == '\n') = true := by
              simpa [isCutOff, headIs] using cut.trans ended
            exact if_pos broken
      · rename_i noBackslash
        rw [if_neg noBackslash, List.nil_append, ends]
        rfl
  | c :: d :: plain, passed => by
      have goesOn : stops quote (c :: (d :: plain ++ text)) = false :=
        stops_of_length_pos (by rw [← List.cons_append, passed]; exact Nat.succ_pos _)
      have goesOnThere : stops quote (c :: (d :: plain ++ other)) = false :=
        (sight c (d :: plain)).symm.trans goesOn
      rw [List.cons_append, length_cons goesOn] at passed
      rw [List.cons_append, length_cons goesOnThere]
      split at passed
      · rename_i backslash
        rw [if_pos backslash]
        simp only [List.cons_append, List.length_cons] at passed ⊢
        split at passed
        · omega
        · rename_i noBreak
          rw [if_neg noBreak, length_before sight cut ends plain (by omega)]
      · rename_i noBackslash
        rw [if_neg noBackslash]
        simp only [List.length_cons] at passed ⊢
        rw [length_before sight cut ends (d :: plain) (by rw [List.length_cons]; omega)]
        rfl

/-- Plain text in front of a stop is plain text in front of any stop that looks the same. -/
theorem length_append [XidStart] (same : SameSight quote text other)
    (stop : stops quote other = true)
    (plain : List Char) (passed : length quote (plain ++ text) = plain.length) :
    length quote (plain ++ other) = plain.length := by
  refine length_before same.stops ?_ (length_of_stops stop) plain passed
  have heads := same.head
  cases text with
  | nil =>
      cases other with
      | nil => rfl
      | cons d other => cases heads
  | cons c text =>
      cases other with
      | nil => cases heads
      | cons d other =>
          cases heads
          rfl

/-- Looking for a splice passes over plain text. -/
theorem hasSplice_append [XidStart] (notCutOff : isCutOff quote text = false) :
    ∀ plain : List Char, length quote (plain ++ text) = plain.length →
      hasSplice quote (plain ++ text) = hasSplice quote text
  | [], _ => rfl
  | [c], passed => by
      have goesOn : stops quote (c :: ([] ++ text)) = false :=
        stops_of_length_pos (by rw [← List.cons_append, passed]; exact Nat.one_pos)
      rw [List.cons_append, length_cons goesOn] at passed
      rw [List.cons_append, hasSplice_cons goesOn]
      split at passed
      · cases text with
        | nil => cases notCutOff
        | cons d beyond =>
            simp only [List.nil_append, noBreak_of_isCutOff notCutOff, Bool.false_eq_true,
              if_false, List.length_singleton] at passed
            omega
      · rename_i noBackslash
        rw [if_neg noBackslash, List.nil_append]
  | c :: d :: plain, passed => by
      have goesOn : stops quote (c :: (d :: plain ++ text)) = false :=
        stops_of_length_pos (by rw [← List.cons_append, passed]; exact Nat.succ_pos _)
      rw [List.cons_append, length_cons goesOn] at passed
      rw [List.cons_append, hasSplice_cons goesOn]
      split at passed
      · rename_i backslash
        rw [if_pos backslash]
        simp only [List.cons_append, List.length_cons] at passed ⊢
        split at passed
        · omega
        · exact hasSplice_append notCutOff plain (by omega)
      · rename_i noBackslash
        rw [if_neg noBackslash]
        simp only [List.length_cons] at passed
        exact hasSplice_append notCutOff (d :: plain) (by rw [List.length_cons]; omega)

/-! ## Stops -/

/-- Where plain text ends, it is cut off or something stops it. -/
theorem stops_drop_length [XidStart] :
    ∀ text : List Char, isCutOff quote (text.drop (length quote text)) = false →
      stops quote (text.drop (length quote text)) = true
  | [], notCutOff => by cases notCutOff
  | [c], notCutOff => by
      cases stop : stops quote [c] with
      | true => rwa [length_of_stops stop]
      | false =>
          rw [length_cons stop] at notCutOff
          split at notCutOff
          · cases notCutOff
          · cases notCutOff
  | c :: d :: rest, notCutOff => by
      cases stop : stops quote (c :: d :: rest) with
      | true => rwa [length_of_stops stop]
      | false =>
          rw [length_cons stop] at notCutOff ⊢
          split at notCutOff
          · rename_i backslash
            rw [if_pos backslash]
            dsimp only at notCutOff ⊢
            split at notCutOff
            · rename_i broken
              simp only [List.drop_succ_cons, List.drop_zero, isCutOff, headIs, List.head?_cons,
                Option.any_some, broken, Bool.or_true] at notCutOff
              cases notCutOff
            · rename_i noBreak
              rw [if_neg noBreak]
              exact stops_drop_length rest notCutOff
          · rename_i noBackslash
            rw [if_neg noBackslash]
            exact stops_drop_length (d :: rest) notCutOff

theorem length_le [XidStart] : ∀ text : List Char, length quote text ≤ text.length
  | [] => Nat.le_refl 0
  | [c] => by
      cases stop : stops quote [c] with
      | true =>
          rw [length_of_stops stop]
          exact Nat.zero_le _
      | false =>
          rw [length_cons stop]
          split
          · exact Nat.le_refl 1
          · exact Nat.le_refl 1
  | c :: d :: rest => by
      cases stop : stops quote (c :: d :: rest) with
      | true =>
          rw [length_of_stops stop]
          exact Nat.zero_le _
      | false =>
          rw [length_cons stop]
          have shorter := length_le rest
          have short := length_le (d :: rest)
          simp only [List.length_cons] at short ⊢
          split
          · split
            · omega
            · omega
          · omega

/-- A splice is no place where a string closes or its line ends. -/
theorem closesWith_of_startsSplice [XidStart] (splice : startsSplice text = true) :
    closesWith quote text = false ∧ headIs (· == '\n') text = false := by
  match text, splice with
  | c :: d :: rest, splice =>
      rw [startsSplice_cons_cons, Bool.and_eq_true, beq_iff_eq] at splice
      rw [splice.1]
      cases quote <;> exact ⟨rfl, rfl⟩
  | [c], splice =>
      rw [startsSplice_singleton] at splice
      cases splice

theorem hasSplice_of_startsSplice [XidStart] (splice : startsSplice text = true) :
    hasSplice quote text = true := by
  have unclosed := @closesWith_of_startsSplice quote _ _ splice
  cases text with
  | nil => cases splice
  | cons c rest =>
      have noBreak : (c == '\n') = false := unclosed.2
      unfold hasSplice
      rw [unclosed.1, noBreak, Bool.and_false, splice]
      rfl

theorem hasSplice_of_closesWith [XidStart] (closes : closesWith quote text = true) :
    hasSplice quote text = false := by
  cases text with
  | nil => rfl
  | cons c rest =>
      unfold hasSplice
      rw [closes, Bool.true_or]
      rfl

/-- Where text of a string stops at once, a splice is found only if it stands there. -/
theorem hasSplice_of_stops [XidStart] (stopped : stops quote text = true) :
    hasSplice quote text = startsSplice text := by
  cases splice : startsSplice text with
  | true => exact hasSplice_of_startsSplice splice
  | false =>
      cases text with
      | nil => rfl
      | cons c rest =>
          unfold stops at stopped
          rw [splice, Bool.or_false, Bool.or_comm] at stopped
          have ends : (closesWith quote (c :: rest) || (quote == .plain && c == '\n')) = true :=
            stopped
          unfold hasSplice
          rw [if_pos ends]

/-- A stop is marks or a splice, unless the string is cut off there. -/
theorem stops_cases [XidStart] (stop : stops quote text = true)
    (notCutOff : isCutOff quote text = false) :
    closesWith quote text = true ∨ startsSplice text = true := by
  unfold isCutOff at notCutOff
  unfold stops at stop
  rw [(Bool.or_eq_false_iff.mp notCutOff).2, Bool.false_or, Bool.or_eq_true] at stop
  exact stop

theorem stops_of_closesWith [XidStart] (closes : closesWith quote text = true) :
    stops quote text = true := by
  unfold stops
  rw [closes, Bool.or_true, Bool.true_or]

theorem stops_of_startsSplice [XidStart] (splice : startsSplice text = true) :
    stops quote text = true := by
  unfold stops
  rw [splice, Bool.or_true]

theorem isCutOff_of_closesWith (closes : closesWith quote text = true) :
    isCutOff quote text = false := by
  cases text with
  | nil => cases quote <;> cases closes
  | cons c rest =>
      cases quote with
      | triple => rfl
      | plain =>
          have isMark : c = '"' := by simpa [closesWith, headIs] using closes
          rw [isMark]
          rfl

theorem isCutOff_of_startsSplice [XidStart] (splice : startsSplice text = true) :
    isCutOff quote text = false := by
  have unclosed := @closesWith_of_startsSplice quote _ _ splice
  cases text with
  | nil => cases splice
  | cons c rest =>
      unfold isCutOff
      rw [unclosed.2, Bool.and_false]
      rfl

/-- A string without a splice ends in its marks, unless it is cut off. -/
theorem closesWith_drop_length [XidStart] (plain : hasSplice quote text = false)
    (notCutOff : isCutOff quote (text.drop (length quote text)) = false) :
    closesWith quote (text.drop (length quote text)) = true := by
  rcases stops_cases (stops_drop_length text notCutOff) notCutOff with closes | splice
  · exact closes
  · have within : (text.take (length quote text)).length = length quote text :=
      List.length_take_of_le (length_le text)
    have passed : hasSplice quote text = hasSplice quote (text.drop (length quote text)) := by
      have whole := List.take_append_drop (length quote text) text
      have step := hasSplice_append notCutOff (text.take (length quote text))
        (by rw [whole, within])
      rw [whole] at step
      exact step
    rw [passed, hasSplice_of_startsSplice splice] at plain
    cases plain

/-! ## Marks -/

theorem closesWith_append (quote : QuoteForm) (text : List Char) :
    closesWith quote (quote.spelling.toList ++ text) = true := by
  cases quote <;> rfl

theorem eq_append_of_closesWith (closes : closesWith quote text = true) :
    text = quote.spelling.toList ++ text.drop (marksLength quote) := by
  cases quote with
  | plain =>
      cases text with
      | nil => cases closes
      | cons c rest =>
          have isMark : c = '"' := by simpa [closesWith, headIs] using closes
          rw [isMark]
          rfl
  | triple =>
      rcases List.isPrefixOf_iff_prefix.mp closes with ⟨rest, same⟩
      rw [← same]
      rfl

theorem length_spelling (quote : QuoteForm) :
    quote.spelling.toList.length = marksLength quote := by
  cases quote <;> rfl

/-- Two characters of the stop are enough to see it, and one if the marks are plain. -/
theorem SameSight.of_append {front : List Char} (nonempty : front ≠ [])
    (long : quote = .triple → 2 ≤ front.length) (text other : List Char) :
    SameSight quote (front ++ text) (front ++ other) where
  head := by
    cases front with
    | nil => exact absurd rfl nonempty
    | cons c front => rfl
  marks := by
    intro triple
    rw [List.take_append_of_le_length (long triple), List.take_append_of_le_length (long triple)]

theorem SameSight.of_marks (quote : QuoteForm) (text other : List Char) :
    SameSight quote (quote.spelling.toList ++ text) (quote.spelling.toList ++ other) := by
  cases quote with
  | plain =>
      show SameSight .plain (['"'] ++ text) (['"'] ++ other)
      exact .of_append (List.cons_ne_nil _ _) (fun triple => by cases triple) text other
  | triple =>
      show SameSight .triple (['"', '"', '"'] ++ text) (['"', '"', '"'] ++ other)
      exact .of_append (List.cons_ne_nil _ _) (fun _ => by decide) text other

/-! ## Pieces -/

variable [XidStart]

theorem scanPiece_of_closesWith (closes : closesWith quote text = true) :
    scanPiece quote text = .closing := by
  unfold scanPiece
  rw [if_pos closes]

/-- At a splice bracket the rest of the string does not matter. -/
theorem scanPiece_brace (quote : QuoteForm) (text : List Char) :
    scanPiece quote ('$' :: '{' :: text) = .spliceOpening := by
  cases quote <;> rfl

/-- Plain text of a string, and the stop behind it. -/
theorem scanPiece_eq_text {reach : Nat} (found : scanPiece quote text = .text reach) :
    length quote text = reach ∧ isCutOff quote (text.drop reach) = false := by
  unfold scanPiece at found
  split at found
  · cases found
  · split at found
    · split at found <;> cases found
    · dsimp only at found
      split at found
      · cases found
      · rename_i notCutOff
        cases found
        exact ⟨rfl, Bool.eq_false_iff.mpr notCutOff⟩

/-- A piece of plain text is the same piece in front of a stop that looks the same. -/
theorem scanPiece_text_append {plain : List Char} (nonempty : plain ≠ [])
    (found : scanPiece quote (plain ++ text) = .text plain.length)
    (same : SameSight quote text other) (stop : stops quote other = true)
    (notCutOff : isCutOff quote other = false) :
    scanPiece quote (plain ++ other) = .text plain.length := by
  have measured := (scanPiece_eq_text found).1
  have measuredThere := length_append same stop plain measured
  have goesOn : stops quote (plain ++ other) = false := by
    apply stops_of_length_pos
    rw [measuredThere]
    exact List.length_pos_iff.mpr nonempty
  unfold stops at goesOn
  simp only [Bool.or_eq_false_iff] at goesOn
  unfold scanPiece
  rw [goesOn.1.2, goesOn.2]
  dsimp only
  rw [measuredThere, List.drop_left, notCutOff]
  rfl

/-- A name in a string is the same name in front of a text that does not go on with it. -/
theorem scanPiece_name_append {name : List Char} (nonempty : name ≠ [])
    (found : scanPiece quote ('$' :: (name ++ text)) = .name name.length)
    (further : headIs isIdentContinue other = true → headIs isIdentContinue text = true) :
    scanPiece quote ('$' :: (name ++ other)) = .name name.length := by
  cases name with
  | nil => exact absurd rfl nonempty
  | cons c name =>
      have unclosed : ∀ rest, closesWith quote ('$' :: rest) = false := by
        intro rest
        cases quote <;> rfl
      unfold scanPiece at found ⊢
      rw [unclosed, if_neg Bool.false_ne_true, List.cons_append, startsSplice_cons_cons] at found ⊢
      split at found
      · rename_i splice
        rw [if_pos splice]
        simp only [List.drop_succ_cons, List.drop_zero] at found ⊢
        split at found
        · cases found
        · rename_i noBrace
          split
          · rename_i same
            cases same
            exact absurd rfl (noBrace _)
          · have measured : runLength isIdentContinue (c :: name ++ text) = (c :: name).length :=
              Piece.name.inj found
            exact congrArg _ (runLength_append_of_further measured further)
      · dsimp only at found
        split at found <;> cases found

end StringText
end Offside
