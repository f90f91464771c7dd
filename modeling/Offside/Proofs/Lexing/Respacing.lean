import Offside.Proofs.Lexing.LineEnd
import Offside.Proofs.Lexing.Words

namespace Offside

/-!
# Lexemes in front of other blanks

What stands between quotation marks may hold blanks, and so may a comment.  Still the text
behind such a lexeme matters little.  When blanks behind a lexeme give way to others, the
lexeme stays what it is, be it well formed or not, as long as the line breaks stay.

For a string with triple marks even a line break is text like any other.
-/

open CharClass

/-- Blanks that text of a string is made of like of any other character. -/
def StringText.Inert (quote : QuoteForm) (inert : Char → Bool) : Prop :=
  ∀ c, inert c = true → isBlank c = true ∧ (quote = .plain → c ≠ '\n')

theorem StringText.Inert.isBlank {quote : QuoteForm} {inert : Char → Bool}
    (blank : Inert quote inert) (c : Char) (isInert : inert c = true) : isBlank c = true :=
  (blank c isInert).1

/-- The blanks within a line. -/
def isSpacing (c : Char) : Bool := c != '\n' && isBlank c

theorem isBlank_of_isSpacing (c : Char) (spacing : isSpacing c = true) : isBlank c = true :=
  ((Bool.and_eq_true _ _).mp spacing).2

theorem ne_newline_of_isSpacing {c : Char} (spacing : isSpacing c = true) : c ≠ '\n' :=
  bne_iff_ne.mp ((Bool.and_eq_true _ _).mp spacing).1

theorem inert_isSpacing (quote : QuoteForm) : StringText.Inert quote isSpacing :=
  fun c spacing => ⟨isBlank_of_isSpacing c spacing, fun _ => ne_newline_of_isSpacing spacing⟩

/-- A blank is none of the visible characters. -/
theorem beq_of_isBlank {c mark : Char} (visible : isVisible mark = true)
    (blank : isBlank c = true) : (c == mark) = false := by
  refine Bool.eq_false_iff.mpr fun same => ?_
  rw [isBlank_of_beq visible c same] at blank
  cases blank

namespace StringText

variable {quote : QuoteForm} {inert : Char → Bool} {c : Char} {text other front : List Char}

/-! ## Text of strings -/

theorem closesWith_of_isBlank (blank : isBlank c = true) :
    closesWith quote (c :: text) = false := by
  have noMark : (c == '"') = false := beq_of_isBlank (by decide) blank
  cases quote with
  | plain => exact noMark
  | triple =>
      rw [closesWith_triple, List.take_succ_cons, List.cons_beq_cons, noMark, Bool.false_and]

theorem startsSplice_of_isBlank [XidStart] (blank : isBlank c = true) :
    startsSplice (c :: text) = false := by
  have noDollar : (c == '$') = false := beq_of_isBlank (by decide) blank
  cases text with
  | nil => exact startsSplice_singleton c
  | cons d text => rw [startsSplice_cons_cons, noDollar, Bool.false_and]

theorem closesWith_respaced (blank : ∀ c, inert c = true → isBlank c = true)
    (respaced : Respaced inert text other) :
    closesWith quote other = closesWith quote text := by
  have noMark : ∀ c, inert c = true → (c == '"') = false :=
    fun c isInert => beq_of_isBlank (by decide) (blank c isInert)
  have fixed : inert '"' = false :=
    Bool.eq_false_iff.mpr fun isInert => Bool.false_ne_true (noMark '"' isInert).symm
  cases quote with
  | plain => exact respaced.headIs false noMark
  | triple =>
      refine respaced.isPrefixOf fun mark member => ?_
      simp only [List.mem_cons, List.not_mem_nil, or_false, or_self] at member
      rw [member, fixed]

theorem startsSplice_respaced [XidStart] (blank : ∀ c, inert c = true → isBlank c = true)
    (respaced : Respaced inert text other) : startsSplice other = startsSplice text := by
  cases respaced with
  | nil => rfl
  | replace here there each behind =>
      rw [startsSplice_of_isBlank (blank _ here), startsSplice_of_isBlank (blank _ there)]
  | keep c behind =>
      cases behind with
      | nil => rfl
      | keep d beyond => rw [startsSplice_cons_cons, startsSplice_cons_cons]
      | replace here there each beyond =>
          have noName : ∀ {d : Char}, inert d = true →
              (d == '{' || d != '$' && isIdentStart d) = false := by
            intro d isInert
            have isBlankHere := blank d isInert
            have noStart : isIdentStart d = false := by
              refine Bool.eq_false_iff.mpr fun starts => ?_
              rw [isBlank_of_isIdentContinue (isIdentContinue_of_isIdentStart starts)]
                at isBlankHere
              cases isBlankHere
            rw [beq_of_isBlank (by decide) isBlankHere, noStart, Bool.and_false, Bool.or_false]
          rw [startsSplice_cons_cons, startsSplice_cons_cons, noName here, noName there]

theorem headIs_newline_respaced (blank : Inert .plain inert)
    (respaced : Respaced inert text other) :
    headIs (· == '\n') other = headIs (· == '\n') text :=
  respaced.headIs false fun c isInert => beq_eq_false_iff_ne.mpr ((blank c isInert).2 rfl)

theorem isCutOff_respaced (blank : Inert quote inert) (respaced : Respaced inert text other) :
    isCutOff quote other = isCutOff quote text := by
  unfold isCutOff
  rw [respaced.isEmpty]
  cases quote with
  | plain => rw [headIs_newline_respaced blank respaced]
  | triple => rfl

variable [XidStart]

theorem stops_respaced (blank : Inert quote inert) (respaced : Respaced inert text other) :
    stops quote other = stops quote text := by
  unfold stops
  rw [closesWith_respaced blank.isBlank respaced, startsSplice_respaced blank.isBlank respaced]
  cases quote with
  | plain => rw [headIs_newline_respaced blank respaced]
  | triple => rfl

/-- Nothing stops plain text in front of an inert blank. -/
theorem stops_of_inert (blank : Inert quote inert) (isInert : inert c = true) :
    stops quote (c :: text) = false := by
  have noBreak : (quote == .plain && c == '\n') = false := by
    cases quote with
    | plain => exact beq_eq_false_iff_ne.mpr ((blank c isInert).2 rfl)
    | triple => rfl
  unfold stops
  rw [closesWith_of_isBlank (blank c isInert).1, startsSplice_of_isBlank (blank c isInert).1]
  simpa [headIs] using noBreak

/-- Plain text is empty at the end of the source and where it is stopped at once. -/
theorem length_eq_zero_iff : length quote text = 0 ↔ text = [] ∨ stops quote text = true := by
  constructor
  · intro none
    cases text with
    | nil => exact .inl rfl
    | cons c rest =>
        refine .inr (Bool.of_not_eq_false fun goesOn => ?_)
        rw [length_cons goesOn] at none
        split at none
        · split at none
          · cases none
          · split at none <;> cases none
        · cases none
  · rintro (rfl | stop)
    · rfl
    · exact length_of_stops stop

/-- Behind plain text no more of it comes. -/
theorem length_drop_length (text : List Char) :
    length quote (text.drop (length quote text)) = 0 := by
  rw [length_eq_zero_iff]
  cases cut : isCutOff quote (text.drop (length quote text)) with
  | false => exact .inr (stops_drop_length text cut)
  | true =>
      unfold isCutOff at cut
      rw [Bool.or_eq_true, List.isEmpty_iff] at cut
      refine cut.imp id fun broken => ?_
      unfold stops
      rw [broken]
      rfl

/-- Plain text in front of other blanks. -/
theorem length_respaced (blank : Inert quote inert) (respaced : Respaced inert text other)
    (measured : length quote (front ++ text) = front.length) :
    length quote (front ++ other) = front.length := by
  refine length_before (fun c plain => ?_) (isCutOff_respaced blank respaced) ?_ front measured
  · exact (stops_respaced blank (respaced.append (c :: plain))).symm
  · have ends := @length_drop_length quote _ (front ++ text)
    rw [measured, List.drop_left, length_eq_zero_iff] at ends
    rw [length_eq_zero_iff, stops_respaced blank respaced]
    refine ends.imp_left fun nothing => ?_
    rw [nothing] at respaced
    cases respaced
    rfl

theorem hasSplice_inert (blank : Inert quote inert) (each : ∀ c ∈ front, inert c = true)
    (text : List Char) : hasSplice quote (front ++ text) = hasSplice quote text := by
  induction front with
  | nil => rfl
  | cons c front inductionHypothesis =>
      rw [List.forall_mem_cons] at each
      have noBackslash : (c == '\\') = false := beq_of_isBlank (by decide) (blank c each.1).1
      rw [List.cons_append, hasSplice_cons (stops_of_inert blank each.1), noBackslash,
        inductionHypothesis each.2]
      rfl

/-- The search for a splice passes over blanks, and a blank behind a backslash is as good as
any other.  By induction on the length of the text. -/
theorem hasSplice_respaced (blank : Inert quote inert) (respaced : Respaced inert text other) :
    hasSplice quote other = hasSplice quote text := by
  induction measured : text.length using Nat.strongRecOn generalizing text other with
  | ind bound inductionHypothesis =>
      cases respaced with
      | nil => rfl
      | replace here there each behind =>
          rw [List.length_cons] at measured
          have one := hasSplice_inert blank (List.forall_mem_singleton.mpr here)
          have all := hasSplice_inert blank (List.forall_mem_cons.mpr ⟨there, each⟩)
          exact (all _).trans ((inductionHypothesis _ (by omega) behind rfl).trans (one _).symm)
      | @keep text other c behind =>
          rw [List.length_cons] at measured
          have stop := stops_respaced blank (behind.keep c)
          have splice := startsSplice_respaced blank.isBlank (behind.keep c)
          cases stopHere : stops quote (c :: text) with
          | true =>
              rw [stopHere] at stop
              rw [hasSplice_of_stops stop, hasSplice_of_stops stopHere, splice]
          | false =>
              rw [stopHere] at stop
              rw [hasSplice_cons stop, hasSplice_cons stopHere,
                inductionHypothesis _ (by omega) behind rfl]
              split
              · cases behind with
                | nil => rfl
                | @keep text other d beyond =>
                    rw [List.length_cons] at measured
                    exact inductionHypothesis _ (by omega) beyond rfl
                | replace here there each beyond =>
                    rw [List.length_cons] at measured
                    exact (hasSplice_inert blank each _).trans
                      (inductionHypothesis _ (by omega) beyond rfl)
              · rfl

/-! ## Pieces of strings -/

/-- A splice is read up to the end of its name, which no blank belongs to. -/
theorem scanPiece_splice_respaced (blank : ∀ c, inert c = true → isBlank c = true)
    (respaced : Respaced inert text other) (splice : startsSplice text = true) :
    scanPiece quote other = scanPiece quote text := by
  have closes := @closesWith_of_startsSplice quote _ _ splice
  have closesThere := @closesWith_respaced quote _ _ _ blank respaced
  have spliceThere := startsSplice_respaced blank respaced
  rw [closes.1] at closesThere
  rw [splice] at spliceThere
  have noContinue : ∀ c, inert c = true → isIdentContinue c = false := by
    intro c isInert
    refine Bool.eq_false_iff.mpr fun continues => ?_
    have isBlankHere := blank c isInert
    rw [isBlank_of_isIdentContinue continues] at isBlankHere
    cases isBlankHere
  match text, other, respaced with
  | [], _, _ => cases splice
  | c :: text, _, .replace here _ _ _ =>
      rw [startsSplice_of_isBlank (blank c here)] at splice
      cases splice
  | [c], _, .keep _ _ =>
      rw [startsSplice_singleton] at splice
      cases splice
  | c :: d :: text, _, .keep _ (@Respaced.keep _ _ other _ beyond) =>
      by_cases brace : d = '{'
      · subst brace
        rw [startsSplice_cons_cons, Bool.and_eq_true, beq_iff_eq] at splice
        rw [splice.1, scanPiece_brace, scanPiece_brace]
      · rw [scanPiece_name closes.1 splice brace, scanPiece_name closesThere spliceThere brace,
          (beyond.keep d).runLength noContinue]
  | c :: d :: text, _, .keep _ (.replace here _ _ _) =>
      have isBlankHere := blank d here
      rw [startsSplice_cons_cons, beq_of_isBlank (by decide) isBlankHere, Bool.false_or,
        Bool.and_eq_true, Bool.and_eq_true] at splice
      rw [isBlank_of_isIdentContinue (isIdentContinue_of_isIdentStart splice.2.2)] at isBlankHere
      cases isBlankHere

/-- A piece of a string in front of other blanks. -/
theorem scanPiece_respaced (blank : Inert quote inert) (respaced : Respaced inert text other)
    (measured : (scanPiece quote (front ++ text)).reach quote = front.length) :
    scanPiece quote (front ++ other) = scanPiece quote (front ++ text) := by
  have whole := respaced.append front
  have closes := @closesWith_respaced quote _ _ _ blank.isBlank whole
  have splices := startsSplice_respaced blank.isBlank whole
  cases closesHere : closesWith quote (front ++ text) with
  | true =>
      rw [closesHere] at closes
      rw [scanPiece_of_closesWith closesHere, scanPiece_of_closesWith closes]
  | false =>
      rw [closesHere] at closes
      cases spliceHere : startsSplice (front ++ text) with
      | true => exact scanPiece_splice_respaced blank.isBlank whole spliceHere
      | false =>
          rw [spliceHere] at splices
          rw [scanPiece_plain closesHere spliceHere] at measured ⊢
          rw [scanPiece_plain closes splices]
          have reach : length quote (front ++ text) = front.length := by
            split at measured <;> exact measured
          rw [length_respaced blank respaced reach, reach, List.drop_left, List.drop_left,
            isCutOff_respaced blank respaced]

end StringText
/-! ## Character literals -/

namespace CharacterLiteral

variable {c : Char} {text other front : List Char}

theorem isHexDigit_of_isSpacing (c : Char) (spacing : isSpacing c = true) :
    isHexDigit c = false := by
  refine Bool.eq_false_iff.mpr fun digit => ?_
  have blank := isBlank_of_isSpacing c spacing
  rw [isBlank_of_isHexDigit c digit] at blank
  cases blank

/-- At most `bound` digits, in front of other blanks. -/
theorem digits_respaced (respaced : Respaced isSpacing text other) {bound : Nat}
    (measured : runLength isHexDigit ((front ++ text).take bound) = front.length) :
    runLength isHexDigit ((front ++ other).take bound) = front.length := by
  have within : front.length ≤ bound := by
    rw [← measured]
    exact Nat.le_trans (runLength_le _ _) (List.length_take_le _ _)
  rw [List.take_append, List.take_of_length_le within] at measured ⊢
  refine runLength_append_of_further measured fun further => ?_
  have heads := respaced.headIs false isHexDigit_of_isSpacing
  have inside : 0 < bound - front.length := by
    refine Nat.pos_of_ne_zero fun none => ?_
    rw [none] at further
    cases further
  rcases Nat.exists_eq_succ_of_ne_zero (Nat.ne_of_gt inside) with ⟨count, left⟩
  have shown : ∀ text : List Char,
      headIs isHexDigit (text.take (bound - front.length)) = headIs isHexDigit text := by
    intro text
    rw [left]
    cases text <;> rfl
  rw [shown] at further ⊢
  exact heads ▸ further

theorem scanEscape_braces_respaced (respaced : Respaced isSpacing text other) {wellFormed : Bool}
    (measured : scanEscape ('u' :: '{' :: (front ++ text)) = (front.length + 2, wellFormed)) :
    scanEscape ('u' :: '{' :: (front ++ other)) = (front.length + 2, wellFormed) := by
  rw [scanEscape_braces] at measured ⊢
  have whole := respaced.append front
  have digits := whole.runLength isHexDigit_of_isSpacing
  rw [digits]
  split at measured
  · rename_i none
    rw [if_pos none]
    exact measured
  · rename_i some
    rw [if_neg some]
    generalize runLength isHexDigit (front ++ text) = count at measured
    have within : count ≤ front.length := by
      split at measured <;> · have reach := congrArg Prod.fst measured; dsimp only at reach; omega
    rcases exists_append within with ⟨digits, tail, rfl, rfl⟩
    rw [List.append_assoc, List.drop_left, List.length_append] at measured
    rw [List.append_assoc, List.drop_left, List.length_append]
    match tail, measured with
    | [], measured =>
        cases text with
        | nil =>
            cases respaced
            exact measured
        | cons c text =>
            have reach := congrArg Prod.fst measured
            simp only [List.nil_append, List.length_nil] at reach
            omega
    | [c], measured => exact measured
    | c :: d :: tail, measured =>
        have reach := congrArg Prod.fst measured
        simp only [List.cons_append, List.length_cons] at reach
        omega

/-- Behind a backslash an escape takes the next character, unless it is a line break. -/
theorem scanEscape_pos (noBreak : c ≠ '\n') (rest : List Char) :
    0 < (scanEscape (c :: rest)).1 := by
  by_cases hexadecimal : c = 'x'
  · rw [hexadecimal, scanEscape_hexadecimal]
    exact Nat.add_pos_left Nat.one_pos _
  · by_cases unicode : c = 'u'
    · subst unicode
      cases brace : headIs (· == '{') rest with
      | false =>
          rw [scanEscape_unicode brace]
          exact Nat.add_pos_left Nat.one_pos _
      | true =>
          cases rest with
          | nil => cases brace
          | cons d rest =>
              rw [beq_iff_eq.mp brace, scanEscape_braces]
              split
              · exact Nat.two_pos
              · split <;> exact Nat.add_pos_left (Nat.succ_pos _) _
    · rw [scanEscape_simple noBreak hexadecimal unicode]
      exact Nat.one_pos

/-- The part of an escape behind its backslash, in front of other blanks. -/
theorem scanEscape_respaced (respaced : Respaced isSpacing text other) {wellFormed : Bool}
    (measured : scanEscape (front ++ text) = (front.length, wellFormed)) :
    scanEscape (front ++ other) = (front.length, wellFormed) := by
  cases front with
  | nil =>
      cases text with
      | nil =>
          cases respaced
          exact measured
      | cons c text =>
          -- Only a line break stops an escape at once, and it stands in both texts.
          by_cases lineBreak : c = '\n'
          · subst lineBreak
            cases respaced with
            | keep c behind => exact measured
            | replace here there each behind => exact absurd rfl (ne_newline_of_isSpacing here)
          · have some := scanEscape_pos lineBreak text
            rw [List.nil_append] at measured
            rw [measured] at some
            cases some
  | cons c rest =>
      rw [List.cons_append] at measured ⊢
      by_cases lineBreak : c = '\n'
      · subst lineBreak
        cases congrArg Prod.fst measured
      · by_cases hexadecimal : c = 'x'
        · subst hexadecimal
          rw [scanEscape_hexadecimal, Prod.mk.injEq, List.length_cons] at measured ⊢
          rw [digits_respaced respaced (by omega)]
          rw [(by omega : runLength isHexDigit ((rest ++ text).take 2) = rest.length)] at measured
          exact measured
        · by_cases unicode : c = 'u'
          · subst unicode
            have braces := (respaced.append rest).headIs false fun d spacing =>
              beq_of_isBlank (by decide : isVisible '{' = true) (isBlank_of_isSpacing d spacing)
            cases brace : headIs (· == '{') (rest ++ text) with
            | false =>
                rw [brace] at braces
                rw [scanEscape_unicode brace, Prod.mk.injEq, List.length_cons] at measured
                rw [scanEscape_unicode braces, Prod.mk.injEq, List.length_cons,
                  digits_respaced respaced (by omega)]
                rw [(by omega : runLength isHexDigit ((rest ++ text).take 4) = rest.length)]
                  at measured
                exact measured
            | true =>
                cases rest with
                | cons d rest =>
                    rw [beq_iff_eq.mp brace] at measured ⊢
                    exact scanEscape_braces_respaced respaced measured
                | nil =>
                    cases text with
                    | nil => cases brace
                    | cons d text =>
                        rw [List.nil_append, beq_iff_eq.mp brace, scanEscape_braces] at measured
                        have reach := congrArg Prod.fst measured
                        simp only [List.length_singleton] at reach
                        split at reach
                        · cases reach
                        · split at reach <;> (dsimp only at reach; omega)
          · rw [scanEscape_simple lineBreak hexadecimal unicode] at measured ⊢
            exact measured

/-- What stands behind the opening mark of a literal, in front of other blanks. -/
theorem scanContent_respaced (respaced : Respaced isSpacing text other) {wellFormed : Bool}
    (measured : scanContent (front ++ text) = (front.length, wellFormed)) :
    scanContent (front ++ other) = (front.length, wellFormed) := by
  cases front with
  | nil =>
      cases respaced with
      | nil => exact measured
      | @keep text other c behind =>
          rw [List.nil_append] at measured ⊢
          by_cases lineBreak : c = '\n'
          · subst lineBreak
            exact measured
          · by_cases mark : c = '\''
            · subst mark
              exact measured
            · by_cases backslash : c = '\\'
              · subst backslash
                have reach := congrArg Prod.fst measured
                rw [scanContent_escape, List.length_nil] at reach
                omega
              · rw [scanContent_simple lineBreak mark backslash] at measured
                cases congrArg Prod.fst measured
      | replace here there each behind =>
          have blank := isBlank_of_isSpacing _ here
          have noMark := beq_eq_false_iff_ne.mp
            (beq_of_isBlank (by decide : isVisible '\'' = true) blank)
          have noBackslash := beq_eq_false_iff_ne.mp
            (beq_of_isBlank (by decide : isVisible '\\' = true) blank)
          rw [List.nil_append, scanContent_simple (ne_newline_of_isSpacing here) noMark noBackslash]
            at measured
          cases congrArg Prod.fst measured
  | cons c rest =>
      rw [List.cons_append] at measured ⊢
      by_cases backslash : c = '\\'
      · subst backslash
        rw [scanContent_escape, Prod.mk.injEq, List.length_cons] at measured
        have escape : scanEscape (rest ++ text) = (rest.length, wellFormed) :=
          Prod.ext (by dsimp only; omega) measured.2
        rw [scanContent_escape, scanEscape_respaced respaced escape, List.length_cons, Nat.add_comm]
      · by_cases mark : c = '\''
        · subst mark
          cases congrArg Prod.fst measured
        · by_cases lineBreak : c = '\n'
          · subst lineBreak
            cases congrArg Prod.fst measured
          · rw [scanContent_simple lineBreak mark backslash] at measured ⊢
            exact measured

theorem headIs_mark_respaced (respaced : Respaced isSpacing text other) :
    headIs (· == '\'') other = headIs (· == '\'') text :=
  respaced.headIs false fun c spacing =>
    beq_of_isBlank (by decide) (isBlank_of_isSpacing c spacing)

/-- The rest of a malformed literal, in front of other blanks. -/
theorem resyncLength_respaced (respaced : Respaced isSpacing text other)
    (measured : resyncLength (front ++ text) = front.length) :
    resyncLength (front ++ other) = front.length := by
  unfold resyncLength at measured ⊢
  dsimp only at measured ⊢
  split at measured
  · rename_i closes
    rcases exists_append (Nat.le_of_succ_le (Nat.le_of_eq measured)) with
      ⟨gap, tail, rfl, reach⟩
    rw [← reach, List.length_append] at measured
    rw [← reach, List.append_assoc, List.drop_left] at closes
    rw [List.append_assoc] at reach ⊢
    rcases List.length_eq_one_iff.mp (Nat.add_left_cancel measured).symm with ⟨c, rfl⟩
    have isMark : c = '\'' := beq_iff_eq.mp closes
    subst isMark
    have each := (all_of_runLength_append reach.symm).1
    have stops : headIs (fun c => c != '\'' && c != '\n') (['\''] ++ other) = false := rfl
    rw [runLength_append each stops, List.drop_left, List.length_append]
    rfl
  · rename_i unclosed
    have nothing := List.length_eq_zero_iff.mp measured.symm
    subst nothing
    rw [List.nil_append, drop_runLength] at unclosed ⊢
    have passes : ∀ c, isSpacing c = true → (c != '\'' && c != '\n') = true := by
      intro c spacing
      have noMark : (c == '\'') = false :=
        beq_of_isBlank (by decide) (isBlank_of_isSpacing c spacing)
      have noBreak := beq_eq_false_iff_ne.mpr (ne_newline_of_isSpacing spacing)
      rw [bne, bne, noMark, noBreak]
      rfl
    rw [headIs_mark_respaced (respaced.dropWhile passes), if_neg unclosed]
    rfl

/-- A literal in front of other blanks. -/
theorem scan_respaced (respaced : Respaced isSpacing text other)
    (measured : (scan (front ++ text)).1 = front.length) :
    scan (front ++ other) = scan (front ++ text) := by
  have within : (scanContent (front ++ text)).1 ≤ front.length := by
    rw [← measured]
    unfold scan
    dsimp only
    split <;> exact Nat.le_add_right _ _
  rcases exists_append within with ⟨content, back, rfl, reach⟩
  rw [List.append_assoc] at measured reach ⊢
  have inside : scanContent (content ++ (back ++ text)) =
      (content.length, (scanContent (content ++ (back ++ text))).2) := Prod.ext reach.symm rfl
  have behind := respaced.append back
  rw [List.append_assoc]
  unfold scan at measured ⊢
  rw [scanContent_respaced behind inside]
  rw [inside] at measured ⊢
  dsimp only at measured ⊢
  rw [List.drop_left] at measured ⊢
  rw [List.drop_left, headIs_mark_respaced behind]
  split
  · rfl
  · rename_i malformed
    rw [if_neg malformed, List.length_append] at measured
    have resync : resyncLength (back ++ text) = back.length := by
      dsimp only at measured
      omega
    rw [resyncLength_respaced respaced resync, resync]

end CharacterLiteral
/-! ## Lexemes -/

namespace Lexeme

open StringText

variable {c : Char} {text other front : List Char} {operandBefore : Bool}

/-- A scanner that stays what it is in front of other blanks, whatever it finds. -/
def Unmoved (scanner : List Char → Found) : Prop :=
  ∀ {front text other : List Char}, Respaced isSpacing text other →
    (scanner (front ++ text)).more = front.length →
      scanner (front ++ other) = scanner (front ++ text)

/-- What a sound token reaches over is all that decides about it. -/
theorem Stays.again [XidStart] {scanner : List Char → Found} (stays : Stays scanner (front ++ text))
    (reach : (scanner (front ++ text)).more = front.length) (further : NoFurther text other) :
    scanner (front ++ other) = scanner (front ++ text) := by
  rcases stays with ⟨frontToo, textToo, split, reachToo, _, again⟩
  rcases List.append_inj split (reach.symm.trans reachToo) with ⟨sameFront, sameText⟩
  subst sameFront sameText
  exact again other further

theorem sameWord_of_spacing (respaced : Respaced isSpacing text other) : SameWord text other :=
  respaced.sameWord isBlank_of_isSpacing

theorem character_unmoved : Unmoved character := by
  intro front text other respaced reach
  unfold character at reach ⊢
  dsimp only at reach ⊢
  have measured : (CharacterLiteral.scan (front ++ text)).1 = front.length := by
    split at reach <;> exact reach
  rw [CharacterLiteral.scan_respaced respaced measured, measured, List.take_left, List.take_left]

/-- A run is not empty if its first character belongs to it. -/
theorem runLength_bne_zero (test : Char → Bool) (text : List Char) :
    (runLength test text != 0) = headIs test text := by
  cases text with
  | nil => rfl
  | cons c text =>
      rw [runLength_cons]
      cases passes : test c with
      | true => exact passes.symm
      | false => exact passes.symm

theorem backquoted_unmoved [XidStart] : Unmoved backquoted := by
  intro front text other respaced reach
  cases found : (backquoted (front ++ text)).lexeme with
  | token kind =>
      exact (backquoted_stays found).again reach (sameWord_of_spacing respaced).noFurther
  | _ =>
      have passes : ∀ c, isSpacing c = true → (c != '`' && c != '\n') = true := by
        intro c spacing
        have noMark : (c == '`') = false :=
          beq_of_isBlank (by decide) (isBlank_of_isSpacing c spacing)
        have noBreak := beq_eq_false_iff_ne.mpr (ne_newline_of_isSpacing spacing)
        rw [bne, bne, noMark, noBreak]
        rfl
      have mark : ∀ c, isSpacing c = true → (c == '`') = false :=
        fun c spacing => beq_of_isBlank (by decide) (isBlank_of_isSpacing c spacing)
      unfold backquoted at found reach ⊢
      dsimp only at found reach ⊢
      rw [runLength_bne_zero, drop_runLength] at found reach ⊢
      rw [runLength_bne_zero, drop_runLength]
      split at found
      · cases found
      · rename_i unclosed
        rw [if_neg unclosed] at reach
        have nothing := List.length_eq_zero_iff.mp reach.symm
        subst nothing
        rw [List.nil_append] at unclosed ⊢
        rw [List.nil_append, respaced.headIs true passes,
          (respaced.dropWhile passes).headIs false mark, if_neg unclosed, if_neg unclosed]

theorem string_unmoved [XidStart] : Unmoved string := by
  intro front text other respaced reach
  cases found : (string (front ++ text)).lexeme with
  | token kind => exact (string_stays found).again reach (sameWord_of_spacing respaced).noFurther
  | stringOpening quote =>
      rcases string_opening_stays found with ⟨body, split, reachToo, spliced, again⟩
      rcases List.append_inj split (reach.symm.trans reachToo) with ⟨sameFront, sameText⟩
      subst sameFront sameText
      exact again other ((hasSplice_respaced (inert_isSpacing quote) respaced).trans spliced)
  | trivia kind =>
      have noTrivia : (scanSolid false '"' (front ++ text)).lexeme ≠ .trivia kind :=
        scanSolid_ne_trivia false kind
      exact absurd found noTrivia
  | faulty fault =>
      have marks : ['"', '"'].isPrefixOf (front ++ other) =
          ['"', '"'].isPrefixOf (front ++ text) := by
        refine (respaced.append front).isPrefixOf fun mark member => ?_
        simp only [List.mem_cons, List.not_mem_nil, or_false, or_self] at member
        rw [member]
        decide +kernel
      unfold string at found reach ⊢
      rw [marks]
      dsimp only at found reach ⊢
      generalize (if ['"', '"'].isPrefixOf (front ++ text) = true then QuoteForm.triple
        else QuoteForm.plain) = quote at found reach ⊢
      split at found
      · cases found
      · rename_i plain
        split at found
        · rename_i cutOff
          rw [if_neg plain, if_pos cutOff] at reach ⊢
          dsimp only at reach
          rcases exists_append (Nat.le_of_add_right_le (Nat.le_of_eq reach)) with
            ⟨opening, body, rfl, length⟩
          rw [← length, List.append_assoc, List.drop_left] at reach plain cutOff ⊢
          rw [List.append_assoc, List.drop_left]
          rw [List.length_append] at reach
          have blank := inert_isSpacing quote
          have measured : StringText.length quote (body ++ text) = body.length := by omega
          rw [measured, List.drop_left] at cutOff
          rw [hasSplice_respaced blank (respaced.append body), if_neg plain,
            length_respaced blank respaced measured, List.drop_left,
            isCutOff_respaced blank respaced, if_pos cutOff, measured]
        · cases found

/-- A block comment goes on until its closing mark comes in sight. -/
theorem commentRestLength?_cons (c : Char) (rest : List Char) :
    commentRestLength? (c :: rest) =
      if c == '*' && headIs (· == '/') rest then some 2
      else (commentRestLength? rest).map (· + 1) := by
  by_cases star : c = '*'
  · subst star
    cases rest with
    | nil => rfl
    | cons d rest =>
        by_cases slash : d = '/'
        · subst slash
          rfl
        · simp [commentRestLength?, headIs, slash]
  · simp [commentRestLength?, star]

theorem two_le_commentRestLength? {length : Nat} (closed : commentRestLength? text = some length) :
    2 ≤ length := by
  induction text generalizing length with
  | nil => cases closed
  | cons c rest inductionHypothesis =>
      rw [commentRestLength?_cons] at closed
      split at closed
      · cases closed
        exact Nat.le_refl 2
      · rcases Option.map_eq_some_iff.mp closed with ⟨inner, closedThere, rfl⟩
        exact Nat.le_succ_of_le (inductionHypothesis closedThere)

/-- A closed comment does not depend on what stands behind it. -/
theorem commentRestLength?_again (other : List Char) :
    ∀ front : List Char, commentRestLength? (front ++ text) = some front.length →
      commentRestLength? (front ++ other) = some front.length
  | [], closed => absurd (two_le_commentRestLength? closed) (Nat.not_succ_le_zero 1)
  | [_], closed => absurd (two_le_commentRestLength? closed) (Nat.not_succ_le_self 1)
  | c :: d :: front, closed => by
      rw [List.cons_append, List.cons_append, commentRestLength?_cons] at closed ⊢
      have sight : ∀ text : List Char, headIs (· == '/') (d :: text) = (d == '/') := fun _ => rfl
      rw [sight] at closed ⊢
      split at closed
      · rename_i ends
        rw [if_pos ends]
        exact closed
      · rename_i goesOn
        rcases Option.map_eq_some_iff.mp closed with ⟨inner, closedThere, length⟩
        have behind : commentRestLength? (d :: front ++ text) = some (d :: front).length := by
          rw [List.cons_append, closedThere]
          exact congrArg some (Nat.succ.inj length)
        rw [if_neg goesOn, ← List.cons_append, commentRestLength?_again other (d :: front) behind]
        rfl

theorem blockComment_unmoved : Unmoved blockComment := by
  intro front text other respaced reach
  unfold blockComment at reach ⊢
  cases closed : commentRestLength? ((front ++ text).drop 1) with
  | some length =>
      rw [closed] at reach
      cases front with
      | nil => cases reach
      | cons c front =>
          have measured : length = front.length := Nat.succ.inj reach
          rw [List.cons_append, List.drop_succ_cons, List.drop_zero] at closed ⊢
          subst measured
          rw [commentRestLength?_again other front closed]
  | none =>
      rw [closed] at reach
      have nothing : text = [] := by
        rw [← List.length_eq_zero_iff]
        dsimp only at reach
        rw [List.length_append] at reach
        omega
      subst nothing
      cases respaced
      rw [closed]

/-- A line comment ends where its line does. -/
theorem lineComment_unmoved {front : List Char} (respaced : Respaced isSpacing text other)
    (reach : runLength (· != '\n') (front ++ text) = front.length) :
    runLength (· != '\n') (front ++ other) = front.length := by
  refine runLength_append_of_further reach fun further => ?_
  rwa [respaced.headIs true fun c spacing =>
    bne_iff_ne.mpr (ne_newline_of_isSpacing spacing)] at further

variable [XidStart]

/-- No lexeme changes when blanks behind it give way to others.  What begins with a blank
is another matter, since it may go on. -/
theorem scan_respaced (respaced : Respaced isSpacing text other)
    (solid : isSpacing c = false)
    (reach : (scan operandBefore c (front ++ text)).more = front.length) :
    scan operandBefore c (front ++ other) = scan operandBefore c (front ++ text) := by
  by_cases lineBreak : c = '\n'
  · rw [lineBreak, scan_newline, scan_newline]
  have noBlank : isBlank c = false := by
    unfold isSpacing at solid
    rwa [bne_iff_ne.mpr lineBreak, Bool.true_and] at solid
  have same := (sameWord_of_spacing respaced).append front
  have comments := same.startsComment c
  cases comment : startsComment (c :: (front ++ text)) with
  | true =>
      rw [comment] at comments
      have slash : c = '/' := by
        rw [startsComment_cons, Bool.and_eq_true, beq_iff_eq] at comment
        exact comment.1
      subst slash
      rw [scan_comment _ comment] at reach ⊢
      rw [scan_comment _ comments, same.headIs (isBlank_of_beq (by decide))]
      split
      · rename_i line
        rw [if_pos line] at reach
        dsimp only at reach
        rw [lineComment_unmoved respaced reach, reach]
      · rename_i block
        rw [if_neg block] at reach
        exact blockComment_unmoved respaced reach
  | false =>
      rw [comment] at comments
      rw [scan_eq_scanSolid noBlank comment] at reach ⊢
      rw [scan_eq_scanSolid noBlank comments, same.startsNumeral]
      by_cases quote : c = '"'
      · subst quote
        exact string_unmoved respaced reach
      by_cases mark : c = '\''
      · subst mark
        exact character_unmoved respaced reach
      by_cases backquote : c = '`'
      · subst backquote
        exact backquoted_unmoved respaced reach
      exact same.scanSolid ⟨quote, mark, backquote⟩

/-- A run of blanks of a line is one lexeme. -/
theorem scan_spacing {run beyond : List Char} (each : ∀ d ∈ c :: run, isSpacing d = true)
    (ends : headIs isSpacing beyond = false) :
    scan operandBefore c (run ++ beyond) = ⟨.trivia .whitespace, run.length⟩ := by
  rw [List.forall_mem_cons] at each
  have measured : runLength isSpacing (run ++ beyond) = run.length := runLength_append each.2 ends
  rw [scan_blank _ _ (ne_newline_of_isSpacing each.1) (isBlank_of_isSpacing c each.1)]
  exact congrArg (Found.mk _) measured

theorem isSpacing_of_whitespace {rest : List Char}
    (found : (scan operandBefore c rest).lexeme = .trivia .whitespace) : isSpacing c = true := by
  by_cases lineBreak : c = '\n'
  · rw [lineBreak, scan_newline] at found
    cases found
  rcases blank_or_comment found with blank | comment
  · unfold isSpacing
    rw [bne_iff_ne.mpr lineBreak, blank]
    rfl
  · have slash : c = '/' := by
      rw [startsComment_cons, Bool.and_eq_true, beq_iff_eq] at comment
      exact comment.1
    subst slash
    rw [scan_comment _ comment] at found
    split at found
    · cases found
    · unfold blockComment at found
      split at found <;> cases found

/-- The text of a lexeme is the same lexeme in front of other blanks. -/
theorem scan_take_append {rest : List Char} (solid : isSpacing c = false)
    (respaced : Respaced isSpacing (rest.drop (scan operandBefore c rest).more) other) :
    scan operandBefore c (rest.take (scan operandBefore c rest).more ++ other) =
      scan operandBefore c rest := by
  have split := List.take_append_drop (scan operandBefore c rest).more rest
  rcases Nat.le_total (scan operandBefore c rest).more rest.length with within | beyond
  · have reach : (scan operandBefore c (rest.take (scan operandBefore c rest).more ++
        rest.drop (scan operandBefore c rest).more)).more =
        (rest.take (scan operandBefore c rest).more).length := by
      rw [split, List.length_take_of_le within]
    exact (scan_respaced respaced solid reach).trans (by rw [split])
  · rw [List.drop_of_length_le beyond] at respaced
    cases respaced
    rw [List.append_nil, List.take_of_length_le beyond]

end Lexeme

namespace StringText

/-- A piece does not reach beyond its text. -/
theorem reach_scanPiece_le [XidStart] (quote : QuoteForm) (text : List Char) :
    (scanPiece quote text).reach quote ≤ text.length := by
  cases closes : closesWith quote text with
  | true =>
      rw [scanPiece_of_closesWith closes, eq_append_of_closesWith closes, List.length_append,
        length_spelling]
      exact Nat.le_add_right _ _
  | false =>
      cases splice : startsSplice text with
      | false =>
          rw [scanPiece_plain closes splice]
          split <;> exact length_le text
      | true =>
          match text, closes, splice with
          | [], _, splice => cases splice
          | [c], _, splice =>
              rw [startsSplice_singleton] at splice
              cases splice
          | c :: d :: rest, closes, splice =>
              by_cases brace : d = '{'
              · subst brace
                rw [startsSplice_cons_cons, Bool.and_eq_true, beq_iff_eq] at splice
                rw [splice.1, scanPiece_brace]
                exact Nat.succ_le_succ (Nat.succ_le_succ (Nat.zero_le _))
              · rw [scanPiece_name closes splice brace]
                exact Nat.succ_le_succ (runLength_le _ _)

/-- The text of a piece is the same piece in front of other blanks. -/
theorem scanPiece_take_append [XidStart] {quote : QuoteForm} {text other : List Char}
    (respaced : Respaced isSpacing (text.drop ((scanPiece quote text).reach quote)) other) :
    scanPiece quote (text.take ((scanPiece quote text).reach quote) ++ other) =
      scanPiece quote text := by
  have split := List.take_append_drop ((scanPiece quote text).reach quote) text
  have reach : (scanPiece quote (text.take ((scanPiece quote text).reach quote) ++
      text.drop ((scanPiece quote text).reach quote))).reach quote =
      (text.take ((scanPiece quote text).reach quote)).length := by
    rw [split, List.length_take_of_le (reach_scanPiece_le quote text)]
  exact (scanPiece_respaced (inert_isSpacing quote) respaced reach).trans (by rw [split])

end StringText
end Offside
