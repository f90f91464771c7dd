import Offside.Proofs.Lexing.Ahead
import Offside.Proofs.Lexing.Boundary

namespace Offside

/-!
# Lexemes in front of the end of a line

No lexeme reaches beyond the end of its line, except for comments and strings that are
closed further on.  So what stands in a text that ends with a line break is read in the
same way when another text follows.
-/

open CharClass

namespace StringText

variable {text rest : List Char} {c d : Char} {quote : QuoteForm}

theorem scanPiece_name [XidStart] (unclosed : closesWith quote (c :: d :: rest) = false)
    (splice : startsSplice (c :: d :: rest) = true) (noBrace : d ≠ '{') :
    scanPiece quote (c :: d :: rest) = .name (runLength isIdentContinue (d :: rest)) := by
  unfold scanPiece
  rw [unclosed, splice]
  simp only [Bool.false_eq_true, if_false, if_true, List.drop_succ_cons, List.drop_zero]
  split
  · rename_i same
    cases same
    exact absurd rfl noBrace
  · rfl

theorem scanPiece_plain [XidStart] (unclosed : closesWith quote text = false)
    (noSplice : startsSplice text = false) :
    scanPiece quote text = if isCutOff quote (text.drop (length quote text)) then
      .cutOff (length quote text) else .text (length quote text) := by
  unfold scanPiece
  rw [unclosed, noSplice]
  rfl

end StringText

/-- A text whose last line is ended. -/
def EndsLine (text : List Char) : Prop := ∃ front, text = front ++ ['\n']

namespace Lexeme

variable [XidStart] {operandBefore : Bool} {c : Char} {rest : List Char}

/-- Without a blank or a comment at its front a text does not begin with trivia. -/
theorem scanSolid_ne_trivia (numeric : Bool) (kind : TriviaKind) :
    (scanSolid numeric c rest).lexeme ≠ .trivia kind := by
  unfold scanSolid
  split
  · unfold string
    dsimp only
    repeat' split
    all_goals
      intro same
      cases same
  · split
    · unfold character
      dsimp only
      split <;> (intro same; cases same)
    · split
      · unfold backquoted
        dsimp only
        split <;> (intro same; cases same)
      · split
        · unfold numeral
          dsimp only
          split <;> (intro same; cases same)
        · split
          · intro same
            cases same
          · split
            · intro same
              cases same
            · split
              · unfold operator
                dsimp only
                repeat' split
                all_goals
                  intro same
                  cases same
              · intro same
                cases same

/-- Trivia begins with a blank or with the mark of a comment. -/
theorem blank_or_comment {kind : TriviaKind}
    (found : (scan operandBefore c rest).lexeme = .trivia kind) :
    isBlank c = true ∨ startsComment (c :: rest) = true := by
  cases blank : isBlank c with
  | true => exact .inl rfl
  | false =>
      right
      cases comment : startsComment (c :: rest) with
      | true => rfl
      | false =>
          rw [scan_eq_scanSolid blank comment] at found
          exact absurd found (scanSolid_ne_trivia _ kind)

theorem scan_newline (operandBefore : Bool) (rest : List Char) :
    scan operandBefore '\n' rest = ⟨.trivia .newline, 0⟩ := rfl

theorem scan_blank (operandBefore : Bool) (rest : List Char) (noBreak : c ≠ '\n')
    (blank : isBlank c = true) : scan operandBefore c rest =
      ⟨.trivia .whitespace, runLength (fun d => d != '\n' && isBlank d) rest⟩ := by
  unfold scan
  rw [beq_eq_false_iff_ne.mpr noBreak, blank]
  rfl

theorem scan_comment (operandBefore : Bool) {rest : List Char}
    (comment : startsComment ('/' :: rest) = true) : scan operandBefore '/' rest =
      if headIs (· == '/') rest then ⟨.trivia .lineComment, runLength (· != '\n') rest⟩
      else blockComment rest := by
  rw [startsComment_cons] at comment
  have blank : isBlank '/' = false := isBlank_of_visible (by decide)
  unfold scan
  rw [blank]
  cases rest with
  | nil => cases comment
  | cons d rest =>
      by_cases again : d = '/'
      · subst again
        rfl
      · by_cases star : d = '*'
        · subst star
          rfl
        · simp [headIs, again, star] at comment

end Lexeme

namespace EndsLine

variable {text other front rest : List Char} {c : Char} {quote : QuoteForm}

theorem ne_nil (ends : EndsLine text) : text ≠ [] := by
  rcases ends with ⟨front, rfl⟩
  exact List.append_ne_nil_of_right_ne_nil _ (List.cons_ne_nil _ _)

theorem getLast? (ends : EndsLine text) : text.getLast? = some '\n' := by
  rcases ends with ⟨front, rfl⟩
  exact List.getLast?_concat

theorem of_getLast? (last : text.getLast? = some '\n') : EndsLine text := by
  rcases List.eq_nil_or_concat text with rfl | ⟨front, c, rfl⟩
  · cases last
  · rw [List.concat_eq_append, List.getLast?_concat] at last
    cases last
    exact ⟨front, List.concat_eq_append⟩

/-- What is left of the text ends the line, too. -/
theorem of_append (front : List Char) (ends : EndsLine (front ++ text)) (some : text ≠ []) :
    EndsLine text := by
  have last := ends.getLast?
  rw [List.getLast?_append, List.getLast?_eq_some_getLast some, Option.some_or] at last
  exact of_getLast? ((List.getLast?_eq_some_getLast some).trans last)

theorem drop (ends : EndsLine text) {count : Nat} (some : text.drop count ≠ []) :
    EndsLine (text.drop count) := by
  rw [← List.take_append_drop count text] at ends
  exact of_append _ ends some

/-- A text of one character that ends the line is the line break. -/
theorem tail (ends : EndsLine (c :: rest)) (noBreak : c ≠ '\n') : EndsLine rest := by
  refine of_append [c] ends fun nothing => ?_
  have last := ends.getLast?
  rw [nothing] at last
  exact noBreak (Option.some.inj last)

/-! ## Runs -/

theorem headIs_append (ends : EndsLine text) (test : Char → Bool) (other : List Char) :
    headIs test (text ++ other) = headIs test text := by
  cases text with
  | nil => exact absurd rfl ends.ne_nil
  | cons c text => rfl

/-- Nothing that follows goes on with what stands at the front of the text. -/
theorem noFurther [XidStart] (ends : EndsLine text) (other : List Char) :
    NoFurther text (text ++ other) where
  word := fun further => by rwa [ends.headIs_append] at further
  digit := fun further => by rwa [ends.headIs_append] at further
  comment := fun further => by rwa [ends.headIs_append] at further
  brace := fun further => by rwa [ends.headIs_append] at further
  quote := fun further => by rwa [ends.headIs_append] at further
  fraction := by
    intro further
    cases text with
    | nil => exact absurd rfl ends.ne_nil
    | cons c rest =>
        rw [List.cons_append, Numeral.fractionLength_cons] at further
        rw [Numeral.fractionLength_cons]
        split at further
        · rename_i point
          rw [Bool.and_eq_true, beq_iff_eq] at point
          have behind : EndsLine rest := ends.tail (by rw [point.1]; decide)
          rw [behind.headIs_append] at point
          rw [if_pos (by rw [point.1, point.2]; rfl)]
          exact Nat.succ_pos _
        · exact absurd further (Nat.lt_irrefl 0)
  operators := by
    intro further
    cases text with
    | nil => exact absurd rfl ends.ne_nil
    | cons c rest =>
        rw [List.cons_append, Lexeme.operatorRunLength_cons, Lexeme.startsComment_cons] at further
        rw [Lexeme.operatorRunLength_cons, Lexeme.startsComment_cons]
        split at further
        · rename_i symbol
          have behind : EndsLine rest := ends.tail fun lineBreak => by
            rw [lineBreak, Bool.and_eq_true] at symbol
            exact absurd (isBlank_of_isOperatorSymbol symbol.1) (by rw [isBlank_newline]; nofun)
          rw [behind.headIs_append] at symbol
          rw [if_pos symbol]
          exact Nat.succ_pos _
        · exact absurd further (Nat.lt_irrefl 0)

theorem isIdentContinue_newline [XidStart] : isIdentContinue '\n' = false := by
  refine Bool.eq_false_iff.mpr fun continues => ?_
  exact absurd (isBlank_of_isIdentContinue continues) (by rw [isBlank_newline]; nofun)

theorem runLength_append (ends : EndsLine text) (test : Char → Bool)
    (stops : test '\n' = false) (other : List Char) :
    runLength test (text ++ other) = runLength test text ∧
      runLength test text < text.length := by
  rcases ends with ⟨front, rfl⟩
  induction front with
  | nil =>
      show runLength test ('\n' :: other) = runLength test ['\n'] ∧ runLength test ['\n'] < 1
      rw [runLength_cons, runLength_cons, stops]
      exact ⟨rfl, Nat.one_pos⟩
  | cons c front inductionHypothesis =>
      simp only [List.cons_append, runLength_cons, List.length_cons]
      split
      · exact ⟨congrArg (· + 1) inductionHypothesis.1, Nat.succ_lt_succ inductionHypothesis.2⟩
      · exact ⟨rfl, Nat.succ_pos _⟩

/-- A comment that is closed. -/
theorem commentRestLength?_append {length : Nat}
    (closed : Lexeme.commentRestLength? text = some length) (other : List Char) :
    Lexeme.commentRestLength? (text ++ other) = some length ∧ length ≤ text.length := by
  fun_induction Lexeme.commentRestLength? text generalizing length with
  | case1 => cases closed
  | case2 rest =>
      cases closed
      exact ⟨rfl, Nat.succ_le_succ (Nat.succ_le_succ (Nat.zero_le _))⟩
  | case3 c rest noEnd inductionHypothesis =>
      rcases Option.map_eq_some_iff.mp closed with ⟨inner, closedThere, rfl⟩
      have behind := inductionHypothesis closedThere
      refine ⟨?_, Nat.succ_le_succ behind.2⟩
      have goesOn : Lexeme.commentRestLength? (c :: (rest ++ other)) =
          (Lexeme.commentRestLength? (rest ++ other)).map (· + 1) := by
        rw [Lexeme.commentRestLength?]
        intro beyond star slash
        cases rest with
        | nil => cases closedThere
        | cons d rest =>
            cases slash
            exact noEnd rest star rfl
      rw [List.cons_append, goesOn, behind.1]
      rfl

/-! ## Strings -/

theorem closesWith_append (ends : EndsLine text) (other : List Char) :
    StringText.closesWith quote (text ++ other) = StringText.closesWith quote text := by
  cases quote with
  | plain => exact ends.headIs_append _ other
  | triple =>
      rcases ends with ⟨front, rfl⟩
      rw [StringText.closesWith_triple, StringText.closesWith_triple, List.append_assoc]
      match front with
      | [] => rfl
      | [c] =>
          rw [List.cons_append, List.nil_append, List.take_succ_cons, List.singleton_append]
          simp
      | [c, d] => rfl
      | c :: d :: e :: front => rfl

theorem startsSplice_append [XidStart] (ends : EndsLine text) (other : List Char) :
    StringText.startsSplice (text ++ other) = StringText.startsSplice text := by
  cases text with
  | nil => exact absurd rfl ends.ne_nil
  | cons c rest =>
      cases rest with
      | cons d rest =>
          exact (StringText.startsSplice_cons_cons _ _ _).trans
            (StringText.startsSplice_cons_cons _ _ _).symm
      | nil =>
          have isBreak : c = '\n' := Option.some.inj ends.getLast?
          rw [isBreak, StringText.startsSplice_singleton]
          cases other with
          | nil => rfl
          | cons d other =>
              exact (StringText.startsSplice_cons_cons _ _ _).trans (Bool.false_and _)

theorem hasSplice_append [XidStart] (other : List Char) :
    ∀ text : List Char, EndsLine text → StringText.hasSplice quote text = true →
      StringText.hasSplice quote (text ++ other) = true
  | [], ends, _ => absurd rfl ends.ne_nil
  | [c], ends, spliced => by
      have isBreak : c = '\n' := Option.some.inj ends.getLast?
      rw [isBreak] at spliced
      cases quote <;> cases spliced
  | c :: d :: rest, ends, spliced => by
      have behind : EndsLine (d :: rest) :=
        of_append [c] ends (List.cons_ne_nil _ _)
      have unfolded : ∀ text : List Char, StringText.hasSplice quote (c :: d :: text) =
          if StringText.closesWith quote (c :: d :: text) || (quote == .plain && c == '\n') then
            false
          else if StringText.startsSplice (c :: d :: text) then true
          else if c == '\\' then StringText.hasSplice quote text
          else StringText.hasSplice quote (d :: text) := fun _ => rfl
      rw [List.cons_append, List.cons_append, unfolded, ← List.cons_append, ← List.cons_append,
        ends.closesWith_append, ends.startsSplice_append]
      rw [unfolded] at spliced
      split at spliced
      · cases spliced
      · rename_i goesOn
        rw [if_neg goesOn]
        split at spliced
        · rename_i splice
          rw [if_pos splice]
        · rename_i noSplice
          rw [if_neg noSplice]
          split at spliced
          · rename_i backslash
            rw [if_pos backslash]
            cases rest with
            | nil => cases spliced
            | cons e rest =>
                exact hasSplice_append other (e :: rest)
                  (of_append [c, d] ends (List.cons_ne_nil _ _)) spliced
          · rename_i noBackslash
            rw [if_neg noBackslash]
            exact hasSplice_append other (d :: rest) behind spliced

theorem stops_append [XidStart] (ends : EndsLine text) (other : List Char) :
    StringText.stops quote (text ++ other) = StringText.stops quote text := by
  unfold StringText.stops
  rw [ends.closesWith_append, ends.startsSplice_append, ends.headIs_append]

theorem isCutOff_append (ends : EndsLine text) (other : List Char) :
    StringText.isCutOff quote (text ++ other) = StringText.isCutOff quote text := by
  unfold StringText.isCutOff
  rw [ends.headIs_append]
  cases text with
  | nil => exact absurd rfl ends.ne_nil
  | cons c text => rfl

/-- A stop is seen before the line ends. -/
theorem sameSight [XidStart] (ends : EndsLine text) (stop : StringText.stops quote text = true)
    (notCutOff : StringText.isCutOff quote text = false) (other : List Char) :
    StringText.SameSight quote text (text ++ other) := by
  have long : quote = .triple → 2 ≤ text.length := by
    intro triple
    subst triple
    cases text with
    | nil => exact absurd rfl ends.ne_nil
    | cons c rest =>
        cases rest with
        | cons d rest => exact Nat.succ_le_succ (Nat.succ_le_succ (Nat.zero_le _))
        | nil =>
            rcases StringText.stops_cases stop notCutOff with closes | splice
            · rw [StringText.closesWith_triple, beq_iff_eq] at closes
              cases closes
            · rw [StringText.startsSplice_singleton] at splice
              cases splice
  have same := StringText.SameSight.of_append ends.ne_nil long [] other
  rwa [List.append_nil] at same

/-- What does not end with a line break leaves something behind. -/
theorem lt_length (ends : EndsLine text) {count : Nat} (within : count ≤ text.length)
    (noBreak : (text.take count).getLast? ≠ some '\n') : count < text.length := by
  rcases Nat.lt_or_eq_of_le within with inside | whole
  · exact inside
  · rw [whole, List.take_length] at noBreak
    exact absurd ends.getLast? noBreak

/-- A piece of a string that is not cut off.  Something is left behind it. -/
theorem scanPiece_append [XidStart] (ends : EndsLine text)
    (whole : ∀ length, StringText.scanPiece quote text ≠ .cutOff length) (other : List Char) :
    StringText.scanPiece quote (text ++ other) = StringText.scanPiece quote text ∧
      (StringText.scanPiece quote text).reach quote < text.length := by
  have closed : StringText.closesWith quote (text ++ other) =
      StringText.closesWith quote text := ends.closesWith_append other
  have spliced := ends.startsSplice_append other
  cases closes : StringText.closesWith quote text with
  | true =>
      rw [StringText.scanPiece_of_closesWith (closed.trans closes),
        StringText.scanPiece_of_closesWith closes]
      have marks := StringText.eq_append_of_closesWith closes
      refine ⟨rfl, ends.lt_length (?_ : StringText.marksLength quote ≤ _) ?_⟩
      · rw [marks, List.length_append, StringText.length_spelling]
        exact Nat.le_add_right _ _
      · rw [marks]
        show (List.take (StringText.marksLength quote) _).getLast? ≠ _
        rw [← StringText.length_spelling quote, List.take_left]
        cases quote <;> decide
  | false =>
      rw [closes] at closed
      cases splice : StringText.startsSplice text with
      | true =>
          rw [splice] at spliced
          match text, ends, closes, splice, closed, spliced with
          | [c], _, _, splice, _, _ =>
              rw [StringText.startsSplice_singleton] at splice
              cases splice
          | c :: d :: rest, ends, closes, splice, closed, spliced =>
              have behind : EndsLine (d :: rest) := of_append [c] ends (List.cons_ne_nil _ _)
              by_cases brace : d = '{'
              · subst brace
                rw [StringText.startsSplice_cons_cons, Bool.and_eq_true, beq_iff_eq] at splice
                rw [splice.1]
                refine ⟨(StringText.scanPiece_brace quote _).trans
                  (StringText.scanPiece_brace quote rest).symm, ?_⟩
                rw [StringText.scanPiece_brace]
                have some := List.length_pos_iff.mpr (behind.tail (by decide)).ne_nil
                exact Nat.succ_lt_succ (Nat.succ_lt_succ some)
              · have names := behind.runLength_append isIdentContinue isIdentContinue_newline other
                rw [List.cons_append, List.cons_append] at closed spliced ⊢
                rw [StringText.scanPiece_name closes splice brace,
                  StringText.scanPiece_name closed spliced brace, ← List.cons_append, names.1]
                exact ⟨rfl, Nat.succ_lt_succ names.2⟩
      | false =>
          rw [splice] at spliced
          rw [StringText.scanPiece_plain closes splice] at whole ⊢
          rw [StringText.scanPiece_plain closed spliced]
          generalize measured : StringText.length quote text = reach at whole ⊢
          have notCutOff : StringText.isCutOff quote (text.drop reach) = false := by
            refine Bool.eq_false_iff.mpr fun cutOff => whole reach ?_
            rw [if_pos cutOff]
          have some : text.drop reach ≠ [] := by
            intro nothing
            rw [nothing] at notCutOff
            cases notCutOff
          have behind := ends.drop some
          have stop : StringText.stops quote (text.drop reach) = true := by
            rw [← measured] at notCutOff ⊢
            exact StringText.stops_drop_length text notCutOff
          have within : reach < text.length := by
            rw [← Nat.not_le]
            exact fun beyond => some (List.drop_eq_nil_of_le beyond)
          have taken : (text.take reach).length = reach :=
            List.length_take_of_le (Nat.le_of_lt within)
          have measuredThere : StringText.length quote (text ++ other) = reach := by
            have split := List.take_append_drop reach text
            have again := StringText.length_append (behind.sameSight stop notCutOff other)
              ((behind.stops_append other).trans stop) (text.take reach)
              (by rw [split, measured, taken])
            rwa [← List.append_assoc, split, taken] at again
          rw [measuredThere, List.drop_append_of_le_length (Nat.le_of_lt within),
            behind.isCutOff_append, notCutOff]
          exact ⟨rfl, within⟩

/-! ## Lexemes -/

/-- A block comment that is closed. -/
theorem blockComment_append (ends : EndsLine rest)
    (closed : ∀ fault, (Lexeme.blockComment rest).lexeme ≠ .faulty fault) (other : List Char) :
    Lexeme.blockComment (rest ++ other) = Lexeme.blockComment rest ∧
      (Lexeme.blockComment rest).more ≤ rest.length ∧
      (Lexeme.blockComment rest).lexeme = .trivia .blockComment := by
  have some : 1 ≤ rest.length := List.length_pos_iff.mpr ends.ne_nil
  unfold Lexeme.blockComment at closed ⊢
  rw [List.drop_append_of_le_length some]
  cases found : Lexeme.commentRestLength? (rest.drop 1) with
  | none =>
      rw [found] at closed
      exact absurd rfl (closed _)
  | some length =>
      have again := commentRestLength?_append found other
      rw [List.length_drop] at again
      rw [again.1]
      exact ⟨rfl, by dsimp only; omega, rfl⟩

/-- A token leaves something behind it.  Trivia does so unless it has taken a line break. -/
theorem scan_append [XidStart] {operandBefore : Bool} (ends : EndsLine (c :: rest))
    (sound : ∀ fault, (Lexeme.scan operandBefore c rest).lexeme ≠ .faulty fault)
    (other : List Char) :
    Lexeme.scan operandBefore c (rest ++ other) = Lexeme.scan operandBefore c rest ∧
      (Lexeme.scan operandBefore c rest).more ≤ rest.length ∧
      ((Lexeme.scan operandBefore c rest).more = rest.length →
        (Lexeme.scan operandBefore c rest).lexeme = .trivia .newline ∨
        (Lexeme.scan operandBefore c rest).lexeme = .trivia .blockComment) := by
  have inside : ∀ {more : Nat} {found : Lexeme}, more < rest.length →
      more ≤ rest.length ∧ (more = rest.length →
        found = .trivia .newline ∨ found = .trivia .blockComment) :=
    fun short => ⟨Nat.le_of_lt short, fun whole => absurd whole (Nat.ne_of_lt short)⟩
  by_cases isBreak : c = '\n'
  · subst isBreak
    rw [Lexeme.scan_newline, Lexeme.scan_newline]
    exact ⟨rfl, Nat.zero_le _, fun _ => .inl rfl⟩
  have behind := ends.tail isBreak
  cases blank : isBlank c with
  | true =>
      have run := behind.runLength_append (fun d => d != '\n' && isBlank d) rfl other
      rw [Lexeme.scan_blank _ _ isBreak blank, Lexeme.scan_blank _ _ isBreak blank, run.1]
      exact ⟨rfl, inside run.2⟩
  | false =>
      cases comment : Lexeme.startsComment (c :: rest) with
      | true =>
          have slash : c = '/' := by
            rw [Lexeme.startsComment_cons, Bool.and_eq_true, beq_iff_eq] at comment
            exact comment.1
          subst slash
          have commentThere : Lexeme.startsComment ('/' :: (rest ++ other)) = true := by
            rw [Lexeme.startsComment_cons] at comment ⊢
            rwa [behind.headIs_append]
          rw [Lexeme.scan_comment _ comment] at sound ⊢
          rw [Lexeme.scan_comment _ commentThere, behind.headIs_append]
          split
          · have run := behind.runLength_append (fun d => d != '\n') rfl other
            rw [run.1]
            exact ⟨rfl, inside run.2⟩
          · rename_i noLine
            rw [if_neg noLine] at sound
            have closed := blockComment_append behind sound other
            exact ⟨closed.1, closed.2.1, fun _ => .inr closed.2.2⟩
      | false =>
          cases found : (Lexeme.scan operandBefore c rest).lexeme with
          | trivia kind =>
              rw [Lexeme.scan_eq_scanSolid blank comment] at found
              exact absurd found (Lexeme.scanSolid_ne_trivia _ kind)
          | token kind =>
              rcases Lexeme.scan_stays found with ⟨front, text, rfl, reach, solid, again⟩
              have some : text ≠ [] := by
                intro nothing
                subst nothing
                rw [List.append_nil] at behind
                exact absurd (solid '\n' behind.getLast?) (by rw [isBlank_newline]; nofun)
              have further := (of_append front behind some).noFurther other
              have short : front.length < (front ++ text).length := by
                rw [List.length_append]
                exact Nat.lt_add_of_pos_right (List.length_pos_iff.mpr some)
              rw [List.append_assoc, again _ further, reach, ← found]
              exact ⟨rfl, inside short⟩
          | stringOpening quote =>
              have isQuote := Lexeme.quote_of_opening found
              subst isQuote
              rw [Lexeme.scan_quote] at found ⊢
              rw [Lexeme.scan_quote, ← found]
              rcases Lexeme.string_opening_stays found with ⟨body, rfl, reach, spliced, again⟩
              have some : body ≠ [] := by
                intro nothing
                rw [nothing] at spliced
                cases spliced
              have splicedThere := hasSplice_append other body (of_append _ behind some) spliced
              have short : (Lexeme.openingMarks quote).length <
                  (Lexeme.openingMarks quote ++ body).length := by
                rw [List.length_append]
                exact Nat.lt_add_of_pos_right (List.length_pos_iff.mpr some)
              rw [List.append_assoc, again _ splicedThere, reach]
              exact ⟨rfl, inside short⟩
          | faulty fault => exact absurd found (sound fault)

end EndsLine
end Offside
