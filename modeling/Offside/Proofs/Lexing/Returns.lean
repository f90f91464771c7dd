import Offside.Proofs.Lexing.Abreast
import Offside.Proofs.Lexing.Respacing
import Offside.Proofs.Text.Respaced

namespace Offside

/-!
# Lexemes with carriage returns

A lexeme that lies within one line stays as it is when the lines of its source end with a
carriage return.  Only strings with triple marks and block comments reach over line ends,
and the carriage returns become part of them.  What ends with its line, blanks and line
comments, takes in the carriage return behind it.
-/

open CharClass

namespace StringText

variable {quote : QuoteForm} {text : List Char}

/-! ## Text of strings -/

theorem closesWith_crlf (quote : QuoteForm) (text : List Char) :
    closesWith quote (crlf text) = closesWith quote text :=
  closesWith_respaced (fun _ blank => blank) (crlf_respaced text)

theorem startsSplice_crlf [XidStart] (text : List Char) :
    startsSplice (crlf text) = startsSplice text :=
  startsSplice_respaced (fun _ blank => blank) (crlf_respaced text)

/-- No blank ends a string with triple marks, not even a line feed. -/
theorem inert_isBlank : Inert .triple isBlank := fun _ blank => ⟨blank, nofun⟩

theorem length_triple_blank [XidStart] {c : Char} (blank : isBlank c = true) (text : List Char) :
    length .triple (c :: text) = length .triple text + 1 := by
  have noBackslash : (c == '\\') = false := beq_of_isBlank (by decide) blank
  rw [length_cons (stops_of_inert inert_isBlank blank), noBackslash]
  rfl

/-- Between triple marks a backslash takes any character with it. -/
theorem length_triple_escape [XidStart] {d : Char}
    (goesOn : stops .triple ('\\' :: d :: text) = false) :
    length .triple ('\\' :: d :: text) = length .triple text + 2 := by
  rw [length_cons goesOn]
  rfl

/-- Text between triple marks takes in the carriage returns. -/
theorem length_crlf_triple [XidStart] : ∀ text : List Char,
    length .triple (crlf text) = (crlf (text.take (length .triple text))).length
  | [] => rfl
  | c :: rest => by
      have stop := stops_respaced inert_isBlank (crlf_respaced (c :: rest))
      cases stopHere : stops .triple (c :: rest) with
      | true =>
          rw [stopHere] at stop
          rw [length_of_stops stop, length_of_stops stopHere]
          rfl
      | false =>
          rw [stopHere] at stop
          have behind := length_crlf_triple rest
          by_cases lineBreak : c = '\n'
          · subst lineBreak
            rw [crlf_newline, length_triple_blank isBlank_return,
              length_triple_blank isBlank_newline, length_triple_blank isBlank_newline, behind,
              List.take_succ_cons, crlf_newline]
            rfl
          rw [crlf_cons lineBreak] at stop ⊢
          by_cases backslash : c = '\\'
          · subst backslash
            cases rest with
            | nil => rfl
            | cons d beyond =>
                have further := length_crlf_triple beyond
                rw [length_triple_escape stopHere, List.take_succ_cons, List.take_succ_cons,
                  crlf_cons lineBreak]
                by_cases broken : d = '\n'
                · -- The backslash takes the carriage return with it, not the line feed.
                  subst broken
                  rw [crlf_newline] at stop ⊢
                  rw [length_triple_escape stop, length_triple_blank isBlank_newline, further]
                  rfl
                · rw [crlf_cons broken] at stop ⊢
                  rw [length_triple_escape stop, further, crlf_cons broken]
                  rfl
          · have noBackslash := beq_eq_false_iff_ne.mpr backslash
            rw [length_cons stop, length_cons stopHere, noBackslash, if_neg Bool.false_ne_true,
              if_neg Bool.false_ne_true, behind, List.take_succ_cons, crlf_cons lineBreak]
            rfl

/-- Text between plain marks lies within a line. -/
theorem unbroken_length_plain [XidStart] : ∀ text : List Char,
    Unbroken (text.take (length .plain text))
  | [] => .nil
  | c :: rest => by
      cases stop : stops .plain (c :: rest) with
      | true =>
          rw [length_of_stops stop]
          exact .nil
      | false =>
          have noBreak : c ≠ '\n' := by
            intro lineBreak
            rw [lineBreak] at stop
            cases stop
          rw [length_cons stop]
          split
          · cases rest with
            | nil => exact .cons .nil noBreak
            | cons d beyond =>
                dsimp only
                split
                · exact .cons .nil noBreak
                · rename_i goesOn
                  exact .cons (.cons (unbroken_length_plain beyond) (by simpa using goesOn)) noBreak
          · exact .cons (unbroken_length_plain rest) noBreak

theorem drop_length_crlf (text : List Char) (count : Nat) :
    (crlf text).drop (crlf (text.take count)).length = crlf (text.drop count) :=
  (crlf_take_drop count text).2

/-- Text that is not cut off ends where it did. -/
theorem length_crlf [XidStart]
    (notCutOff : isCutOff quote (text.drop (length quote text)) = false) :
    length quote (crlf text) = (crlf (text.take (length quote text))).length := by
  cases quote with
  | triple => exact length_crlf_triple text
  | plain =>
      have unbroken := unbroken_length_plain text
      have within : (text.take (length .plain text)).length = length .plain text :=
        List.length_take_of_le (length_le text)
      have split : text = text.take (length .plain text) ++ text.drop (length .plain text) :=
        (List.take_append_drop _ _).symm
      have stop := stops_drop_length text notCutOff
      generalize text.take (length .plain text) = front at *
      generalize text.drop (length .plain text) = beyond at *
      subst split
      have stopThere : stops .plain (crlf beyond) = true := by
        rcases stops_cases stop notCutOff with closes | splice
        · exact stops_of_closesWith ((closesWith_crlf _ _).trans closes)
        · exact stops_of_startsSplice ((startsSplice_crlf _).trans splice)
      have sight : SameSight .plain beyond (crlf beyond) := by
        refine ⟨?_, nofun⟩
        cases beyond with
        | nil => rfl
        | cons c beyond =>
            have noBreak : c ≠ '\n' := by simpa using noBreak_of_isCutOff notCutOff
            rw [crlf_cons noBreak]
            rfl
      rw [crlf_append, unbroken.crlf_eq]
      exact length_append sight stopThere front within.symm

theorem isCutOff_crlf (notCutOff : isCutOff quote text = false) :
    isCutOff quote (crlf text) = false := by
  cases text with
  | nil => cases notCutOff
  | cons c text =>
      have noBreak := noBreak_of_isCutOff notCutOff
      by_cases lineBreak : c = '\n'
      · subst lineBreak
        cases quote with
        | plain => cases noBreak
        | triple => rfl
      · rw [crlf_cons lineBreak]
        exact notCutOff

/-- The search for a splice goes past the same text. -/
theorem hasSplice_crlf [XidStart]
    (notCutOff : isCutOff quote (text.drop (length quote text)) = false) :
    hasSplice quote (crlf text) = hasSplice quote text := by
  have measured := length_crlf notCutOff
  have within : (text.take (length quote text)).length = length quote text :=
    List.length_take_of_le (length_le text)
  have split : text = text.take (length quote text) ++ text.drop (length quote text) :=
    (List.take_append_drop _ _).symm
  have stop := stops_drop_length text notCutOff
  generalize text.take (length quote text) = front at *
  generalize text.drop (length quote text) = beyond at *
  subst split
  rw [crlf_append] at measured ⊢
  rw [hasSplice_append notCutOff front within.symm,
    hasSplice_append (isCutOff_crlf notCutOff) _ measured]
  rcases stops_cases stop notCutOff with closes | splice
  · rw [hasSplice_of_closesWith closes,
      hasSplice_of_closesWith ((closesWith_crlf _ _).trans closes)]
  · rw [hasSplice_of_startsSplice splice,
      hasSplice_of_startsSplice ((startsSplice_crlf _).trans splice)]

/-! ## Pieces of strings -/

/-- A piece of plain text takes in the carriage returns. -/
theorem scanPiece_crlf_text [XidStart] {reach : Nat} (found : scanPiece quote text = .text reach) :
    scanPiece quote (crlf text) = .text (crlf (text.take reach)).length := by
  rcases scanPiece_eq_text found with ⟨measured, notCutOff⟩
  have goesOn : stops quote text = false := by
    apply stops_of_length_pos
    rw [measured]
    exact pos_of_scanPiece_text found
  unfold stops at goesOn
  rw [Bool.or_eq_false_iff, Bool.or_eq_false_iff] at goesOn
  subst measured
  rw [scanPiece_plain ((closesWith_crlf _ _).trans goesOn.1.2)
    ((startsSplice_crlf _).trans goesOn.2), length_crlf notCutOff, drop_length_crlf,
    isCutOff_crlf notCutOff]
  rfl

/-- All other pieces lie within a line. -/
theorem scanPiece_crlf [XidStart] (noText : ∀ reach, scanPiece quote text ≠ .text reach)
    (noCut : ∀ reach, scanPiece quote text ≠ .cutOff reach) :
    scanPiece quote (crlf text) = scanPiece quote text ∧
      Unbroken (text.take ((scanPiece quote text).reach quote)) := by
  cases closes : closesWith quote text with
  | true =>
      rw [scanPiece_of_closesWith closes,
        scanPiece_of_closesWith ((closesWith_crlf _ _).trans closes)]
      refine ⟨rfl, ?_⟩
      have marks : Unbroken quote.spelling.toList := by
        cases quote <;> exact .of_contains (by decide +kernel)
      rw [eq_append_of_closesWith closes]
      show Unbroken ((quote.spelling.toList ++ _).take (marksLength quote))
      rwa [← length_spelling, List.take_left]
  | false =>
      cases splice : startsSplice text with
      | false =>
          have plain := scanPiece_plain closes splice
          split at plain
          · exact absurd plain (noCut _)
          · exact absurd plain (noText _)
      | true =>
          refine ⟨scanPiece_splice_respaced (fun _ blank => blank) (crlf_respaced text) splice, ?_⟩
          rcases text_of_startsSplice splice with ⟨c, rest, same, starts⟩
          subst same
          by_cases brace : c = '{'
          · subst brace
            rw [scanPiece_brace]
            have bracket : Unbroken ['$', '{'] := .of_contains (by decide +kernel)
            exact bracket
          · rw [scanPiece_name closes splice brace]
            exact .cons (.run EndsLine.isIdentContinue_newline (c :: rest)) (by decide)

end StringText

/-! ## Character literals -/

namespace CharacterLiteral

variable {text : List Char}

theorem isHexDigit_newline : isHexDigit '\n' = false := by decide

/-- At most `bound` digits. -/
theorem unbroken_digits (bound : Nat) (text : List Char) :
    Unbroken (text.take (runLength isHexDigit (text.take bound))) := by
  have run := Unbroken.run isHexDigit_newline (text.take bound)
  have within : runLength isHexDigit (text.take bound) ≤ bound :=
    Nat.le_trans (runLength_le _ _) (List.length_take_le _ _)
  rwa [List.take_take, Nat.min_eq_left within] at run

theorem unbroken_scanEscape (wellFormed : (scanEscape text).2 = true) :
    Unbroken (text.take (scanEscape text).1) := by
  unfold scanEscape at wellFormed ⊢
  split at wellFormed
  · exact .nil
  · cases wellFormed
  · rename_i rest
    dsimp only
    rw [Nat.add_comm]
    exact .cons (unbroken_digits 2 rest) (by decide)
  · rename_i rest
    have run := Unbroken.run isHexDigit_newline rest
    dsimp only at wellFormed ⊢
    split at wellFormed
    · cases wellFormed
    · rename_i some
      rw [if_neg some]
      split at wellFormed
      · cases wellFormed
      · rename_i c beyond left
        have brace : c = '}' := by simpa using wellFormed
        dsimp only
        rw [Nat.add_comm, List.take_succ_cons, List.take_succ_cons, List.take_add, left, brace]
        exact .cons (.cons (.append run (.cons .nil (by decide))) (by decide)) (by decide)
  · rename_i rest noBrace
    dsimp only
    rw [Nat.add_comm]
    exact .cons (unbroken_digits 4 rest) (by decide)
  · rename_i c rest noBreak noHexadecimal noBraces noUnicode
    exact .cons .nil noBreak

theorem unbroken_scanContent (wellFormed : (scanContent text).2 = true) :
    Unbroken (text.take (scanContent text).1) := by
  unfold scanContent at wellFormed ⊢
  split at wellFormed
  · exact .nil
  · cases wellFormed
  · exact .nil
  · dsimp only at wellFormed ⊢
    rw [Nat.add_comm]
    exact .cons (unbroken_scanEscape wellFormed) (by decide)
  · rename_i c rest noBreak noMark noBackslash
    exact .cons .nil noBreak

/-- A well-formed literal lies within a line. -/
theorem unbroken_scan (wellFormed : (scan text).2 = true) :
    Unbroken (text.take (scan text).1) := by
  unfold scan at wellFormed ⊢
  dsimp only at wellFormed ⊢
  split at wellFormed
  · rename_i closes
    rw [if_pos closes]
    rw [Bool.and_eq_true] at closes
    rw [List.take_add]
    refine .append (unbroken_scanContent closes.1) ?_
    cases behind : text.drop (scanContent text).1 with
    | nil => exact .nil
    | cons c rest =>
        rw [behind] at closes
        have isMark : c = '\'' := beq_iff_eq.mp closes.2
        subst isMark
        exact .cons .nil (by decide)
  · cases wellFormed

end CharacterLiteral

/-! ## Lexemes -/

namespace Lexeme

open StringText

variable {c : Char} {rest : List Char} {kind : TokenKind} {operandBefore : Bool}

/-- A token within a line is the same token in front of a carriage return. -/
theorem Stays.crlf_eq [XidStart] {scanner : List Char → Found} (stays : Stays scanner rest)
    (unbroken : Unbroken (rest.take (scanner rest).more)) :
    scanner (crlf rest) = scanner rest := by
  rcases stays with ⟨front, text, split, reach, ends, again⟩
  rw [reach] at unbroken
  subst split
  rw [List.take_left] at unbroken
  rw [crlf_append, unbroken.crlf_eq]
  exact again _ (crlf_sameWord text).noFurther

theorem unbroken_character (found : (character rest).lexeme = .token kind) :
    Unbroken (rest.take (character rest).more) := by
  unfold character at found ⊢
  dsimp only at found ⊢
  split at found
  · rename_i wellFormed
    rw [if_pos wellFormed]
    exact CharacterLiteral.unbroken_scan wellFormed
  · cases found

theorem unbroken_backquoted (found : (backquoted rest).lexeme = .token kind) :
    Unbroken (rest.take (backquoted rest).more) := by
  have run := @Unbroken.run (fun c => c != '`' && c != '\n') (by decide) rest
  unfold backquoted at found ⊢
  dsimp only at found ⊢
  split at found
  · rename_i closes
    rw [if_pos closes, List.take_add]
    rw [Bool.and_eq_true] at closes
    refine run.append ?_
    cases behind : rest.drop (runLength (fun c => c != '`' && c != '\n') rest) with
    | nil => exact .nil
    | cons c beyond =>
        rw [behind] at closes
        have isMark : c = '`' := beq_iff_eq.mp closes.2
        subst isMark
        exact .cons .nil (by decide)
  · cases found

theorem unbroken_solid {count : Nat} {text : List Char} (solid : Solid count text) :
    Unbroken (text.take count) :=
  .of_noBlank solid.noBlank

theorem unbroken_numeral [XidStart] (c : Char) (rest : List Char) :
    Unbroken (rest.take (numeral c rest).more) := by
  have solid := unbroken_solid (Numeral.scan_solid (c :: rest))
  have more : (numeral c rest).more = (Numeral.scan (c :: rest)).length - 1 := by
    unfold numeral
    dsimp only
    split <;> rfl
  rw [more]
  cases length : (Numeral.scan (c :: rest)).length with
  | zero => exact .nil
  | succ length =>
      rw [length, List.take_succ_cons] at solid
      exact (List.forall_mem_cons.mp solid).2

theorem unbroken_word [XidStart] (c : Char) (rest : List Char) :
    Unbroken (rest.take (word c rest).more) := by
  have letters : Solid (runLength isIdentContinue rest) rest :=
    .run (fun _ => isBlank_of_isIdentContinue) rest
  exact unbroken_solid (letters.add (suffixLength_solid c _ _))

theorem unbroken_operator (c : Char) (rest : List Char) :
    Unbroken (rest.take (operator c rest).more) := by
  have run := unbroken_solid (operatorRunLength_solid rest)
  unfold operator
  dsimp only
  split
  · rename_i hash
    rw [Bool.and_eq_true] at hash
    cases rest with
    | nil => exact .nil
    | cons d rest =>
        have brace : d = '{' := beq_iff_eq.mp hash.2
        subst brace
        exact .cons .nil (by decide)
  · split <;> exact run

/-- All tokens but strings lie within a line. -/
theorem unbroken_scanSolid [XidStart] {numeric : Bool} (noString : c ≠ '"')
    (found : (scanSolid numeric c rest).lexeme = .token kind) :
    Unbroken (rest.take (scanSolid numeric c rest).more) := by
  unfold scanSolid at found ⊢
  rw [beq_eq_false_iff_ne.mpr noString, if_neg Bool.false_ne_true] at found ⊢
  split at found
  · rename_i mark
    rw [if_pos mark]
    exact unbroken_character found
  · rename_i noMark
    rw [if_neg noMark]
    split at found
    · rename_i mark
      rw [if_pos mark]
      exact unbroken_backquoted found
    · rename_i noName
      rw [if_neg noName]
      split
      · exact unbroken_numeral c rest
      · split
        · exact .nil
        · split
          · exact unbroken_word c rest
          · split
            · exact unbroken_operator c rest
            · exact .nil

theorem commentRestLength?_crlf (text : List Char) :
    commentRestLength? (crlf text) =
      (commentRestLength? text).map fun length => (crlf (text.take length)).length := by
  induction text with
  | nil => rfl
  | cons c rest inductionHypothesis =>
      by_cases lineBreak : c = '\n'
      · subst lineBreak
        rw [crlf_newline, commentRestLength?_cons, commentRestLength?_cons,
          commentRestLength?_cons, inductionHypothesis]
        cases commentRestLength? rest <;> rfl
      · have slash : headIs (· == '/') (crlf rest) = headIs (· == '/') rest :=
          (crlf_sameWord rest).headIs (isBlank_of_beq (by decide))
        rw [crlf_cons lineBreak, commentRestLength?_cons, commentRestLength?_cons, slash,
          inductionHypothesis]
        split
        · rename_i ends
          rw [Bool.and_eq_true] at ends
          cases rest with
          | nil => cases ends.2
          | cons d rest =>
              have isSlash : d = '/' := beq_iff_eq.mp ends.2
              subst isSlash
              have marks : Unbroken [c, '/'] := .cons (.cons .nil (by decide)) lineBreak
              have same := congrArg List.length marks.crlf_eq
              exact congrArg some same.symm
        · cases commentRestLength? rest with
          | none => rfl
          | some length =>
              show some _ = some (crlf (c :: rest.take length)).length
              rw [crlf_cons lineBreak]
              rfl

/-! ### Strings -/

theorem openingQuote_crlf (rest : List Char) : openingQuote (crlf rest) = openingQuote rest := by
  have marks : ['"', '"'].isPrefixOf (crlf rest) = ['"', '"'].isPrefixOf rest := by
    apply (crlf_respaced rest).isPrefixOf
    intro mark member
    simp only [List.mem_cons, List.not_mem_nil, or_false, or_self] at member
    rw [member]
    decide +kernel
  unfold openingQuote
  rw [marks]

/-- What becomes of a lexeme when its source gets carriage returns. -/
def Found.withReturns (rest : List Char) (found : Found) : Found :=
  ⟨found.lexeme.mapText Offside.withReturns, (crlf (rest.take found.more)).length⟩

theorem string_crlf [XidStart] {quote : QuoteForm} {body : List Char}
    (opened : openingQuote (openingMarks quote ++ body) = quote)
    (notCutOff : isCutOff quote (body.drop (length quote body)) = false) :
    string (crlf (openingMarks quote ++ body)) =
      (string (openingMarks quote ++ body)).withReturns (openingMarks quote ++ body) := by
  have marks : Unbroken (openingMarks quote) := by
    cases quote <;> exact .of_contains (by decide +kernel)
  have openedThere := (openingQuote_crlf (openingMarks quote ++ body)).trans opened
  have splices := hasSplice_crlf notCutOff
  rw [crlf_append, marks.crlf_eq] at openedThere ⊢
  unfold Found.withReturns
  cases spliced : hasSplice quote body with
  | true =>
      rw [spliced] at splices
      rw [string_of_splice openedThere splices, string_of_splice opened spliced, List.take_left,
        marks.crlf_eq]
      rfl
  | false =>
      have closes := closesWith_drop_length spliced notCutOff
      have measured := length_crlf notCutOff
      have within : (body.take (length quote body)).length = length quote body :=
        List.length_take_of_le (length_le body)
      have split : body = body.take (length quote body) ++ (quote.spelling.toList ++
          (body.drop (length quote body)).drop (marksLength quote)) := by
        rw [← eq_append_of_closesWith closes, List.take_append_drop]
      generalize body.take (length quote body) = plain at *
      generalize (body.drop (length quote body)).drop (marksLength quote) = text at *
      subst split
      have closing : Unbroken quote.spelling.toList := by
        cases quote <;> exact .of_contains (by decide +kernel)
      rw [crlf_append, crlf_append, closing.crlf_eq] at openedThere measured ⊢
      have whole : openingMarks quote ++ (plain ++ (quote.spelling.toList ++ text)) =
          openingMarks quote ++ (plain ++ quote.spelling.toList) ++ text := by
        simp only [List.append_assoc]
      have edited : crlf (openingMarks quote ++ (plain ++ quote.spelling.toList)) =
          openingMarks quote ++ (crlf plain ++ quote.spelling.toList) := by
        rw [crlf_append, crlf_append, marks.crlf_eq, closing.crlf_eq]
      rw [string_of_plain openedThere measured, string_of_plain opened within.symm, whole,
        List.take_left, edited]
      refine congrArg (Found.mk · _) (congrArg (Lexeme.token ∘ TokenKind.string) ?_)
      unfold Offside.withReturns
      rw [String.toList_ofList, crlf_cons (by decide), edited]

/-! ### All lexemes -/

/-- Text without line feeds needs no carriage returns. -/
theorem mapText_of_unbroken (unbroken : Unbroken kind.text.toList) :
    kind.mapText Offside.withReturns = kind := by
  have kept : ∀ {text : String}, Unbroken text.toList → Offside.withReturns text = text := by
    intro text unbroken
    unfold Offside.withReturns
    rw [unbroken.crlf_eq, String.ofList_toList]
  cases kind with
  | string text => exact congrArg TokenKind.string (kept unbroken)
  | stringMiddle text => exact congrArg TokenKind.stringMiddle (kept unbroken)
  | _ => rfl

variable [XidStart]

/-- A token that is no string stays as it is. -/
theorem scan_crlf_token (noString : c ≠ '"')
    (found : (scan operandBefore c rest).lexeme = .token kind) :
    scan operandBefore c (crlf rest) = (scan operandBefore c rest).withReturns rest := by
  have becomes : (scan operandBefore c rest).lexeme.kind? = some kind := by
    rw [found]
    rfl
  rcases solid_of_scan becomes with ⟨solid, noComment⟩
  have unbroken : Unbroken (rest.take (scan operandBefore c rest).more) := by
    rw [scan_eq_scanSolid solid noComment] at found ⊢
    exact unbroken_scanSolid noString found
  have noBreak : c ≠ '\n' := by
    intro lineBreak
    rw [lineBreak, isBlank_newline] at solid
    cases solid
  have kept : kind.mapText Offside.withReturns = kind := by
    rcases text_of_scan becomes with shown | ⟨isMod, second⟩
    · apply mapText_of_unbroken
      rw [shown]
      exact unbroken.cons noBreak
    · rw [isMod]
      rfl
  have stays := scan_stays found
  have long : (rest.take (scan operandBefore c rest).more).length =
      (scan operandBefore c rest).more := by
    rcases stays with ⟨front, text, split, reach, -, -⟩
    rw [reach, split, List.take_left]
  rw [stays.crlf_eq unbroken]
  unfold Found.withReturns
  rw [unbroken.crlf_eq, long, found]
  show _ = Found.mk (.token (kind.mapText Offside.withReturns)) _
  rw [kept, ← found]

/-- A string, closed or with a splice, is the same string with the carriage returns in it. -/
theorem scan_crlf_string
    (sound : ∀ fault, (scan operandBefore '"' rest).lexeme ≠ .faulty fault)
    (goesOn : ∀ quote, (scan operandBefore '"' rest).lexeme = .stringOpening quote →
      isCutOff quote ((rest.drop (scan operandBefore '"' rest).more).drop
        (length quote (rest.drop (scan operandBefore '"' rest).more))) = false) :
    scan operandBefore '"' (crlf rest) = (scan operandBefore '"' rest).withReturns rest := by
  rw [scan_quote] at sound goesOn
  rw [scan_quote, scan_quote]
  have split := eq_append_openingQuote rest
  generalize quoteIs : openingQuote rest = quote at split
  generalize rest.drop (marksLength quote - 1) = body at split
  subst split
  refine string_crlf quoteIs (Bool.eq_false_iff.mpr fun cutOff => ?_)
  cases spliced : hasSplice quote body with
  | true =>
      rw [string_of_splice quoteIs spliced] at goesOn
      have open' := goesOn quote rfl
      rw [List.drop_left] at open'
      rw [open'] at cutOff
      cases cutOff
  | false =>
      unfold openingQuote at quoteIs
      apply sound .unterminatedString
      unfold string
      dsimp only
      rw [quoteIs, ← length_openingMarks, List.drop_left, spliced, cutOff]
      rfl

theorem scan_crlf_comment (comment : startsComment ('/' :: rest) = true)
    (noLine : headIs (· == '/') rest = false)
    (sound : ∀ fault, (scan operandBefore '/' rest).lexeme ≠ .faulty fault) :
    scan operandBefore '/' (crlf rest) = (scan operandBefore '/' rest).withReturns rest := by
  have same := crlf_sameWord rest
  have commentThere := (same.startsComment '/').trans comment
  have noLineThere := (same.headIs (@isBlank_of_beq '/' (by decide))).trans noLine
  rw [scan_comment _ comment, noLine] at sound ⊢
  rw [scan_comment _ commentThere, noLineThere]
  cases rest with
  | nil => cases comment
  | cons d body =>
      have mark : (d == '/' || d == '*') = true := by
        rw [startsComment_cons] at comment
        exact comment
      have noSlash : (d == '/') = false := noLine
      have star : d = '*' := by
        rwa [noSlash, Bool.false_or, beq_iff_eq] at mark
      subst star
      have closing := commentRestLength?_crlf body
      rw [crlf_cons (by decide)]
      unfold blockComment at sound ⊢
      rw [List.drop_succ_cons, List.drop_zero] at sound ⊢
      rw [List.drop_succ_cons, List.drop_zero, closing]
      cases closed : commentRestLength? body with
      | none =>
          rw [closed] at sound
          exact absurd rfl (sound .unterminatedComment)
      | some length =>
          have edited : crlf ('*' :: body.take length) = '*' :: crlf (body.take length) :=
            crlf_cons (by decide) _
          exact congrArg (Found.mk (.trivia .blockComment)) (congrArg List.length edited).symm

/-- What is no blank of a line and no line comment stays what it is, with the carriage
returns in it. -/
theorem scan_crlf (solid : isBlank c = false)
    (noLine : (scan operandBefore c rest).lexeme ≠ .trivia .lineComment)
    (sound : ∀ fault, (scan operandBefore c rest).lexeme ≠ .faulty fault)
    (goesOn : ∀ quote, (scan operandBefore c rest).lexeme = .stringOpening quote →
      isCutOff quote ((rest.drop (scan operandBefore c rest).more).drop
        (length quote (rest.drop (scan operandBefore c rest).more))) = false) :
    scan operandBefore c (crlf rest) = (scan operandBefore c rest).withReturns rest := by
  by_cases noString : c = '"'
  · subst noString
    exact scan_crlf_string sound goesOn
  cases found : (scan operandBefore c rest).lexeme with
  | token kind => exact scan_crlf_token noString found
  | stringOpening quote => exact absurd (quote_of_opening found) noString
  | faulty fault => exact absurd found (sound fault)
  | trivia kind =>
      have comment : startsComment (c :: rest) = true :=
        (blank_or_comment found).resolve_left fun blank => by rw [solid] at blank; cases blank
      have slash : c = '/' := by
        rw [startsComment_cons, Bool.and_eq_true, beq_iff_eq] at comment
        exact comment.1
      subst slash
      refine scan_crlf_comment comment (Bool.eq_false_iff.mpr fun line => ?_) sound
      rw [scan_comment _ comment, if_pos line] at noLine
      exact noLine rfl

/-! ### Up to the end of a line -/

/-- Blanks within a line, and a comment up to its end, take in a carriage return but no
line feed. -/
theorem scan_inline {kind : TriviaKind} (found : (scan operandBefore c rest).lexeme = .trivia kind)
    (noBreak : kind ≠ .newline) (noBlock : kind ≠ .blockComment) :
    ∃ test : Char → Bool, test '\r' = true ∧ test '\n' = false ∧ c ≠ '\n' ∧
      ∀ other, SameWord rest other →
        scan operandBefore c other = ⟨.trivia kind, runLength test other⟩ := by
  by_cases lineBreak : c = '\n'
  · rw [lineBreak, scan_newline] at found
    cases found
    exact absurd rfl noBreak
  rcases blank_or_comment found with blank | comment
  · refine ⟨isSpacing, by decide +kernel, by decide +kernel, lineBreak, fun other _ => ?_⟩
    rw [scan_blank _ _ lineBreak blank] at found ⊢
    cases found
    rfl
  · have slash : c = '/' := by
      rw [startsComment_cons, Bool.and_eq_true, beq_iff_eq] at comment
      exact comment.1
    subst slash
    refine ⟨(· != '\n'), by decide, by decide, lineBreak, fun other same => ?_⟩
    rw [scan_comment _ comment] at found
    rw [scan_comment _ ((same.startsComment '/').trans comment),
      same.headIs (@isBlank_of_beq '/' (by decide))]
    split at found
    · rename_i line
      cases found
      rw [if_pos line]
    · unfold blockComment at found
      split at found
      · cases found
        exact absurd rfl noBlock
      · cases found

end Lexeme
end Offside
