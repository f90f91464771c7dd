import Offside.Proofs.Lexing.Bookkeeping
import Offside.Proofs.Lexing.Lookahead
import Offside.Proofs.Lexing.Returns
import Offside.Text.XidStart

namespace Offside

/-!
# Tokens within a line

Most tokens lie within a line, whether they are well formed or not.  Only strings with
three marks and comments reach over line feeds, and where they are never closed, the faulty
rest of the source that they become.

There is one exception.  The escape of a character by its number in braces takes the
character behind its digits in any case, and this may be the line feed.  The malformed
literal then ends on the next line.
-/

open CharClass

theorem Unbroken.ofList {text : List Char} (unbroken : Unbroken text) :
    Unbroken (String.ofList text).toList :=
  String.toList_ofList.symm ▸ unbroken

namespace CharacterLiteral

variable {text : List Char}

/-- An escape with braces that are not closed at the end of the line, and what a literal
takes of the next line. -/
def TakesBreak (text : List Char) : Prop :=
  ∃ digits beyond, text = '\\' :: 'u' :: '{' :: (digits ++ '\n' :: beyond) ∧ digits ≠ [] ∧
    (∀ c ∈ digits, isHexDigit c = true) ∧ Unbroken beyond

theorem unbroken_resync (text : List Char) : Unbroken (text.take (resyncLength text)) := by
  have gap := @Unbroken.run (fun c => c != '\'' && c != '\n') (by decide) text
  unfold resyncLength
  dsimp only
  split
  · rename_i closes
    rw [List.take_add]
    apply gap.append
    cases behind : text.drop (runLength (fun c => c != '\'' && c != '\n') text) with
    | nil => exact .nil
    | cons c beyond =>
        rw [behind] at closes
        have isMark : c = '\'' := beq_iff_eq.mp closes
        subst isMark
        exact .cons .nil (by decide)
  · exact .nil

/-- An escape lies within its line, unless it has braces that are not closed there. -/
theorem scanEscape_takes (text : List Char) :
    Unbroken (text.take (scanEscape text).1) ∨
      ∃ digits beyond, text = 'u' :: '{' :: (digits ++ '\n' :: beyond) ∧ digits ≠ [] ∧
        (∀ c ∈ digits, isHexDigit c = true) ∧ (scanEscape text).1 = digits.length + 3 := by
  unfold scanEscape
  split
  · exact .inl .nil
  · exact .inl .nil
  · rename_i rest
    dsimp only
    rw [Nat.add_comm]
    exact .inl (.cons (unbroken_digits 2 rest) (by decide))
  · rename_i rest
    have run := Unbroken.run isHexDigit_newline rest
    dsimp only
    split
    · exact .inl (.cons (.cons .nil (by decide)) (by decide))
    · rename_i some
      split
      · rw [Nat.add_comm]
        exact .inl (.cons (.cons run (by decide)) (by decide))
      · rename_i c beyond left
        have split : rest = rest.take (runLength isHexDigit rest) ++ c :: beyond := by
          rw [← left, List.take_append_drop]
        by_cases lineBreak : c = '\n'
        · subst lineBreak
          refine .inr ⟨_, beyond, congrArg (fun rest => 'u' :: '{' :: rest) split, ?_, ?_, ?_⟩
          · intro nothing
            rcases List.take_eq_nil_iff.mp nothing with zero | empty
            · exact some zero
            · rw [empty] at left
              cases left
          · rw [take_runLength]
            exact List.all_eq_true.mp List.all_takeWhile
          · rw [List.length_take_of_le (runLength_le _ _), Nat.add_comm]
        · rw [Nat.add_comm, List.take_succ_cons, List.take_succ_cons, List.take_add, left]
          exact .inl (.cons (.cons (.append run (.cons .nil lineBreak)) (by decide)) (by decide))
  · rename_i rest noBrace
    dsimp only
    rw [Nat.add_comm]
    exact .inl (.cons (unbroken_digits 4 rest) (by decide))
  · rename_i c rest noBreak noHexadecimal noBraces noUnicode
    exact .inl (.cons .nil noBreak)

theorem scanContent_takes (text : List Char) :
    Unbroken (text.take (scanContent text).1) ∨
      ∃ digits beyond, text = '\\' :: 'u' :: '{' :: (digits ++ '\n' :: beyond) ∧ digits ≠ [] ∧
        (∀ c ∈ digits, isHexDigit c = true) ∧ (scanContent text).1 = digits.length + 4 := by
  unfold scanContent
  split
  · exact .inl .nil
  · exact .inl .nil
  · exact .inl .nil
  · rename_i rest
    dsimp only
    rcases scanEscape_takes rest with unbroken | ⟨digits, beyond, rfl, some, each, reach⟩
    · rw [Nat.add_comm]
      exact .inl (.cons unbroken (by decide))
    · refine .inr ⟨digits, beyond, rfl, some, each, ?_⟩
      rw [reach]
      omega
  · rename_i c rest noBreak noMark noBackslash
    exact .inl (.cons .nil noBreak)

/-- A literal lies within its line, unless it has an escape that does not. -/
theorem scan_takes (text : List Char) :
    Unbroken (text.take (scan text).1) ∨ TakesBreak (text.take (scan text).1) := by
  cases wellFormed : (scan text).2 with
  | true => exact .inl (unbroken_scan wellFormed)
  | false =>
      have reach : (scan text).1 =
          (scanContent text).1 + resyncLength (text.drop (scanContent text).1) := by
        unfold scan at wellFormed ⊢
        dsimp only at wellFormed ⊢
        split at wellFormed
        · cases wellFormed
        · rename_i malformed
          rw [if_neg malformed]
      have gap := unbroken_resync (text.drop (scanContent text).1)
      rw [reach, List.take_add]
      rcases scanContent_takes text with unbroken | ⟨digits, beyond, same, some, each, content⟩
      · exact .inl (unbroken.append gap)
      · refine .inr ⟨digits, beyond.take (resyncLength beyond), ?_, some, each, ?_⟩
        · have whole : text = '\\' :: 'u' :: '{' :: (digits ++ ['\n']) ++ beyond := by
            rw [same]
            simp
          have length : ('\\' :: 'u' :: '{' :: (digits ++ ['\n'])).length =
              digits.length + 4 := by simp
          rw [content, ← length, whole, List.take_left, List.drop_left]
          simp
        · exact unbroken_resync beyond

end CharacterLiteral

/-! ## Lexemes -/

namespace Lexeme

open StringText

variable {operandBefore : Bool} {c : Char} {rest : List Char}

/-- The lexemes that may reach over the end of a line. -/
inductive TakesBreak (text : List Char) : Lexeme → Prop
  | trivia (kind : TriviaKind) : TakesBreak text (.trivia kind)
  | string (value : String) (beyond : List Char) (marks : text = '"' :: '"' :: '"' :: beyond) :
      TakesBreak text (.token (.string value))
  | unfinished (beyond : List Char) (marks : text = '"' :: '"' :: '"' :: beyond) :
      TakesBreak text (.faulty .unterminatedString)
  | comment (beyond : List Char) (mark : text = '/' :: '*' :: beyond) :
      TakesBreak text (.faulty .unterminatedComment)
  | escape (literal : List Char) (mark : text = '\'' :: literal)
      (takes : CharacterLiteral.TakesBreak literal) :
      TakesBreak text (.faulty (.malformedLiteral .character))

theorem unbroken_spelling (quote : QuoteForm) : Unbroken quote.spelling.toList := by
  cases quote <;> exact .of_contains (by decide +kernel)

/-- Strings with plain marks lie within their line. -/
theorem string_takes [XidStart] (rest : List Char) :
    Unbroken ('"' :: rest.take (string rest).more) ∨
      TakesBreak ('"' :: rest.take (string rest).more) (string rest).lexeme := by
  have split := eq_append_openingQuote rest
  generalize form : openingQuote rest = quote at split
  generalize rest.drop (marksLength quote - 1) = body at split
  rcases forms_string (split ▸ form) with ⟨kind, forms, read⟩
  rw [← split] at read
  have shown : kind.text.toList = '"' :: rest.take (string rest).more := by
    rcases read with ⟨found, -⟩ | ⟨-, isError⟩
    · have scanned : scan false '"' rest = string rest := scan_quote rest
      rw [← scanned] at found ⊢
      rcases text_of_scan found with shown | ⟨isMod, -⟩
      · exact shown
      · rw [isMod] at forms
        cases forms
    · rw [isError]
      exact String.toList_ofList
  rw [← shown]
  have marks := unbroken_spelling quote
  cases forms with
  | opened splice => exact .inl marks
  | whole closes =>
      simp only [TokenKind.text, String.toList_ofList]
      cases quote with
      | plain => exact .inl (marks.append ((unbroken_length_plain body).append marks))
      | triple =>
          rcases read with ⟨found, -⟩ | ⟨-, other⟩
          · rw [eq_token_of_kind? found nofun]
            exact .inr (.string _ _ rfl)
          · cases other
  | unfinished cutOff noSplice =>
      simp only [TokenKind.text, String.toList_ofList]
      cases quote with
      | plain => exact .inl (marks.append (unbroken_length_plain body))
      | triple =>
          rcases read with ⟨-, sound⟩ | ⟨faulty, -⟩
          · cases sound
          · rw [faulty]
            exact .inr (.unfinished _ rfl)

theorem character_takes (rest : List Char) :
    Unbroken ('\'' :: rest.take (character rest).more) ∨
      TakesBreak ('\'' :: rest.take (character rest).more) (character rest).lexeme := by
  unfold character
  dsimp only
  rcases CharacterLiteral.scan_takes rest with unbroken | takes
  · split <;> exact .inl (unbroken.cons (by decide))
  · split
    · rename_i wellFormed
      exact .inl ((CharacterLiteral.unbroken_scan wellFormed).cons (by decide))
    · exact .inr (.escape _ rfl takes)

/-- Whatever else begins with no blank and no comment lies within its line. -/
theorem unbroken_scanSolid_of_ne [XidStart] (numeric : Bool) (noString : c ≠ '"')
    (noCharacter : c ≠ '\'') : Unbroken (rest.take (scanSolid numeric c rest).more) := by
  unfold scanSolid
  rw [beq_eq_false_iff_ne.mpr noString, beq_eq_false_iff_ne.mpr noCharacter,
    if_neg Bool.false_ne_true, if_neg Bool.false_ne_true]
  split
  · cases found : (backquoted rest).lexeme with
    | token kind => exact unbroken_backquoted found
    | _ =>
        unfold backquoted at found ⊢
        dsimp only at found ⊢
        split at found
        · cases found
        · rename_i unclosed
          rw [if_neg unclosed]
          exact .nil
  · split
    · exact unbroken_numeral c rest
    · split
      · exact .nil
      · split
        · exact unbroken_word c rest
        · split
          · exact unbroken_operator c rest
          · exact .nil

theorem TakesBreak.value {text : List Char} {lexeme : Lexeme} {kind : TokenKind}
    (takes : TakesBreak text lexeme) (found : lexeme.kind? = some kind) :
    ∃ value beyond, kind = .string value ∧ text = '"' :: '"' :: '"' :: beyond := by
  cases takes with
  | string value beyond marks =>
      cases found
      exact ⟨value, beyond, rfl, marks⟩
  | trivia kind => cases found
  | unfinished beyond marks => cases found
  | comment beyond mark => cases found
  | escape literal mark takes => cases found

theorem comment_takes [XidStart] (comment : startsComment ('/' :: rest) = true) :
    TakesBreak ('/' :: rest.take (scan operandBefore '/' rest).more)
      (scan operandBefore '/' rest).lexeme := by
  rw [scan_comment _ comment]
  split
  · exact .trivia .lineComment
  · rename_i noLine
    unfold blockComment
    split
    · exact .trivia .blockComment
    · cases rest with
      | nil => cases comment
      | cons d body =>
          rw [startsComment_cons, Bool.and_eq_true] at comment
          have mark : (d == '/' || d == '*') = true := comment.2
          have noSlash : (d == '/') = false := Bool.eq_false_iff.mpr noLine
          have star : d = '*' := by rwa [noSlash, Bool.false_or, beq_iff_eq] at mark
          subst star
          exact .comment _ rfl

/-- Every other lexeme lies within its line. -/
theorem scan_takes [XidStart] (operandBefore : Bool) (c : Char) (rest : List Char) :
    Unbroken (c :: rest.take (scan operandBefore c rest).more) ∨
      TakesBreak (c :: rest.take (scan operandBefore c rest).more)
        (scan operandBefore c rest).lexeme := by
  cases blank : isBlank c with
  | true =>
      by_cases lineBreak : c = '\n'
      · rw [lineBreak, scan_newline]
        exact .inr (.trivia _)
      · rw [scan_blank _ _ lineBreak blank]
        exact .inr (.trivia _)
  | false =>
      cases comment : startsComment (c :: rest) with
      | true =>
          have slash : c = '/' := by
            rw [startsComment_cons, Bool.and_eq_true, beq_iff_eq] at comment
            exact comment.1
          subst slash
          exact .inr (comment_takes comment)
      | false =>
          rw [scan_eq_scanSolid blank comment]
          by_cases isString : c = '"'
          · rw [isString]
            exact string_takes rest
          · by_cases isCharacter : c = '\''
            · rw [isCharacter]
              exact character_takes rest
            · refine .inl ((unbroken_scanSolid_of_ne _ isString isCharacter).cons ?_)
              intro lineBreak
              rw [lineBreak, isBlank_newline] at blank
              cases blank

end Lexeme

/-! ## Tokens -/

theorem Span.text_of_isEmpty {span : Span} (empty : span.isEmpty = true) (source : String) :
    span.text source = "" := by
  unfold Span.text Utf8.slice
  rw [beq_iff_eq.mp empty, if_pos (Nat.le_refl _), Nat.sub_self]
  cases Utf8.dropBytes span.stop source.toList with
  | none => rfl
  | some rest =>
      rw [Option.bind_some, Utf8.takeBytes.eq_1]
      rfl

theorem QuoteForm.Marks.unbroken [XidStart] {quote : QuoteForm} {kind : TokenKind}
    (marks : quote.Marks kind) : Unbroken kind.text.toList := by
  cases marks with
  | closing => exact Lexeme.unbroken_spelling quote
  | dollar => exact .of_contains (by decide +kernel)
  | bracket => exact .of_contains (by decide +kernel)
  | name text => exact .ofList (.run EndsLine.isIdentContinue_newline text)

/-- The ways in which a token of a source can reach over the end of a line. -/
inductive Token.ReachesOver [XidStart] (source : String) (tabWidth : Nat) (token : Token) : Prop
  | string (text : List Char)
      (isString : token.kind = .string (String.ofList ('"' :: '"' :: '"' :: text)))
  /-- Text of a string with three marks, which is opened in front of it and is the innermost
  thing open. -/
  | plain {steps place opened : Nat} {outer : List Frame} (text : String)
      (isText : token.kind = .stringMiddle text)
      (here : (Reader.afterSteps source tabWidth steps).offset = token.span.start)
      (inString : (Reader.afterSteps source tabWidth steps).frames =
        .string .triple opened :: outer)
      (opens : OpensAt (lex source tabWidth).tokens place (.string .triple) opened)
      (before : opened < token.span.start)
  | unfinished (text : List Char)
      (isError : token.kind = .error (String.ofList ('"' :: '"' :: '"' :: text)))
      (told : .lexical .unterminatedString token.span ∈ (lex source tabWidth).diagnostics)
  | comment (text : List Char)
      (isError : token.kind = .error (String.ofList ('/' :: '*' :: text)))
      (told : .lexical .unterminatedComment token.span ∈ (lex source tabWidth).diagnostics)
  | escape (literal : List Char)
      (isError : token.kind = .error (String.ofList ('\'' :: literal)))
      (takes : CharacterLiteral.TakesBreak literal)
      (told : .lexical (.malformedLiteral .character) token.span ∈
        (lex source tabWidth).diagnostics)

namespace Reader

variable {reader : Reader} {source : String} {tabWidth steps : Nat} {token : Token}

theorem afterSteps_kept [XidStart] (source : String) (tabWidth steps : Nat) :
    (afterSteps source tabWidth steps).Kept := by
  induction steps with
  | zero => exact start_kept tabWidth source.toList
  | succ steps inductionHypothesis =>
      rw [afterSteps_succ]
      exact step_kept inductionHypothesis

/-- A string that is open was opened by a token further in front. -/
theorem Kept.opensAt {quote : QuoteForm} {opened : Nat} {outer : List Frame}
    (kept : reader.Kept) (inString : reader.frames = .string quote opened :: outer) :
    ∃ place, OpensAt reader.tokens.toList place (.string quote) opened ∧
      opened < reader.offset := by
  rcases kept.ledger with ⟨pairs, opens, ledger⟩
  have stacked : Stacked reader.tokens.toList reader.frames opens := ledger.stacked
  rw [inString] at stacked
  rcases stacked.uncons nofun with ⟨place, _, _, opensThere, _⟩
  exact ⟨place, opensThere, (ledger.openers place _ opened opensThere).1⟩

theorem lexeme_takes [XidStart] (reader : Reader) (c : Char) (rest : List Char) :
    Unbroken (c :: rest.take (reader.lexeme c rest).more) ∨
      Lexeme.TakesBreak (c :: rest.take (reader.lexeme c rest).more)
        (reader.lexeme c rest).lexeme :=
  Lexeme.scan_takes _ c rest

/-- Of the tokens that are lexemes only strings with three marks reach over the end of a
line. -/
theorem lexeme_unbroken [XidStart] {c : Char} {rest : List Char} {kind : TokenKind}
    (found : (reader.lexeme c rest).lexeme.kind? = some kind) :
    Unbroken kind.text.toList ∨
      ∃ text, kind = .string (String.ofList ('"' :: '"' :: '"' :: text)) := by
  rcases Lexeme.text_of_scan found with shown | ⟨isMod, _⟩
  · rcases lexeme_takes reader c rest with unbroken | takes
    · exact .inl (shown ▸ unbroken)
    · rcases takes.value found with ⟨value, beyond, rfl, marks⟩
      refine .inr ⟨beyond, congrArg TokenKind.string (String.toList_inj.mp ?_)⟩
      rw [String.toList_ofList]
      exact shown.trans marks
  · refine .inl ?_
    rw [isMod]
    exact .of_contains (by decide +kernel)

/-- By the way in which the token is read. -/
theorem Reads.reachesOver [XidStart] (reads : (afterSteps source tabWidth steps).Reads token)
    (broken : ¬ Unbroken token.text.toList) : token.ReachesOver source tabWidth := by
  rcases afterSteps_grows source tabWidth (steps + 1) with ⟨_, ⟨others, told⟩⟩
  rcases afterSteps_grows source tabWidth steps with ⟨⟨more, added⟩, _⟩
  rw [afterSteps_succ] at told
  have kept := afterSteps_kept source tabWidth steps
  cases reads with
  | stray closer span =>
      refine absurd ?_ broken
      show Unbroken closer.char.toString.toList
      cases closer <;> exact .of_contains (by decide +kernel)
  | mark inString marks span waiting => exact absurd marks.unbroken broken
  | @plain quote opened outer inString unclosed noSplice =>
      cases quote with
      | plain => exact absurd (.ofList (StringText.unbroken_length_plain _)) broken
      | triple =>
          rcases kept.opensAt inString with ⟨place, opens, before⟩
          exact .plain _ rfl rfl inString (added ▸ opens.append more) before
  | @lexeme c rest kind code unread found =>
      rcases lexeme_unbroken found with unbroken | ⟨text, isString⟩
      · exact absurd unbroken broken
      · exact .string text isString
  | @faulty c rest fault code unread found =>
      have reported : .lexical fault _ ∈ (lex source tabWidth).diagnostics :=
        told ▸ List.mem_append_left others (step_reports code unread found)
      rcases lexeme_takes (afterSteps source tabWidth steps) c rest with unbroken | takes
      · exact absurd (.ofList unbroken) broken
      · rw [found] at takes
        generalize c :: rest.take ((afterSteps source tabWidth steps).lexeme c rest).more = text
          at takes reported ⊢
        cases takes with
        | unfinished beyond marks => exact .unfinished beyond (by rw [marks]) reported
        | comment beyond mark => exact .comment beyond (by rw [mark]) reported
        | escape literal mark takes => exact .escape literal (by rw [mark]) takes reported

end Reader

/-- A token that has a line feed in it is a string with three marks, text of one, or the
faulty rest of the source behind the marks of a string or a comment.  The one other way is a
character by its number in braces that are not closed in the line. -/
theorem lex_within_lines [XidStart] (source : String) (tabWidth : Nat) :
    ∀ token ∈ (lex source tabWidth).tokens, '\n' ∈ (token.span.text source).toList →
      token.ReachesOver source tabWidth := by
  intro token member broken
  rcases List.append_of_mem member with ⟨front, back, parts⟩
  have wide : token.span.isEmpty = false := by
    refine Bool.eq_false_iff.mpr fun empty => ?_
    rw [Span.text_of_isEmpty empty] at broken
    cases broken
  rcases lex_wide parts wide with ⟨steps, before, blank, own, beyond, whole, stands, readBy⟩
  rw [stands.span, Span.text_of_append beyond whole, String.toList_ofList] at broken
  refine readBy.reads.reachesOver fun unbroken => ?_
  rcases stands.spells with shown | ⟨-, rfl⟩
  · apply unbroken '\n' _ rfl
    rw [show token.text = String.ofList own from shown, String.toList_ofList]
    exact broken
  · exact absurd broken (by decide)

/-- The line feed behind the digits belongs to the literal, and the next line goes on behind
it. -/
theorem lex_within_lines_escape :
    Token.mk (.error "'\\u\x7b1\n") ⟨0, 6⟩ [] ∈ (lex "'\\u\x7b1\nx" 4).tokens ∧
      Token.ReachesOver "'\\u\x7b1\nx" 4 ⟨.error "'\\u\x7b1\n", ⟨0, 6⟩, []⟩ :=
  have member : Token.mk (.error "'\\u\x7b1\n") ⟨0, 6⟩ [] ∈ (lex "'\\u\x7b1\nx" 4).tokens := by
    decide +kernel
  ⟨member, lex_within_lines _ _ _ member (by decide +kernel)⟩

end Offside
