import Offside.Proofs.Lexing.LineEnd
import Offside.Proofs.Lexing.Steps

namespace Offside

/-!
# Looking ahead for a splice

Behind its opening marks a string is looked through for a splice.  With a splice it is
opened, and its pieces are read one by one; without one it is read as a whole.  The look
ahead goes the way that reading the text will go, so a string is opened exactly if its text
stops at a splice.

There is one exception.  A line feed cuts a string with plain marks off, even behind a
backslash, but to the look ahead the backslash takes the line feed with it.  There it goes
on through the next line, and a splice that it finds there opens the string.
-/

namespace StringText

variable {quote : QuoteForm} {text rest : List Char} {c d : Char}

/-- Whether the last character of a text is a backslash with nothing behind it to take. -/
def endsEscaped : List Char → Bool
  | [] => false
  | c :: rest =>
    if c == '\\' then
      match rest with
      | [] => true
      | _ :: beyond => endsEscaped beyond
    else endsEscaped rest

/-- What stands where the text of a string stops. -/
def stop [XidStart] (quote : QuoteForm) (text : List Char) :
    List Char := text.drop (length quote text)

/-- The look ahead finds a splice behind a line feed that cuts the string off. -/
structure LooksPast [XidStart] (quote : QuoteForm) (text : List Char) : Prop where
  plain : quote = .plain
  escaped : endsEscaped (text.take (length quote text)) = true
  broken : (stop quote text).head? = some '\n'
  further : hasSplice quote ((stop quote text).drop 1) = true

/-! ## Two ways through one text -/

theorem stop_of_stops [XidStart] (stopped : stops quote text = true) : stop quote text = text := by
  unfold stop
  rw [length_of_stops stopped, List.drop_zero]

/-- Nothing is looked past where nothing has been passed. -/
theorem not_looksPast_of_stops [XidStart] (stopped : stops quote text = true) :
    ¬ LooksPast quote text := by
  intro past
  have escaped := past.escaped
  rw [length_of_stops stopped] at escaped
  cases escaped

theorem endsEscaped_cons (noBackslash : c ≠ '\\') (rest : List Char) :
    endsEscaped (c :: rest) = endsEscaped rest := by
  conv => lhs; unfold endsEscaped
  exact if_neg (by simpa using noBackslash)

/-- Text that is passed changes nothing about what is looked past behind it. -/
theorem looksPast_append [XidStart] {front : List Char}
    (measured : length quote (front ++ rest) = length quote rest + front.length)
    (escaped : ∀ text, endsEscaped (front ++ text) = endsEscaped text) :
    (LooksPast quote (front ++ rest) ↔ LooksPast quote rest) ∧
      stop quote (front ++ rest) = stop quote rest := by
  have stopped : stop quote (front ++ rest) = stop quote rest := by
    unfold stop
    rw [measured, Nat.add_comm, ← List.drop_drop, List.drop_left]
  have passed : endsEscaped ((front ++ rest).take (length quote (front ++ rest))) =
      endsEscaped (rest.take (length quote rest)) := by
    rw [measured, Nat.add_comm, List.take_length_add_append, escaped]
  refine ⟨⟨fun past => ?_, fun past => ?_⟩, stopped⟩
  · exact ⟨past.plain, passed ▸ past.escaped, stopped ▸ past.broken, stopped ▸ past.further⟩
  · exact ⟨past.plain, passed ▸ past.escaped, stopped ▸ past.broken, stopped ▸ past.further⟩

/-- Behind a backslash a line feed cuts a string with plain marks off, but is looked past. -/
theorem looksPast_break [XidStart] (beyond : List Char) :
    stop .plain ('\\' :: '\n' :: beyond) = '\n' :: beyond ∧
      (LooksPast .plain ('\\' :: '\n' :: beyond) ↔ hasSplice .plain beyond = true) := by
  have measured : length .plain ('\\' :: '\n' :: beyond) = 1 := length_cons rfl
  have stopped : stop .plain ('\\' :: '\n' :: beyond) = '\n' :: beyond := by
    unfold stop
    rw [measured]
    rfl
  refine ⟨stopped, fun past => ?_, fun splice => ⟨rfl, ?_, ?_, ?_⟩⟩
  · have further := past.further
    rwa [stopped] at further
  · rw [measured]
    rfl
  · rw [stopped]
    rfl
  · rw [stopped]
    exact splice

/-- The look ahead agrees with reading the text, but for a line feed behind a backslash. -/
theorem hasSplice_iff [XidStart] : ∀ text : List Char,
    hasSplice quote text = true ↔
      startsSplice (stop quote text) = true ∨ LooksPast quote text
  | [] => by
      have none : ¬ LooksPast quote [] := fun past => by cases past.broken
      simp [stop, hasSplice, startsSplice, none]
  | c :: rest => by
      cases stopped : stops quote (c :: rest) with
      | true =>
          rw [hasSplice_of_stops stopped, stop_of_stops stopped]
          exact (or_iff_left (not_looksPast_of_stops stopped)).symm
      | false =>
          rw [hasSplice_cons stopped]
          have measured := length_cons stopped
          by_cases backslash : c = '\\'
          · rw [if_pos (by simpa using backslash)] at measured ⊢
            subst backslash
            cases rest with
            | nil =>
                have ended : stop quote ['\\'] = [] := by
                  unfold stop
                  rw [measured]
                  rfl
                have none : ¬ LooksPast quote ['\\'] := by
                  intro past
                  have broken := past.broken
                  rw [ended] at broken
                  cases broken
                simp [ended, startsSplice, none]
            | cons d beyond =>
                dsimp only at measured ⊢
                split at measured
                · rename_i broken
                  rw [Bool.and_eq_true, beq_iff_eq, beq_iff_eq] at broken
                  rcases broken with ⟨rfl, rfl⟩
                  rw [(looksPast_break beyond).1, (looksPast_break beyond).2]
                  simp [startsSplice]
                · have passed := @looksPast_append quote beyond _ ['\\', d] measured
                    fun _ => rfl
                  rw [hasSplice_iff beyond, ← passed.1, ← passed.2]
                  rfl
          · rw [if_neg (by simpa using backslash)] at measured ⊢
            have passed := @looksPast_append quote rest _ [c] measured
              (endsEscaped_cons backslash)
            rw [hasSplice_iff rest, ← passed.1, ← passed.2]
            rfl

example : hasSplice .plain ['\\', '\n', '$', 'x'] = true ∧
    stop .plain ['\\', '\n', '$', 'x'] = ['\n', '$', 'x'] := by decide +kernel

/-! ## The tokens of strings -/

/-- The token that a string forms, given the text behind its opening marks. -/
inductive Forms [XidStart] (quote : QuoteForm) (text : List Char) : TokenKind → Prop
  | opened (splice : startsSplice (stop quote text) = true ∨ LooksPast quote text) :
      Forms quote text (.stringStart quote)
  | whole (closes : closesWith quote (stop quote text) = true) :
      Forms quote text (.string (String.ofList (quote.spelling.toList ++
        (text.take (length quote text) ++ quote.spelling.toList))))
  | unfinished (cutOff : isCutOff quote (stop quote text) = true)
      (noSplice : ¬ LooksPast quote text) :
      Forms quote text (.error (String.ofList (quote.spelling.toList ++
        text.take (length quote text))))

end StringText

namespace Lexeme

open StringText

variable {quote : QuoteForm} {body rest : List Char}

theorem spelling_eq_cons (quote : QuoteForm) :
    quote.spelling.toList = '"' :: openingMarks quote := by
  cases quote <;> rfl

theorem string_of_cutOff [XidStart] (opened : openingQuote (openingMarks quote ++ body) = quote)
    (noSplice : hasSplice quote body = false) (cutOff : isCutOff quote (stop quote body) = true) :
    string (openingMarks quote ++ body) = ⟨.faulty .unterminatedString,
      (openingMarks quote ++ body.take (length quote body)).length⟩ := by
  have within : (body.take (length quote body)).length = length quote body :=
    List.length_take_of_le (length_le body)
  unfold openingQuote at opened
  unfold stop at cutOff
  unfold string
  dsimp only
  rw [opened, ← length_openingMarks, List.drop_left, noSplice, cutOff, List.length_append, within]
  rfl

theorem Fits.eq_stringOpening {text : List Char} {lexeme : Lexeme} (fits : Fits text lexeme)
    (found : lexeme.kind? = some (.stringStart quote)) : lexeme = .stringOpening quote := by
  cases fits with
  | trivia kind => cases found
  | faulty fault => cases found
  | opening spells =>
      cases found
      rfl
  | token lexical spells =>
      cases found
      cases lexical

/-- A string is read as one lexeme: the opening of a string with splices, a whole string or
a string that is cut off. -/
theorem forms_string [XidStart] (opened : openingQuote (openingMarks quote ++ body) = quote) :
    ∃ kind, Forms quote body kind ∧
      ((string (openingMarks quote ++ body)).lexeme.kind? = some kind ∧ kind.isError = false ∨
        (string (openingMarks quote ++ body)).lexeme = .faulty .unterminatedString ∧
          kind = .error (String.ofList ('"' :: (openingMarks quote ++ body).take
            (string (openingMarks quote ++ body)).more))) := by
  cases splice : hasSplice quote body with
  | true =>
      refine ⟨.stringStart quote, .opened ((hasSplice_iff body).mp splice), .inl ⟨?_, rfl⟩⟩
      rw [string_of_splice opened splice]
      rfl
  | false =>
      have here := mt (hasSplice_iff body).mpr (Bool.eq_false_iff.mp splice)
      rw [not_or] at here
      have parts : body = body.take (length quote body) ++ stop quote body :=
        (List.take_append_drop _ _).symm
      have within : (body.take (length quote body)).length = length quote body :=
        List.length_take_of_le (length_le body)
      cases cutOff : isCutOff quote (stop quote body) with
      | true =>
          have read := string_of_cutOff opened splice cutOff
          refine ⟨_, .unfinished cutOff here.2, .inr ⟨by rw [read], ?_⟩⟩
          have whole : openingMarks quote ++ body =
              openingMarks quote ++ body.take (length quote body) ++ stop quote body := by
            rw [List.append_assoc, ← parts]
          have taken : (openingMarks quote ++ body).take
              (openingMarks quote ++ body.take (length quote body)).length =
                openingMarks quote ++ body.take (length quote body) := by
            conv => lhs; rw [whole]
            exact List.take_left
          rw [read, taken, spelling_eq_cons, List.cons_append]
      | false =>
          have closes := closesWith_drop_length splice cutOff
          refine ⟨_, .whole closes, .inl ⟨?_, rfl⟩⟩
          have ends := eq_append_of_closesWith closes
          unfold stop at parts
          rw [ends] at parts
          generalize body.take (length quote body) = plain at parts within ⊢
          generalize (body.drop (length quote body)).drop (marksLength quote) = beyond at parts
          rw [parts] at opened within ⊢
          rw [string_of_plain opened within.symm, spelling_eq_cons]
          rfl

end Lexeme

namespace Reader

open Lexeme StringText

variable {reader : Reader} {quote : QuoteForm} {text rest : List Char}

/-- The reader stands outside of strings, at the opening marks of a string with some text
behind them. -/
structure AtString (reader : Reader) (quote : QuoteForm) (text : List Char) : Prop where
  code : Frame.inString reader.frames = false
  unread : reader.rest = quote.spelling.toList ++ text
  /-- Three marks are never taken for plain ones. -/
  alone : quote = .plain → ['"', '"'].isPrefixOf text = false

/-- A token is found at the place of a reader and takes the text that it is spelled with. -/
structure Finds (reader : Reader) (lexed : Lexed) (token : Token) : Prop where
  member : token ∈ lexed.tokens
  place : token.span = reader.spanOf token.text.toList

/-- A mark outside of strings opens a string. -/
theorem atString_of_quote (code : Frame.inString reader.frames = false)
    (unread : reader.rest = '"' :: rest) :
    ∃ quote text, rest = openingMarks quote ++ text ∧ reader.AtString quote text := by
  have split := eq_append_openingQuote rest
  generalize form : openingQuote rest = quote at split
  generalize rest.drop (marksLength quote - 1) = text at split
  refine ⟨quote, text, split, code, ?_, ?_⟩
  · rw [unread, split, spelling_eq_cons, List.cons_append]
  · apply alone_of_openingQuote
    rw [← split, form]

/-- The step at a string adds the token that the string forms. -/
theorem AtString.step [XidStart] (atString : reader.AtString quote text) :
    ∃ token ∈ reader.step.tokens.toList, token.span = reader.spanOf token.text.toList ∧
      Forms quote text token.kind ∧ (token.kind.isError = true →
        .lexical .unterminatedString token.span ∈ reader.step.diagnostics.toList) := by
  have unread : reader.rest = '"' :: (openingMarks quote ++ text) := by
    rw [atString.unread, spelling_eq_cons, List.cons_append]
  rcases forms_string (openingQuote_of_ne atString.alone) with ⟨kind, forms, found⟩
  have scanned : reader.lexeme '"' _ = string (openingMarks quote ++ text) := scan_quote _
  rw [← scanned] at found
  rcases found with ⟨found, sound⟩ | ⟨faulty, isError⟩
  · have shown : kind.text.toList = '"' :: (openingMarks quote ++ text).take
        (reader.lexeme '"' (openingMarks quote ++ text)).more := by
      rcases text_of_scan found with shown | ⟨isMod, _⟩
      · exact shown
      · rw [isMod] at forms
        cases forms
    have noCloser : kind.isCloser = false := by cases forms <;> rfl
    refine ⟨_, mem_step_of_lexeme atString.code unread found noCloser, ?_, forms, fun isError => ?_⟩
    · rw [← shown]
      rfl
    · rw [sound] at isError
      cases isError
  · refine ⟨_, mem_step_of_faulty atString.code unread faulty, ?_, ?_, fun _ => ?_⟩
    · show _ = reader.spanOf (String.ofList _).toList
      rw [String.toList_ofList]
    · rw [isError] at forms
      exact forms
    · exact step_reports atString.code unread faulty

/-- A string is opened only at its marks. -/
theorem Reads.atString [XidStart] {token : Token} (reads : reader.Reads token)
    (isOpening : token.kind = .stringStart quote) :
    ∃ text, reader.AtString quote text ∧ token.span = reader.spanOf token.text.toList ∧
      Forms quote text token.kind := by
  cases reads with
  | stray closer span => cases isOpening
  | faulty code unread found => cases isOpening
  | plain inString unclosed noSplice => cases isOpening
  | mark inString marks span waiting => cases marks <;> cases isOpening
  | @lexeme c rest kind code unread found =>
      have opens : kind = .stringStart quote := isOpening
      subst opens
      have lexeme := (fits_scan _ c rest).eq_stringOpening found
      have isMark := quote_of_opening lexeme
      subst isMark
      rcases atString_of_quote code unread with ⟨form, text, split, atString⟩
      rcases forms_string (openingQuote_of_ne atString.alone) with ⟨kind, forms, read⟩
      have scanned : reader.lexeme '"' rest = string rest := scan_quote rest
      rw [← split, ← scanned] at read
      rcases read with ⟨same, -⟩ | ⟨faulty, -⟩
      · cases found.symm.trans same
        cases forms with
        | opened splice =>
            refine ⟨text, atString, ?_, .opened splice⟩
            rcases text_of_scan found with shown | ⟨isMod, -⟩
            · exact congrArg reader.spanOf shown.symm
            · cases isMod
      · cases lexeme.symm.trans faulty

end Reader

open StringText

/-- A string is opened exactly if its text stops at a splice, or if a line feed behind a
backslash cuts it off and there is a splice further on.  A string that is cut off in front
of any splice is one faulty token. -/
theorem lex_strings [XidStart] (source : String) (tabWidth : Nat) :
    (∀ quote text, hasSplice quote text = true ↔
      startsSplice (stop quote text) = true ∨ LooksPast quote text) ∧
    (∀ steps quote text, (Reader.afterSteps source tabWidth steps).AtString quote text →
      ∃ token, (Reader.afterSteps source tabWidth steps).Finds (lex source tabWidth) token ∧
        Forms quote text token.kind ∧ (token.kind.isError = true →
          .lexical .unterminatedString token.span ∈ (lex source tabWidth).diagnostics)) ∧
    ∀ token ∈ (lex source tabWidth).tokens, ∀ quote, token.kind = .stringStart quote →
      ∃ steps text, (Reader.afterSteps source tabWidth steps).AtString quote text ∧
        (Reader.afterSteps source tabWidth steps).Finds (lex source tabWidth) token ∧
        Forms quote text token.kind := by
  refine ⟨fun quote => hasSplice_iff, fun steps quote text atString => ?_, ?_⟩
  · rcases atString.step with ⟨token, member, place, forms, told⟩
    rcases Reader.afterSteps_grows source tabWidth (steps + 1) with ⟨⟨more, added⟩, ⟨others, also⟩⟩
    rw [Reader.afterSteps_succ] at added also
    refine ⟨token, ⟨?_, place⟩, forms, fun isError => ?_⟩
    · rw [added]
      exact List.mem_append_left _ member
    · rw [also]
      exact List.mem_append_left _ (told isError)
  · intro token member quote isOpening
    rcases mem_tokens_lex member with inserted | isEnd | ⟨steps, reads⟩
    · have synthetic := inserted.isSynthetic
      rw [isOpening] at synthetic
      cases synthetic
    · cases isEnd.symm.trans isOpening
    · rcases reads.atString isOpening with ⟨text, atString, place, forms⟩
      exact ⟨steps, text, atString, ⟨member, place⟩, forms⟩

end Offside
