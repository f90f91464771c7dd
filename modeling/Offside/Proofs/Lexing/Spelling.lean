import Offside.Lexeme

namespace Offside

/-!
# Lexemes are spelled by their text

A lexeme that becomes a token takes exactly the text that spells its kind.  Names
and literals hold their text, so for them this says no more than that the scanner
measured what it took.  The words and marks of the vocabulary are told by their
spelling.  One keyword can be spelled in two ways.
-/

/-- Whether a text is how a token of the kind is written. -/
def TokenKind.Spells (kind : TokenKind) (text : List Char) : Prop :=
  kind.text = String.ofList text ∨ kind = .keyword .modKw ∧ text = "namespace".toList

/-- Whether tokens of the kind are read outside of strings and are sound. -/
def TokenKind.isLexical : TokenKind → Bool
  | keyword _ | punctuation _ | identifier _ | operator _ | integer _ | float _
  | character _ | string _ => true
  | _ => false

/-- Whether a lexeme fits the text that it takes. -/
inductive Lexeme.Fits (text : List Char) : Lexeme → Prop
  | trivia (kind : TriviaKind) : Fits text (.trivia kind)
  | token {kind : TokenKind} (lexical : kind.isLexical = true) (spells : kind.Spells text) :
      Fits text (.token kind)
  | opening {quote : QuoteForm} (spells : (TokenKind.stringStart quote).Spells text) :
      Fits text (.stringOpening quote)
  | faulty (fault : LexicalFault) : Fits text (.faulty fault)

/-- The token that a lexeme becomes, if it does. -/
def Lexeme.kind? : Lexeme → Option TokenKind
  | token kind => some kind
  | stringOpening quote => some (.stringStart quote)
  | trivia _ | faulty _ => none

theorem Lexeme.eq_token_of_kind? {lexeme : Lexeme} {kind : TokenKind}
    (found : lexeme.kind? = some kind) (noOpening : ∀ quote, kind ≠ .stringStart quote) :
    lexeme = .token kind := by
  cases lexeme with
  | token there =>
      cases found
      rfl
  | stringOpening quote =>
      cases found
      exact absurd rfl (noOpening quote)
  | trivia trivia => cases found
  | faulty fault => cases found

/-- A lexeme that becomes a token takes the text that spells it. -/
theorem Lexeme.Fits.spells {text : List Char} {lexeme : Lexeme} {kind : TokenKind}
    (fits : Lexeme.Fits text lexeme) (found : lexeme.kind? = some kind) : kind.Spells text := by
  cases fits with
  | trivia trivia => cases found
  | faulty fault => cases found
  | token lexical spells =>
      cases found
      exact spells
  | opening spells =>
      cases found
      exact spells

/-! ## The vocabulary -/

theorem Punctuation.spelling_of_ofOperatorRun? {run : String} {mark : Punctuation}
    (found : Punctuation.ofOperatorRun? run = some mark) : mark.spelling = run := by
  have tested := List.find?_some found
  exact beq_iff_eq.mp (Bool.and_eq_true_iff.mp tested).1

/-- Only one keyword has a second spelling. -/
theorem Keyword.spells_of_ofSpelling? {word : List Char} {keyword : Keyword}
    (found : Keyword.ofSpelling? (String.ofList word) = some keyword) :
    (TokenKind.keyword keyword).Spells word := by
  unfold Keyword.ofSpelling? at found
  rcases Option.or_eq_some_iff.mp found with shown | ⟨_, second⟩
  · have tested := List.find?_some shown
    exact Or.inl (beq_iff_eq.mp tested)
  · have tested : keyword.entry.aliases.contains (String.ofList word) = true :=
      by simpa using List.find?_some second
    apply Or.inr
    cases keyword with
    | modKw =>
        have same := List.mem_singleton.mp (List.contains_iff_mem.mp tested)
        refine ⟨rfl, ?_⟩
        rw [← same, String.toList_ofList]
    | _ => cases tested

theorem wordKind_fits (word : List Char) :
    (Lexeme.wordKind (String.ofList word)).isLexical = true ∧
      (Lexeme.wordKind (String.ofList word)).Spells word := by
  unfold Lexeme.wordKind
  split
  · rename_i wildcard
    exact ⟨rfl, Or.inl (beq_iff_eq.mp wildcard).symm⟩
  · split
    · rename_i keyword found
      exact ⟨rfl, Keyword.spells_of_ofSpelling? found⟩
    · exact ⟨rfl, Or.inl rfl⟩

/-! ## Numerals -/

namespace Numeral

open CharClass

theorem digitsLength_pos {digit : Char → Bool} {c : Char} {rest : List Char}
    (first : digit c = true) : 0 < digitsLength digit (c :: rest) := by
  show 0 < if digit c = true then moreDigitsLength digit rest + 1 else 0
  rw [if_pos first]
  omega

theorem fractionLength_pos {rest : List Char} (first : headIs isDigit rest = true) :
    0 < fractionLength ('.' :: rest) := by
  show 0 < if headIs isDigit rest = true then digitsLength isDigit rest + 1 else 0
  rw [if_pos first]
  omega

theorem length_scanUnsigned_pos {c : Char} {rest : List Char}
    (starts : isDigit c = true ∨ c = '.' ∧ headIs isDigit rest = true) :
    0 < (scanUnsigned (c :: rest)).length := by
  unfold scanUnsigned
  split
  · rename_i point same
    cases same
    rcases starts with digit | ⟨_, digits⟩
    · cases digit
    · have positive := fractionLength_pos digits
      unfold scanPoint
      dsimp only
      omega
  · dsimp only
    omega
  · dsimp only
    omega
  · rename_i text noPoint noHexadecimal noCapital
    have digit : isDigit c = true := by
      rcases starts with digit | ⟨point, _⟩
      · exact digit
      · exact absurd (by rw [point]) (noPoint rest)
    have positive : 0 < digitsLength isDigit (c :: rest) := digitsLength_pos digit
    unfold scanDecimal
    dsimp only
    split
    · dsimp only
      omega
    · dsimp only
      omega

/-- Where a numeral begins, it takes at least one character. -/
theorem length_scan_pos [XidStart] {operandBefore : Bool} {c : Char} {rest : List Char}
    (starts : Lexeme.startsNumeral operandBefore c rest = true) :
    0 < (scan (c :: rest)).length := by
  unfold scan
  dsimp only
  by_cases minus : c = '-'
  · have signed : headIs (· == '-') (c :: rest) = true := by rw [minus]; rfl
    rw [if_pos signed]
    omega
  · have unsigned : ¬ headIs (· == '-') (c :: rest) = true := by
      simpa [headIs] using minus
    have positive : 0 < (scanUnsigned (c :: rest)).length := by
      apply length_scanUnsigned_pos
      unfold Lexeme.startsNumeral at starts
      simp only [Bool.or_eq_true, Bool.and_eq_true, beq_iff_eq] at starts
      rcases starts with digit | ⟨⟨sign, digits⟩, _⟩
      · exact Or.inl digit
      · exact Or.inr ⟨sign.resolve_left minus, digits⟩
    rw [if_neg unsigned, List.drop_zero]
    omega

end Numeral

/-! ## The scanners -/

namespace Lexeme

theorem fits_blockComment (c : Char) (rest : List Char) :
    Fits (c :: rest.take (blockComment rest).more) (blockComment rest).lexeme := by
  unfold blockComment
  split
  · exact .trivia _
  · exact .faulty _

theorem fits_string [XidStart] (rest : List Char) :
    Fits ('"' :: rest.take (string rest).more) (string rest).lexeme := by
  unfold string
  generalize quoted : (if ['"', '"'].isPrefixOf rest then QuoteForm.triple else .plain) =
    quote
  dsimp only
  by_cases spliced : StringText.hasSplice quote (rest.drop (StringText.marksLength quote - 1))
  · rw [if_pos spliced]
    refine .opening (Or.inl ?_)
    rw [← quoted]
    split
    · rename_i triple
      rcases List.isPrefixOf_iff_prefix.mp triple with ⟨body, same⟩
      rw [← same]
      rfl
    · rfl
  · rw [if_neg spliced]
    split
    · exact .faulty _
    · exact .token rfl (Or.inl rfl)

theorem fits_character (rest : List Char) :
    Fits ('\'' :: rest.take (character rest).more) (character rest).lexeme := by
  unfold character
  dsimp only
  split
  · exact .token rfl (Or.inl rfl)
  · exact .faulty _

theorem fits_backquoted (rest : List Char) :
    Fits ('`' :: rest.take (backquoted rest).more) (backquoted rest).lexeme := by
  unfold backquoted
  dsimp only
  split
  · exact .token rfl (Or.inl rfl)
  · exact .faulty _

theorem fits_numeral [XidStart] {operandBefore : Bool} {c : Char} {rest : List Char}
    (starts : startsNumeral operandBefore c rest = true) :
    Fits (c :: rest.take (numeral c rest).more) (numeral c rest).lexeme := by
  have positive := Numeral.length_scan_pos starts
  unfold numeral
  dsimp only
  have taken : (c :: rest).take (Numeral.scan (c :: rest)).length =
      c :: rest.take ((Numeral.scan (c :: rest)).length - 1) := by
    rw [← Nat.sub_add_cancel positive, List.take_succ_cons, Nat.add_sub_cancel]
  split
  · rw [taken]
    split
    · exact .token rfl (Or.inl rfl)
    · exact .token rfl (Or.inl rfl)
  · exact .faulty _

theorem fits_word [XidStart] (c : Char) (rest : List Char) :
    Fits (c :: rest.take (word c rest).more) (word c rest).lexeme := by
  unfold word
  dsimp only
  exact .token (wordKind_fits _).1 (wordKind_fits _).2

theorem fits_operator (c : Char) (rest : List Char) :
    Fits (c :: rest.take (operator c rest).more) (operator c rest).lexeme := by
  unfold operator
  dsimp only
  split
  · rename_i hash
    rcases Bool.and_eq_true_iff.mp hash with ⟨run, brace⟩
    have same : c :: rest.take (operatorRunLength rest) = ['#'] := by
      have spelled := congrArg String.toList (beq_iff_eq.mp run)
      rw [String.toList_ofList] at spelled
      exact spelled
    have opened : rest.take 1 = ['{'] := by
      cases rest with
      | nil => cases brace
      | cons d beyond =>
          have isBrace : d = '{' := by simpa [headIs] using brace
          rw [isBrace]
          rfl
    refine .token rfl (Or.inl ?_)
    rw [(List.cons.inj same).1, opened]
    rfl
  · split
    · rename_i mark found
      exact .token rfl (Or.inl (Punctuation.spelling_of_ofOperatorRun? found))
    · exact .token rfl (Or.inl rfl)

theorem spelling_of_single? {c : Char} {mark : Punctuation} (found : single? c = some mark) :
    mark.spelling = String.ofList [c] := by
  unfold single? at found
  split at found <;> cases found <;> rfl

/-- What was found behind a character fits the text that it takes. -/
def Found.Fits (c : Char) (rest : List Char) (found : Found) : Prop :=
  Lexeme.Fits (c :: rest.take found.more) found.lexeme

theorem Found.Fits.choose {c : Char} {rest : List Char} {test : Bool} {first second : Found}
    (whenTrue : test = true → first.Fits c rest) (whenFalse : second.Fits c rest) :
    (if test = true then first else second).Fits c rest := by
  split
  · exact whenTrue ‹_›
  · exact whenFalse

/-- Whatever the scanner finds fits the text that it takes. -/
theorem fits_scan [XidStart] (operandBefore : Bool) (c : Char) (rest : List Char) :
    (scan operandBefore c rest).Fits c rest := by
  unfold scan
  refine .choose (fun _ => Fits.trivia _) ?_
  refine .choose (fun _ => Fits.trivia _) ?_
  refine .choose (fun _ => Fits.trivia _) ?_
  refine .choose (fun _ => fits_blockComment c rest) ?_
  refine .choose (fun quote => ?_) (.choose (fun quote => ?_) (.choose (fun quote => ?_) ?_))
  · rw [beq_iff_eq.mp quote]
    exact fits_string rest
  · rw [beq_iff_eq.mp quote]
    exact fits_character rest
  · rw [beq_iff_eq.mp quote]
    exact fits_backquoted rest
  · refine .choose fits_numeral ?_
    split
    · rename_i mark found
      exact Fits.token rfl (Or.inl (spelling_of_single? found))
    · refine .choose (fun _ => fits_word c rest) ?_
      exact .choose (fun _ => fits_operator c rest) (Fits.faulty _)

end Lexeme

/-! ## Pieces of strings -/

namespace StringText

open CharClass

/-- What has to stand where a piece of a string was found. -/
inductive Piece.Fits (quote : QuoteForm) (text : List Char) : Piece → Prop
  | closing (spells : (TokenKind.stringEnd quote).Spells (text.take (marksLength quote)))
      (nonempty : text.take (marksLength quote) ≠ []) : Fits quote text .closing
  | spliceOpening {beyond : List Char} (same : text = '$' :: '{' :: beyond) :
      Fits quote text .spliceOpening
  | name {c : Char} {beyond : List Char} {length : Nat} (same : text = '$' :: c :: beyond)
      (positive : 0 < length) : Fits quote text (.name length)
  | text {length : Nat} (nonempty : text.take length ≠ []) : Fits quote text (.text length)
  | cutOff (length : Nat) : Fits quote text (.cutOff length)

theorem fits_closing {quote : QuoteForm} {text : List Char}
    (closes : closesWith quote text = true) : Piece.Fits quote text .closing := by
  cases quote with
  | plain =>
      cases text with
      | nil => cases closes
      | cons c rest =>
          have isQuote : c = '"' := by simpa [closesWith, headIs] using closes
          rw [isQuote]
          exact .closing (Or.inl rfl) (List.cons_ne_nil _ _)
  | triple =>
      rcases List.isPrefixOf_iff_prefix.mp closes with ⟨rest, same⟩
      rw [← same]
      exact .closing (Or.inl rfl) (List.cons_ne_nil _ _)

/-- At a splice stands a dollar sign, and behind it a bracket or a name. -/
theorem text_of_startsSplice [XidStart] {text : List Char} (splice : startsSplice text = true) :
    ∃ c beyond, text = '$' :: c :: beyond ∧ (c = '{' ∨ isIdentContinue c = true) := by
  unfold startsSplice at splice
  split at splice
  · exact ⟨_, _, rfl, Or.inl rfl⟩
  · refine ⟨_, _, rfl, Or.inr ?_⟩
    unfold isIdentContinue
    rw [(Bool.and_eq_true_iff.mp splice).2, Bool.true_or]
  · cases splice

theorem fits_splice [XidStart] {quote : QuoteForm} {text : List Char}
    (splice : startsSplice text = true) :
    Piece.Fits quote text (match text.drop 1 with
      | '{' :: _ => .spliceOpening
      | nameText => .name (runLength isIdentContinue nameText)) := by
  rcases text_of_startsSplice splice with ⟨c, beyond, same, starts⟩
  rw [same]
  split
  · rename_i behind opened
    cases opened
    exact .spliceOpening rfl
  · rename_i behind name
    refine .name rfl ?_
    rcases starts with bracket | continues
    · rw [bracket] at name
      exact absurd rfl (name beyond)
    · show 0 < runLength isIdentContinue (c :: beyond)
      rw [runLength_cons, if_pos continues]
      omega

/-- Whatever piece is found fits the text. -/
theorem fits_scanPiece [XidStart] (quote : QuoteForm) (text : List Char) :
    Piece.Fits quote text (scanPiece quote text) := by
  by_cases closes : closesWith quote text = true
  · unfold scanPiece
    rw [if_pos closes]
    exact fits_closing closes
  · by_cases splice : startsSplice text = true
    · unfold scanPiece
      rw [if_neg closes, if_pos splice]
      exact fits_splice splice
    · have found : scanPiece quote text =
          if isCutOff quote (text.drop (length quote text)) then .cutOff (length quote text)
          else .text (length quote text) := by
        unfold scanPiece
        rw [if_neg closes, if_neg splice]
      by_cases cut : isCutOff quote (text.drop (length quote text)) = true
      · rw [found, if_pos cut]
        exact .cutOff _
      · rw [if_neg cut] at found
        rw [found]
        refine .text fun nothing => ?_
        have positive := pos_of_scanPiece_text found
        rcases List.take_eq_nil_iff.mp nothing with zero | empty
        · omega
        · rw [empty] at positive
          cases positive

end StringText
end Offside
