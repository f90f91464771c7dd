import Offside.Proofs.Lexing.CharacterShapes
import Offside.Proofs.Lexing.Numerals
import Offside.Proofs.Lexing.Spelling
import Offside.Proofs.Lexing.StringText

namespace Offside

/-!
# Where a lexeme ends

A lexeme ends where nothing can be added to it, and that is for the text behind it to
say.  Each scanner asks for little: one character for the most part, two where a point
might begin a fraction or a slash a comment.  So a lexeme stays what it is in front of
any other text that has nothing to add to it either.
-/

open CharClass

/-! ## Scanners -/

namespace Lexeme

variable {c : Char} {rest text other front : List Char}

/-- What a scanner finds reaches to some point, not over a blank in the end, and is found
again in front of every text that has nothing to add there. -/
def Stays [XidStart] (scanner : List Char → Found) (rest : List Char) : Prop :=
  ∃ front text, rest = front ++ text ∧ (scanner rest).more = front.length ∧ EndsSolid front ∧
    ∀ other, NoFurther text other → scanner (front ++ other) = scanner rest

theorem startsComment_cons (c : Char) (rest : List Char) :
    startsComment (c :: rest) = (c == '/' && headIs (fun d => d == '/' || d == '*') rest) := by
  by_cases slash : c = '/'
  · subst slash
    cases rest with
    | nil => rfl
    | cons d rest =>
        by_cases again : d = '/'
        · subst again
          rfl
        · by_cases star : d = '*'
          · subst star
            rfl
          · simp [startsComment, headIs, again, star]
  · simp [startsComment, slash]

theorem operatorRunLength_cons (c : Char) (rest : List Char) :
    operatorRunLength (c :: rest) =
      if isOperatorSymbol c && !startsComment (c :: rest) then operatorRunLength rest + 1
      else 0 := rfl

theorem operatorRunLength_solid (text : List Char) : Solid (operatorRunLength text) text := by
  induction text with
  | nil => exact .zero []
  | cons c text inductionHypothesis =>
      rw [operatorRunLength_cons]
      split
      · rename_i goesOn
        rw [Bool.and_eq_true] at goesOn
        exact inductionHypothesis.cons (isBlank_of_isOperatorSymbol goesOn.1)
      · exact .zero _

theorem operatorRunLength_append [XidStart] (further : NoFurther text other)
    (measured : operatorRunLength (front ++ text) = front.length) :
    operatorRunLength (front ++ other) = front.length := by
  induction front with
  | nil =>
      have none : operatorRunLength text = 0 := measured
      have noneThere := mt further.operators
      rw [List.nil_append, List.length_nil]
      omega
  | cons c front inductionHypothesis =>
      rw [List.cons_append, operatorRunLength_cons] at measured
      split at measured
      · rename_i goesOn
        rw [Bool.and_eq_true, Bool.not_eq_true', startsComment_cons] at goesOn
        have noComment : startsComment (c :: (front ++ other)) = false := by
          rw [startsComment_cons]
          cases slash : c == '/' with
          | false => rfl
          | true =>
              rw [slash, Bool.true_and] at goesOn
              exact headIs_append_eq_false further.comment goesOn.2
        rw [List.cons_append, operatorRunLength_cons, goesOn.1, noComment]
        simp only [Bool.not_false, Bool.and_self, if_true, List.length_cons]
        rw [inductionHypothesis (Nat.succ.inj measured)]
      · cases measured

/-- What a word takes besides its letters. -/
def suffixLength (c : Char) (name tail : List Char) : Nat :=
  if (c :: name).getLast? == some '_' then operatorRunLength tail else 0

theorem word_append [XidStart] {name tail : List Char}
    (measured : runLength isIdentContinue (name ++ tail) = name.length) :
    word c (name ++ tail) =
      ⟨.token (wordKind (String.ofList (c :: (name ++ tail.take (suffixLength c name tail))))),
        name.length + suffixLength c name tail⟩ := by
  unfold word suffixLength
  dsimp only
  rw [measured, List.take_left, List.drop_left, List.take_length_add_append]

theorem suffixLength_append [XidStart] {name : List Char} (further : NoFurther text other)
    (measured : suffixLength c name (front ++ text) = front.length) :
    suffixLength c name (front ++ other) = front.length := by
  unfold suffixLength at measured ⊢
  split at measured
  · rename_i underscore
    rw [if_pos underscore]
    exact operatorRunLength_append further measured
  · rename_i noUnderscore
    rw [if_neg noUnderscore]
    exact measured

theorem suffixLength_solid (c : Char) (name tail : List Char) :
    Solid (suffixLength c name tail) tail := by
  unfold suffixLength
  split
  · exact operatorRunLength_solid tail
  · exact .zero tail

/-- The letters of a word end where no letter goes on, and its operator where no
operator does. -/
theorem word_stays [XidStart] (c : Char) (rest : List Char) : Stays (word c) rest := by
  rcases exists_append (runLength_le isIdentContinue rest) with ⟨name, tail, split, letters⟩
  subst split
  have letters := letters.symm
  have operatorsSolid := suffixLength_solid c name tail
  rcases exists_append operatorsSolid.within with ⟨suffix, text, split, operators⟩
  subst split
  have operators := operators.symm
  rcases all_of_runLength_append letters with ⟨each, ends⟩
  refine ⟨name ++ suffix, text, (List.append_assoc _ _ _).symm, ?_, .of_all ?_,
    fun other further => ?_⟩
  · rw [word_append letters, operators, List.length_append]
  · have suffixSolid := operatorsSolid.noBlank
    rw [operators, List.take_left] at suffixSolid
    intro d member
    exact (List.mem_append.mp member).elim
      (fun isName => isBlank_of_isIdentContinue (each d isName)) (suffixSolid d)
  · have endsThere := headIs_append_eq_false further.word ends
    have measured := runLength_append each endsThere
    rw [List.append_assoc, word_append measured, word_append letters,
      suffixLength_append further operators, operators, List.take_left, List.take_left]

/-- What a run of operator symbols is. -/
def operatorKind (run : List Char) : TokenKind :=
  match Punctuation.ofOperatorRun? (String.ofList run) with
  | some mark => .punctuation mark
  | none => .operator (String.ofList run)

theorem operator_append {run : List Char}
    (measured : operatorRunLength (run ++ text) = run.length) :
    operator c (run ++ text) =
      if String.ofList (c :: run) == "#" && headIs (· == '{') (run ++ text) then
        ⟨.token (.punctuation .hashBrace), 1⟩
      else ⟨.token (operatorKind (c :: run)), run.length⟩ := by
  unfold operator operatorKind
  dsimp only
  rw [measured, List.take_left]
  cases Punctuation.ofOperatorRun? (String.ofList (c :: run)) <;> rfl

theorem operator_hash_brace (text : List Char) :
    operator '#' ('{' :: text) = ⟨.token (.punctuation .hashBrace), 1⟩ := by
  have noSymbol : isOperatorSymbol '{' = false := by decide +kernel
  have none : operatorRunLength ([] ++ '{' :: text) = ([] : List Char).length := by
    rw [List.nil_append, operatorRunLength_cons, noSymbol, Bool.false_and,
      if_neg Bool.false_ne_true]
    rfl
  rw [← List.nil_append ('{' :: text), operator_append none]
  rfl

/-- A run of operator symbols ends where no other one follows.  A hash alone takes in a
curly bracket. -/
theorem operator_stays [XidStart] (c : Char) (rest : List Char) : Stays (operator c) rest := by
  have runSolid := operatorRunLength_solid rest
  rcases exists_append runSolid.within with ⟨run, text, split, measured⟩
  subst split
  have measured := measured.symm
  by_cases hash : (String.ofList (c :: run) == "#" && headIs (· == '{') (run ++ text)) = true
  · rw [Bool.and_eq_true, beq_iff_eq] at hash
    have alone : c :: run = ['#'] := by
      have spelled := congrArg String.toList hash.1
      rw [String.toList_ofList] at spelled
      exact spelled
    cases alone
    cases text with
    | nil => cases hash.2
    | cons d text =>
        have isBrace : d = '{' := beq_iff_eq.mp hash.2
        subst isBrace
        refine ⟨['{'], text, rfl, ?_, .concat (isBlank_of_visible (by decide)) [],
          fun other further => ?_⟩
        · rw [List.nil_append, operator_hash_brace]
          rfl
        · rw [List.nil_append, operator_hash_brace]
          exact operator_hash_brace other
  · refine ⟨run, text, rfl, ?_, .of_all ?_, fun other further => ?_⟩
    · rw [operator_append measured, if_neg hash]
    · have noBlank := runSolid.noBlank
      rw [measured, List.take_left] at noBlank
      exact noBlank
    · have hashThere : (String.ofList (c :: run) == "#" &&
          headIs (· == '{') (run ++ other)) = false := by
        cases isHash : String.ofList (c :: run) == "#" with
        | false => rfl
        | true =>
            rw [isHash, Bool.true_and] at hash
            exact headIs_append_eq_false further.brace (Bool.eq_false_iff.mpr hash)
      rw [operator_append (operatorRunLength_append further measured), hashThere,
        operator_append measured, if_neg hash, if_neg Bool.false_ne_true]

theorem backquoted_append {name : List Char} (nonempty : name ≠ [])
    (each : ∀ c ∈ name, (c != '`' && c != '\n') = true) (text : List Char) :
    backquoted (name ++ '`' :: text) =
      ⟨.token (.identifier (String.ofList ('`' :: (name ++ ['`'])))), name.length + 1⟩ := by
  have measured : runLength (fun c => c != '`' && c != '\n') (name ++ '`' :: text) =
      name.length := runLength_append each rfl
  have some : (name.length != 0) = true :=
    bne_iff_ne.mpr fun none => nonempty (List.length_eq_zero_iff.mp none)
  unfold backquoted
  dsimp only
  rw [measured, List.drop_left, some, List.take_length_add_append]
  rfl

theorem backquoted_stays [XidStart] {kind : TokenKind}
    (found : (backquoted rest).lexeme = .token kind) : Stays backquoted rest := by
  rcases exists_append (runLength_le (fun c => c != '`' && c != '\n') rest) with
    ⟨name, tail, split, taken⟩
  subst split
  have measured := taken.symm
  rcases all_of_runLength_append measured with ⟨each, ends⟩
  unfold backquoted at found
  dsimp only at found
  rw [measured, List.drop_left] at found
  split at found
  · rename_i closes
    rw [Bool.and_eq_true, bne_iff_ne] at closes
    have nonempty : name ≠ [] := fun nothing => closes.1 (by rw [nothing]; rfl)
    cases tail with
    | nil => cases closes.2
    | cons c back =>
        have isMark : c = '`' := beq_iff_eq.mp closes.2
        subst isMark
        refine ⟨name ++ ['`'], back, List.append_cons _ _ _, ?_,
          .concat (isBlank_of_visible (by decide)) name, fun other further => ?_⟩
        · rw [backquoted_append nonempty each, List.length_append]
          rfl
        · rw [← List.append_cons, backquoted_append nonempty each, backquoted_append nonempty each]
  · cases found

theorem character_append {content : List Char}
    (wellFormed : CharacterLiteral.scan (content ++ '\'' :: text) = (content.length + 1, true)) :
    character (content ++ '\'' :: text) =
      ⟨.token (.character (String.ofList ('\'' :: (content ++ ['\''])))),
        content.length + 1⟩ := by
  unfold character
  rw [wellFormed]
  dsimp only
  rw [List.take_length_add_append]
  rfl

/-- Behind its first mark, a text of the shape is a literal. -/
theorem character_of_mem {literal : String} (letters : literal.toList = '\'' :: rest)
    (member : literal.toList ∈ CharacterLiteral.literals) :
    character rest = ⟨.token (.character literal), rest.length⟩ := by
  rcases CharacterLiteral.mem_literals.mp member with ⟨content, isContent, same⟩
  rw [← String.ofList_toList (s := literal), letters]
  rw [(List.cons.inj (letters.symm.trans same)).2,
    character_append (CharacterLiteral.scan_of_mem isContent []), List.length_append,
    List.length_singleton]

theorem exists_of_character {kind : TokenKind} (found : (character rest).lexeme = .token kind) :
    ∃ content ∈ CharacterLiteral.contents, ∃ back, rest = content ++ '\'' :: back := by
  apply CharacterLiteral.exists_of_wellFormed
  unfold character at found
  dsimp only at found
  split at found
  · assumption
  · cases found

theorem mem_of_character {kind : TokenKind} (found : (character rest).lexeme = .token kind) :
    ∃ text, kind = .character text ∧ text.toList ∈ CharacterLiteral.literals := by
  rcases exists_of_character found with ⟨content, isContent, back, rfl⟩
  rw [character_append (CharacterLiteral.scan_of_mem isContent back)] at found
  refine ⟨_, (Lexeme.token.inj found).symm, ?_⟩
  rw [String.toList_ofList]
  exact CharacterLiteral.mem_literals.mpr ⟨content, isContent, rfl⟩

theorem character_stays [XidStart] {kind : TokenKind}
    (found : (character rest).lexeme = .token kind) : Stays character rest := by
  rcases exists_of_character found with ⟨content, isContent, back, rfl⟩
  have again := CharacterLiteral.scan_of_mem isContent
  refine ⟨content ++ ['\''], back, List.append_cons _ _ _, ?_,
    .concat (isBlank_of_visible (by decide)) content, fun other _ => ?_⟩
  · rw [character_append (again back), List.length_append]
    rfl
  · rw [← List.append_cons, character_append (again other), character_append (again back)]

/-- The token that a well-formed numeral becomes. -/
theorem numeral_of_wellFormed [XidStart]
    (wellFormed : (Numeral.scan (c :: rest)).wellFormed = true) :
    numeral c rest =
      ⟨.token (if (Numeral.scan (c :: rest)).isFloat then
          .float (String.ofList ((c :: rest).take (Numeral.scan (c :: rest)).length))
        else .integer (String.ofList ((c :: rest).take (Numeral.scan (c :: rest)).length))),
        (Numeral.scan (c :: rest)).length - 1⟩ := by
  unfold numeral
  exact if_pos wellFormed

/-- Behind its sign, a numeral has a digit at least. -/
theorem length_scanUnsigned_pos {operandBefore : Bool}
    (starts : startsNumeral operandBefore c rest = true) :
    0 < (Numeral.scanUnsigned
      ((c :: rest).drop (if headIs (· == '-') (c :: rest) then 1 else 0))).length := by
  unfold startsNumeral at starts
  simp only [Bool.or_eq_true, Bool.and_eq_true, beq_iff_eq] at starts
  by_cases minus : c = '-'
  · have signed : headIs (· == '-') (c :: rest) = true := beq_iff_eq.mpr minus
    rw [if_pos signed, List.drop_succ_cons, List.drop_zero]
    have digits : headIs isDigit rest = true := by
      rcases starts with digit | ⟨⟨_, digits⟩, _⟩
      · rw [minus] at digit
        cases digit
      · exact digits
    cases rest with
    | nil => cases digits
    | cons d rest => exact Numeral.length_scanUnsigned_pos (Or.inl digits)
  · have unsigned : ¬ headIs (· == '-') (c :: rest) = true := fun sign =>
      minus (beq_iff_eq.mp sign)
    rw [if_neg unsigned, List.drop_zero]
    apply Numeral.length_scanUnsigned_pos
    rcases starts with digit | ⟨⟨sign, digits⟩, _⟩
    · exact Or.inl digit
    · exact Or.inr ⟨sign.resolve_left minus, digits⟩

theorem numeral_stays [XidStart] {kind : TokenKind} {operandBefore : Bool}
    (starts : startsNumeral operandBefore c rest = true)
    (found : (numeral c rest).lexeme = .token kind) : Stays (numeral c) rest := by
  have wellFormed : (Numeral.scan (c :: rest)).wellFormed = true := by
    unfold numeral at found
    dsimp only at found
    split at found
    · assumption
    · cases found
  have positive := Numeral.length_scan_pos starts
  have unsignedPositive := length_scanUnsigned_pos starts
  have numeralSolid := Numeral.scan_solid (c :: rest)
  rcases exists_append numeralSolid.within with ⟨front, text, split, taken⟩
  cases front with
  | nil =>
      rw [← taken] at positive
      cases positive
  | cons d front =>
      rw [List.cons_append] at split
      rcases List.cons.inj split with ⟨sameHead, sameRest⟩
      subst sameHead sameRest
      have measured := taken.symm
      have unsigned : (c :: front).drop (if headIs (· == '-') (c :: front) then 1 else 0) ≠ [] := by
        intro nothing
        have short := List.drop_eq_nil_iff.mp nothing
        have sign : headIs (· == '-') (c :: (front ++ text)) = headIs (· == '-') (c :: front) := rfl
        unfold Numeral.scan at measured
        dsimp only at measured
        rw [sign] at measured unsignedPositive
        omega
      refine ⟨front, text, rfl, ?_, .of_all ?_, fun other further => ?_⟩
      · rw [numeral_of_wellFormed wellFormed]
        dsimp only
        rw [measured]
        rfl
      · have noBlank := numeralSolid.noBlank
        rw [measured, ← List.cons_append, List.take_left, List.forall_mem_cons] at noBlank
        exact noBlank.2
      · have same := Numeral.scan_append further unsigned measured wellFormed
        have again : Numeral.scan (c :: (front ++ other)) = Numeral.scan (c :: (front ++ text)) :=
          same
        have front_take : ∀ text, (c :: (front ++ text)).take (c :: front).length = c :: front :=
          fun _ => List.take_left
        rw [numeral_of_wellFormed (by rw [again]; exact wellFormed), again,
          numeral_of_wellFormed wellFormed, measured, front_take, front_take]

/-! ### Strings -/

open StringText

/-- The form of the marks that open a string, given the text behind the first one. -/
def openingQuote (rest : List Char) : QuoteForm :=
  if ['"', '"'].isPrefixOf rest then .triple else .plain

/-- The marks that a string opens with, but for the first one. -/
def openingMarks (quote : QuoteForm) : List Char := quote.spelling.toList.drop 1

theorem length_openingMarks (quote : QuoteForm) :
    (openingMarks quote).length = marksLength quote - 1 := by
  cases quote <;> rfl

theorem eq_append_openingQuote (rest : List Char) :
    rest = openingMarks (openingQuote rest) ++ rest.drop (marksLength (openingQuote rest) - 1) := by
  unfold openingQuote
  split
  · rename_i triple
    rcases List.isPrefixOf_iff_prefix.mp triple with ⟨body, same⟩
    rw [← same]
    rfl
  · rfl

/-- Plain marks are seen as such unless another mark follows. -/
theorem openingQuote_of_ne {quote : QuoteForm} {body : List Char}
    (alone : quote = .plain → ['"', '"'].isPrefixOf body = false) :
    openingQuote (openingMarks quote ++ body) = quote := by
  cases quote with
  | triple => rfl
  | plain =>
      show openingQuote body = .plain
      unfold openingQuote
      rw [alone rfl]
      rfl

theorem string_of_plain [XidStart] {quote : QuoteForm} {plain : List Char}
    (opened : openingQuote (openingMarks quote ++ (plain ++ (quote.spelling.toList ++ text))) =
      quote)
    (measured : length quote (plain ++ (quote.spelling.toList ++ text)) = plain.length) :
    string (openingMarks quote ++ (plain ++ (quote.spelling.toList ++ text))) =
      ⟨.token (.string (String.ofList
          ('"' :: (openingMarks quote ++ (plain ++ quote.spelling.toList))))),
        (openingMarks quote ++ (plain ++ quote.spelling.toList)).length⟩ := by
  have closes := closesWith_append quote text
  have notCutOff := isCutOff_of_closesWith closes
  have noSplice : hasSplice quote (plain ++ (quote.spelling.toList ++ text)) = false :=
    (hasSplice_append notCutOff plain measured).trans (hasSplice_of_closesWith closes)
  have whole : openingMarks quote ++ (plain ++ (quote.spelling.toList ++ text)) =
      openingMarks quote ++ (plain ++ quote.spelling.toList) ++ text := by
    simp only [List.append_assoc]
  have lengths : marksLength quote - 1 + plain.length + marksLength quote =
      (openingMarks quote ++ (plain ++ quote.spelling.toList)).length := by
    rw [List.length_append, List.length_append, length_openingMarks, length_spelling,
      Nat.add_assoc]
  unfold openingQuote at opened
  unfold string
  dsimp only
  rw [opened, ← length_openingMarks, List.drop_left, noSplice, measured, List.drop_left,
    notCutOff, length_openingMarks, lengths, whole, List.take_left]
  rfl

/-- Plain marks that open a string stand alone. -/
theorem alone_of_openingQuote {quote : QuoteForm} {body : List Char}
    (opened : openingQuote (openingMarks quote ++ body) = quote) :
    quote = .plain → ['"', '"'].isPrefixOf body = false := by
  intro plain
  subst plain
  refine Bool.eq_false_iff.mpr fun marks => ?_
  have seen : openingQuote body = .plain := opened
  unfold openingQuote at seen
  rw [if_pos marks] at seen
  cases seen

theorem isPrefixOf_marks_cons (c : Char) (rest : List Char) :
    ['"', '"'].isPrefixOf (c :: rest) = (c == '"' && headIs (· == '"') rest) := by
  have behind : ['"'].isPrefixOf rest = headIs (· == '"') rest := by
    cases rest with
    | nil => rfl
    | cons d rest =>
        rw [List.isPrefixOf_cons_cons, List.isPrefixOf_nil_left, Bool.and_true]
        exact BEq.comm
  rw [List.isPrefixOf_cons_cons, behind, BEq.comm]

/-- Two marks at the front of a string without a splice are seen as they were, unless
another mark comes to stand behind them. -/
theorem alone_append {plain : List Char}
    (further : headIs (· == '"') other = true → headIs (· == '"') text = true)
    (alone : ['"', '"'].isPrefixOf (plain ++ '"' :: text) = false) :
    ['"', '"'].isPrefixOf (plain ++ '"' :: other) = false := by
  cases plain with
  | nil =>
      rw [List.nil_append, isPrefixOf_marks_cons] at alone ⊢
      exact @headIs_append_eq_false _ [] _ _ further alone
  | cons c plain =>
      rw [List.cons_append, isPrefixOf_marks_cons] at alone ⊢
      cases plain with
      | nil => exact alone
      | cons d plain => exact alone

variable [XidStart]

theorem string_stays {kind : TokenKind}
    (found : (string rest).lexeme = .token kind) : Stays string rest := by
  have split := eq_append_openingQuote rest
  generalize quoteIs : openingQuote rest = quote at split
  generalize bodyIs : rest.drop (marksLength quote - 1) = body at split
  have unspliced : hasSplice quote body = false ∧
      isCutOff quote (body.drop (length quote body)) = false := by
    unfold openingQuote at quoteIs
    unfold string at found
    dsimp only at found
    rw [quoteIs, bodyIs] at found
    split at found
    · cases found
    · rename_i plain
      split at found
      · cases found
      · rename_i notCutOff
        exact ⟨Bool.eq_false_iff.mpr plain, Bool.eq_false_iff.mpr notCutOff⟩
  have closes := closesWith_drop_length unspliced.1 unspliced.2
  rcases exists_append (@length_le quote _ body) with ⟨plain, tail, bodySplit, taken⟩
  subst bodySplit
  rw [← taken, List.drop_left] at closes
  have marks := eq_append_of_closesWith closes
  generalize tail.drop (marksLength quote) = text at marks
  subst marks
  subst split
  have measured := taken.symm
  have marksSolid : EndsSolid quote.spelling.toList := by
    cases quote <;> exact .of_visible (by decide)
  have someMarks : quote.spelling.toList ≠ [] := by
    cases quote <;> exact List.cons_ne_nil _ _
  refine ⟨openingMarks quote ++ (plain ++ quote.spelling.toList), text, ?_, ?_, ?_,
    fun other further => ?_⟩
  · simp only [List.append_assoc]
  · rw [string_of_plain quoteIs measured]
  · exact .append (List.append_ne_nil_of_right_ne_nil _ someMarks) (.append someMarks marksSolid)
  · have measuredThere := length_append (.of_marks quote text other)
      (stops_of_closesWith (closesWith_append quote other)) plain measured
    have openedThere : openingQuote
        (openingMarks quote ++ (plain ++ (quote.spelling.toList ++ other))) = quote := by
      apply openingQuote_of_ne
      intro isPlain
      have alone := alone_of_openingQuote quoteIs isPlain
      subst isPlain
      exact alone_append further.quote alone
    rw [string_of_plain quoteIs measured]
    simp only [List.append_assoc]
    rw [string_of_plain openedThere measuredThere]

theorem string_of_splice {quote : QuoteForm} {body : List Char}
    (opened : openingQuote (openingMarks quote ++ body) = quote)
    (spliced : hasSplice quote body = true) :
    string (openingMarks quote ++ body) =
      ⟨.stringOpening quote, (openingMarks quote).length⟩ := by
  unfold openingQuote at opened
  unfold string
  dsimp only
  rw [opened, ← length_openingMarks, List.drop_left, if_pos spliced]

/-- A string with a splice is opened again in front of every text with a splice. -/
theorem string_opening_stays {quote : QuoteForm}
    (found : (string rest).lexeme = .stringOpening quote) :
    ∃ body, rest = openingMarks quote ++ body ∧
      (string rest).more = (openingMarks quote).length ∧ hasSplice quote body = true ∧
      ∀ other, hasSplice quote other = true →
        string (openingMarks quote ++ other) = string rest := by
  have split := eq_append_openingQuote rest
  generalize quoteIs : openingQuote rest = seen at split
  generalize bodyIs : rest.drop (marksLength seen - 1) = body at split
  have spliced : seen = quote ∧ hasSplice seen body = true := by
    unfold openingQuote at quoteIs
    unfold string at found
    dsimp only at found
    rw [quoteIs, bodyIs] at found
    split at found
    · cases found
      exact ⟨rfl, ‹_›⟩
    · split at found <;> cases found
  rcases spliced with ⟨same, spliced⟩
  subst same
  rw [split] at quoteIs
  refine ⟨body, split, ?_, spliced, fun other splicedThere => ?_⟩
  · rw [split, string_of_splice quoteIs spliced]
  · have openedThere : openingQuote (openingMarks seen ++ other) = seen := by
      apply openingQuote_of_ne
      intro plain
      subst plain
      refine Bool.eq_false_iff.mpr fun marks => ?_
      cases other with
      | nil => cases splicedThere
      | cons c other =>
          rw [isPrefixOf_marks_cons, Bool.and_eq_true] at marks
          have closes : closesWith .plain (c :: other) = true := marks.1
          rw [hasSplice_of_closesWith closes] at splicedThere
          cases splicedThere
    rw [string_of_splice openedThere splicedThere, split, string_of_splice quoteIs spliced]

/-! ## Which scanner it is -/

/-- What begins with a character that begins no trivia, given whether a numeral begins
there. -/
def scanSolid (numeric : Bool) (c : Char) (rest : List Char) : Found :=
  if c == '"' then string rest
  else if c == '\'' then character rest
  else if c == '`' then backquoted rest
  else if numeric then numeral c rest
  else
    match single? c with
    | some mark => ⟨.token (.punctuation mark), 0⟩
    | none =>
      if isIdentStart c then word c rest
      else if isOperatorSymbol c then operator c rest
      else ⟨.faulty (.illegalCharacter c), 0⟩

variable {operandBefore : Bool} {kind : TokenKind}

theorem scan_eq_scanSolid (solid : isBlank c = false)
    (noComment : startsComment (c :: rest) = false) :
    scan operandBefore c rest = scanSolid (startsNumeral operandBefore c rest) c rest := by
  have noBreak : (c == '\n') = false := by
    refine beq_eq_false_iff_ne.mpr fun lineBreak => ?_
    rw [lineBreak, isBlank_newline] at solid
    cases solid
  rw [startsComment_cons] at noComment
  have noSlash : ∀ mark, (mark == '/' || mark == '*') = true →
      (c == '/' && headIs (· == mark) rest) = false := by
    intro mark isMark
    refine Bool.eq_false_iff.mpr fun comment => Bool.eq_false_iff.mp noComment ?_
    rw [Bool.and_eq_true] at comment ⊢
    refine ⟨comment.1, ?_⟩
    cases rest with
    | nil => cases comment.2
    | cons d rest =>
        have same : d = mark := beq_iff_eq.mp comment.2
        rw [same]
        exact isMark
  unfold scan scanSolid
  rw [noBreak, solid, noSlash '/' rfl, noSlash '*' rfl]
  rfl

/-- Trivia is no token. -/
theorem solid_of_scan (found : (scan operandBefore c rest).lexeme.kind? = some kind) :
    isBlank c = false ∧ startsComment (c :: rest) = false := by
  unfold scan at found
  split at found
  · cases found
  · split at found
    · cases found
    · rename_i solid
      refine ⟨Bool.eq_false_iff.mpr solid, ?_⟩
      split at found
      · cases found
      · rename_i noLine
        split at found
        · unfold blockComment at found
          split at found <;> cases found
        · rename_i noBlock
          rw [startsComment_cons]
          cases rest with
          | nil => exact Bool.and_false _
          | cons d rest =>
              simp only [headIs, List.head?_cons, Option.any_some] at noLine noBlock ⊢
              rw [Bool.and_or_distrib_left, Bool.eq_false_iff.mpr noLine,
                Bool.eq_false_iff.mpr noBlock]
              rfl

theorem scanSolid_stays {numeric : Bool}
    (starts : numeric = true → startsNumeral operandBefore c rest = true)
    (found : (scanSolid numeric c rest).lexeme = .token kind) :
    Stays (scanSolid numeric c) rest := by
  unfold scanSolid at found ⊢
  split at found
  · simp only [if_true, ‹(c == '"') = true›]
    exact string_stays found
  · rename_i noString
    simp only [noString, Bool.false_eq_true, if_false]
    split at found
    · simp only [if_true, ‹(c == '\'') = true›]
      exact character_stays found
    · rename_i noCharacter
      simp only [noCharacter, Bool.false_eq_true, if_false]
      split at found
      · simp only [if_true, ‹(c == '`') = true›]
        exact backquoted_stays found
      · rename_i noName
        simp only [noName, Bool.false_eq_true, if_false]
        split at found
        · rename_i isNumeral
          simp only [isNumeral, if_true]
          exact numeral_stays (starts isNumeral) found
        · rename_i noNumeral
          simp only [noNumeral, Bool.false_eq_true, if_false]
          split at found
          · exact ⟨[], rest, rfl, rfl, nofun, fun _ _ => rfl⟩
          · split at found
            · simp only [if_true, ‹isIdentStart c = true›]
              exact word_stays c rest
            · rename_i noWord
              simp only [noWord, Bool.false_eq_true, if_false]
              split at found
              · simp only [if_true, ‹isOperatorSymbol c = true›]
                exact operator_stays c rest
              · cases found

/-- A numeral that begins with its sign or its point has a digit behind it. -/
theorem more_numeral_pos (starts : startsNumeral operandBefore c rest = true)
    (noDigit : isDigit c = false) : 0 < (numeral c rest).more := by
  have long : 2 ≤ (Numeral.scan (c :: rest)).length := by
    have unsigned := length_scanUnsigned_pos starts
    unfold startsNumeral at starts
    simp only [noDigit, Bool.false_or, Bool.and_eq_true, Bool.or_eq_true, beq_iff_eq] at starts
    rcases starts with ⟨⟨minus | point, digits⟩, _⟩
    · have signed : headIs (· == '-') (c :: rest) = true := beq_iff_eq.mpr minus
      rw [if_pos signed] at unsigned
      unfold Numeral.scan
      dsimp only
      rw [if_pos signed]
      omega
    · subst point
      have fraction : Numeral.fractionLength ('.' :: rest) =
          Numeral.digitsLength isDigit rest + 1 := by
        rw [Numeral.fractionLength_cons, digits]
        rfl
      have positive : 0 < Numeral.digitsLength isDigit rest := by
        cases rest with
        | nil => cases digits
        | cons d rest => exact Numeral.digitsLength_pos digits
      have whole : Numeral.scanUnsigned ('.' :: rest) = Numeral.scanPoint ('.' :: rest) := rfl
      have unsignedPoint : ¬ headIs (· == '-') ('.' :: rest) = true := Bool.false_ne_true
      unfold Numeral.scan
      dsimp only
      rw [if_neg unsignedPoint, List.drop_zero, whole]
      unfold Numeral.scanPoint
      dsimp only
      omega
  unfold numeral
  dsimp only
  split <;> exact Nat.sub_pos_of_lt long

theorem scanSolid_of_startsNumeral (starts : startsNumeral operandBefore c rest = true)
    (noDigit : isDigit c = false) : scanSolid true c rest = numeral c rest := by
  unfold startsNumeral at starts
  simp only [noDigit, Bool.false_or, Bool.and_eq_true, Bool.or_eq_true, beq_iff_eq] at starts
  rcases starts with ⟨⟨minus | point, _⟩, _⟩
  · rw [minus]
    rfl
  · rw [point]
    rfl

theorem startsNumeral_append (further : NoFurther text other)
    (reach : startsNumeral operandBefore c (front ++ text) = true → front = [] →
      isDigit c = true) :
    startsNumeral operandBefore c (front ++ other) =
      startsNumeral operandBefore c (front ++ text) := by
  cases front with
  | cons d front => rfl
  | nil =>
      rw [List.nil_append] at reach ⊢
      rw [List.nil_append]
      cases digit : isDigit c with
      | true =>
          unfold startsNumeral
          rw [digit, Bool.true_or, Bool.true_or]
      | false =>
          have noNumeral : startsNumeral operandBefore c text = false := by
            refine Bool.eq_false_iff.mpr fun starts => ?_
            rw [reach starts rfl] at digit
            cases digit
          rw [noNumeral]
          unfold startsNumeral at noNumeral ⊢
          rw [digit, Bool.false_or] at noNumeral ⊢
          cases digits : headIs isDigit other with
          | false => rw [Bool.and_false, Bool.false_and]
          | true =>
              rw [further.digit digits] at noNumeral
              exact noNumeral

/-- A token is found again in front of every text that has nothing to add to it. -/
theorem scan_stays (found : (scan operandBefore c rest).lexeme = .token kind) :
    Stays (scan operandBefore c) rest := by
  rcases solid_of_scan (congrArg Lexeme.kind? found) with ⟨solid, noComment⟩
  rw [scan_eq_scanSolid solid noComment] at found
  rcases scanSolid_stays id found with ⟨front, text, split, reach, ends, again⟩
  subst split
  refine ⟨front, text, rfl, ?_, ends, fun other further => ?_⟩
  · rw [scan_eq_scanSolid solid noComment, reach]
  · have noCommentThere : startsComment (c :: (front ++ other)) = false := by
      rw [startsComment_cons] at noComment ⊢
      cases slash : c == '/' with
      | false => rfl
      | true =>
          rw [slash, Bool.true_and] at noComment
          exact headIs_append_eq_false further.comment noComment
    have numerals : startsNumeral operandBefore c (front ++ other) =
        startsNumeral operandBefore c (front ++ text) := by
      refine startsNumeral_append further fun starts nothing => ?_
      cases noDigit : isDigit c with
      | true => rfl
      | false =>
          have positive := more_numeral_pos starts noDigit
          rw [starts, scanSolid_of_startsNumeral starts noDigit, nothing] at reach
          rw [nothing, reach] at positive
          cases positive
    rw [scan_eq_scanSolid solid noComment, scan_eq_scanSolid solid noCommentThere, numerals,
      again other further]

/-! ## The second spelling of a keyword -/

theorem scan_word (notNumeral : isDigit c = false ∧ c ≠ '-' ∧ c ≠ '.')
    (noMark : c ≠ '"' ∧ c ≠ '\'' ∧ c ≠ '`') (noSlash : c ≠ '/') (noSingle : single? c = none)
    (letter : isIdentStart c = true) (rest : List Char) :
    scan operandBefore c rest = word c rest := by
  have solid : isBlank c = false :=
    isBlank_of_isIdentContinue (isIdentContinue_of_isIdentStart letter)
  have noComment : startsComment (c :: rest) = false := by
    rw [startsComment_cons, beq_eq_false_iff_ne.mpr noSlash, Bool.false_and]
  have noNumeral : startsNumeral operandBefore c rest = false := by
    unfold startsNumeral
    rw [notNumeral.1, beq_eq_false_iff_ne.mpr notNumeral.2.1,
      beq_eq_false_iff_ne.mpr notNumeral.2.2]
    rfl
  rw [scan_eq_scanSolid solid noComment, noNumeral]
  unfold scanSolid
  rw [beq_eq_false_iff_ne.mpr noMark.1, beq_eq_false_iff_ne.mpr noMark.2.1,
    beq_eq_false_iff_ne.mpr noMark.2.2, noSingle, letter]
  rfl

theorem scan_mod (ends : headIs isIdentContinue other = false) :
    scan operandBefore 'm' ('o' :: 'd' :: other) = ⟨.token (.keyword .modKw), 2⟩ := by
  have letters : ∀ c ∈ ['o', 'd'], isIdentContinue c = true :=
    fun _ => Numeral.isIdentContinue_of_mem ['o', 'd'] (by decide)
  have keyword : wordKind (String.ofList ['m', 'o', 'd']) = .keyword .modKw := by decide +kernel
  have noSuffix : suffixLength 'm' ['o', 'd'] other = 0 := rfl
  have measured : runLength isIdentContinue (['o', 'd'] ++ other) = ['o', 'd'].length :=
    runLength_append letters ends
  have read : word 'm' (['o', 'd'] ++ other) = _ := word_append measured
  rw [noSuffix, List.take_zero, List.append_nil, keyword] at read
  rw [scan_word (by decide) (by decide) (by decide) rfl (isIdentStart_of_isLetter (by decide))]
  exact read

/-- A word ends where no name goes on. -/
theorem headIs_of_scan_namespace {more : Nat}
    (found : scan operandBefore 'n' (['a', 'm', 'e', 's', 'p', 'a', 'c', 'e'] ++ text) =
      ⟨.token kind, more⟩) (reach : more = 8) : headIs isIdentContinue text = false := by
  have letters : ∀ c ∈ ['a', 'm', 'e', 's', 'p', 'a', 'c', 'e'], isIdentContinue c = true :=
    fun _ => Numeral.isIdentContinue_of_mem ['a', 'm', 'e', 's', 'p', 'a', 'c', 'e'] (by decide)
  rw [scan_word (by decide) (by decide) (by decide) rfl
    (isIdentStart_of_isLetter (by decide))] at found
  have taken := congrArg Found.more found
  unfold word at taken
  dsimp only at taken
  rw [runLength_append_add letters] at taken
  apply headIs_of_runLength_eq_zero
  have eight : ['a', 'm', 'e', 's', 'p', 'a', 'c', 'e'].length = 8 := rfl
  omega

/-- A token is found again when its kind is spelled out in front of a text that has
nothing to add to it. -/
theorem scan_text {more : Nat} (found : scan operandBefore c rest = ⟨.token kind, more⟩)
    (further : NoFurther (rest.drop more) other) :
    ∃ d front, kind.text.toList = d :: front ∧
      scan operandBefore d (front ++ other) = ⟨.token kind, front.length⟩ := by
  rcases scan_stays (congrArg Found.lexeme found) with ⟨front, text, split, reach, ends, again⟩
  subst split
  rw [found] at reach again
  have fits := fits_scan operandBefore c (front ++ text)
  unfold Found.Fits at fits
  dsimp only at reach
  rw [found] at fits
  dsimp only at fits
  subst reach
  rw [List.drop_left] at further
  rw [List.take_left] at fits
  cases fits with
  | token lexical spells =>
      rcases spells with shown | ⟨isMod, second⟩
      · exact ⟨c, front, by rw [shown, String.toList_ofList], again other further⟩
      · cases second
        have ends := headIs_of_scan_namespace found rfl
        have endsThere : headIs isIdentContinue other = false := Bool.eq_false_iff.mpr fun goesOn =>
          Bool.eq_false_iff.mp ends (further.word goesOn)
        rw [isMod]
        exact ⟨'m', ['o', 'd'], rfl, scan_mod endsThere⟩

/-- A token shows the text that it was read from, or else the other spelling of it. -/
theorem text_of_scan (found : (scan operandBefore c rest).lexeme.kind? = some kind) :
    kind.text.toList = c :: rest.take (scan operandBefore c rest).more ∨
      kind = .keyword .modKw ∧
        c :: rest.take (scan operandBefore c rest).more = "namespace".toList := by
  rcases (fits_scan operandBefore c rest).spells found with shown | second
  · exact Or.inl (by rw [shown, String.toList_ofList])
  · exact Or.inr second

/-- No token ends in a blank. -/
theorem endsSolid_of_scan (found : (scan operandBefore c rest).lexeme = .token kind) :
    EndsSolid kind.text.toList := by
  have becomes : (scan operandBefore c rest).lexeme.kind? = some kind := by
    rw [found]
    rfl
  have solid := (solid_of_scan becomes).1
  rcases scan_stays found with ⟨front, text, split, reach, ends, again⟩
  rcases text_of_scan becomes with shown | ⟨isMod, second⟩
  · rw [shown, reach, split, List.take_left]
    exact ends.cons solid
  · rw [isMod]
    exact .of_visible (by decide)

/-- A closing bracket is read wherever it stands. -/
theorem scan_closer (closer : ClosingBracket) (rest : List Char) :
    scan operandBefore closer.char rest = ⟨.token (.punctuation closer.mark), 0⟩ := by
  have solid : isBlank closer.char = false := by
    cases closer <;> exact isBlank_of_visible (by decide)
  have noComment : startsComment (closer.char :: rest) = false := by
    rw [startsComment_cons]
    cases closer <;> rfl
  have noNumeral : startsNumeral operandBefore closer.char rest = false := by
    cases closer <;> rfl
  rw [scan_eq_scanSolid solid noComment, noNumeral]
  cases closer <;> rfl

/-- The splice mark is no token of its own. -/
theorem ne_dollar_of_scan (found : (scan operandBefore c rest).lexeme.kind? = some kind) :
    kind ≠ .punctuation .dollar := by
  intro dollar
  subst dollar
  rcases text_of_scan found with shown | ⟨isMod, _⟩
  · have spelled : (TokenKind.punctuation .dollar).text.toList = ['$'] := rfl
    rw [spelled] at shown
    rcases List.cons.inj shown with ⟨mark, none⟩
    subst mark
    rw [scan_word (by decide) (by decide) (by decide) rfl rfl] at found none
    unfold word at found none
    dsimp only at found none
    rw [← none] at found
    have name : wordKind (String.ofList ['$']) = .identifier "$" := by decide +kernel
    rw [name] at found
    cases found
  · cases isMod

/-! ## Strings with splices -/

theorem scan_quote (rest : List Char) : scan operandBefore '"' rest = string rest := by
  have noComment : startsComment ('"' :: rest) = false := by
    rw [startsComment_cons]
    rfl
  rw [scan_eq_scanSolid (isBlank_of_visible (by decide)) noComment]
  rfl

theorem quote_of_opening {quote : QuoteForm}
    (found : (scan operandBefore c rest).lexeme = .stringOpening quote) : c = '"' := by
  have becomes : (scan operandBefore c rest).lexeme.kind? = some (.stringStart quote) := by
    rw [found]
    rfl
  rcases text_of_scan becomes with shown | ⟨isMod, _⟩
  · have spelled : ∃ marks, (TokenKind.stringStart quote).text.toList = '"' :: marks := by
      cases quote <;> exact ⟨_, rfl⟩
    rcases spelled with ⟨marks, spelled⟩
    rw [spelled] at shown
    exact (List.cons.inj shown).1.symm
  · cases isMod

/-- A string with a splice opens again in front of every text with a splice. -/
theorem scan_opening {quote : QuoteForm}
    (found : (scan operandBefore c rest).lexeme = .stringOpening quote) :
    hasSplice quote (rest.drop (scan operandBefore c rest).more) = true ∧
      ∀ other, hasSplice quote other = true →
        ∃ front, (TokenKind.stringStart quote).text.toList = '"' :: front ∧
          scan operandBefore '"' (front ++ other) = ⟨.stringOpening quote, front.length⟩ := by
  have isQuote := quote_of_opening found
  subst isQuote
  rw [scan_quote] at found ⊢
  rcases string_opening_stays found with ⟨body, split, reach, spliced, again⟩
  refine ⟨?_, fun other splicedThere => ⟨openingMarks quote, ?_, ?_⟩⟩
  · rw [reach, split, List.drop_left]
    exact spliced
  · cases quote <;> rfl
  · rw [scan_quote, again other splicedThere, ← found, ← reach]

end Lexeme
end Offside
