import Offside.Proofs.Lexing.Origins
import Offside.Proofs.Lexing.Splices
import Offside.Text.XidStart

namespace Offside

/-!
# Tokens on their own

A source that is nothing but a few tokens, one directly behind the other, has these tokens
and no others, as long as none of them is a bracket: there is no line to begin but the
first one, and nothing is open.  Whether a scanner finds a token is then all there is to
know about the source.
-/

/-- A source has tokens of these kinds up to its end, and nothing is reported. -/
structure Lexed.Comprises (lexed : Lexed) (kinds : List TokenKind) : Prop where
  found : lexed.tokens.map Token.kind = kinds ++ [.endOfFile]
  silent : lexed.diagnostics = []

namespace Lexeme

open CharClass

variable {operandBefore : Bool} {c : Char} {rest : List Char} {kind : TokenKind}

theorem scan_minus [XidStart] (noNumeral : startsNumeral operandBefore '-' rest = false)
    (noRun : operatorRunLength rest = 0) :
    scan operandBefore '-' rest = ⟨.token (.operator "-"), 0⟩ := by
  have noLetter : isIdentStart '-' = false := isIdentStart_of_ascii (by decide)
  have symbol : isOperatorSymbol '-' = true := by decide +kernel
  have single : operatorKind ['-'] = .operator "-" := by decide +kernel
  have read : scanSolid false '-' rest = operator '-' ([] ++ rest) := by
    unfold scanSolid
    rw [noLetter, symbol]
    rfl
  have noComment : startsComment ('-' :: rest) = false := rfl
  rw [scan_eq_scanSolid (isBlank_of_visible (by decide)) noComment, noNumeral, read,
    @operator_append '-' rest [] noRun, single]
  rfl

/-- Where a numeral may begin only because no operand is in front of it, what is found behind
an operand does not take the digits. -/
theorem length_scan_behind [XidStart] (noDigit : isDigit c = false)
    (starts : startsNumeral false c rest = true) :
    (scan true c rest).more < rest.length := by
  unfold startsNumeral at starts
  simp only [noDigit, Bool.false_or, Bool.and_eq_true, Bool.or_eq_true, beq_iff_eq] at starts
  cases rest with
  | nil => cases starts.1.2
  | cons d rest =>
      have digit : isDigit d = true := starts.1.2
      have noRun : operatorRunLength (d :: rest) = 0 := by
        have apart : Shape.Apart (Shape.one isDigit) isOperatorSymbol :=
          Numeral.apart_digit (by decide +kernel)
        have noSymbol : isOperatorSymbol d = false :=
          apart [d] (Shape.singleton_mem_one.mpr digit)
        rw [operatorRunLength_cons, noSymbol]
        rfl
      have noNumeral : startsNumeral true c (d :: rest) = false := by
        unfold startsNumeral
        rw [noDigit, Bool.not_true, Bool.and_false]
        rfl
      rcases starts.1.1 with rfl | rfl
      · rw [scan_minus noNumeral noRun]
        exact Nat.succ_pos _
      · have noComment : startsComment ('.' :: d :: rest) = false := rfl
        rw [scan_eq_scanSolid (isBlank_of_visible (by decide)) noComment, noNumeral]
        exact Nat.succ_pos _

/-- A token that takes the whole text is found at the start of a source as well. -/
theorem scan_alone [XidStart] (found : scan operandBefore c rest = ⟨.token kind, rest.length⟩) :
    scan false c rest = ⟨.token kind, rest.length⟩ := by
  cases operandBefore with
  | false => exact found
  | true =>
      have same : startsNumeral true c rest = startsNumeral false c rest := by
        cases digit : isDigit c with
        | true =>
            unfold startsNumeral
            rw [digit, Bool.true_or, Bool.true_or]
        | false =>
            have noNumeral : startsNumeral false c rest = false := by
              refine Bool.eq_false_iff.mpr fun starts => ?_
              have shorter := length_scan_behind digit starts
              rw [found] at shorter
              exact Nat.lt_irrefl _ shorter
            rw [noNumeral]
            unfold startsNumeral
            rw [digit, Bool.not_true, Bool.and_false]
            rfl
      unfold scan at found ⊢
      rw [same] at found
      exact found

end Lexeme

namespace Reader

/-- A reader has found tokens of these kinds and nothing else in front of some text. -/
structure Bare (reader : Reader) (kinds : List TokenKind) (text : List Char) : Prop where
  found : reader.kinds = kinds
  unread : reader.rest = text
  frames : reader.frames = []
  silent : reader.diagnostics = #[]
  /-- Only the first token begins a line. -/
  line : reader.atLineStart = false ∨ reader.column = 0 ∧ kinds = []

variable {reader : Reader} {kinds : List TokenKind} {kind : TokenKind} {c : Char}
  {rest : List Char} {more : Nat}

theorem start_bare (tabWidth : Nat) (source : List Char) :
    (start tabWidth source).Bare [] source :=
  ⟨rfl, rfl, rfl, rfl, .inr ⟨rfl, rfl⟩⟩

/-- Where nothing is open, nothing is inserted in front of a token. -/
theorem Bare.applyLayout {text : List Char} (bare : reader.Bare kinds text) (kind : TokenKind)
    (next : Option Char) :
    ∃ indentation, reader.Becomes [] [] indentation (reader.applyLayout kind next) := by
  have stays : reader.atLineStart = false →
      ∃ indentation, reader.Becomes [] [] indentation (reader.applyLayout kind next) := by
    intro inLine
    have became := applyLayout_inLine inLine kind next
    rw [bare.frames] at became
    exact ⟨_, became⟩
  cases begins : reader.atLineStart with
  | false => exact stays begins
  | true =>
      rcases bare.line with inLine | ⟨column, nothing⟩
      · exact stays inLine
      · have leaves : Leaves reader.frames reader.column [] [] :=
          ⟨bare.frames, List.forall_mem_nil _, rfl⟩
        have active : Frame.layoutActive reader.frames = true := by
          rw [bare.frames]
          rfl
        have level : ∀ level, Frame.level? [] = some level → reader.column = level := by
          intro level outermost
          rw [column]
          exact Option.some.inj outermost
        have settled := @applyLayout_settles reader kind next [] [] begins active leaves level
          (fun _ => nofun)
        rw [bare.found, nothing] at settled
        exact ⟨_, settled⟩

variable [XidStart]

theorem Bare.step (bare : reader.Bare kinds (c :: rest))
    (found : Lexeme.scan (kinds.getLast?.any TokenKind.endsOperand) c rest = ⟨.token kind, more⟩)
    (noBracket : kind.isOpener = false ∧ kind.isCloser = false) :
    reader.step.Bare (kinds ++ [kind]) (rest.drop more) := by
  have lexeme : reader.lexeme c rest = ⟨.token kind, more⟩ := by
    unfold Reader.lexeme
    rw [lastKind?_eq, bare.found, found]
  have code : Frame.inString reader.frames = false := by
    rw [bare.frames]
    rfl
  have lexical : kind.isLexical = true := by
    have fits := Lexeme.fits_scan (kinds.getLast?.any TokenKind.endsOperand) c rest
    unfold Lexeme.Found.Fits at fits
    rw [found] at fits
    cases fits with
    | token lexical spells => exact lexical
  have noGroup : Bracket.ofKind? kind = none :=
    Option.not_isSome_iff_eq_none.mp (Bool.eq_false_iff.mp noBracket.1)
  rw [step_eq_emit code bare.unread (congrArg (Lexeme.kind? ∘ Lexeme.Found.lexeme) lexeme) rfl rfl,
    openString_of_isLexical _ lexical, lexeme]
  dsimp only
  rcases bare.applyLayout kind (rest.drop more).head? with ⟨indentation, became⟩
  have emitted := (emit_becomes noBracket.2 became (reader.spanOf (c :: rest.take more))).advance
    (c :: rest.take more) (rest.drop more)
  refine ⟨?_, rfl, ?_, ?_, .inl emitted.atLineStart⟩
  · rw [emitted.kinds, bare.found]
    rfl
  · rw [emitted.frames, noGroup]
    rfl
  · rw [emitted.diagnostics, bare.silent]

/-- At the end of the source nothing is left to close. -/
theorem Bare.finish (bare : reader.Bare kinds []) : reader.run.finish.Comprises kinds := by
  have mayEnd : ∀ frame ∈ reader.frames, frame.mayEnd = true := by
    rw [bare.frames]
    exact List.forall_mem_nil _
  rcases finish_of_mayEnd mayEnd with ⟨found, told⟩
  rw [run_of_read bare.unread]
  refine ⟨?_, ?_⟩
  · rw [found, bare.found, bare.frames]
    rfl
  · rw [told, bare.silent]

/-- The run goes on behind a token that a scanner finds. -/
theorem Bare.run (bare : reader.Bare kinds (c :: rest))
    (found : Lexeme.scan (kinds.getLast?.any TokenKind.endsOperand) c rest = ⟨.token kind, more⟩)
    (noBracket : kind.isOpener = false ∧ kind.isCloser = false) :
    ∃ after : Reader, after.Bare (kinds ++ [kind]) (rest.drop more) ∧ reader.run = after.run := by
  refine ⟨reader.step, bare.step found noBracket, run_of_unread ?_⟩
  rw [bare.unread]
  exact List.cons_ne_nil _ _

/-- The last token of a source. -/
theorem Bare.comprises (bare : reader.Bare kinds (c :: rest))
    (found : Lexeme.scan (kinds.getLast?.any TokenKind.endsOperand) c rest =
      ⟨.token kind, rest.length⟩)
    (noBracket : kind.isOpener = false ∧ kind.isCloser = false) :
    reader.run.finish.Comprises (kinds ++ [kind]) := by
  rcases bare.run found noBracket with ⟨after, ended, same⟩
  rw [List.drop_length] at ended
  rw [same]
  exact ended.finish

end Reader

section

variable {c d : Char} {rest back : List Char} {kind other : TokenKind} {more : Nat}

theorem lex_alone [XidStart] {source : String} (letters : source.toList = c :: rest)
    (found : Lexeme.scan false c rest = ⟨.token kind, rest.length⟩)
    (noBracket : kind.isOpener = false ∧ kind.isCloser = false) (tabWidth : Nat) :
    (lex source tabWidth).Comprises [kind] := by
  unfold lex
  rw [letters]
  exact (Reader.start_bare tabWidth (c :: rest)).comprises found noBracket

theorem lex_pair [XidStart] {source : String} (letters : source.toList = c :: rest)
    (found : Lexeme.scan false c rest = ⟨.token kind, more⟩)
    (noBracket : kind.isOpener = false ∧ kind.isCloser = false)
    (behind : rest.drop more = d :: back)
    (foundThere : Lexeme.scan kind.endsOperand d back = ⟨.token other, back.length⟩)
    (noBracketThere : other.isOpener = false ∧ other.isCloser = false) (tabWidth : Nat) :
    (lex source tabWidth).Comprises [kind, other] := by
  unfold lex
  rw [letters]
  rcases (Reader.start_bare tabWidth (c :: rest)).run found noBracket with ⟨middle, bare, same⟩
  rw [behind] at bare
  rw [same]
  exact bare.comprises foundThere noBracketThere

/-- A token of a source is what its text is on its own.  The name of a splice is none of the
scanner's tokens, and brackets have to be closed. -/
theorem lex_text_alone [XidStart] {source : String} {tabWidth : Nat} {front back : List Token}
    {token : Token} (parts : (lex source tabWidth).tokens = front ++ token :: back)
    (lexical : token.kind.isLexical = true)
    (noBracket : token.kind.isOpener = false ∧ token.kind.isCloser = false)
    (noDollar : token.kind ≠ .punctuation .dollar)
    (noName : ¬ NamesSplice (front.map Token.kind) token.kind) (ownWidth : Nat) :
    (lex token.kind.text ownWidth).Comprises [token.kind] := by
  have split := congrArg (List.map Token.kind) parts
  rw [List.map_append, List.map_cons] at split
  rcases lex_traced source tabWidth _ _ _ split lexical with
    ⟨operandBefore, c, rest, found⟩ | dollar | names
  · have whole : Lexeme.scan operandBefore c rest =
        ⟨.token token.kind, (Lexeme.scan operandBefore c rest).more⟩ := by
      rw [← found]
    rcases Lexeme.scan_text whole (.nil _) with ⟨d, inner, spelled, again⟩
    rw [List.append_nil] at again
    exact lex_alone spelled (Lexeme.scan_alone again) noBracket ownWidth
  · exact absurd dollar noDollar
  · exact absurd names noName

/-- A minus sign that stands behind an operand is the same operator on its own. -/
theorem lex_text_alone_minus :
    (lex "x -1" 4).tokens = [⟨.identifier "x", ⟨0, 1⟩, []⟩] ++
        ⟨.operator "-", ⟨2, 3⟩, [⟨.whitespace, ⟨1, 2⟩⟩]⟩ ::
          [⟨.integer "1", ⟨3, 4⟩, []⟩, ⟨.endOfFile, ⟨4, 4⟩, []⟩] ∧
      (lex "-" 2).Comprises [.operator "-"] := by
  have parts : (lex "x -1" 4).tokens = [⟨.identifier "x", ⟨0, 1⟩, []⟩] ++
      ⟨.operator "-", ⟨2, 3⟩, [⟨.whitespace, ⟨1, 2⟩⟩]⟩ ::
        [⟨.integer "1", ⟨3, 4⟩, []⟩, ⟨.endOfFile, ⟨4, 4⟩, []⟩] := by decide +kernel
  have noName : ¬ NamesSplice [.identifier "x"] (.operator "-") := by
    rintro ⟨⟨name, named⟩, -⟩
    cases named
  exact ⟨parts, lex_text_alone parts rfl ⟨rfl, rfl⟩ nofun noName 2⟩

end

/-!
## Literals on their own

A source is a numeral or a character literal, and nothing else, exactly if it has the shape
of one.  One kind of numeral is not what it might seem: a minus sign in front of a point is
an operator, even if digits stand behind the point, for a sign belongs to a numeral only
directly in front of a digit.
-/

open CharClass

namespace Lexeme

variable {operandBefore isFloat : Bool} {c : Char} {rest : List Char}

/-- Only a few characters can begin a numeral. -/
theorem mem_of_startsNumeral (starts : startsNumeral operandBefore c rest = true) :
    c ∈ '-' :: '.' :: Numeral.decimals := by
  unfold startsNumeral at starts
  simp only [Bool.or_eq_true, Bool.and_eq_true, beq_iff_eq] at starts
  rcases starts with digit | ⟨⟨rfl | rfl, -⟩, -⟩
  · exact List.mem_cons_of_mem _ (List.mem_cons_of_mem _ (Numeral.mem_of_isDigit digit))
  · exact List.mem_cons_self
  · exact List.mem_cons_of_mem _ List.mem_cons_self

theorem scan_of_startsNumeral [XidStart] (starts : startsNumeral operandBefore c rest = true) :
    scan operandBefore c rest = numeral c rest := by
  have member := mem_of_startsNumeral starts
  have marks : ('-' :: '.' :: Numeral.decimals).any
      (fun c => c == '/' || c == '"' || c == '\'' || c == '`') = false := by decide
  have noMarks := Bool.eq_false_iff.mpr (List.any_eq_false.mp marks c member)
  simp only [Bool.or_eq_false_iff] at noMarks
  rcases noMarks with ⟨⟨⟨noSlash, noQuote⟩, noMark⟩, noBackquote⟩
  have eachVisible : ('-' :: '.' :: Numeral.decimals).all isVisible = true := by decide
  have visible := List.all_eq_true.mp eachVisible c member
  have noComment : startsComment (c :: rest) = false := by
    rw [startsComment_cons, noSlash, Bool.false_and]
  rw [scan_eq_scanSolid (isBlank_of_visible visible) noComment, starts]
  unfold scanSolid
  rw [noQuote, noMark, noBackquote]
  rfl

theorem startsNumeral_of_mem (member : c :: rest ∈ Numeral.shape isFloat) :
    startsNumeral false c rest = true := by
  unfold startsNumeral
  rcases Numeral.mem_shape.mp member with signed | ⟨-, pointed⟩
  · rcases Language.mem_mul.mp signed with ⟨mark, isMark, number, inWholes, same⟩
    have digits := Numeral.headIs_of_mem_wholes inWholes
    rcases Shape.mem_optional.mp isMark with rfl | isMark
    · rw [List.nil_append] at same
      rw [same] at digits
      have digit : isDigit c = true := digits
      rw [digit, Bool.true_or]
    · rw [Shape.mem_word.mp isMark] at same
      rcases List.cons.inj same with ⟨rfl, rfl⟩
      show (headIs isDigit number && true) = true
      rw [digits]
      rfl
  · rcases Language.mem_mul.mp pointed with ⟨_, inFraction, back, -, same⟩
    rcases Language.mem_mul.mp inFraction with ⟨_, rfl, number, inDigits, rfl⟩
    rcases List.cons.inj same with ⟨rfl, rfl⟩
    rcases Numeral.exists_of_mem_digits inDigits with ⟨d, others, rfl, digit⟩
    show (isDigit d && true) = true
    rw [digit]
    rfl

/-- A text of the shape is found as a numeral. -/
theorem scan_of_mem_shape [XidStart] {text : String} (letters : text.toList = c :: rest)
    (member : text.toList ∈ Numeral.shape isFloat) :
    scan false c rest =
      ⟨.token (if isFloat then .float text else .integer text), rest.length⟩ := by
  rw [letters] at member
  have found := Numeral.scan_of_mem member
  have spelled : String.ofList (c :: rest) = text := by rw [← letters, String.ofList_toList]
  rw [scan_of_startsNumeral (startsNumeral_of_mem member),
    numeral_of_wellFormed (congrArg Numeral.Found.wellFormed found), found]
  dsimp only
  rw [List.take_length, spelled]
  rfl

end Lexeme

variable {source : String} {tabWidth : Nat}

/-- What a source comprises is formed, for the first token of a source is no name of a
splice. -/
theorem Lexed.Comprises.formed [XidStart] {kind : TokenKind} {kinds : List TokenKind}
    (comprises : (lex source tabWidth).Comprises (kind :: kinds)) : kind.Formed := by
  cases tokens : (lex source tabWidth).tokens with
  | nil =>
      have found := comprises.found
      rw [tokens] at found
      cases found
  | cons token others =>
      have found := comprises.found
      rw [tokens] at found
      have same : token.kind = kind := (List.cons.inj found).1
      rw [← same]
      rcases @lex_formed _ source tabWidth [] others token tokens with formed | names
      · exact formed
      · cases names.behind

theorem lex_of_mem_shape [XidStart] {isFloat : Bool}
    (member : source.toList ∈ Numeral.shape isFloat) :
    (lex source tabWidth).Comprises [if isFloat then .float source else .integer source] := by
  cases letters : source.toList with
  | nil =>
      rw [letters] at member
      exact absurd member (Numeral.nil_notMem_shape isFloat)
  | cons c rest =>
      exact lex_alone letters (Lexeme.scan_of_mem_shape letters member)
        (by cases isFloat <;> exact ⟨rfl, rfl⟩) tabWidth

/-- In front of a point, a minus sign is no part of a numeral. -/
theorem lex_minus_of_mem [XidStart] {number : String}
    (pointed : number.toList ∈ Numeral.pointFloats) :
    (lex ("-" ++ number) tabWidth).Comprises [.operator "-", .float number] := by
  have member : number.toList ∈ Numeral.shape true := Numeral.mem_shape.mpr (.inr ⟨rfl, pointed⟩)
  rcases Language.mem_mul.mp pointed with ⟨_, inFraction, ending, -, same⟩
  rcases Language.mem_mul.mp inFraction with ⟨_, rfl, digits, -, rfl⟩
  have letters : number.toList = '.' :: (digits ++ ending) := same.symm
  have whole : ("-" ++ number).toList = '-' :: '.' :: (digits ++ ending) := by
    rw [String.toList_append, letters]
    rfl
  refine lex_pair whole (Lexeme.scan_minus rfl ?_) ⟨rfl, rfl⟩ rfl
    (Lexeme.scan_of_mem_shape letters member) ⟨rfl, rfl⟩ tabWidth
  have noSymbol : isOperatorSymbol '.' = false := by decide +kernel
  rw [Lexeme.operatorRunLength_cons, noSymbol]
  rfl

/-- The numerals are the sources of their shapes, and the text of every numeral in a source has
its shape.  A minus sign is an operator in front of a point. -/
theorem lex_numerals [XidStart] (source : String) (tabWidth : Nat) :
    ((lex source tabWidth).Comprises [.integer source] ↔ source.toList ∈ Numeral.integers) ∧
      ((lex source tabWidth).Comprises [.float source] ↔ source.toList ∈ Numeral.floats) ∧
      (∀ number, source = "-" ++ number → number.toList ∈ Numeral.pointFloats →
        (lex source tabWidth).Comprises [.operator "-", .float number]) ∧
      ∀ token ∈ (lex source tabWidth).tokens, ∀ text,
        (token.kind = .integer text → text.toList ∈ Numeral.integers) ∧
          (token.kind = .float text → text.toList ∈ Numeral.floats) := by
  refine ⟨⟨(·.formed), @lex_of_mem_shape source tabWidth _ false⟩,
    ⟨(·.formed), @lex_of_mem_shape source tabWidth _ true⟩, ?_, ?_⟩
  · rintro number rfl pointed
    exact lex_minus_of_mem pointed
  · intro token member text
    have formed : ∀ kind, token.kind = kind → (∀ name, kind ≠ .identifier name) → kind.Formed := by
      rintro _ rfl noName
      exact formed_of_mem_tokens member noName
    exact ⟨fun integer => formed _ integer nofun, fun float => formed _ float nofun⟩

/-- The sign stands in front of the point and not of the digit. -/
theorem lex_numerals_point_behind_minus :
    ".5".toList ∈ Numeral.pointFloats ∧
      (lex "-.5" 4).Comprises [.operator "-", .float ".5"] := by
  have digits : ['5'] ∈ Numeral.digits isDigit :=
    Language.append_mem_mul (Shape.singleton_mem_one.mpr (by decide)) (Language.nil_mem_kstar _)
  have pointed : ['.', '5'] ++ ([] ++ []) ∈ Numeral.pointFloats :=
    Language.append_mem_mul (Language.append_mem_mul (Shape.mem_word.mpr rfl) digits)
      (Language.append_mem_mul (Shape.nil_mem_optional _) (Shape.nil_mem_optional _))
  exact ⟨pointed, (lex_numerals "-.5" 4).2.2.1 ".5" (by decide) pointed⟩

/-! ## Character literals -/

theorem lex_of_mem_literals [XidStart] (member : source.toList ∈ CharacterLiteral.literals) :
    (lex source tabWidth).Comprises [.character source] := by
  rcases CharacterLiteral.mem_literals.mp member with ⟨content, -, letters⟩
  have found : Lexeme.scan false '\'' (content ++ ['\'']) =
      ⟨.token (.character source), (content ++ ['\'']).length⟩ := by
    rw [← Lexeme.character_of_mem letters member,
      Lexeme.scan_eq_scanSolid (isBlank_of_visible (by decide)) (Lexeme.startsComment_cons _ _)]
    rfl
  exact lex_alone letters found ⟨rfl, rfl⟩ tabWidth

/-- The character literals are the sources of their shape, and the text of every character
literal in a source has that shape. -/
theorem lex_characters [XidStart] (source : String) (tabWidth : Nat) :
    ((lex source tabWidth).Comprises [.character source] ↔
        source.toList ∈ CharacterLiteral.literals) ∧
      ∀ token ∈ (lex source tabWidth).tokens, ∀ text, token.kind = .character text →
        text.toList ∈ CharacterLiteral.literals := by
  refine ⟨⟨(·.formed), lex_of_mem_literals⟩, fun token member text character => ?_⟩
  have formed := formed_of_mem_tokens member (by rw [character]; exact nofun)
  rw [character] at formed
  exact formed

/-- The mark that is escaped does not close the literal. -/
theorem lex_characters_escaped_mark :
    (lex "'\\''" 4).Comprises [.character "'\\''"] ∧
      "'\\''".toList ∈ CharacterLiteral.literals := by
  have comprises : (lex "'\\''" 4).Comprises [.character "'\\''"] :=
    ⟨by decide +kernel, by decide +kernel⟩
  exact ⟨comprises, (lex_characters "'\\''" 4).1.mp comprises⟩

end Offside
