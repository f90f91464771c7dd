import Offside.Proofs.Format.Enclosures
import Offside.Proofs.Format.Levels
import Offside.Proofs.Format.Unbraced
import Offside.Proofs.Lexing.LineBreaks
import Offside.Proofs.Lexing.Succession
import Offside.Text.XidStart

namespace Offside

/-!
# The normal form of a layout

In a formatted source without comments and without curly brackets, the column of a token that
is the first of its line tells how many blocks are open there.  Text of a string is no part of
the layout: where a line begins in it, the formatter has no say in the column of what comes
behind it.
-/

open Utf8

/-! ## The fronts of lines

Texts of tokens do not end in blanks, but for text of a string.  So a token that is the first of
its line comes behind a line break, or in front of all others, or right behind text of a string
in which its line begins. -/

/-- The end of a text since its last line feed, backwards. -/
def lineFront (text : List Char) : List Char := text.reverse.takeWhile (· != '\n')

/-- Whether a token is the first of its line. -/
def Token.leadsLine (source : String) (token : Token) : Bool :=
  (lineFront ((takeBytes token.span.start source.toList).getD [])).all isBlank

/-- Whether the last of some tokens is text of a string that goes on in another line. -/
def endsInBrokenText (tokens : List Token) : Bool :=
  tokens.getLast?.any fun token => token.kind.isStringText && token.text.toList.contains '\n'

section

variable {text more : List Char}

theorem lineFront_append (unbroken : '\n' ∉ more) :
    lineFront (text ++ more) = more.reverse ++ lineFront text := by
  unfold lineFront
  rw [List.reverse_append, List.takeWhile_append_of_pos]
  intro c member
  rw [bne_iff_ne]
  rintro rfl
  exact unbroken (List.mem_reverse.mp member)

/-- Where a text ends in something solid, something solid stands in its last line. -/
theorem EndsSolid.lineFront (solid : EndsSolid text) (nonempty : text ≠ []) :
    (lineFront text).all isBlank = false := by
  rcases solid.exists_concat nonempty with ⟨front, c, rfl, notBlank⟩
  have unbroken : '\n' ∉ [c] := by
    intro member
    rw [← List.mem_singleton.mp member, isBlank_newline] at notBlank
    cases notBlank
  rw [lineFront_append unbroken]
  show (isBlank c && _) = false
  rw [notBlank]
  rfl

end

theorem Token.leadsLine_of_append {source : String} {token : Token} {front rest : List Char}
    (split : source.toList = front ++ rest) (place : byteLength front = token.span.start) :
    token.leadsLine source = (lineFront front).all isBlank := by
  unfold leadsLine
  rw [← place, split, takeBytes_append]
  rfl

theorem endsInBrokenText_concat {tokens : List Token} {token : Token}
    (isText : token.kind.isStringText = true) :
    endsInBrokenText (tokens ++ [token]) = token.text.toList.contains '\n' := by
  unfold endsInBrokenText
  rw [List.getLast?_concat, Option.any_some, isText, Bool.true_and]

theorem AllSeated.of_append {tokens others : List Token} (seated : AllSeated (tokens ++ others)) :
    AllSeated tokens := by
  intro front token back split
  refine seated front token (back ++ others) ?_
  rw [split, List.append_assoc, List.cons_append]

theorem TokenKind.Spells.endsSolid {kind : TokenKind} {own : List Char} (spells : kind.Spells own)
    (solid : EndsSolid kind.text.toList) : EndsSolid own := by
  rcases spells with shown | ⟨_, rfl⟩
  · rw [shown, String.toList_ofList] at solid
    exact solid
  · exact .of_visible (by decide)

theorem TokenKind.Spells.unbroken {kind : TokenKind} {own : List Char} (spells : kind.Spells own)
    (isText : kind.isStringText = true) (whole : kind.text.toList.contains '\n' = false) :
    '\n' ∉ own := by
  rcases spells with shown | ⟨rfl, _⟩
  · rw [shown, String.toList_ofList, ← Bool.not_eq_true, List.contains_iff_mem] at whole
    exact whole
  · cases isText

theorem TokenKind.Spells.isReal {kind : TokenKind} {own : List Char} (spells : kind.Spells own)
    (nonempty : own ≠ []) : kind.isReal = true := by
  have someText := spells.text_ne_empty nonempty
  cases kind with
  | indent => exact absurd rfl someText
  | outdent => exact absurd rfl someText
  | autoSemicolon => exact absurd rfl someText
  | endOfFile => exact absurd rfl someText
  | _ => rfl

/-- A token that was inserted has no text. -/
theorem Token.Seated.not_real {front : List TokenKind} {token : Token}
    (seated : token.Seated front) (inserted : token.IsInserted) : token.kind.isReal = false :=
  Bool.eq_false_iff.mpr fun real =>
    seated.nonempty real (TokenKind.text_of_isSynthetic inserted.isSynthetic)

/-! ## What stands in front of a token -/

theorem Trivia.Covers.eq_nil {start : Nat} {text : List Char}
    (covers : Trivia.Covers start [] text) : text = [] := by
  generalize same : ([] : List Trivia) = pieces at covers
  cases covers with
  | nil => rfl
  | snoc kind piece covers nonempty =>
      exact absurd same.symm (List.append_ne_nil_of_right_ne_nil _ (List.cons_ne_nil _ _))

namespace Token.Covers

variable {tokens : List Token} {text : List Char}

/-- Where text of a string is not the last of some tokens, these end in something solid.  By
induction on the tokens, of which those without a text stand behind no text of a string. -/
theorem endsSolid (covers : Token.Covers tokens text) (seated : AllSeated tokens)
    (some : ∃ token ∈ tokens, token.kind.isReal = true)
    (noText : (tokens.map Token.kind).getLast?.any TokenKind.isStringText = false) :
    EndsSolid text ∧ text ≠ [] := by
  induction covers with
  | nil =>
      rcases some with ⟨token, none, _⟩
      cases none
  | @inserted tokens text token covers inserted inductionHypothesis =>
      have here := seated tokens token [] rfl
      have noReal := here.not_real inserted
      refine inductionHypothesis seated.of_append ?_ (Bool.eq_false_iff.mpr fun isText => ?_)
      · rcases some with ⟨other, member, real⟩
        rcases List.mem_append.mp member with earlier | last
        · exact ⟨other, earlier, real⟩
        · rw [List.mem_singleton.mp last, noReal] at real
          cases real
      · have real := (here.behind isText).2.1
        rw [noReal] at real
        cases real
  | @read tokens text blank own leading kind covers trivia spells nonempty =>
      rw [List.map_append, List.map_singleton, List.getLast?_concat] at noText
      have tight := (seated tokens _ [] rfl).tight (spells.isReal nonempty) noText
      exact ⟨(spells.endsSolid tight.ends).append nonempty,
        List.append_ne_nil_of_right_ne_nil _ nonempty⟩

/-- Behind some tokens the last line has something solid in it, unless the line begins in text of
a string that is the last of them. -/
theorem lineFront (covers : Token.Covers tokens text) (seated : AllSeated tokens)
    (some : ∃ token ∈ tokens, token.kind.isReal = true)
    (whole : endsInBrokenText tokens = false) : (Offside.lineFront text).all isBlank = false := by
  cases noText : (tokens.map Token.kind).getLast?.any TokenKind.isStringText with
  | false =>
      rcases covers.endsSolid seated some noText with ⟨solid, nonempty⟩
      exact solid.lineFront nonempty
  | true =>
      cases covers with
      | nil => cases noText
      | @inserted tokens text token covers inserted =>
          rw [List.map_append, List.map_singleton, List.getLast?_concat] at noText
          have noReal := (seated tokens token [] rfl).not_real inserted
          rw [TokenKind.isReal_of_isStringText noText] at noReal
          cases noReal
      | @read tokens text blank own leading kind covers trivia spells nonempty =>
          rw [List.map_append, List.map_singleton, List.getLast?_concat] at noText
          have isText : kind.isStringText = true := noText
          have here := seated tokens _ [] rfl
          have noBlank : blank = [] := by
            have glued : leading = [] := (here.text isText).1.leading
            rw [glued] at trivia
            exact trivia.eq_nil
          have unbroken : '\n' ∉ own := by
            rw [endsInBrokenText_concat isText] at whole
            exact spells.unbroken isText whole
          have before : ∃ token ∈ tokens, token.kind.isReal = true := by
            rcases (Option.any_eq_true _ _).mp (here.text isText).2 with ⟨other, last, real⟩
            rcases List.mem_map.mp (List.mem_of_getLast? last) with ⟨token, member, rfl⟩
            exact ⟨token, member, real⟩
          rcases covers.endsSolid seated.of_append before (here.apart isText) with
            ⟨solid, nonempty⟩
          rw [noBlank, List.append_nil, lineFront_append unbroken, List.all_append,
            solid.lineFront nonempty, Bool.and_false]

end Token.Covers

/-- In a source without faults a token that is the first of its line comes behind a line break or
in front of all others, unless its line begins in the text of a string in front of it. -/
theorem Token.beginsLine_of_leadsLine [XidStart] {source : String} {tabWidth : Nat}
    {front back : List Token} {token : Token} (silent : (lex source tabWidth).diagnostics = [])
    (split : (lex source tabWidth).tokens = front ++ token :: back)
    (real : token.kind.isReal = true) (leads : token.leadsLine source = true)
    (whole : endsInBrokenText front = false) :
    token.beginsLine source = true ∨ ∀ other ∈ front, other.kind.isReal = false := by
  have seated := (seated_lex silent).1
  rw [split] at seated
  have here := seated front token back rfl
  rcases lex_stands split with inserted | ⟨isEnd, _⟩ | ⟨before, blank, own, beyond, text, stands⟩
  · rw [here.not_real inserted] at real
    cases real
  · rw [isEnd] at real
    cases real
  · by_cases broken : '\n' ∈ blank
    · left
      rw [List.append_assoc] at text
      unfold beginsLine
      rw [stands.trivia.any_breaksLine text, List.contains_iff_mem]
      exact broken
    · right
      intro other member
      apply Bool.eq_false_iff.mpr
      intro realThere
      have solid := stands.covers.lineFront seated.of_append ⟨other, member, realThere⟩ whole
      rw [List.append_assoc] at text
      rw [leadsLine_of_append text (congrArg Span.start stands.span).symm,
        lineFront_append broken, List.all_append, solid, Bool.and_false] at leads
      cases leads

/-! ## Open blocks -/

/-- The number of blocks that are open behind some tokens. -/
def openBlocks (tokens : List Token) : Nat :=
  (tokens.map Token.kind).count .indent - (tokens.map Token.kind).count .outdent

namespace Nesting

variable {stack after : List Delimiter} {kind : TokenKind} {kinds : List TokenKind}

theorem count_indent (kind : TokenKind) :
    [kind].count .indent = kind.opens?.toList.count .block := by
  cases kind with
  | punctuation mark => cases mark <;> rfl
  | _ => rfl

theorem count_outdent (kind : TokenKind) :
    [kind].count .outdent = kind.closes?.toList.count .block := by
  cases kind with
  | punctuation mark => cases mark <;> rfl
  | _ => rfl

theorem count_block_loosen (delimiters : List Delimiter) :
    (delimiters.map Delimiter.loosen).count .block = delimiters.count .block := by
  induction delimiters with
  | nil => rfl
  | cons delimiter delimiters inductionHypothesis =>
      rw [List.map_cons, List.count_cons, List.count_cons, inductionHypothesis]
      cases delimiter <;> rfl

/-- What was open and is opened is what is closed and stays open. -/
theorem append_of_step {nesting : Nesting} (step : nesting.step stack kind = some after) :
    kind.opens?.toList.map nesting.view ++ stack =
      kind.closes?.toList.map nesting.view ++ after := by
  cases closes : kind.closes? with
  | some closed =>
      rw [opens_of_closes closes, nesting.eq_cons_of_closes closes step]
      rfl
  | none =>
      cases opens : kind.opens? with
      | some opened =>
          rw [nesting.step_of_opens opens] at step
          cases step
          rfl
      | none =>
          rw [nesting.step_of_inert (TokenKind.isInert_of_none opens closes)] at step
          cases step
          rfl

theorem step_count (step : loose.step stack kind = some after) :
    [kind].count .indent + stack.count .block = [kind].count .outdent + after.count .block := by
  have same := congrArg (List.count .block) (append_of_step step)
  simp only [loose, List.count_append, count_block_loosen] at same
  rw [count_indent, count_outdent]
  exact same

/-- By induction on the tokens. -/
theorem read_count (read : loose.read stack kinds = some after) :
    kinds.count .indent + stack.count .block = kinds.count .outdent + after.count .block := by
  induction kinds generalizing stack with
  | nil =>
      cases read
      rfl
  | cons kind kinds inductionHypothesis =>
      rw [read_cons] at read
      rcases Option.bind_eq_some_iff.mp read with ⟨inner, step, rest⟩
      have first := step_count step
      have others := inductionHypothesis rest
      rw [← List.singleton_append, List.count_append, List.count_append]
      omega

end Nesting

/-- Without curly brackets the level counts the blocks. -/
theorem Encloses.level_eq {opened : List Delimiter} {enclosures : List Enclosure} {level : Nat}
    (encloses : Encloses opened enclosures level)
    (noCurly : ∀ multiline, Enclosure.curly multiline ∉ enclosures) :
    level = opened.count .block := by
  induction encloses with
  | nil => rfl
  | block encloses inductionHypothesis =>
      rw [List.count_cons_self, inductionHypothesis fun multiline member =>
        noCurly multiline (List.mem_cons_of_mem _ member)]
  | group closer encloses inductionHypothesis =>
      exact inductionHypothesis fun multiline member =>
        noCurly multiline (List.mem_cons_of_mem _ member)
  | curly closer multiline encloses inductionHypothesis =>
      exact absurd List.mem_cons_self (noCurly multiline)
  | string quote encloses inductionHypothesis => exact inductionHypothesis noCurly

theorem Arrangement.inside_level {arrangement : Arrangement}
    (noCurly : ∀ multiline, Enclosure.curly multiline ∉ arrangement.enclosures)
    (kind : TokenKind) : (arrangement.inside kind).level = arrangement.level := by
  unfold inside close
  rw [inMultiline_of_noCurly noCurly]
  split <;> rfl

/-- The level of a piece is the number of blocks that are open there. -/
theorem Arrangement.Behind.level_eq {front : List Token} {arrangement : Arrangement}
    (behind : Behind (front.map Token.kind) arrangement)
    (only : OnlySplices (front.map Token.kind)) {opened : List Delimiter}
    (read : Nesting.loose.read [] (front.map Token.kind) = some opened) (kind : TokenKind) :
    (arrangement.inside kind).level = openBlocks front := by
  have noCurly := behind.noCurly only
  have count := Nesting.read_count read
  rw [List.count_nil] at count
  rw [Arrangement.inside_level noCurly, (behind.encloses read).level_eq noCurly]
  unfold openBlocks
  omega

/-- Some tokens in front of the others are nested as far as they go. -/
theorem exists_opened [XidStart] {source : String} {tabWidth : Nat} {front others : List Token}
    (silent : (lex source tabWidth).diagnostics = [])
    (split : (lex source tabWidth).tokens = front ++ others) :
    ∃ opened, Nesting.loose.read [] (front.map Token.kind) = some opened ∧
      Nesting.loose.read opened (others.map Token.kind) = some [] := by
  rcases lex_honest source tabWidth with honest | faulty
  · have read := Nesting.read_loose honest.nested
    rw [split, List.map_append, List.map_nil, Nesting.read_append] at read
    exact Option.bind_eq_some_iff.mp read
  · exact absurd silent faulty.told

/-! ## The end of a formatted source -/

theorem Page.text_endsLine (page : Page) : page.text.toList = [] ∨ EndsLine page.text.toList := by
  unfold text
  split
  · exact .inl rfl
  · exact .inr ⟨_, by rw [String.toList_ofList, List.reverse_cons]⟩

theorem Column.afterText_endsLine {text : List Char} (ends : text = [] ∨ EndsLine text)
    (tabWidth : Nat) : afterText tabWidth 0 text = 0 := by
  rcases ends with rfl | ⟨front, rfl⟩
  · rfl
  · exact afterText_newline tabWidth 0 front

/-- The end of a source comes last, and behind all of its text. -/
theorem split_endOfFile [XidStart] {source : String} {tabWidth : Nat} {front back : List Token}
    {token : Token} (split : (lex source tabWidth).tokens = front ++ token :: back)
    (isEnd : token.kind = .endOfFile) :
    back = [] ∧ token.span = .empty (byteLength source.toList) := by
  rcases lex_covers source tabWidth with ⟨tokens, spelled, trailing, waiting, _, same, covers, _⟩
  rw [same] at split
  rcases split_concat split with ⟨inner, rfl, among⟩ | ⟨rfl, rfl, rfl⟩
  · refine absurd isEnd (covers.ne_endOfFile token ?_)
    rw [among]
    exact List.mem_append_right front List.mem_cons_self
  · exact ⟨rfl, rfl⟩

/-- At the end of a source that ends in a line feed no block is open. -/
theorem column_endOfFile [XidStart] {source : String} {tabWidth : Nat} {front back : List Token}
    {token : Token} (silent : (lex source tabWidth).diagnostics = [])
    (split : (lex source tabWidth).tokens = front ++ token :: back)
    (isEnd : token.kind = .endOfFile) (ends : source.toList = [] ∨ EndsLine source.toList) :
    token.column tabWidth source = 0 ∧ openBlocks front = 0 := by
  rcases split_endOfFile split isEnd with ⟨rfl, place⟩
  constructor
  · rw [Token.column_of_append (List.append_nil _).symm (by rw [place]; rfl)]
    exact Column.afterText_endsLine ends _
  · rcases exists_opened silent split with ⟨opened, read, last⟩
    rw [List.map_singleton, isEnd] at last
    cases last
    have count := Nesting.read_count read
    unfold openBlocks
    omega

/-! ## The normal form -/

/-- Whatever the options of the parser are, the tokens of the source are printed. -/
theorem exists_begins_format [XidStart] (source : String) (parseOptions : ParseOptions)
    (options : FormatOptions) :
    ∃ begins : Token → Bool, (parse source parseOptions).root.format options =
      (Page.ofPieces options.indentWidth (Arrangement.start.pieces begins
        (lex source parseOptions.tabWidth).tokens)).text := by
  unfold Node.format Node.pieces
  rw [tokens_parse]
  exact ⟨_, rfl⟩

/-- A readable source is retraced in what is printed of its tokens. -/
theorem Reader.Retraces.printed [XidStart] {source formatted : String} {tabWidth width : Nat}
    {begins : Token → Bool} (tabWidthThere : Nat)
    (readable : (Reader.start tabWidth source.toList).Readable)
    (printed : formatted = (Page.ofPieces width (Arrangement.start.pieces begins
      (lex source tabWidth).tokens)).text) (fits : formatted.length < Column.wordSize) :
    Reader.Retraces width begins .start (.start tabWidth source.toList)
      (.start tabWidthThere formatted.toList) := by
  have empty : (Reader.start tabWidth source.toList).Legible :=
    ⟨List.forall_mem_nil _, fun _ => nofun⟩
  have legible := empty.finish readable
  have shows := @Page.ofPieces_begins width (Arrangement.start.pieces begins
    (lex source tabWidth).tokens) (Arrangement.text_ne_of_legible legible)
    (Arrangement.endsSolid_of_legible legible)
  rw [← printed] at shows
  exact .start tabWidth tabWidthThere begins shows (by rw [String.length_toList]; exact fits)

/-- The normal form of a layout.  Where a source without lexical faults has no comments, and no
curly bracket opens in it but for those of splices, its formatted text has no lexical faults
either and tokens of the same kinds.  A token of it that is the first of its line stands as many
levels to the right as blocks are open there, unless the line begins in the text of a string
right in front of the token.  Columns are machine words, so the text has to fit into memory. -/
theorem format_normal [XidStart] {source formatted : String} {parseOptions : ParseOptions}
    {options : FormatOptions} (tabWidth : Nat)
    (formats : formatted = (parse source parseOptions).root.format options)
    (silent : (lex source parseOptions.tabWidth).diagnostics = [])
    (noComments : NoComments (lex source parseOptions.tabWidth).tokens)
    (onlySplices : OnlySplices ((lex source parseOptions.tabWidth).tokens.map Token.kind))
    (fits : formatted.length < Column.wordSize) :
    (lex formatted tabWidth).diagnostics = [] ∧
      (lex formatted tabWidth).tokens.map Token.kind =
        (lex source parseOptions.tabWidth).tokens.map Token.kind ∧
      ∀ front token back, (lex formatted tabWidth).tokens = front ++ token :: back →
        token.kind.isLayout = false → token.leadsLine formatted = true →
        endsInBrokenText front = false →
        token.column tabWidth formatted = options.indentWidth * openBlocks front := by
  rcases exists_begins_format source parseOptions options with ⟨begins, same⟩
  have printed := formats.trans same
  have readable := readable_of_onlySplices silent onlySplices
  have retraces := Reader.Retraces.printed tabWidth readable printed fits
  have repeatable : Reader.Repeatable options.indentWidth begins
      (lex source parseOptions.tabWidth).tokens :=
    Reader.repeatable_of_onlySplices options.indentWidth_pos onlySplices noComments
  rcases retraces.finish_repeatable options.indentWidth_pos readable repeatable with
    ⟨silentThere, kinds⟩
  have onLevel := retraces.finish_levels options.indentWidth_pos readable repeatable
    ⟨Reader.start_aligned tabWidth formatted, silentThere, .nil⟩
  refine ⟨silentThere, kinds, fun front token back split noLayout leads whole => ?_⟩
  by_cases isEnd : token.kind = .endOfFile
  · have ends : formatted.toList = [] ∨ EndsLine formatted.toList := by
      rw [printed]
      exact Page.text_endsLine _
    rcases column_endOfFile silentThere split isEnd ends with ⟨column, closed⟩
    rw [column, closed, Nat.mul_zero]
  · have real : token.kind.isReal = true := by
      unfold TokenKind.isReal
      rw [noLayout, bne_iff_ne.mpr isEnd]
      rfl
    rcases onLevel front token back split real
      (Token.beginsLine_of_leadsLine silentThere split real leads whole) with
        ⟨arrangement, behind, column⟩
    rcases exists_opened silentThere split with ⟨opened, read, _⟩
    have only : OnlySplices (front.map Token.kind) := by
      have whole : OnlySplices ((lex formatted tabWidth).tokens.map Token.kind) := by
        have kindsThere : (lex formatted tabWidth).tokens.map Token.kind =
          (lex source parseOptions.tabWidth).tokens.map Token.kind := kinds
        rw [kindsThere]
        exact onlySplices
      rw [split, List.map_append] at whole
      exact whole.of_append
    rw [column, behind.level_eq only read token.kind, Nat.mul_comm]

/-- Blocks in blocks, a line that goes on in the next one, and a string with a splice. -/
theorem format_normal_blocks :
    let source := "def f() =\n  let x =\n    g(1,\n      2)\n  \"a$\x7bx\x7d\"\n"
    let formatted := "def f() =\n   let x =\n      g(1, 2)\n   \"a$\x7bx\x7d\"\n"
    formatted = (parse source .default).root.format (.ofWidth 3 true) ∧
      (lex source defaultTabWidth).diagnostics = [] ∧
      NoComments (lex source defaultTabWidth).tokens ∧
      OnlySplices ((lex source defaultTabWidth).tokens.map Token.kind) ∧
      formatted.length < Column.wordSize ∧
      (lex formatted 8).diagnostics = [] ∧
      (lex formatted 8).tokens.map Token.kind =
        (lex source defaultTabWidth).tokens.map Token.kind ∧
      ∀ front token back, (lex formatted 8).tokens = front ++ token :: back →
        token.kind.isLayout = false → token.leadsLine formatted = true →
        endsInBrokenText front = false →
        token.column 8 formatted = 3 * openBlocks front := by
  intro source formatted
  have formats : formatted = (parse source .default).root.format (.ofWidth 3 true) := by
    decide +kernel
  have silent : (lex source defaultTabWidth).diagnostics = [] := by decide +kernel
  have noComments : NoComments (lex source defaultTabWidth).tokens := by decide +kernel
  have onlySplices : OnlySplices ((lex source defaultTabWidth).tokens.map Token.kind) := by
    decide +kernel
  have fits : formatted.length < Column.wordSize := by decide +kernel
  exact ⟨formats, silent, noComments, onlySplices, fits,
    @format_normal _ source formatted .default (.ofWidth 3 true) 8 formats silent noComments
      onlySplices fits⟩

/-- A splice in the first column of its line, right behind the line feed in a string: it is in a
block, but blanks in front of it would belong to the string. -/
theorem format_splice_first :
    let source := "def f() =\n    \"\"\"\n$\x7bx\x7d\"\"\"\n"
    (lex source defaultTabWidth).diagnostics = [] ∧
      NoComments (lex source defaultTabWidth).tokens ∧
      OnlySplices ((lex source defaultTabWidth).tokens.map Token.kind) ∧
      (parse source .default).root.format .default = source ∧
      ¬ ∀ front token back, (lex source defaultTabWidth).tokens = front ++ token :: back →
        token.kind.isLayout = false → token.leadsLine source = true →
        token.column defaultTabWidth source =
          FormatOptions.default.indentWidth * openBlocks front := by
  intro source
  refine ⟨by decide +kernel, by decide +kernel, by decide +kernel, by decide +kernel,
    fun normal => ?_⟩
  have column := normal ((lex source defaultTabWidth).tokens.take 8)
    ⟨.punctuation .dollar, ⟨18, 19⟩, []⟩ ((lex source defaultTabWidth).tokens.drop 9)
    (by decide +kernel) rfl (by decide +kernel)
  have other : Token.column ⟨.punctuation .dollar, ⟨18, 19⟩, []⟩ defaultTabWidth source ≠
      FormatOptions.default.indentWidth *
        openBlocks ((lex source defaultTabWidth).tokens.take 8) := by decide +kernel
  exact other column

end Offside
