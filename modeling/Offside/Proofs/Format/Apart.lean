import Offside.Proofs.Format.Enclosures
import Offside.Proofs.Format.Tidy
import Offside.Proofs.Parsing.Order
import Offside.Proofs.Parsing.Outermost
import Offside.Text.XidStart

namespace Offside

/-!
# Definitions are set apart

A blank line is left in front of a definition where a layout token has asked for a break.
That is so behind a line that ends a statement and behind an indented block.  Behind an
explicit semicolon a definition begins a line only if it did so in the source, without a
blank line in front of it.  And where the last token of a definition cannot end a statement
nothing separates it from the next one, so the two are joined.
-/

/-- The characters that a gap comes to where nothing is indented. -/
def Gap.chars : Gap → List Char
  | none => []
  | space => [' ']
  | line => ['\n']
  | blankLine => ['\n', '\n']

/-- What sets a definition apart from a token in front of it. -/
def Token.distance (token : Token) (last : TokenKind) : Offside.Gap :=
  if last.isLayout then .blankLine
  else if last == .punctuation .semicolon && token.hasNewlineBefore then .line
  else if token.hasTriviaBefore then .space
  else .none

/-- In a text a token stands behind some others and in front of yet others, and nothing but a
gap stands between the text of the token and that of the one in front of it. -/
inductive Ink.Apart (text : List Char) (front : List Token) (gap : List Char) (token : Token)
    (back : List Token) : Prop
  | intro (before behind : List Ink)
      (split : text = chars (before ++ (gap.map free ++ (token.inks ++ behind))))
      (front : owned before = ofTokens front) (back : owned behind = ofTokens back)
      (ends : ∃ ink ∈ before.getLast?, ink.owner.isSome = true ∧ isBlank ink.char = false)

theorem TokenKind.isReal_of_mayBegin {kind : TokenKind} (begins : kind.mayBeginDefinition = true) :
    kind.isReal = true := by
  rcases cases_of_mayBegin begins with ⟨word, rfl⟩ | rfl <;> rfl

namespace Arrangement

variable {arrangement : Arrangement} {token : Token} {last : TokenKind}

/-- Outside of everything only the last token decides on the gap. -/
theorem gapBefore_of_outermost (outside : arrangement.enclosures = [])
    (broken : arrangement.broken = last.isLayout)
    (previous : last.isLayout = false → arrangement.previous = some last) :
    arrangement.gapBefore token true false = token.distance last := by
  unfold gapBefore Token.distance inCurly afterSemicolon afterOpener
  rw [outside, broken]
  cases layout : last.isLayout with
  | true => rfl
  | false =>
      rw [previous layout]
      dsimp only
      by_cases semicolon : last = .punctuation .semicolon
      · have noOpening : TokenKind.opensBlock (.punctuation .semicolon) = false := rfl
        subst semicolon
        simp [noOpening]
      · simp [semicolon]

end Arrangement

/-- Around one of its tokens a page is what was drawn in front of the token, the token in its
place and what comes behind. -/
theorem Page.Draws.around {tokens front back : List Token} {token : Token}
    (seated : AllSeated tokens)
    (noText : (tokens.map Token.kind).getLast?.any TokenKind.isStringText = false)
    (whole : tokens = front ++ token :: back) (real : token.kind.isReal = true) (width : Nat)
    (begins : Token → Bool) :
    ∃ arrangement page draft newlineBehind behind,
      Page.Draws width front arrangement page draft ∧
      (Page.ofPieces width (Arrangement.start.pieces begins tokens)).text.toList = Ink.chars
        ((draft.write width (arrangement.place token (begins token) newlineBehind).1 token).inks ++
          behind) ∧
      Ink.owned behind = Ink.ofTokens back := by
  subst whole
  rcases (Page.Draws.empty width).run seated with
    ⟨arrangement, page, draft, earlier, draws, same, -⟩
  have placed := draws.place real (seated front token back rfl) (begins token)
    (back.head?.any Token.hasNewlineBefore)
  have restSeated : AllSeated (front ++ [token] ++ (back ++ [])) := by
    rw [List.append_nil, ← List.append_cons]
    exact seated
  rcases placed.run restSeated with
    ⟨arrangementThere, pageThere, ended, more, drawn, sameThere, inks⟩
  rw [List.append_nil] at sameThere
  have pages : Page.ofPieces width (Arrangement.start.pieces begins (front ++ token :: back)) =
      pageThere := by
    refine same.trans ?_
    rw [Arrangement.pieces_of_isReal real, List.foldl_cons]
    exact sameThere
  rw [← List.append_cons] at drawn
  have written : ended.current ≠ [] := by
    intro blank
    have noReal := (drawn.neat.start blank).2 token (List.mem_append_right _ List.mem_cons_self)
    rw [real] at noReal
    cases noReal
  refine ⟨arrangement, page, draft, back.head?.any Token.hasNewlineBefore,
    more ++ [Ink.free '\n'], draws, ?_, ?_⟩
  · rw [pages, drawn.text noText written, ← List.append_assoc, ← inks, Draft.rows_ended]
  · have owned : Ink.ofTokens (front ++ [token]) ++ Ink.owned more =
        Ink.ofTokens (front ++ [token]) ++ Ink.ofTokens back := by
      have all := drawn.neat.owned
      rw [inks, Ink.owned_append, placed.neat.owned] at all
      rw [← Ink.ofTokens_append, ← List.append_cons]
      exact all
    rw [Ink.owned_append, List.append_cancel_left owned]
    exact List.append_nil _

/-- What separates a definition that is written behind tokens that leave nothing open. -/
theorem Page.Draws.separates {width : Nat} {front : List Token} {arrangement : Arrangement}
    {page : Page} {draft : Draft} {token : Token} {last : TokenKind}
    (draws : Draws width front arrangement page draft)
    (closed : Nesting.loose.read [] (front.map Token.kind) = some [])
    (begins : token.kind.mayBeginDefinition = true) (written : draft.current ≠ [])
    (ends : (front.map Token.kind).getLast? = some last) (goesOn : last ≠ .endOfFile)
    (newlineBehind : Bool) :
    (draft.write width (arrangement.place token true newlineBehind).1 token).inks =
      draft.inks ++ ((token.distance last).chars.map Ink.free ++ token.inks) := by
  have noCloser : token.kind.isCloser = false := by
    rcases TokenKind.cases_of_mayBegin begins with ⟨word, same⟩ | same <;> rw [same] <;> rfl
  have outside : arrangement.enclosures = [] ∧ arrangement.level = 0 := by
    have encloses := draws.behind.encloses closed
    generalize arrangement.enclosures = enclosures, arrangement.level = level at encloses
    cases encloses
    exact ⟨rfl, rfl⟩
  have real : last.isLayout = false → last.isReal = true := fun layout => by
    unfold TokenKind.isReal
    rw [layout, bne_iff_ne.mpr goesOn]
    rfl
  have broken : arrangement.broken = last.isLayout := by
    cases layout : last.isLayout with
    | true =>
        refine draws.behind.broken ?_
        rw [ends]
        exact layout
    | false =>
        refine draws.behind.settled ?_
        rw [ends]
        exact real layout
  have gap : (arrangement.place token true newlineBehind).1.gap = token.distance last := by
    rw [← Arrangement.gapBefore_of_outermost outside.1 broken fun layout =>
      draws.behind.previous ends (real layout)]
    unfold Arrangement.place
    rw [noCloser]
    rfl
  have level : (arrangement.place token true newlineBehind).1.level = 0 := by
    rw [← outside.2]
    unfold Arrangement.place
    rw [noCloser]
    rfl
  rcases draft.writes width (arrangement.place token true newlineBehind).1 token with
    ⟨chars, writes⟩
  generalize draft.write width (arrangement.place token true newlineBehind).1 token = after
    at writes
  have same : chars = (token.distance last).chars := by
    rw [← gap]
    cases writes with
    | start blank => exact absurd blank written
    | glued some none => rw [none]; rfl
    | spaced some space => rw [space]; rfl
    | line some line => rw [line, level, Nat.zero_mul]; rfl
    | blankLine some blankLine => rw [blankLine, level, Nat.zero_mul]; rfl
  rw [writes.inks, same]

theorem Node.start_mem_laterStarts {root node : Node} {first last : List Element}
    (parts : root.children = first ++ .node node :: last)
    (later : ∃ other : Node, .node other ∈ first) : node.span.start ∈ root.laterStarts := by
  have children : root.nodeChildren =
      first.filterMap Element.node? ++ node :: last.filterMap Element.node? := by
    unfold nodeChildren
    rw [parts, List.filterMap_append]
    rfl
  rcases later with ⟨other, early⟩
  have some : first.filterMap Element.node? ≠ [] :=
    List.ne_nil_of_mem (List.mem_filterMap.mpr ⟨_, early, rfl⟩)
  unfold laterStarts
  rw [children]
  refine List.mem_map_of_mem ?_
  cases nodes : first.filterMap Element.node? with
  | nil => exact absurd nodes some
  | cons other others => exact List.mem_append_right _ List.mem_cons_self

/-- A definition begins where its first token does, so it is known by the place of the token. -/
theorem FormatOptions.begins_of_later [XidStart] {source : String} {options : FormatOptions}
    (blankLines : options.blankLines = true) {first last : List Element} {node : Node}
    (parts : (parse source .default).root.children = first ++ .node node :: last)
    (later : ∃ other : Node, .node other ∈ first) {front inner back : List Token} {token : Token}
    (tokens : node.tokens = token :: inner)
    (whole : (lex source defaultTabWidth).tokens = front ++ token :: (inner ++ back))
    (begins : token.kind.mayBeginDefinition = true) : options.begins source token = true := by
  have member : node ∈ (parse source .default).root.preorder := by
    rw [Node.preorder_eq]
    refine List.mem_cons_of_mem _ (List.mem_flatMap.mpr ⟨node, ?_, ?_⟩)
    · unfold Node.nodeChildren
      rw [parts]
      exact List.mem_filterMap.mpr
        ⟨.node node, List.mem_append_right _ List.mem_cons_self, rfl⟩
    · rw [Node.preorder_eq]
      exact List.mem_cons_self
  have spanned : ∀ below ∈ (parse source .default).root.preorder, below.Spanned :=
    spanned_parseStream _ _
  have starts : node.span.start = token.span.start := by
    refine Node.start_eq
      (fun below inside => spanned below (Node.preorder_subset member below inside)) tokens
      fun other further => ?_
    have proper := ((lex_leads source defaultTabWidth).2.1 token (by rw [whole]; simp)).1
    have precedes := lex_precedes source defaultTabWidth
    rw [whole] at precedes
    have behind := (List.pairwise_cons.mp (List.pairwise_append.mp precedes).2.1).1 other
      (List.mem_append_left _ further)
    rcases behind with ahead | before
    · rcases TokenKind.cases_of_mayBegin begins with ⟨word, same⟩ | same <;>
        rw [same] at ahead <;> cases ahead
    · exact Nat.le_trans proper before
  unfold FormatOptions.begins
  rw [blankLines, Bool.true_and, List.contains_iff_mem, ← starts]
  exact Node.start_mem_laterStarts parts later

/-- Definitions at the outermost level are set apart, as far as their separators allow it.  In a
source without faults, formatted with blank lines between definitions, a blank line stands in
front of every definition but the first if a layout token stands there, and the definition
begins the line behind it.  Without a layout token there is none: a definition behind a
semicolon begins a line only if it did so before, and any other one goes on in the line of the
definition in front of it. -/
theorem format_apart [XidStart] {source formatted : String} {options : FormatOptions}
    (formats : format source options = .ok formatted) (blankLines : options.blankLines = true)
    {first last : List Element} {node : Node}
    (parts : (parse source .default).root.children = first ++ .node node :: last)
    (later : ∃ other : Node, .node other ∈ first) :
    ∃ others separator token inner,
      Element.tokens first = others ++ [separator] ∧ node.tokens = token :: inner ∧
      Ink.Apart formatted.toList (others ++ [separator]) (token.distance separator.kind).chars
        token (inner ++ Element.tokens last) := by
  rcases format_prints formats with ⟨noErrors, printed⟩
  have silent : (lex source defaultTabWidth).diagnostics = [] := (format_begins formats).1
  rcases parseStream_outermost parts (anyFaulty_parse noErrors) with
    ⟨closed, token, inner, tokens, begins⟩
  have whole : (lex source defaultTabWidth).tokens =
      Element.tokens first ++ token :: (inner ++ Element.tokens last) := by
    have all := tokens_parse source .default
    rw [Node.tokens_eq_children, parts, Element.tokens_append, Element.tokens_cons_node,
      tokens] at all
    exact all.symm
  have earlier : ∃ other ∈ Element.tokens first, other.kind.isReal = true := by
    rcases later with ⟨other, early⟩
    rcases List.append_of_mem early with ⟨front, back, split⟩
    rw [split, List.append_assoc, List.cons_append] at parts
    rcases parseStream_outermost parts (anyFaulty_parse noErrors) with
      ⟨-, start, rest, tokensThere, beginsThere⟩
    refine ⟨start, ?_, TokenKind.isReal_of_mayBegin beginsThere⟩
    rw [split, Element.tokens_append, Element.tokens_cons_node, tokensThere]
    simp
  rcases seated_lex silent with ⟨seated, noText⟩
  rcases Page.Draws.around seated noText whole (TokenKind.isReal_of_mayBegin begins)
    options.indentWidth (options.begins source) with
      ⟨arrangement, page, draft, newlineBehind, behind, draws, text, owned⟩
  rw [FormatOptions.begins_of_later blankLines parts later tokens whole begins] at text
  have written : draft.current ≠ [] := by
    intro blank
    rcases earlier with ⟨other, member, real⟩
    rw [(draws.neat.start blank).2 other member] at real
    cases real
  have noTextInFront : ((Element.tokens first).map Token.kind).getLast?.any
      TokenKind.isStringText = false := by
    refine Bool.eq_false_iff.mpr fun isText => ?_
    have piece := ((seated _ token _ whole).behind isText).2.2
    rcases TokenKind.cases_of_mayBegin begins with ⟨word, same⟩ | same <;> rw [same] at piece <;>
      cases piece
  rcases List.eq_nil_or_concat (Element.tokens first) with none | ⟨others, separator, front⟩
  · rw [none] at earlier
    rcases earlier with ⟨_, member, _⟩
    cases member
  · rw [List.concat_eq_append] at front
    refine ⟨others, separator, token, inner, front, tokens, ?_⟩
    rw [front] at closed draws noTextInFront
    have goesOn : separator.kind ≠ .endOfFile := by
      refine lex_early source defaultTabWidth separator ?_
      rw [whole, front, List.dropLast_append_of_ne_nil (List.cons_ne_nil _ _)]
      simp
    have ends : ((others ++ [separator]).map Token.kind).getLast? = some separator.kind := by
      rw [List.map_append, List.map_singleton, List.getLast?_concat]
    have inks := draws.separates closed begins written ends goesOn newlineBehind
    refine .intro draft.inks behind ?_ draws.neat.owned owned ?_
    · rw [printed, text, inks, List.append_assoc, List.append_assoc]
    · rw [Draft.getLast?_inks written]
      exact (draws.neat.begun written).ends_owned (draws.neat.solid noTextInFront)

/-- Behind a wildcard no statement ends, so a function is joined to an import.  The function
behind it is set apart. -/
theorem format_apart_wildcard :
    let source := "use a.*\ndef f() = 1\ndef g() = 2\n"
    let formatted := "use a.* def f() = 1\n\ndef g() = 2\n"
    format source .default = .ok formatted ∧ FormatOptions.default.blankLines = true ∧
      ∃ first node last,
        (parse source .default).root.children = first ++ .node node :: last ∧
        (∃ other : Node, .node other ∈ first) ∧
        ∃ others separator token inner,
          Element.tokens first = others ++ [separator] ∧ node.tokens = token :: inner ∧
          Ink.Apart formatted.toList (others ++ [separator])
            (token.distance separator.kind).chars token (inner ++ Element.tokens last) := by
  intro source formatted
  have formats : format source .default = .ok formatted := ok_of_toOption (by decide +kernel)
  have nodes : ∃ start next last, (parse source .default).root.children =
      .node start :: .node next :: last := by
    have shapes : ((parse source .default).root.children.take 2).map
        (fun child => child.node?.isSome) = [true, true] := by decide +kernel
    match (parse source .default).root.children, shapes with
    | .node start :: .node next :: last, _ => exact ⟨start, next, last, rfl⟩
  rcases nodes with ⟨start, next, last, children⟩
  exact ⟨formats, rfl, [.node start], next, last, children, ⟨start, List.mem_cons_self⟩,
    format_apart formats rfl children ⟨start, List.mem_cons_self⟩⟩

end Offside
