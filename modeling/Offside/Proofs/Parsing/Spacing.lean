import Offside.Proofs.Parsing.Lossless
import Offside.Proofs.Parsing.Resumption
import Offside.Text.XidStart

namespace Offside

/-!
# Blanks and comments between tokens

What stands between two tokens matters to a parse in two ways only.  A line break may end
a statement or an expression, and a string right behind a name belongs to that name.
Everything else, blanks and comments and the places of the tokens themselves, may be
changed at will: the tree keeps its outline, and the same faults are reported.

Two lists of tokens that agree so far make two streams that look alike from the first
token on.  So two parses of them go the same way all along.
-/

/-- Two lists of tokens that a parse cannot tell apart.  The tokens may stand anywhere,
with any blanks and comments between them, as long as the same tokens begin a line and
the same strings are glued to a name. -/
structure Token.SpacedAlike (tokens others : List Token) : Prop where
  kinds : others.map Token.kind = tokens.map Token.kind
  newlines : others.map Token.hasNewlineBefore = tokens.map Token.hasNewlineBefore
  glued : ∀ index, (tokens[index]?.any fun name => name.kind.isIdentifier) = true →
    (tokens[index + 1]?.any fun text =>
      text.kind.isPlainString || text.kind.isStringStart) = true →
    others[index + 1]?.map Token.hasTriviaBefore = tokens[index + 1]?.map Token.hasTriviaBefore

namespace TokenStream

variable {tokens others : List Token} {stream other : TokenStream} {position : Nat}

/-! ## The streams of two lists -/

/-- What can be told from each token of a list can be told from each token of its stream. -/
theorem tell_tokenAt {α : Type} {tell : Token → α}
    (same : other.toList.map tell = stream.toList.map tell) (position : Nat) :
    tell (other.tokenAt position) = tell (stream.tokenAt position) := by
  unfold toList at same
  rw [List.map_append, List.map_append] at same
  rcases List.append_inj' same rfl with ⟨bodies, endings⟩
  have ending : tell other.ending = tell stream.ending := List.singleton_inj.mp endings
  rw [tokenAt_eq, tokenAt_eq, ← Option.getD_map tell, ← Option.getD_map tell,
    ← List.getElem?_map, ← List.getElem?_map, bodies, ending]

/-- Completing a list keeps what can be told from its tokens, and the mark that may be
added tells nothing. -/
theorem map_completed {α : Type} {tell : Token → α}
    (kinds : others.map Token.kind = tokens.map Token.kind)
    (same : others.map tell = tokens.map tell)
    (marks : ∀ offset offsetThere, tell (.endOfFile offsetThere) = tell (.endOfFile offset)) :
    (completed others).map tell = (completed tokens).map tell := by
  have last : others.getLast?.map Token.kind = tokens.getLast?.map Token.kind := by
    rw [← List.getLast?_map, ← List.getLast?_map, kinds]
  unfold completed
  cases here : tokens.getLast? with
  | none =>
      cases there : others.getLast? with
      | none => rfl
      | some token => rw [here, there] at last; cases last
  | some token =>
      cases there : others.getLast? with
      | none => rw [here, there] at last; cases last
      | some tokenThere =>
          rw [here, there] at last
          have kind : tokenThere.kind = token.kind := Option.some.inj last
          dsimp only
          rw [kind]
          split
          · exact same
          · rw [List.map_append, List.map_append, same]
            exact congrArg (List.map tell tokens ++ [·]) (marks _ _)

theorem completed_cases (tokens : List Token) :
    completed tokens = tokens ∨ ∃ offset, completed tokens = tokens ++ [.endOfFile offset] := by
  unfold completed
  cases last : tokens.getLast? with
  | none => exact .inr ⟨0, by rw [List.getLast?_eq_none_iff.mp last]; rfl⟩
  | some token =>
      dsimp only
      split
      · exact .inl rfl
      · exact .inr ⟨_, rfl⟩

/-- Before the end a stream shows the tokens of its list. -/
theorem getElem?_of_goesOn (goesOn : ((ofList tokens).tokenAt position).kind ≠ .endOfFile) :
    tokens[position]? = some ((ofList tokens).tokenAt position) := by
  have shown : (completed tokens)[position]? = some ((ofList tokens).tokenAt position) := by
    rw [← toList_ofList, tokenAt_eq]
    rw [tokenAt_eq] at goesOn
    unfold toList
    cases within : (ofList tokens).body.toList[position]? with
    | none =>
        rw [within] at goesOn
        exact absurd (ofList tokens).ending_kind goesOn
    | some token =>
        rw [List.getElem?_append_left (List.getElem?_eq_some_iff.mp within).1, within]
        rfl
  rcases completed_cases tokens with same | ⟨offset, added⟩
  · rw [same] at shown
    exact shown
  · rw [added] at shown
    rcases Nat.lt_or_ge position tokens.length with inside | beyond
    · rw [List.getElem?_append_left inside] at shown
      exact shown
    · rw [List.getElem?_append_right beyond] at shown
      have mark := List.mem_singleton.mp (List.mem_of_getElem? shown)
      rw [mark] at goesOn
      exact absurd rfl goesOn

theorem reappears_ofList (spaced : Token.SpacedAlike tokens others) :
    (ofList tokens).Reappears (ofList others) 0 .throughout := by
  have told : ∀ {α : Type} (tell : Token → α), others.map tell = tokens.map tell →
      (∀ offset offsetThere, tell (.endOfFile offsetThere) = tell (.endOfFile offset)) →
      (ofList others).toList.map tell = (ofList tokens).toList.map tell := by
    intro α tell same marks
    rw [toList_ofList, toList_ofList]
    exact map_completed spaced.kinds same marks
  have kinds := told Token.kind spaced.kinds fun _ _ => rfl
  have newlines := told Token.hasNewlineBefore spaced.newlines fun _ _ => rfl
  have size := congrArg List.length kinds
  unfold toList at size
  simp only [List.length_map, List.length_append, List.length_singleton,
    Array.length_toList] at size
  refine ⟨by omega, fun _ => rfl, fun position => ?_, fun _ => True.intro,
    fun _ _ => True.intro, fun position _ => ?_, fun position _ name text => ?_⟩
  · rw [Nat.zero_add]
    exact (tell_tokenAt kinds position).symm
  · rw [Nat.zero_add]
    exact (tell_tokenAt newlines position).symm
  · rw [Nat.zero_add]
    have behind := tell_tokenAt kinds (position + 1)
    have nameGoesOn : ((ofList tokens).tokenAt position).kind ≠ .endOfFile := by
      intro ended
      rw [ended] at name
      cases name
    have textGoesOn : ((ofList tokens).tokenAt (position + 1)).kind ≠ .endOfFile := by
      intro ended
      rw [ended] at text
      cases text
    have here := getElem?_of_goesOn textGoesOn
    have there := getElem?_of_goesOn (behind ▸ textGoesOn)
    have same := spaced.glued position (by rw [getElem?_of_goesOn nameGoesOn]; exact name)
      (by rw [here]; exact text)
    rw [here, there] at same
    exact (Option.some.inj same).symm

end TokenStream

/-- Where two streams look alike from the first token on, two parses of them build the same
outline and report the same faults, in places that belong to each other. -/
theorem parseStream_reappears {stream other : TokenStream} {likeness : Likeness}
    (reappears : stream.Reappears other 0 likeness) (onset : likeness.onset = 0)
    (here : stream.position = 0) (there : other.position = 0) (session : Session) :
    (parseStream session other).root.outline = (parseStream session stream).root.outline ∧
      List.Forall₂ (Diagnostic.Agrees likeness) (parseStream session stream).diagnostics
        (parseStream session other).diagnostics := by
  have atStart : ∀ stream : TokenStream, stream.position = 0 → stream = stream.moveTo 0 := by
    intro stream position
    conv => rhs; rw [← position]
    rfl
  have started : (Progress.start stream .compilationUnit).TracksBehind Builder.SameOutline
      stream other 0 likeness (.start other .compilationUnit) := by
    refine ⟨rfl, ?_, rfl, rfl, .nil⟩
    show other = other.moveTo (0 + stream.position)
    rw [here]
    exact atStart other there
  have sizes : other.size = stream.size := by
    have size := reappears.size
    unfold TokenStream.size
    omega
  have grow := Builder.growAlike_sameOutline
  have ended := (started.definitions grow reappears session (stream.size + 1)
    (.inl (by rw [onset]; exact Nat.zero_le _))).take grow reappears
  constructor
  · unfold parseStream
    dsimp only
    rw [sizes, Builder.outline_finish, Builder.outline_finish, ended.builders]
  · unfold parseStream
    dsimp only
    rw [sizes]
    exact ended.reports

/-- Two lists of tokens that a parse cannot tell apart have trees with the same kinds,
names and children, and the same faults are reported of them in the same order. -/
theorem parseTokens_spaced {tokens others : List Token}
    (spaced : Token.SpacedAlike tokens others) (maxDepth : Nat) :
    (parseTokens others maxDepth).root.outline = (parseTokens tokens maxDepth).root.outline ∧
    (parseTokens others maxDepth).root.sexp = (parseTokens tokens maxDepth).root.sexp ∧
    (parseTokens others maxDepth).diagnostics.map Diagnostic.fault =
      (parseTokens tokens maxDepth).diagnostics.map Diagnostic.fault := by
  have session : (others.any fun token => token.kind.isError) =
      tokens.any fun token => token.kind.isError := by
    have marked : ∀ list : List Token, (list.any fun token => token.kind.isError) =
        (list.map Token.kind).any TokenKind.isError := fun list => by rw [List.any_map]; rfl
    rw [marked, marked, spaced.kinds]
  have parsed := parseStream_reappears (TokenStream.reappears_ofList spaced) rfl
    (TokenStream.position_ofList tokens) (TokenStream.position_ofList others)
    ⟨maxDepth, tokens.any fun token => token.kind.isError⟩
  unfold parseTokens
  dsimp only
  rw [session]
  refine ⟨parsed.1, ?_, map_eq_of_forall₂ parsed.2 fun _ _ agrees => agrees.fault⟩
  rw [← Node.sexp_outline, parsed.1, Node.sexp_outline]

/-- Other blanks, a comment and a tab, but the string stays glued to its name. -/
theorem parseTokens_spaced_glued :
    Token.SpacedAlike (lex "def f(x) = s\"a\" + x\n" 4).tokens
        (lex "def  f( x )= /* g */ s\"a\"+\tx\n" 4).tokens ∧
      (parseTokens (lex "def  f( x )= /* g */ s\"a\"+\tx\n" 4).tokens 128).root.sexp =
        (parseTokens (lex "def f(x) = s\"a\" + x\n" 4).tokens 128).root.sexp := by
  have spaced : Token.SpacedAlike (lex "def f(x) = s\"a\" + x\n" 4).tokens
      (lex "def  f( x )= /* g */ s\"a\"+\tx\n" 4).tokens := by
    refine ⟨by decide +kernel, by decide +kernel, fun index => ?_⟩
    have inside : ∀ index < (lex "def f(x) = s\"a\" + x\n" 4).tokens.length,
        ((lex "def f(x) = s\"a\" + x\n" 4).tokens[index]?.any fun name =>
          name.kind.isIdentifier) = true →
        ((lex "def f(x) = s\"a\" + x\n" 4).tokens[index + 1]?.any fun text =>
          text.kind.isPlainString || text.kind.isStringStart) = true →
        (lex "def  f( x )= /* g */ s\"a\"+\tx\n" 4).tokens[index + 1]?.map
            Token.hasTriviaBefore =
          (lex "def f(x) = s\"a\" + x\n" 4).tokens[index + 1]?.map Token.hasTriviaBefore := by
      decide +kernel
    rcases Nat.lt_or_ge index (lex "def f(x) = s\"a\" + x\n" 4).tokens.length with within | beyond
    · exact inside index within
    · intro name
      rw [List.getElem?_eq_none beyond] at name
      cases name
  exact ⟨spaced, (parseTokens_spaced spaced 128).2.1⟩

end Offside
