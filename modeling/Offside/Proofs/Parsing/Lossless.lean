import Offside.Proofs.Lexing.Lossless
import Offside.Proofs.Parsing.Complete
import Offside.Text.XidStart

namespace Offside

/-!
# The tree keeps every token

A parse may give constructs up, go back and gather faulty input as it likes: in
the end its tree holds the tokens of the stream, each of them once and in their
order.  A stream has the tokens of its list, with a mark at the end if there was
none before.
-/

namespace TokenStream

/-- Some tokens and a mark at the end of the source, which is added where it is missing. -/
def completed (tokens : List Token) : List Token :=
  match tokens.getLast? with
  | some last =>
    if last.kind = .endOfFile then tokens else tokens ++ [.endOfFile last.span.stop]
  | none => [.endOfFile 0]

theorem tokenAt_eq (stream : TokenStream) (position : Nat) :
    stream.tokenAt position = stream.body.toList[position]?.getD stream.ending := by
  unfold tokenAt
  rw [Array.getD_eq_getD_getElem?, Array.getElem?_toList]

variable (others : List Token) {last : Token}

theorem completed_of_end (isEnd : last.kind = .endOfFile) :
    completed (others ++ [last]) = others ++ [last] := by
  unfold completed
  rw [List.getLast?_concat]
  exact if_pos isEnd

theorem completed_of_ne (goesOn : last.kind ≠ .endOfFile) :
    completed (others ++ [last]) = others ++ [last] ++ [.endOfFile last.span.stop] := by
  unfold completed
  rw [List.getLast?_concat]
  exact if_neg goesOn

theorem ofList_of_end (isEnd : last.kind = .endOfFile) :
    ofList (others ++ [last]) = ⟨others.toArray, last, 0, isEnd⟩ := by
  simp [ofList, isEnd]

theorem ofList_of_ne (goesOn : last.kind ≠ .endOfFile) :
    ofList (others ++ [last]) =
      ⟨(others ++ [last]).toArray, .endOfFile last.span.stop, 0, rfl⟩ := by
  simp [ofList, goesOn]

theorem position_ofList (tokens : List Token) : (ofList tokens).position = 0 := by
  unfold ofList
  split
  · split <;> rfl
  · rfl

theorem toList_ofList (tokens : List Token) : (ofList tokens).toList = completed tokens := by
  rcases List.eq_nil_or_concat tokens with nothing | ⟨others, last, same⟩
  · rw [nothing]
    rfl
  · rw [List.concat_eq_append] at same
    rw [same]
    by_cases isEnd : last.kind = .endOfFile
    · rw [ofList_of_end others isEnd, completed_of_end others isEnd]
      rfl
    · rw [ofList_of_ne others isEnd, completed_of_ne others isEnd]
      rfl

/-- A list that ends at its last token or not at all becomes a stream that ends once. -/
theorem endsOnce_ofList {tokens : List Token}
    (early : ∀ token ∈ tokens.dropLast, token.kind ≠ .endOfFile) :
    (ofList tokens).EndsOnce := by
  rcases List.eq_nil_or_concat tokens with nothing | ⟨others, last, same⟩
  · rw [nothing]
    intro token member
    cases List.mem_toArray.mp member
  · rw [List.concat_eq_append] at same
    rw [same, List.dropLast_concat] at early
    rw [same]
    by_cases isEnd : last.kind = .endOfFile
    · rw [ofList_of_end others isEnd]
      exact fun token member => early token (List.mem_toArray.mp member)
    · rw [ofList_of_ne others isEnd]
      intro token member
      rcases List.mem_append.mp (List.mem_toArray.mp member) with earlier | latest
      · exact early token earlier
      · rw [List.mem_singleton.mp latest]
        exact isEnd

end TokenStream

theorem Parsed.Covers.root_tokens {parsed : Parsed} {session : Session} {stream : TokenStream}
    {held : List Stretch} (covers : parsed.Covers session stream held) :
    parsed.root.tokens = stream.toList := by
  rw [Node.tokens_eq, covers.stretches, Stretch.allTokens_append, covers.tokens]
  rfl

theorem parseStream_tokens (session : Session) {tokens : List Token}
    (early : ∀ token ∈ tokens.dropLast, token.kind ≠ .endOfFile) :
    (parseStream session (.ofList tokens)).root.tokens = TokenStream.completed tokens := by
  rcases parseStream_covers session (TokenStream.position_ofList tokens)
    (TokenStream.endsOnce_ofList early) with ⟨held, covers⟩
  rw [covers.root_tokens, TokenStream.toList_ofList]

/-- The tokens of a source end only once. -/
theorem lex_early [XidStart] (source : String) (tabWidth : Nat) :
    ∀ token ∈ (lex source tabWidth).tokens.dropLast, token.kind ≠ .endOfFile := by
  rcases lex_ends source tabWidth with ⟨others, ending, same, isEnd, early⟩
  rw [same, List.dropLast_concat]
  exact early

theorem completed_lex [XidStart] (source : String) (tabWidth : Nat) :
    TokenStream.completed (lex source tabWidth).tokens = (lex source tabWidth).tokens := by
  rcases lex_ends source tabWidth with ⟨others, ending, same, isEnd, early⟩
  rw [same]
  exact TokenStream.completed_of_end others isEnd

theorem tokens_parse [XidStart] (source : String) (options : ParseOptions) :
    (parse source options).root.tokens = (lex source options.tabWidth).tokens :=
  (parseStream_tokens _ (lex_early source _)).trans (completed_lex source _)

/-- The tree of a source has exactly the tokens of the source, and the tree of a list
of tokens has exactly these tokens and a mark at the end. -/
theorem parse_lossless [XidStart] :
    (∀ (source : String) (options : ParseOptions),
      (parse source options).root.tokens = (lex source options.tabWidth).tokens) ∧
    ∀ (tokens : List Token) (maxDepth : Nat),
      (∀ token ∈ tokens.dropLast, token.kind ≠ .endOfFile) →
      (parseTokens tokens maxDepth).root.tokens = TokenStream.completed tokens := by
  constructor
  · intro source options
    rw [← completed_lex source options.tabWidth]
    exact parseStream_tokens _ (lex_early source options.tabWidth)
  · intro tokens maxDepth early
    exact parseStream_tokens _ early

/-- A closing bracket behind the head of a definition is faulty, but it is kept. -/
theorem parse_lossless_stray_bracket :
    (∀ token ∈ ([.bare (.keyword .defKw) ⟨0, 3⟩, .bare (.punctuation .rightParen) ⟨3, 4⟩] :
      List Token).dropLast, token.kind ≠ .endOfFile) ∧
    (parseTokens [.bare (.keyword .defKw) ⟨0, 3⟩, .bare (.punctuation .rightParen) ⟨3, 4⟩]
      3).root.tokens =
        [.bare (.keyword .defKw) ⟨0, 3⟩, .bare (.punctuation .rightParen) ⟨3, 4⟩,
          .endOfFile 4] :=
  ⟨by decide, parse_lossless.2 _ 3 (by decide)⟩

end Offside
