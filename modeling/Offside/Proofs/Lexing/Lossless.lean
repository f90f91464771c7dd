import Offside.Proofs.Lexing.Coverage

namespace Offside

/-!
# Lexing is lossless

The tokens of a source say all that there is to say about its text.  Written one
behind the other, each with the trivia in front of it, they are the source again;
and their spans are laid side by side from the first byte to the last one.  What the
layout rules insert has no part in this.
-/

namespace Utf8

/-! ## Slices of a text -/

theorem dropBytes_append (front back : List Char) :
    dropBytes (byteLength front) (front ++ back) = some back := by
  induction front with
  | nil => exact dropBytes.eq_1 back
  | cons c front inductionHypothesis =>
      have positive : 0 < c.utf8Size := c.utf8Size_pos
      rcases Nat.exists_eq_add_one_of_ne_zero (Nat.ne_of_gt positive) with ⟨size, same⟩
      have whole : byteLength (c :: front) = size + byteLength front + 1 := by
        rw [byteLength_cons, same]
        omega
      rw [whole, List.cons_append, dropBytes, if_pos (by omega)]
      rw [show size + byteLength front + 1 - c.utf8Size = byteLength front by omega]
      exact inductionHypothesis

theorem takeBytes_append (front back : List Char) :
    takeBytes (byteLength front) (front ++ back) = some front := by
  induction front with
  | nil => exact takeBytes.eq_1 back
  | cons c front inductionHypothesis =>
      have positive : 0 < c.utf8Size := c.utf8Size_pos
      rcases Nat.exists_eq_add_one_of_ne_zero (Nat.ne_of_gt positive) with ⟨size, same⟩
      have whole : byteLength (c :: front) = size + byteLength front + 1 := by
        rw [byteLength_cons, same]
        omega
      rw [whole, List.cons_append, takeBytes, if_pos (by omega)]
      rw [show size + byteLength front + 1 - c.utf8Size = byteLength front by omega]
      rw [inductionHypothesis]
      rfl

theorem length_takeBytes_le (count : Nat) (text : List Char) :
    ((takeBytes count text).getD []).length ≤ text.length := by
  fun_induction takeBytes count text with
  | case1 => exact Nat.zero_le _
  | case2 => exact Nat.zero_le _
  | case3 count c text within inductionHypothesis =>
      cases found : takeBytes (count + 1 - c.utf8Size) text with
      | none => exact Nat.zero_le _
      | some front =>
          rw [found] at inductionHypothesis
          exact Nat.succ_le_succ inductionHypothesis
  | case4 => exact Nat.zero_le _

/-- A piece of a text is found between the offsets of its two ends. -/
theorem slice_append (front piece back : List Char) :
    slice (front ++ piece ++ back) (byteLength front) (byteLength front + byteLength piece) =
      some piece := by
  unfold slice
  rw [if_pos (Nat.le_add_right _ _), List.append_assoc, dropBytes_append, Option.bind_some,
    Nat.add_sub_cancel_left]
  exact takeBytes_append piece back

theorem byteLength_pos {text : List Char} (nonempty : text ≠ []) : 0 < byteLength text := by
  cases text with
  | nil => exact absurd rfl nonempty
  | cons c text =>
      have positive : 0 < c.utf8Size := c.utf8Size_pos
      rw [byteLength_cons]
      omega

theorem utf8ByteSize_ofList (text : List Char) :
    (String.ofList text).utf8ByteSize = byteLength text := by
  induction text with
  | nil => rfl
  | cons c text inductionHypothesis =>
      rw [← List.singleton_append, String.ofList_append, String.utf8ByteSize_append,
        inductionHypothesis, byteLength_append]
      congr 1
      rw [byteLength_cons, byteLength_nil, Nat.add_zero]
      exact String.utf8ByteSize_singleton

end Utf8

open Utf8

theorem Span.text_of_append {source : String} {front piece : List Char} (back : List Char)
    (whole : source.toList = front ++ piece ++ back) :
    Span.text ⟨byteLength front, byteLength front + byteLength piece⟩ source =
      String.ofList piece := by
  unfold Span.text
  rw [whole, slice_append]
  rfl

/-! ## Writing tokens -/

namespace Token

/-- How a token is written in its source: by its text, unless the other spelling of
a module keyword stands there. -/
def spelling (source : String) (token : Token) : String :=
  if token.kind = .keyword .modKw ∧ token.span.text source = "namespace" then "namespace"
  else token.text

/-- The trivia in front of a token and then the token, as they are written. -/
def written (source : String) (token : Token) : List String :=
  token.leading.map (fun trivia => trivia.span.text source) ++ [token.spelling source]

/-- The spans of the trivia in front of a token, and of the token if it has a width. -/
def coveredSpans (token : Token) : List Span :=
  token.leading.map Trivia.span ++ if token.span.isEmpty then [] else [token.span]

end Token

/-- Spans lie side by side between two offsets, and each of them has a width. -/
def Span.Tile (start stop : Nat) : List Span → Prop
  | [] => start = stop
  | span :: rest => span.start = start ∧ span.start < span.stop ∧ Tile span.stop stop rest

theorem Span.Tile.append {start middle stop : Nat} {front back : List Span}
    (first : Span.Tile start middle front) (second : Span.Tile middle stop back) :
    Span.Tile start stop (front ++ back) := by
  induction front generalizing start with
  | nil =>
      cases first
      exact second
  | cons span front inductionHypothesis =>
      exact ⟨first.1, first.2.1, inductionHypothesis first.2.2⟩

/-! ## What is covered is written and tiled -/

namespace Trivia.Covers

variable {start : Nat} {pieces : List Trivia} {text : List Char}

theorem written (covers : Trivia.Covers start pieces text) (source : String)
    {front : List Char} (begins : start = byteLength front) :
    ∀ back, source.toList = front ++ text ++ back →
      (pieces.map fun trivia => trivia.span.text source).flatMap String.toList = text := by
  induction covers with
  | nil => exact fun _ _ => rfl
  | @snoc pieces text kind piece covers nonempty inductionHypothesis =>
      intro back whole
      have inner := inductionHypothesis (piece ++ back) (by rw [whole]; simp)
      have place : Span.text ⟨byteLength (front ++ text),
          byteLength (front ++ text) + byteLength piece⟩ source = String.ofList piece :=
        Span.text_of_append back (by rw [whole]; simp)
      rw [List.map_append, List.flatMap_append, inner, begins, ← byteLength_append]
      simp only [List.map_cons, List.map_nil, place, List.flatMap_singleton,
        String.toList_ofList]

theorem tile (covers : Trivia.Covers start pieces text) :
    Span.Tile start (start + byteLength text) (pieces.map Trivia.span) := by
  induction covers with
  | nil => rfl
  | @snoc pieces text kind piece covers nonempty inductionHypothesis =>
      have positive := byteLength_pos nonempty
      rw [List.map_append, byteLength_append]
      refine inductionHypothesis.append ⟨rfl, ?_, ?_⟩
      · dsimp only
        omega
      · exact Nat.add_assoc _ _ _

end Trivia.Covers

theorem Token.spelling_of_spells {source : String} {token : Token} {own : List Char}
    (spells : token.kind.Spells own) (place : token.span.text source = String.ofList own) :
    token.spelling source = String.ofList own := by
  unfold Token.spelling
  rw [place]
  rcases spells with shown | ⟨isMod, other⟩
  · split
    · rename_i both
      exact both.2.symm
    · exact shown
  · rw [if_pos ⟨isMod, by rw [other]; rfl⟩, other]
    rfl

namespace TokenKind

theorem text_of_isSynthetic {kind : TokenKind} (synthetic : kind.isSynthetic = true) :
    kind.text = "" := by
  cases kind with
  | indent => rfl
  | outdent => rfl
  | autoSemicolon => rfl
  | error text => exact TokenKind.error.inj (beq_iff_eq.mp synthetic)
  | _ => cases synthetic

theorem Spells.text_ne_empty {kind : TokenKind} {own : List Char} (spells : kind.Spells own)
    (nonempty : own ≠ []) : kind.text ≠ "" := by
  intro empty
  rcases spells with shown | ⟨isMod, _⟩
  · have same := congrArg String.toList (shown.symm.trans empty)
    rw [String.toList_ofList] at same
    exact nonempty same
  · have other : TokenKind.text (.keyword .modKw) ≠ "" := by decide
    exact other (isMod ▸ empty)

end TokenKind

theorem Token.IsInserted.spelling_eq {token : Token} (inserted : token.IsInserted)
    (source : String) : token.spelling source = "" := by
  cases inserted with
  | @intro kind offset synthetic =>
      have text : (Token.bare kind (.empty offset)).text = "" :=
        TokenKind.text_of_isSynthetic synthetic
      unfold Token.spelling
      rw [text, if_neg]
      rintro ⟨isMod, _⟩
      rw [show kind = .keyword .modKw from isMod] at synthetic
      cases synthetic

namespace Token.Covers

variable {tokens : List Token} {text : List Char}

theorem written (covers : Token.Covers tokens text) (source : String) :
    ∀ back, source.toList = text ++ back →
      (tokens.flatMap (Token.written source)).flatMap String.toList = text := by
  induction covers with
  | nil => exact fun _ _ => rfl
  | @inserted tokens text token covers inserted inductionHypothesis =>
      intro back whole
      have nothing : (token.written source).flatMap String.toList = [] := by
        unfold Token.written
        rw [inserted.spelling_eq]
        cases inserted
        rfl
      rw [List.flatMap_append, List.flatMap_append, inductionHypothesis back whole,
        List.flatMap_singleton, nothing, List.append_nil]
  | @read tokens text blank own leading kind covers trivia spells nonempty
      inductionHypothesis =>
      intro back whole
      have earlier := inductionHypothesis (blank ++ own ++ back) (by rw [whole]; simp)
      have between := trivia.written source rfl (own ++ back)
        (by rw [whole]; simp)
      have place : Span.text ⟨byteLength (text ++ blank),
          byteLength (text ++ blank) + byteLength own⟩ source = String.ofList own :=
        Span.text_of_append back (by rw [whole])
      have spelled : Token.spelling source
          ⟨kind, ⟨byteLength (text ++ blank), byteLength (text ++ blank) + byteLength own⟩,
            leading⟩ = String.ofList own :=
        Token.spelling_of_spells spells place
      rw [List.flatMap_append, List.flatMap_append, earlier, List.flatMap_singleton]
      unfold Token.written
      rw [List.flatMap_append, between, spelled, List.flatMap_singleton,
        String.toList_ofList, List.append_assoc]

theorem tile (covers : Token.Covers tokens text) :
    Span.Tile 0 (byteLength text) (tokens.flatMap Token.coveredSpans) := by
  induction covers with
  | nil => rfl
  | @inserted tokens text token covers inserted inductionHypothesis =>
      have nothing : token.coveredSpans = [] := by
        cases inserted with
        | intro offset synthetic =>
            unfold Token.coveredSpans
            simp [Token.bare, Span.empty, Span.isEmpty]
      rw [List.flatMap_append, List.flatMap_singleton, nothing, List.append_nil]
      exact inductionHypothesis
  | @read tokens text blank own leading kind covers trivia spells nonempty
      inductionHypothesis =>
      have positive := byteLength_pos nonempty
      have wide : Span.isEmpty ⟨byteLength (text ++ blank),
          byteLength (text ++ blank) + byteLength own⟩ = false := by
        unfold Span.isEmpty
        rw [beq_eq_false_iff_ne]
        dsimp only
        omega
      rw [List.flatMap_append, List.flatMap_singleton]
      unfold Token.coveredSpans
      rw [wide]
      refine inductionHypothesis.append (trivia.tile.append ?_)
      rw [← byteLength_append]
      exact ⟨rfl, by dsimp only; omega, (byteLength_append _ _).symm⟩

/-- A token that covers text is neither inserted nor the end of the source. -/
theorem isInserted_of_isSynthetic (covers : Token.Covers tokens text) :
    ∀ token ∈ tokens, token.kind.isSynthetic = true → token.IsInserted := by
  induction covers with
  | nil => exact List.forall_mem_nil _
  | @inserted tokens text token covers inserted inductionHypothesis =>
      intro other member synthetic
      rcases List.mem_append.mp member with earlier | last
      · exact inductionHypothesis other earlier synthetic
      · cases List.mem_singleton.mp last
        exact inserted
  | @read tokens text blank own leading kind covers trivia spells nonempty
      inductionHypothesis =>
      intro other member synthetic
      rcases List.mem_append.mp member with earlier | last
      · exact inductionHypothesis other earlier synthetic
      · cases List.mem_singleton.mp last
        exact absurd (TokenKind.text_of_isSynthetic synthetic) (spells.text_ne_empty nonempty)

theorem ne_endOfFile (covers : Token.Covers tokens text) :
    ∀ token ∈ tokens, token.kind ≠ .endOfFile := by
  induction covers with
  | nil => exact List.forall_mem_nil _
  | @inserted tokens text token covers inserted inductionHypothesis =>
      intro other member
      rcases List.mem_append.mp member with earlier | last
      · exact inductionHypothesis other earlier
      · cases List.mem_singleton.mp last
        cases inserted with
        | @intro kind offset synthetic =>
            intro ended
            rw [show kind = .endOfFile from ended] at synthetic
            cases synthetic
  | @read tokens text blank own leading kind covers trivia spells nonempty
      inductionHypothesis =>
      intro other member
      rcases List.mem_append.mp member with earlier | last
      · exact inductionHypothesis other earlier
      · cases List.mem_singleton.mp last
        intro ended
        exact spells.text_ne_empty nonempty (congrArg TokenKind.text ended)

end Token.Covers

/-! ## The whole source -/

/-- The tokens of a source are some tokens that do not end it and one that does. -/
theorem lex_ends [XidStart] (source : String) (tabWidth : Nat) :
    ∃ (others : List Token) (ending : Token),
      (lex source tabWidth).tokens = others ++ [ending] ∧ ending.kind = .endOfFile ∧
        ∀ token ∈ others, token.kind ≠ .endOfFile := by
  rcases lex_covers source tabWidth with
    ⟨tokens, spelled, trailing, waiting, whole, same, covers, trivia⟩
  exact ⟨tokens, _, same, rfl, covers.ne_endOfFile⟩

/-- Written one behind the other the tokens are the source again, their spans tile it,
and what is inserted takes no room.  Only the last token ends the source. -/
theorem lex_lossless [XidStart] (source : String) (tabWidth : Nat) :
    String.join ((lex source tabWidth).tokens.flatMap (Token.written source)) = source ∧
      Span.Tile 0 source.utf8ByteSize
        ((lex source tabWidth).tokens.flatMap Token.coveredSpans) ∧
      (∀ token ∈ (lex source tabWidth).tokens, token.kind.isSynthetic = true →
        token.span.isEmpty = true ∧ token.leading = []) ∧
      ∃ (others : List Token) (ending : Token),
        (lex source tabWidth).tokens = others ++ [ending] ∧ ending.kind = .endOfFile ∧
          ∀ token ∈ others, token.kind ≠ .endOfFile := by
  rcases lex_covers source tabWidth with
    ⟨tokens, spelled, trailing, waiting, whole, same, covers, trivia⟩
  have size : source.utf8ByteSize = byteLength spelled + byteLength waiting := by
    rw [← byteLength_append, ← whole, ← utf8ByteSize_ofList, String.ofList_toList]
  refine ⟨?_, ?_, ?_, lex_ends source tabWidth⟩
  · rw [← String.toList_inj, String.toList_join, same, List.flatMap_append,
      List.flatMap_append, covers.written source waiting whole, List.flatMap_singleton]
    unfold Token.written
    rw [List.flatMap_append, trivia.written source rfl [] (by rw [whole, List.append_nil])]
    rw [whole]
    exact congrArg (spelled ++ ·) (List.append_nil waiting)
  · rw [same, size, List.flatMap_append, List.flatMap_singleton]
    apply covers.tile.append
    have nothing : Span.isEmpty (.empty (byteLength source.toList)) = true := beq_self_eq_true _
    unfold Token.coveredSpans
    rw [nothing, if_pos rfl, List.append_nil]
    exact trivia.tile
  · rw [same]
    intro token member synthetic
    rcases List.mem_append.mp member with earlier | last
    · cases covers.isInserted_of_isSynthetic token earlier synthetic
      exact ⟨beq_self_eq_true _, rfl⟩
    · cases List.mem_singleton.mp last
      cases synthetic

end Offside
