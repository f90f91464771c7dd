import Offside.Proofs.Lexing.CarriageReturns
import Offside.Proofs.Parsing.Composition
import Offside.Proofs.Parsing.Edited
import Offside.Proofs.Parsing.Spacing
import Offside.Text.XidStart

namespace Offside

/-!
# Line ends do not matter

A source may end its lines with a line feed, or with a carriage return and a line feed.
The tokens are the same up to the texts of strings that span lines, and so the tree has the
same nodes, and the same faults are reported in the same order.

This holds for every two sources that are read side by side: the parse of the one source,
with the texts of its strings edited, looks like the parse of the other one.
-/

/-- The tokens may stand in other places, and a relation between the offsets of the two
sources says how the places belong to each other. -/
abbrev Likeness.placed (place : Nat → Nat → Prop) : Likeness :=
  { Likeness.throughout with
    places := fun span there => place span.start there.start ∧ place span.stop there.stop }

/-- The relation between two sources keeps the order of their places. -/
structure Rewriting.Keeps (rewriting : Rewriting) : Prop where
  origin : rewriting.place 0 0
  order : ∀ first firstThere second secondThere, rewriting.place first firstThere →
    rewriting.place second secondThere → (first ≤ second ↔ firstThere ≤ secondThere)

namespace TokenStream

variable {stream other : TokenStream}

theorem toList_getElem? (stream : TokenStream) (position : Nat) :
    stream.toList[min position stream.body.size]? = some (stream.tokenAt position) := by
  rcases Nat.lt_or_ge position stream.body.size with inside | beyond
  · rw [Nat.min_eq_left (Nat.le_of_lt inside), tokenAt_eq]
    unfold toList
    rw [List.getElem?_append_left (by simpa using inside)]
    simp [inside]
  · rw [Nat.min_eq_right beyond, tokenAt_of_size_le stream position beyond]
    simp [toList]

/-- What two lists have in common entry by entry, their streams have in common at every
position. -/
theorem agree_tokenAt {agree : Token → Token → Prop}
    (alike : List.Forall₂ agree stream.toList other.toList) (position : Nat) :
    agree (stream.tokenAt position) (other.tokenAt position) := by
  have sizes : other.body.size = stream.body.size := by
    have lengths := alike.length_eq
    simp [toList] at lengths
    exact lengths.symm
  have here := stream.toList_getElem? position
  have there := other.toList_getElem? position
  rw [sizes] at there
  rcases List.getElem?_eq_some_iff.mp here with ⟨within, shown⟩
  rcases List.getElem?_eq_some_iff.mp there with ⟨withinThere, shownThere⟩
  have agrees := alike.get within withinThere
  rwa [List.get_eq_getElem, List.get_eq_getElem, shown, shownThere] at agrees

/-- Tokens that were read side by side are the same tokens in other places, once the texts
of strings are edited. -/
theorem reappears_of_parallels {rewriting : Rewriting} (origin : rewriting.place 0 0)
    (alike : List.Forall₂ (Token.Parallels rewriting) stream.toList other.toList) :
    (stream.mapText rewriting.edit).Reappears other 0 (.placed rewriting.place) := by
  have parallels := agree_tokenAt alike
  refine ⟨?_, fun _ => rfl, fun position => ?_, fun position => ?_, fun position _ => ?_,
    fun position _ => ?_, fun position _ _ _ => ?_⟩
  · have lengths := alike.length_eq
    simp [toList] at lengths
    rw [size_body_mapText, Nat.zero_add, lengths]
  · rw [Nat.zero_add, tokenAt_mapText]
    exact (parallels position).kind.symm
  · rw [Nat.zero_add, tokenAt_mapText]
    exact ⟨(parallels position).start, (parallels position).stop⟩
  · rw [Nat.zero_add]
    rcases Nat.eq_zero_or_pos position with first | behind
    · rw [first]
      exact ⟨origin, origin⟩
    · unfold previousEnd
      rw [previous?_moveTo behind, previous?_moveTo behind, tokenAt_mapText]
      exact ⟨(parallels (position - 1)).stop, (parallels (position - 1)).stop⟩
  · rw [Nat.zero_add, tokenAt_mapText]
    exact (parallels position).newline.symm
  · rw [Nat.zero_add, tokenAt_mapText]
    exact (parallels (position + 1)).trivia.symm

end TokenStream

/-- Reports in places that keep their order are sorted alike. -/
theorem sortDiagnostics_agree {rewriting : Rewriting} (keeps : rewriting.Keeps)
    {diagnostics others : List Diagnostic}
    (agree : List.Forall₂ (Diagnostic.Agrees (.placed rewriting.place)) diagnostics others) :
    List.Forall₂ (Diagnostic.Agrees (.placed rewriting.place)) (sortDiagnostics diagnostics)
      (sortDiagnostics others) := by
  refine forall₂_mergeSort agree ?_
  intro first firstThere second secondThere agrees agreesThere
  exact decide_eq_decide.mpr (keeps.order _ _ _ _ agrees.places.1 agreesThere.places.1)

/-- Without complaints of the lexer there are the reports of the parser only. -/
theorem diagnostics_parse [XidStart] {source : String} {options : ParseOptions}
    (sound : (lex source options.tabWidth).diagnostics = []) :
    (parse source options).diagnostics =
      sortDiagnostics (parsedAlone source options).diagnostics := by
  unfold parse parsedAlone sessionOf
  dsimp only
  rw [sound, List.nil_append]

/-- Two sources that are read side by side without complaint have trees with the same
nodes, and the same faults are reported of them in the same order. -/
theorem parse_of_parallels [XidStart] {source other : String} {options : ParseOptions}
    {rewriting : Rewriting} (keeps : rewriting.Keeps)
    (parallels : (lex source options.tabWidth).Parallels rewriting (lex other options.tabWidth))
    (sound : (lex source options.tabWidth).diagnostics = []) :
    (parse other options).root.sexp = (parse source options).root.sexp ∧
      (parse other options).diagnostics.map Diagnostic.fault =
        (parse source options).diagnostics.map Diagnostic.fault := by
  have soundThere := parallels.sound sound
  have sessions : sessionOf other options = sessionOf source options := by
    have complaint := lexerComplained_of_silent sound
    have complaintThere := lexerComplained_of_silent soundThere
    exact congrArg (Session.mk options.maxDepth) (complaintThere.trans complaint.symm)
  have tokens := parallels.tokens
  rw [← toList_lex source, ← toList_lex other] at tokens
  have parsed := parseStream_reappears
    (TokenStream.reappears_of_parallels keeps.origin tokens) rfl
    (TokenStream.position_ofList _) (TokenStream.position_ofList _) (sessionOf source options)
  rw [parseStream_mapText] at parsed
  constructor
  · rw [root_parse, root_parse, ← Node.sexp_outline]
    unfold parsedAlone
    rw [sessions, parsed.1, Node.sexp_outline, Node.sexp_map]
  · rw [diagnostics_parse sound, diagnostics_parse soundThere]
    unfold parsedAlone
    rw [sessions]
    exact map_eq_of_forall₂ (sortDiagnostics_agree keeps parsed.2) fun _ _ agrees => agrees.fault

/-! ## Carriage returns -/

/-- What stands behind another place still does with carriage returns in between. -/
theorem Rewriting.returns_keeps (source : List Char) : (Rewriting.returns source).Keeps := by
  refine ⟨⟨[], source, rfl, rfl, rfl⟩, ?_⟩
  rintro _ _ _ _ ⟨front, back, split, rfl, rfl⟩ ⟨other, behind, splitThere, rfl, rfl⟩
  rcases List.prefix_or_prefix_of_prefix ⟨back, split.symm⟩ ⟨behind, splitThere.symm⟩ with
    ⟨between, further⟩ | ⟨between, nearer⟩
  · rw [← further, crlf_append, Utf8.byteLength_append, Utf8.byteLength_append]
    exact iff_of_true (Nat.le_add_right _ _) (Nat.le_add_right _ _)
  · rw [← nearer, crlf_append, Utf8.byteLength_append, Utf8.byteLength_append]
    cases between with
    | nil => exact iff_of_true (Nat.le_refl _) (Nat.le_refl _)
    | cons c between =>
        have positive := Utf8.byteLength_pos (List.cons_ne_nil c between)
        have positiveThere := Utf8.byteLength_pos (crlf_ne_nil (List.cons_ne_nil c between))
        exact iff_of_false (by omega) (by omega)

/-- A source in which the lexer finds no fault may have a carriage return in front of each
of its line feeds.  It lexes without fault to the same tokens, up to the line ends within
strings, and it parses to the same nodes, with the same faults. -/
theorem parse_withReturns [XidStart] (source : String) (options : ParseOptions)
    (sound : (lex source options.tabWidth).diagnostics = []) :
    (lex (withReturns source) options.tabWidth).diagnostics = [] ∧
      (lex (withReturns source) options.tabWidth).tokens.map Token.kind =
        (lex source options.tabWidth).tokens.map (fun token => token.kind.mapText withReturns) ∧
      (lex (withReturns source) options.tabWidth).tokens.map Token.hasNewlineBefore =
        (lex source options.tabWidth).tokens.map Token.hasNewlineBefore ∧
      (parse (withReturns source) options).root.sexp = (parse source options).root.sexp ∧
      (parse (withReturns source) options).diagnostics.map Diagnostic.fault =
        (parse source options).diagnostics.map Diagnostic.fault := by
  have parallels := lex_withReturns_parallels sound
  exact ⟨parallels.sound sound, parallels.kinds, parallels.newlines,
    parse_of_parallels (Rewriting.returns_keeps _) parallels sound⟩

/-- A block, a string that spans lines, a comment at the end of a line and a definition
without a name, which is reported in both sources. -/
theorem parse_withReturns_lines :
    (lex "let x =\n  s\"\"\"$y\n\"\"\"  // c\ndef\n" 4).diagnostics = [] ∧
      withReturns "let x =\n  s\"\"\"$y\n\"\"\"  // c\ndef\n" =
        "let x =\r\n  s\"\"\"$y\r\n\"\"\"  // c\r\ndef\r\n" ∧
      (parse "let x =\n  s\"\"\"$y\n\"\"\"  // c\ndef\n" ⟨4, 128⟩).hasErrors = true ∧
      (lex (withReturns "let x =\n  s\"\"\"$y\n\"\"\"  // c\ndef\n") 4).tokens.map Token.kind =
        (lex "let x =\n  s\"\"\"$y\n\"\"\"  // c\ndef\n" 4).tokens.map
          (fun token => token.kind.mapText withReturns) ∧
      (parse (withReturns "let x =\n  s\"\"\"$y\n\"\"\"  // c\ndef\n") ⟨4, 128⟩).root.sexp =
        (parse "let x =\n  s\"\"\"$y\n\"\"\"  // c\ndef\n" ⟨4, 128⟩).root.sexp ∧
      (parse (withReturns "let x =\n  s\"\"\"$y\n\"\"\"  // c\ndef\n") ⟨4, 128⟩).diagnostics.map
          Diagnostic.fault =
        (parse "let x =\n  s\"\"\"$y\n\"\"\"  // c\ndef\n" ⟨4, 128⟩).diagnostics.map
          Diagnostic.fault := by
  have sound : (lex "let x =\n  s\"\"\"$y\n\"\"\"  // c\ndef\n" 4).diagnostics = [] := by
    decide +kernel
  have same := parse_withReturns "let x =\n  s\"\"\"$y\n\"\"\"  // c\ndef\n" ⟨4, 128⟩ sound
  exact ⟨sound, by decide +kernel, by decide +kernel, same.2.1, same.2.2.2⟩

end Offside
