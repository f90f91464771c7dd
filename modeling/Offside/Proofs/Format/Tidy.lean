import Offside.Proofs.Format.Drafts
import Offside.Proofs.Format.Kinds
import Offside.Text.XidStart

namespace Offside

/-!
# Formatted sources are tidy

A page and its draft are written token by token, so the lines of a formatted source are
those of a draft.  Breaks, blank lines and the blanks at the front of a line never pile up,
and no line ends in a blank, whatever the levels of indentation are.
-/

/-- A page behind some tokens, with a draft of it and what decides on the next piece. -/
structure Page.Draws (width : Nat) (front : List Token) (arrangement : Arrangement) (page : Page)
    (draft : Draft) : Prop where
  behind : arrangement.Behind (front.map Token.kind)
  shows : page.Shows draft
  neat : draft.Neat width front

namespace Page.Draws

variable {width : Nat} {front inner back : List Token} {arrangement : Arrangement} {page : Page}
  {draft : Draft} {token : Token} {begins : Token → Bool}

theorem empty (width : Nat) : Draws width [] .start .empty .empty :=
  ⟨.start, Page.empty_shows, .empty⟩

theorem pass (draws : Draws width front arrangement page draft)
    (noReal : token.kind.isReal = false) (seated : token.Seated (front.map Token.kind)) :
    Draws width (front ++ [token]) (arrangement.pass token.kind) page draft where
  behind := by
    rw [List.map_append, List.map_singleton]
    exact .pass draws.behind noReal
  shows := draws.shows
  neat := draws.neat.pass noReal seated

theorem place (draws : Draws width front arrangement page draft)
    (real : token.kind.isReal = true) (seated : token.Seated (front.map Token.kind))
    (beginsDefinition newlineBehind : Bool) :
    Draws width (front ++ [token]) (arrangement.place token beginsDefinition newlineBehind).2
      (page.write width (arrangement.place token beginsDefinition newlineBehind).1)
      (draft.write width (arrangement.place token beginsDefinition newlineBehind).1 token) := by
  have settled : (front.map Token.kind).getLast?.any TokenKind.isReal = true →
      arrangement.broken = false := draws.behind.settled
  have glued : (front.map Token.kind).getLast?.any TokenKind.isStringText = true ∨
      token.kind.isStringText = true →
        (arrangement.place token beginsDefinition newlineBehind).1.gap = .none := by
    rintro (behindText | isText)
    · refine Arrangement.gap_of_joins (settled ?_)
        (Arrangement.joins_of_glued (seated.behind behindText).1) _ _
      rcases (Option.any_eq_true _ _).mp behindText with ⟨kind, last, isText⟩
      exact (Option.any_eq_true _ _).mpr ⟨kind, last, TokenKind.isReal_of_isStringText isText⟩
    · exact Arrangement.gap_of_joins (settled (seated.text isText).2)
        (Arrangement.joins_of_glued (seated.text isText).1) _ _
  refine ⟨?_, ?_, draws.neat.place real seated glued⟩
  · rw [List.map_append, List.map_singleton]
    exact .place draws.behind real newlineBehind
  · refine draws.shows.write (fun none => (draws.neat.start none).1) rfl (seated.nonempty real)
      fun gap => draws.neat.solid ?_
    exact Bool.eq_false_iff.mpr fun isText => gap (glued (.inl isText))

/-- By induction on the tokens: the page goes on behind what is written. -/
theorem run (draws : Draws width front arrangement page draft)
    (seated : AllSeated (front ++ (inner ++ back))) :
    ∃ arrangementThere pageThere draftThere more,
      Draws width (front ++ inner) arrangementThere pageThere draftThere ∧
      (arrangement.pieces begins (inner ++ back)).foldl (write width) page =
        (arrangementThere.pieces begins back).foldl (write width) pageThere ∧
      draftThere.inks = draft.inks ++ more := by
  induction inner generalizing front arrangement page draft with
  | nil => exact ⟨arrangement, page, draft, [], by rwa [List.append_nil], rfl,
      (List.append_nil _).symm⟩
  | cons token inner inductionHypothesis =>
      have here := seated front token (inner ++ back) rfl
      rw [List.cons_append, List.append_cons] at seated
      cases real : token.kind.isReal with
      | false =>
          rcases inductionHypothesis (draws.pass real here) seated with
            ⟨arrangementThere, pageThere, draftThere, more, ended, same, inks⟩
          rw [← List.append_cons] at ended
          rw [List.cons_append, Arrangement.pieces_of_not_real real]
          exact ⟨arrangementThere, pageThere, draftThere, more, ended, same, inks⟩
      | true =>
          have placed := draws.place real here (begins token)
            ((inner ++ back).head?.any Token.hasNewlineBefore)
          rcases inductionHypothesis placed seated with
            ⟨arrangementThere, pageThere, draftThere, more, ended, same, inks⟩
          rcases draft.writes width (arrangement.place token (begins token)
            ((inner ++ back).head?.any Token.hasNewlineBefore)).1 token with ⟨gap, writes⟩
          rw [← List.append_cons] at ended
          rw [List.cons_append, Arrangement.pieces_of_isReal real, List.foldl_cons]
          refine ⟨arrangementThere, pageThere, draftThere, gap.map Ink.free ++ token.inks ++ more,
            ended, same, ?_⟩
          rw [inks, writes.inks, List.append_assoc]

/-- At the end of a page the current line is ended. -/
theorem text (draws : Draws width front arrangement page draft)
    (noText : (front.map Token.kind).getLast?.any TokenKind.isStringText = false)
    (some : draft.current ≠ []) :
    page.text.toList = Ink.chars (Ink.rows (draft.lines ++ [draft.current])) := by
  have written : page.written.reverse = Ink.chars (Ink.rows draft.lines) ++
      Ink.chars draft.current := draws.shows.written.trans (Ink.chars_append _ _)
  have someChars : Ink.chars draft.current ≠ [] := fun none => some (List.map_eq_nil_iff.mp none)
  have ended : page.text = String.ofList (page.written.reverse ++ ['\n']) := by
    apply Page.text_of_endsSolid
    · rw [written]
      exact (draws.neat.solid noText).append someChars
    · rw [written]
      exact List.append_ne_nil_of_right_ne_nil _ someChars
  rw [ended, String.toList_ofList, written, Ink.rows_append, Ink.rows_cons, Ink.rows_nil,
    Ink.chars_append, List.append_assoc, Ink.chars_append]
  rfl

theorem tidy (draws : Draws width front arrangement page draft)
    (noText : (front.map Token.kind).getLast?.any TokenKind.isStringText = false) :
    ∃ lines, page.text.toList = Ink.chars (Ink.rows lines) ∧
      Ink.owned (Ink.rows lines) = Ink.ofTokens front ∧ Ink.Tidy width lines := by
  have neat := draws.neat
  by_cases blank : draft.current = []
  · have start := (neat.start blank).1
    subst start
    refine ⟨[], ?_, neat.owned, List.forall_mem_nil _, .nil, nofun⟩
    rw [draws.shows.eq_empty]
    rfl
  · rcases neat.turn blank (neat.solid noText) (.inl rfl) with ⟨each, apart⟩
    refine ⟨draft.lines ++ [draft.current], draws.text noText blank, ?_, each, apart,
      fun line last => ?_⟩
    · rw [Ink.rows_append, Ink.rows_cons, Ink.rows_nil, Ink.owned_append, Ink.owned_append]
      have owned := neat.owned
      unfold Draft.inks at owned
      rw [Ink.owned_append] at owned
      rw [← owned]
      exact congrArg (Ink.owned (Ink.rows draft.lines) ++ ·) (List.append_nil _)
    · rw [List.getLast?_concat] at last
      cases last
      exact blank

end Page.Draws

/-- Formatted sources are tidy.  A formatted source consists of lines with a line feed at the end
of each, and the characters in these lines that do not stand between two tokens are the
texts of the tokens of the source, in order.  A line that is not empty begins with the blanks of
a level of indentation and a character that is no blank, and it does not end in a blank; no two
empty lines follow each other, and the last line is not empty.  Only the tokens of strings with
three marks have line feeds of their own. -/
theorem format_tidy [XidStart] {source formatted : String} {options : FormatOptions}
    (formats : format source options = .ok formatted) :
    (∃ lines, formatted.toList = Ink.chars (Ink.rows lines) ∧
      Ink.owned (Ink.rows lines) = Ink.ofTokens (lex source defaultTabWidth).tokens ∧
      Ink.Tidy options.indentWidth lines) ∧
    ∀ front token back, (lex source defaultTabWidth).tokens = front ++ token :: back →
      '\n' ∈ token.text.toList → token.InTriple (front.map Token.kind) := by
  rcases format_begins formats with ⟨silent, begins, printed⟩
  rcases seated_lex silent with ⟨seated, noText⟩
  have whole : AllSeated ([] ++ ((lex source defaultTabWidth).tokens ++ [])) := by
    rw [List.append_nil]
    exact seated
  rcases (Page.Draws.empty options.indentWidth).run whole with
    ⟨arrangement, page, draft, more, draws, same, inks⟩
  rw [List.append_nil] at same
  have written : Page.ofPieces options.indentWidth (Arrangement.start.pieces begins
      (lex source defaultTabWidth).tokens) = page := same
  refine ⟨?_, fun front token back split => (seated front token back split).lines⟩
  rw [printed, written]
  exact draws.tidy noText

/-- A string over two lines, a splice in its text and a blank line between definitions. -/
theorem format_tidy_strings :
    let source := "def f() = \"\"\"a \n b$\x7bx\x7d\n\"\"\"\ndef g() =\n    1\n"
    let formatted := "def f() = \"\"\"a \n b$\x7bx\x7d\n\"\"\"\n\ndef g() =\n    1\n"
    format source .default = .ok formatted ∧
      (∃ lines, formatted.toList = Ink.chars (Ink.rows lines) ∧
        Ink.owned (Ink.rows lines) = Ink.ofTokens (lex source defaultTabWidth).tokens ∧
        Ink.Tidy 4 lines) ∧
      ∀ front token back, (lex source defaultTabWidth).tokens = front ++ token :: back →
        '\n' ∈ token.text.toList → token.InTriple (front.map Token.kind) := by
  intro source formatted
  have formats : format source .default = .ok formatted := ok_of_toOption (by decide +kernel)
  exact ⟨formats, format_tidy formats⟩

end Offside
