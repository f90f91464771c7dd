import Offside.Format.Page
import Offside.Proofs.Text.Classes

namespace Offside

/-!
# The text of a page

A page shows its pieces one behind the other, each behind the blanks that set it apart.
Blanks at the end of what was written go, but a piece does not end in blanks, so they
never take a part of the last piece with them.
-/

/-- The line breaks that end a line, with or without a blank line behind it. -/
inductive Gap.Breaks : Gap → List Char → Prop
  | line : Breaks .line ['\n']
  | tight : Breaks .blankLine ['\n']
  | wide : Breaks .blankLine ['\n', '\n']

/-- The blanks that set a piece apart from the one before. -/
inductive Piece.Blanks (width : Nat) (piece : Piece) : List Char → Prop
  | none (gap : piece.gap = .none) : Blanks width piece []
  | space (gap : piece.gap = .space) : Blanks width piece [' ']
  | line {breaks : List Char} (gap : piece.gap.Breaks breaks) :
      Blanks width piece (breaks ++ List.replicate (piece.level * width) ' ')

/-- A text shows some pieces and ends its last line. -/
inductive Piece.Shows (width : Nat) : List Piece → List Char → Prop
  | nil : Shows width [] ['\n']
  | cons {piece : Piece} {pieces : List Piece} {blanks text : List Char}
      (apart : piece.Blanks width blanks) (shows : Shows width pieces text) :
      Shows width (piece :: pieces) (blanks ++ (piece.text.toList ++ text))

theorem Piece.Shows.ne_nil {width : Nat} {pieces : List Piece} {text : List Char}
    (shows : Piece.Shows width pieces text) : text ≠ [] := by
  induction shows with
  | nil => exact List.cons_ne_nil _ _
  | cons apart shows inductionHypothesis =>
      exact List.append_ne_nil_of_right_ne_nil _
        (List.append_ne_nil_of_right_ne_nil _ inductionHypothesis)

namespace Page

variable {page : Page} {width : Nat} {piece : Piece} {pieces : List Piece}

/-- Something is written in the current line. -/
def InLine (page : Page) : Prop := page.atLineStart = false

theorem leaveGap_eq (inLine : page.InLine) (gap : Gap) :
    (gap = .none ∧ page.leaveGap gap = page) ∨
    (gap = .space ∧ page.leaveGap gap = ⟨' ' :: page.written, false⟩) ∨
    ∃ breaks, gap.Breaks breaks ∧ page.leaveGap gap = ⟨breaks ++ page.written, true⟩ := by
  unfold InLine at inLine
  cases gap with
  | none => exact Or.inl ⟨rfl, rfl⟩
  | space =>
      refine Or.inr (Or.inl ⟨rfl, ?_⟩)
      unfold leaveGap space
      rw [inLine]
      rfl
  | line =>
      refine Or.inr (Or.inr ⟨['\n'], .line, ?_⟩)
      unfold leaveGap endLine
      rw [inLine]
      rfl
  | blankLine =>
      have ended : page.endLine = ⟨'\n' :: page.written, true⟩ := by
        unfold endLine
        rw [inLine]
        rfl
      refine Or.inr (Or.inr ?_)
      unfold leaveGap endParagraph
      rw [ended]
      dsimp only
      split
      · exact ⟨['\n'], .tight, rfl⟩
      · rename_i same
        exact ⟨['\n'], .tight, rfl⟩
      · exact ⟨['\n', '\n'], .wide, rfl⟩

theorem reverse_of_breaks {gap : Gap} {breaks : List Char} (shown : gap.Breaks breaks) :
    breaks.reverse = breaks := by
  cases shown <;> rfl

theorem writeText_of_ne {text : String} (nonempty : text ≠ "") (page : Page)
    (indentation : Nat) :
    page.writeText indentation text =
      ⟨text.toList.reverse ++
        (if page.atLineStart then List.replicate indentation ' ' ++ page.written
          else page.written), false⟩ := by
  have some : ¬ text.isEmpty = true := fun nothing => nonempty (String.isEmpty_iff.mp nothing)
  unfold writeText
  exact if_neg some

/-- Writing a piece puts its blanks and its text behind what was written. -/
theorem write_shows (inLine : page.InLine) (nonempty : piece.text ≠ "") :
    ∃ blanks, piece.Blanks width blanks ∧ (page.write width piece).InLine ∧
      (page.write width piece).written.reverse =
        page.written.reverse ++ (blanks ++ piece.text.toList) := by
  unfold write
  rw [writeText_of_ne nonempty]
  rcases leaveGap_eq inLine piece.gap with ⟨gap, left⟩ | ⟨gap, left⟩ | ⟨breaks, gap, left⟩
  · refine ⟨[], .none gap, rfl, ?_⟩
    have current : ¬ page.atLineStart = true := Bool.eq_false_iff.mp inLine
    rw [left, if_neg current, List.reverse_append, List.reverse_reverse]
    rfl
  · refine ⟨[' '], .space gap, rfl, ?_⟩
    rw [left, if_neg Bool.false_ne_true, List.reverse_append, List.reverse_reverse,
      List.reverse_cons, List.append_assoc]
  · refine ⟨_, .line gap, rfl, ?_⟩
    rw [left, if_pos rfl, List.reverse_append, List.reverse_reverse, List.reverse_append,
      List.reverse_append, reverse_of_breaks gap, List.reverse_replicate]
    simp only [List.append_assoc]

theorem text_of_endsSolid (solid : EndsSolid page.written.reverse)
    (some : page.written.reverse ≠ []) :
    page.text = String.ofList (page.written.reverse ++ ['\n']) := by
  rcases solid.exists_concat some with ⟨front, c, whole, notBlank⟩
  have written : page.written = c :: front.reverse := by
    rw [← List.reverse_reverse page.written, whole, List.reverse_append]
    rfl
  have kept : page.written.dropWhile isBlank = c :: front.reverse := by
    rw [written, List.dropWhile_cons, notBlank]
    rfl
  unfold text
  rw [kept, written]
  show String.ofList ('\n' :: (c :: front.reverse)).reverse = _
  rw [List.reverse_cons]

/-- Pieces that are written behind others come to stand behind them, as long as the last
of them does not end in a blank. -/
theorem foldl_write_shows (inLine : page.InLine)
    (nonempty : ∀ piece ∈ pieces, piece.text ≠ "")
    (solid : pieces = [] → EndsSolid page.written.reverse ∧ page.written.reverse ≠ [])
    (lastSolid : ∀ piece ∈ pieces.getLast?, EndsSolid piece.text.toList) :
    ∃ text, Piece.Shows width pieces text ∧
      (pieces.foldl (write width) page).text =
        String.ofList (page.written.reverse ++ text) := by
  induction pieces generalizing page with
  | nil =>
      have ends := solid rfl
      exact ⟨['\n'], .nil, text_of_endsSolid ends.1 ends.2⟩
  | cons piece pieces inductionHypothesis =>
      rw [List.forall_mem_cons] at nonempty
      rcases @write_shows page width piece inLine nonempty.1 with
        ⟨blanks, apart, goesOn, written⟩
      have someText : piece.text.toList ≠ [] := fun none =>
        nonempty.1 (String.toList_eq_nil_iff.mp none)
      have ends : pieces = [] → EndsSolid (page.write width piece).written.reverse ∧
          (page.write width piece).written.reverse ≠ [] := by
        intro last
        subst last
        rw [written, ← List.append_assoc]
        exact ⟨(lastSolid piece rfl).append someText,
          List.append_ne_nil_of_right_ne_nil _ someText⟩
      have lastOfRest : ∀ piece ∈ pieces.getLast?, EndsSolid piece.text.toList := by
        intro last member
        apply lastSolid
        cases pieces with
        | nil => cases member
        | cons next pieces => exact member
      rcases inductionHypothesis goesOn nonempty.2 ends lastOfRest with ⟨text, shows, shown⟩
      refine ⟨_, .cons apart shows, ?_⟩
      rw [List.foldl_cons, shown, written]
      simp only [List.append_assoc]

end Page

/-- A text shows some pieces, and the first of them begins the page.  The gap in front of
it is of no account. -/
inductive Piece.Begins (width : Nat) : List Piece → List Char → Prop
  | nil : Begins width [] []
  | cons {piece : Piece} {pieces : List Piece} {text : List Char}
      (shows : Shows width pieces text) :
      Begins width (piece :: pieces)
        (List.replicate (piece.level * width) ' ' ++ (piece.text.toList ++ text))

namespace Page

variable {width : Nat} {pieces : List Piece}

theorem leaveGap_empty (gap : Gap) : empty.leaveGap gap = empty := by
  cases gap <;> rfl

theorem ofPieces_begins (nonempty : ∀ piece ∈ pieces, piece.text ≠ "")
    (lastSolid : ∀ last ∈ pieces.getLast?, EndsSolid last.text.toList) :
    Piece.Begins width pieces (ofPieces width pieces).text.toList := by
  cases pieces with
  | nil => exact .nil
  | cons piece pieces =>
      rw [List.forall_mem_cons] at nonempty
      have someText : piece.text.toList ≠ [] := fun none =>
        nonempty.1 (String.toList_eq_nil_iff.mp none)
      have written : empty.write width piece =
          ⟨piece.text.toList.reverse ++ List.replicate (piece.level * width) ' ', false⟩ := by
        unfold write
        rw [leaveGap_empty, writeText_of_ne nonempty.1]
        exact congrArg (fun blanks => Page.mk (piece.text.toList.reverse ++ blanks) false)
          (List.append_nil _)
      have reversed : (empty.write width piece).written.reverse =
          List.replicate (piece.level * width) ' ' ++ piece.text.toList := by
        rw [written, List.reverse_append, List.reverse_reverse, List.reverse_replicate]
      have goesOn : (empty.write width piece).InLine := by
        rw [written]
        rfl
      have ends : pieces = [] → EndsSolid (empty.write width piece).written.reverse ∧
          (empty.write width piece).written.reverse ≠ [] := by
        intro last
        subst last
        rw [reversed]
        exact ⟨(lastSolid piece rfl).append someText,
          List.append_ne_nil_of_right_ne_nil _ someText⟩
      have lastOfRest : ∀ piece ∈ pieces.getLast?, EndsSolid piece.text.toList := by
        intro last member
        apply lastSolid
        cases pieces with
        | nil => cases member
        | cons next pieces => exact member
      rcases foldl_write_shows goesOn nonempty.2 ends lastOfRest with ⟨text, shows, shown⟩
      unfold ofPieces
      rw [List.foldl_cons, shown, String.toList_ofList, reversed, List.append_assoc]
      exact .cons shows

end Page
end Offside
