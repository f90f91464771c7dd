import Offside.Proofs.Format.Seats

namespace Offside

/-!
# The lines of a page

To tell the blanks between two tokens from the blanks in their texts, every character of a
formatted source is marked with the token that it belongs to.  A draft is a page with such
marks, cut into lines at the line feeds that belong to no token.  A page and its draft are
written side by side, and the lines of the draft are tidy all the time: whatever sets two
tokens apart stands behind a character that is no blank.
-/

/-- A character of a formatted source, and the token whose text it belongs to, if any. -/
structure Ink where
  char : Char
  owner : Option Token

def Token.inks (token : Token) : List Ink := token.text.toList.map fun c => ⟨c, some token⟩

namespace Ink

/-- A character between two tokens. -/
def free (c : Char) : Ink := ⟨c, none⟩

def chars (inks : List Ink) : List Char := inks.map Ink.char

/-- The characters that belong to tokens. -/
def owned (inks : List Ink) : List Ink := inks.filter fun ink => ink.owner.isSome

def ofTokens (tokens : List Token) : List Ink := tokens.flatMap Token.inks

def indentation (count : Nat) : List Ink := List.replicate count (free ' ')

/-- Some lines, each with a line feed at its end. -/
def rows (lines : List (List Ink)) : List Ink := lines.flatMap fun line => line ++ [free '\n']

/-- A line that begins as it should: behind the blanks of some level of indentation comes a
character that is no blank, and only single blanks stand between tokens. -/
inductive Begun (width : Nat) (line : List Ink) : Prop
  | intro (level : Nat) (text : List Ink) (split : line = indentation (level * width) ++ text)
      (solid : headIs (fun c => !isBlank c) (chars text) = true)
      (spaced : ∀ ink ∈ text, ink.owner = none → ink.char = ' ')

/-- Lines none of which ends in a blank, with no two empty ones in a row or one at the end. -/
structure Tidy (width : Nat) (lines : List (List Ink)) : Prop where
  each : ∀ line ∈ lines, line = [] ∨ Begun width line ∧ EndsSolid (chars line)
  apart : lines.IsChain fun line next => line ≠ [] ∨ next ≠ []
  last : ∀ line ∈ lines.getLast?, line ≠ []

variable {inks others : List Ink} {token : Token} {tokens : List Token} {width : Nat}

@[simp]
theorem chars_append (inks others : List Ink) :
    chars (inks ++ others) = chars inks ++ chars others :=
  List.map_append

@[simp]
theorem chars_inks (token : Token) : chars token.inks = token.text.toList := by
  unfold chars Token.inks
  rw [List.map_map]
  exact List.map_id _

@[simp]
theorem chars_indentation (count : Nat) : chars (indentation count) = List.replicate count ' ' :=
  List.map_replicate

@[simp]
theorem owned_append (inks others : List Ink) :
    owned (inks ++ others) = owned inks ++ owned others :=
  List.filter_append inks others

@[simp]
theorem owned_inks (token : Token) : owned token.inks = token.inks := by
  refine List.filter_eq_self.mpr fun ink member => ?_
  rcases List.mem_map.mp member with ⟨c, _, same⟩
  rw [← same]
  rfl

theorem owned_map_free (text : List Char) : owned (text.map free) = [] := by
  refine List.filter_eq_nil_iff.mpr fun ink member => ?_
  rcases List.mem_map.mp member with ⟨c, _, rfl⟩
  exact Bool.false_ne_true

@[simp]
theorem rows_append (lines others : List (List Ink)) :
    rows (lines ++ others) = rows lines ++ rows others :=
  List.flatMap_append

@[simp]
theorem rows_cons (line : List Ink) (lines : List (List Ink)) :
    rows (line :: lines) = line ++ free '\n' :: rows lines := by
  unfold rows
  rw [List.flatMap_cons, List.append_assoc]
  rfl

@[simp]
theorem rows_nil : rows [] = [] := rfl

@[simp]
theorem ofTokens_append (tokens others : List Token) :
    ofTokens (tokens ++ others) = ofTokens tokens ++ ofTokens others :=
  List.flatMap_append

theorem ofTokens_singleton (token : Token) : ofTokens [token] = token.inks :=
  List.append_nil _

theorem inks_of_not_real (noReal : token.kind.isReal = false) : token.inks = [] := by
  rcases token with ⟨kind, span, leading⟩
  cases kind with
  | indent => rfl
  | outdent => rfl
  | autoSemicolon => rfl
  | endOfFile => rfl
  | _ => cases noReal

theorem inks_ne_nil (nonempty : token.text ≠ "") : token.inks ≠ [] := by
  intro none
  exact nonempty (String.toList_eq_nil_iff.mp (List.map_eq_nil_iff.mp none))

end Ink

/-! ## Drafts -/

/-- The lines of a page that have ended, and the one that is being written. -/
structure Draft where
  lines : List (List Ink)
  current : List Ink

namespace Draft

def empty : Draft := ⟨[], []⟩

def inks (draft : Draft) : List Ink := Ink.rows draft.lines ++ draft.current

/-- When the current line is ended, a line feed comes behind it. -/
theorem rows_ended (draft : Draft) :
    Ink.rows (draft.lines ++ [draft.current]) = draft.inks ++ [Ink.free '\n'] := by
  unfold inks
  rw [Ink.rows_append, Ink.rows_cons, Ink.rows_nil, List.append_assoc]

/-- Something is written in the current line, so the last of it is the last of all. -/
theorem getLast?_inks {draft : Draft} (written : draft.current ≠ []) :
    draft.inks.getLast? = draft.current.getLast? :=
  List.getLast?_append_of_ne_nil _ written

def leaveGap (draft : Draft) : Gap → Draft
  | .none => draft
  | .space => { draft with current := draft.current ++ [.free ' '] }
  | .line => ⟨draft.lines ++ [draft.current], []⟩
  | .blankLine => ⟨draft.lines ++ [draft.current, []], []⟩

def writeText (draft : Draft) (count : Nat) (token : Token) : Draft :=
  { draft with
    current :=
      (if draft.current.isEmpty then Ink.indentation count else draft.current) ++ token.inks }

/-- Write a token into the place of its piece.  The first one has nothing to be set apart
from. -/
def write (width : Nat) (draft : Draft) (piece : Piece) (token : Token) : Draft :=
  (if draft.current.isEmpty then draft else draft.leaveGap piece.gap).writeText
    (piece.level * width) token

/-- What writing a token does to a draft, and what comes to stand in front of the token. -/
inductive Writes (width : Nat) (piece : Piece) (token : Token) (draft : Draft) :
    List Char → Draft → Prop
  | start (begins : draft.current = []) :
      Writes width piece token draft (List.replicate (piece.level * width) ' ')
        ⟨draft.lines, Ink.indentation (piece.level * width) ++ token.inks⟩
  | glued (some : draft.current ≠ []) (gap : piece.gap = .none) :
      Writes width piece token draft [] ⟨draft.lines, draft.current ++ token.inks⟩
  | spaced (some : draft.current ≠ []) (gap : piece.gap = .space) :
      Writes width piece token draft [' ']
        ⟨draft.lines, draft.current ++ [.free ' '] ++ token.inks⟩
  | line (some : draft.current ≠ []) (gap : piece.gap = .line) :
      Writes width piece token draft ('\n' :: List.replicate (piece.level * width) ' ')
        ⟨draft.lines ++ [draft.current], Ink.indentation (piece.level * width) ++ token.inks⟩
  | blankLine (some : draft.current ≠ []) (gap : piece.gap = .blankLine) :
      Writes width piece token draft ('\n' :: '\n' :: List.replicate (piece.level * width) ' ')
        ⟨draft.lines ++ [draft.current, []], Ink.indentation (piece.level * width) ++ token.inks⟩

theorem writes (width : Nat) (piece : Piece) (token : Token) (draft : Draft) :
    ∃ gap, Writes width piece token draft gap (draft.write width piece token) := by
  unfold write writeText
  cases current : draft.current.isEmpty with
  | true =>
      rw [if_pos rfl, current, if_pos rfl]
      exact ⟨_, .start (List.isEmpty_iff.mp current)⟩
  | false =>
      have some := List.isEmpty_eq_false_iff.mp current
      rw [if_neg Bool.false_ne_true]
      cases gap : piece.gap with
      | none =>
          unfold leaveGap
          dsimp only
          rw [current, if_neg Bool.false_ne_true]
          exact ⟨_, .glued some gap⟩
      | space =>
          unfold leaveGap
          dsimp only
          rw [List.isEmpty_eq_false_iff.mpr (List.append_ne_nil_of_left_ne_nil some _),
            if_neg Bool.false_ne_true]
          exact ⟨_, .spaced some gap⟩
      | line => exact ⟨_, .line some gap⟩
      | blankLine => exact ⟨_, .blankLine some gap⟩

/-- What is written comes behind what was there. -/
theorem Writes.inks {width : Nat} {piece : Piece} {token : Token} {draft after : Draft}
    {gap : List Char} (writes : Writes width piece token draft gap after) :
    after.inks = draft.inks ++ (gap.map Ink.free ++ token.inks) := by
  have blanks : ∀ count, (List.replicate count ' ').map Ink.free = Ink.indentation count :=
    fun count => List.map_replicate
  unfold Draft.inks
  cases writes with
  | start begins => rw [blanks, begins, List.append_nil]
  | glued some gap => rw [List.append_assoc]; rfl
  | spaced some gap => simp only [List.append_assoc]; rfl
  | line some gap =>
      simp only [Ink.rows_append, Ink.rows_cons, Ink.rows_nil, List.map_cons, blanks,
        List.append_assoc, List.cons_append, List.nil_append]
  | blankLine some gap =>
      simp only [Ink.rows_append, Ink.rows_cons, Ink.rows_nil, List.map_cons, blanks,
        List.append_assoc, List.cons_append, List.nil_append]

end Draft

namespace Page

/-- A page and a draft of it. -/
structure Shows (page : Page) (draft : Draft) : Prop where
  written : page.written.reverse = Ink.chars draft.inks
  line : page.atLineStart = draft.current.isEmpty

variable {page : Page} {draft : Draft} {width : Nat} {piece : Piece} {token : Token}

theorem empty_shows : empty.Shows .empty := ⟨rfl, rfl⟩

/-- Behind a character that is no blank a blank line is left whole. -/
theorem leaveGap_blankLine (inLine : page.InLine) (some : page.written ≠ [])
    (solid : EndsSolid page.written.reverse) :
    page.leaveGap .blankLine = ⟨'\n' :: '\n' :: page.written, true⟩ := by
  rcases page with ⟨written, atLineStart⟩
  cases written with
  | nil => exact absurd rfl some
  | cons c written =>
      have noBreak : c ≠ '\n' := by
        rintro rfl
        have blank := solid '\n' (by rw [List.reverse_cons, List.getLast?_concat]; rfl)
        rw [isBlank_newline] at blank
        cases blank
      have current : atLineStart = false := inLine
      subst current
      unfold leaveGap endParagraph endLine
      dsimp only
      rw [if_neg Bool.false_ne_true]
      split
      · rename_i nothing
        cases nothing
      · rename_i same
        exact absurd (List.cons.inj (List.cons.inj same).2).1 noBreak
      · rfl

namespace Shows

/-- Before anything is written there is nothing on the page. -/
theorem eq_empty (shows : page.Shows .empty) : page = empty := by
  rcases page with ⟨written, atLineStart⟩
  have nothing : written = [] := List.reverse_eq_nil_iff.mp shows.written
  have begins : atLineStart = true := shows.line
  rw [nothing, begins]
  rfl

theorem leaveGap (shows : page.Shows draft) (some : draft.current ≠ []) {gap : Gap}
    (solid : gap ≠ .none → EndsSolid (Ink.chars draft.current)) :
    (page.leaveGap gap).Shows (draft.leaveGap gap) := by
  have inLine : page.InLine := shows.line.trans (List.isEmpty_eq_false_iff.mpr some)
  have someInks : Ink.chars draft.current ≠ [] := fun none => some (List.map_eq_nil_iff.mp none)
  have written : page.written.reverse = Ink.chars (Ink.rows draft.lines) ++
      Ink.chars draft.current := shows.written.trans (Ink.chars_append _ _)
  have ended : ∀ breaks : List Char, (breaks ++ page.written).reverse =
      Ink.chars draft.inks ++ breaks.reverse := by
    intro breaks
    rw [List.reverse_append, shows.written]
  cases gap with
  | none => exact shows
  | space =>
      have left : page.leaveGap .space = ⟨' ' :: page.written, false⟩ := by
        unfold Page.leaveGap space
        rw [inLine]
        rfl
      rw [left]
      refine ⟨(ended [' ']).trans ?_, ?_⟩
      · unfold Draft.inks Draft.leaveGap
        simp only [Ink.chars_append, List.append_assoc]
        rfl
      · exact (List.isEmpty_eq_false_iff.mpr
          (List.append_ne_nil_of_left_ne_nil some [Ink.free ' '])).symm
  | line =>
      have left : page.leaveGap .line = ⟨'\n' :: page.written, true⟩ := by
        unfold Page.leaveGap endLine
        rw [inLine]
        rfl
      rw [left]
      refine ⟨(ended ['\n']).trans ?_, rfl⟩
      unfold Draft.inks Draft.leaveGap
      simp only [Ink.rows_append, Ink.rows_cons, Ink.rows_nil, List.append_nil,
        Ink.chars_append, List.append_assoc]
      rfl
  | blankLine =>
      have someWritten : page.written ≠ [] := by
        intro nothing
        rw [nothing] at written
        exact someInks (List.append_eq_nil_iff.mp written.symm).2
      have ends : EndsSolid page.written.reverse := by
        rw [written]
        exact (solid nofun).append someInks
      rw [leaveGap_blankLine inLine someWritten ends]
      refine ⟨(ended ['\n', '\n']).trans ?_, rfl⟩
      unfold Draft.inks Draft.leaveGap
      simp only [Ink.rows_append, Ink.rows_cons, Ink.rows_nil, List.append_nil,
        Ink.chars_append, List.append_assoc]
      rfl

theorem writeText (shows : page.Shows draft) (nonempty : token.text ≠ "") (count : Nat) :
    (page.writeText count token.text).Shows (draft.writeText count token) := by
  have written := shows.written
  rw [writeText_of_ne nonempty, shows.line]
  refine ⟨?_, (List.isEmpty_eq_false_iff.mpr
    (List.append_ne_nil_of_right_ne_nil _ (Ink.inks_ne_nil nonempty))).symm⟩
  unfold Draft.inks at written
  unfold Draft.writeText Draft.inks
  dsimp only
  cases current : draft.current.isEmpty with
  | true =>
      rw [List.isEmpty_iff.mp current, List.append_nil] at written
      rw [if_pos rfl, if_pos rfl, List.reverse_append, List.reverse_append, List.reverse_reverse,
        written, List.reverse_replicate]
      simp only [Ink.chars_append, Ink.chars_indentation, Ink.chars_inks, List.append_assoc]
  | false =>
      rw [if_neg Bool.false_ne_true, if_neg Bool.false_ne_true, List.reverse_append,
        List.reverse_reverse, written]
      simp only [Ink.chars_append, Ink.chars_inks, List.append_assoc]

/-- Writing a piece is writing its token into the draft. -/
theorem write (shows : page.Shows draft) (start : draft.current = [] → draft = .empty)
    (same : piece.text = token.text) (nonempty : token.text ≠ "")
    (solid : piece.gap ≠ .none → EndsSolid (Ink.chars draft.current)) :
    (page.write width piece).Shows (draft.write width piece token) := by
  unfold Page.write Draft.write
  rw [same]
  apply writeText _ nonempty
  cases current : draft.current.isEmpty with
  | true =>
      have blank := start (List.isEmpty_iff.mp current)
      rw [if_pos rfl]
      subst blank
      rw [shows.eq_empty, leaveGap_empty]
      exact empty_shows
  | false =>
      rw [if_neg Bool.false_ne_true]
      exact shows.leaveGap (List.isEmpty_eq_false_iff.mp current) solid

end Shows

end Page

/-! ## Lines -/

/-- What holds of a draft behind some tokens: all but the current line is tidy, and so is the
current one, unless the last token is text of a string. -/
structure Draft.Neat (width : Nat) (front : List Token) (draft : Draft) : Prop where
  owned : Ink.owned draft.inks = Ink.ofTokens front
  start : draft.current = [] → draft = .empty ∧ ∀ token ∈ front, token.kind.isReal = false
  each : ∀ line ∈ draft.lines, line = [] ∨ Ink.Begun width line ∧ EndsSolid (Ink.chars line)
  apart : draft.lines.IsChain fun line next => line ≠ [] ∨ next ≠ []
  begun : draft.current ≠ [] → Ink.Begun width draft.current
  solid : (front.map Token.kind).getLast?.any TokenKind.isStringText = false →
    EndsSolid (Ink.chars draft.current)

namespace Ink.Begun

variable {width level : Nat} {line more : List Ink} {token : Token}

theorem of_tight (tight : Tight token.text.toList) (level : Nat) :
    Begun width (indentation (level * width) ++ token.inks) := by
  refine .intro level token.inks rfl ?_ fun ink member free => ?_
  · rw [chars_inks]
    exact tight.begins
  · rcases List.mem_map.mp member with ⟨c, _, rfl⟩
    cases free

theorem append (begun : Begun width line)
    (spaced : ∀ ink ∈ more, ink.owner = none → ink.char = ' ') : Begun width (line ++ more) := by
  cases begun with
  | intro level text split solid inner =>
      refine .intro level (text ++ more) (by rw [split, List.append_assoc]) ?_ ?_
      · cases text with
        | nil => cases solid
        | cons ink text => exact solid
      · intro ink member
        rcases List.mem_append.mp member with early | late
        · exact inner ink early
        · exact spaced ink late

/-- A line that does not end in a blank ends in the text of a token. -/
theorem ends_owned (begun : Begun width line) (solid : EndsSolid (chars line)) :
    ∃ ink ∈ line.getLast?, ink.owner.isSome = true ∧ isBlank ink.char = false := by
  cases begun with
  | intro level text split begins spaced =>
      have some : text ≠ [] := by
        rintro rfl
        cases begins
      have last : line.getLast? = text.getLast? := by
        rw [split, List.getLast?_append_of_ne_nil _ some]
      have ends := List.getLast?_eq_some_getLast some
      have noBlank : isBlank (text.getLast some).char = false := by
        refine solid _ ?_
        unfold chars
        rw [List.getLast?_map, last, ends]
        rfl
      refine ⟨text.getLast some, last.trans ends, ?_, noBlank⟩
      cases owner : (text.getLast some).owner with
      | some token => rfl
      | none =>
          rw [spaced _ (List.getLast_mem some) owner, isBlank_space] at noBlank
          cases noBlank

theorem append_inks (begun : Begun width line) (token : Token) :
    Begun width (line ++ token.inks) := by
  refine begun.append fun ink member free => ?_
  rcases List.mem_map.mp member with ⟨c, _, rfl⟩
  cases free

theorem append_space (begun : Begun width line) : Begun width (line ++ [free ' ']) :=
  begun.append (List.forall_mem_singleton.mpr fun _ => rfl)

end Ink.Begun

namespace Draft.Neat

variable {width : Nat} {front : List Token} {draft : Draft} {token : Token} {piece : Piece}

theorem empty : Neat width [] .empty where
  owned := rfl
  start := fun _ => ⟨rfl, List.forall_mem_nil _⟩
  each := List.forall_mem_nil _
  apart := .nil
  begun := fun some => absurd rfl some
  solid := fun _ => nofun

/-- Behind the text of a string comes no token without a text. -/
theorem pass (neat : Neat width front draft) (noReal : token.kind.isReal = false)
    (seated : token.Seated (front.map Token.kind)) : Neat width (front ++ [token]) draft where
  owned := by
    rw [Ink.ofTokens_append, Ink.ofTokens_singleton, Ink.inks_of_not_real noReal, List.append_nil]
    exact neat.owned
  start := fun none => ⟨(neat.start none).1, fun other member =>
    (List.mem_append.mp member).elim ((neat.start none).2 other) fun last =>
      List.mem_singleton.mp last ▸ noReal⟩
  each := neat.each
  apart := neat.apart
  begun := neat.begun
  solid := by
    intro _
    refine neat.solid (Bool.eq_false_iff.mpr fun isText => ?_)
    rw [(seated.behind isText).2.1] at noReal
    cases noReal

/-- Behind a token the line that it stands in has begun. -/
theorem concat {after : Draft} (owned : Ink.owned after.inks = Ink.ofTokens (front ++ [token]))
    (some : after.current ≠ [])
    (each : ∀ line ∈ after.lines, line = [] ∨ Ink.Begun width line ∧ EndsSolid (Ink.chars line))
    (apart : after.lines.IsChain fun line next => line ≠ [] ∨ next ≠ [])
    (begun : Ink.Begun width after.current)
    (ends : token.kind.isStringText = false → EndsSolid (Ink.chars after.current)) :
    Neat width (front ++ [token]) after where
  owned := owned
  start := fun none => absurd none some
  each := each
  apart := apart
  begun := fun _ => begun
  solid := by
    intro noText
    rw [List.map_append, List.map_singleton, List.getLast?_concat] at noText
    exact ends noText

/-- A line that ends behind a token is tidy, and perhaps a blank line comes behind it. -/
theorem turn (neat : Neat width front draft) (some : draft.current ≠ [])
    (ends : EndsSolid (Ink.chars draft.current)) {blank : List (List Ink)}
    (isBlank : blank = [] ∨ blank = [[]]) :
    (∀ line ∈ draft.lines ++ draft.current :: blank,
      line = [] ∨ Ink.Begun width line ∧ EndsSolid (Ink.chars line)) ∧
    (draft.lines ++ draft.current :: blank).IsChain fun line next => line ≠ [] ∨ next ≠ [] := by
  refine ⟨fun line member => ?_, List.isChain_append.mpr ⟨neat.apart, ?_, ?_⟩⟩
  · rcases List.mem_append.mp member with early | late
    · exact neat.each line early
    · rcases List.mem_cons.mp late with rfl | isEmpty
      · exact .inr ⟨neat.begun some, ends⟩
      · rcases isBlank with rfl | rfl
        · cases isEmpty
        · exact .inl (List.mem_singleton.mp isEmpty)
  · rcases isBlank with rfl | rfl
    · exact .singleton _
    · exact .cons_cons (.inl some) (.singleton _)
  · intro line _ next first
    cases first
    exact .inr some

/-- A gap is left only between tokens that may have one, so no blank comes next to it. -/
theorem place (neat : Neat width front draft) (real : token.kind.isReal = true)
    (seated : token.Seated (front.map Token.kind))
    (glued : (front.map Token.kind).getLast?.any TokenKind.isStringText = true ∨
      token.kind.isStringText = true → piece.gap = .none) :
    Neat width (front ++ [token]) (draft.write width piece token) := by
  rcases draft.writes width piece token with ⟨gap, writes⟩
  generalize draft.write width piece token = after at writes
  have someInks := Ink.inks_ne_nil (seated.nonempty real)
  have ends : token.kind.isStringText = false → ∀ line : List Ink,
      EndsSolid (Ink.chars (line ++ token.inks)) := by
    intro noText line
    have tight := seated.tight real noText
    rw [Ink.chars_append, Ink.chars_inks]
    exact tight.ends.append tight.ne_nil
  have owned : Ink.owned after.inks = Ink.ofTokens (front ++ [token]) := by
    rw [writes.inks, Ink.owned_append, Ink.owned_append, Ink.owned_map_free, neat.owned,
      Ink.owned_inks, Ink.ofTokens_append, Ink.ofTokens_singleton, List.nil_append]
  have apart : piece.gap ≠ .none → EndsSolid (Ink.chars draft.current) ∧
      token.kind.isStringText = false := by
    intro gap
    refine ⟨neat.solid ?_, ?_⟩
    · exact Bool.eq_false_iff.mpr fun isText => gap (glued (.inl isText))
    · exact Bool.eq_false_iff.mpr fun isText => gap (glued (.inr isText))
  have begins : token.kind.isStringText = false →
      Ink.Begun width (Ink.indentation (piece.level * width) ++ token.inks) :=
    fun noText => .of_tight (seated.tight real noText) piece.level
  have someBehind := fun line : List Ink => List.append_ne_nil_of_right_ne_nil line someInks
  cases writes with
  | start blank =>
      have noText : token.kind.isStringText = false := by
        refine Bool.eq_false_iff.mpr fun isText => ?_
        rcases (Option.any_eq_true _ _).mp (seated.text isText).2 with ⟨kind, last, isReal⟩
        rcases List.mem_map.mp (List.mem_of_getLast? last) with ⟨other, member, rfl⟩
        rw [(neat.start blank).2 other member] at isReal
        cases isReal
      exact .concat owned (someBehind _) neat.each neat.apart (begins noText) (ends · _)
  | glued some gap =>
      exact .concat owned (someBehind _) neat.each neat.apart
        ((neat.begun some).append_inks token) (ends · _)
  | spaced some gap =>
      exact .concat owned (someBehind _) neat.each neat.apart
        ((neat.begun some).append_space.append_inks token) (ends · _)
  | line some gap =>
      rcases apart (by rw [gap]; exact nofun) with ⟨solid, noText⟩
      rcases neat.turn some solid (.inl rfl) with ⟨each, chain⟩
      exact .concat owned (someBehind _) each chain (begins noText) (ends · _)
  | blankLine some gap =>
      rcases apart (by rw [gap]; exact nofun) with ⟨solid, noText⟩
      rcases neat.turn some solid (.inr rfl) with ⟨each, chain⟩
      exact .concat owned (someBehind _) each chain (begins noText) (ends · _)

end Draft.Neat
end Offside
