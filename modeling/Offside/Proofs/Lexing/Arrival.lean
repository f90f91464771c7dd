import Mathlib.Data.List.Chain
import Offside.Proofs.Lexing.Scope

namespace Offside

/-!
# What a reader inserts in front of a token

A reader compares the first token of a line with its open frames.  These are the
scopes of the token: every group is a group, every block is known by the column of
its first token, and the strings between them count for nothing.  So what the reader
inserts in front of the token is what the offside rule asks for.
-/

namespace Frame

/-- The column at which the lines of a frame begin, if it is a block. -/
def column? : Frame → Option Nat
  | indent column => some column
  | _ => none

/-- The columns of some frames, strings left out. -/
def columns (frames : List Frame) : List (Option Nat) :=
  (frames.filter fun frame => !frame.isString).map column?

/-- Directly in a string there are only splices. -/
def Held (frames : List Frame) : Prop :=
  frames.IsChain fun inner outer => outer.isString = true → ∃ opened, inner = .splice opened

variable {frame : Frame} {frames blocks outer : List Frame}

theorem columns_cons (noString : frame.isString = false) :
    columns (frame :: frames) = frame.column? :: columns frames := by
  unfold columns
  rw [List.filter_cons_of_pos (by rw [noString]; rfl)]
  rfl

theorem noString_of_isBlock (isBlock : frame.isBlock = true) : frame.isString = false := by
  cases frame with
  | string quote opened => cases isBlock
  | _ => rfl

/-- A construct that a bracket closes is a scope of no column. -/
theorem columns_of_isClosedBy {closer : ClosingBracket}
    (fits : frame.isClosedBy closer = true) :
    columns (frame :: frames) = none :: columns frames := by
  cases frame with
  | indent column => cases fits
  | string quote opened => cases fits
  | _ => rfl

theorem drop_columns (closed : ∀ frame ∈ blocks, frame.isBlock = true) :
    (columns (blocks ++ outer)).drop blocks.length = columns outer := by
  induction blocks with
  | nil => rfl
  | cons block blocks inductionHypothesis =>
      rw [List.forall_mem_cons] at closed
      rw [List.cons_append, columns_cons (noString_of_isBlock closed.1)]
      exact inductionHypothesis closed.2

/-- Open blocks are scopes. -/
theorem eq_nil_of_columns (closed : ∀ frame ∈ blocks, frame.isBlock = true)
    (nothing : columns (blocks ++ outer) = []) : blocks = [] := by
  cases blocks with
  | nil => rfl
  | cons block blocks =>
      rw [List.cons_append, columns_cons (noString_of_isBlock (closed block List.mem_cons_self))]
        at nothing
      cases nothing

/-- Outside of strings the level of the statements is that of the innermost scope. -/
theorem level?_eq (code : inString frames = false) :
    level? frames = (columns frames).head?.getD (some 0) := by
  cases frames with
  | nil => rfl
  | cons frame frames =>
      cases frame with
      | string quote opened => cases code
      | _ => rfl

theorem level?_of_inactive (inactive : layoutActive frames = false) : level? frames = none := by
  cases frames with
  | nil => cases inactive
  | cons frame frames =>
      cases frame with
      | indent column => cases inactive
      | _ => rfl

namespace Held

/-- A block does not stand directly in a string. -/
theorem outside (held : Held (blocks ++ outer)) (code : inString (blocks ++ outer) = false)
    (closed : ∀ frame ∈ blocks, frame.isBlock = true) : inString outer = false := by
  rcases List.eq_nil_or_concat blocks with rfl | ⟨blocks, last, rfl⟩
  · exact code
  · rw [List.concat_eq_append] at held closed
    have isBlock := closed last (List.mem_append_right _ (List.mem_singleton.mpr rfl))
    rw [List.append_assoc] at held
    have behind : (last :: outer).IsChain _ := held.right_of_append
    refine Bool.eq_false_iff.mpr fun inString => ?_
    rcases exists_of_inString inString with ⟨quote, opened, around, rfl⟩
    rcases (List.isChain_cons_cons.mp behind).1 rfl with ⟨splice, rfl⟩
    cases isBlock

theorem cons (held : Held frames) (code : inString frames = false) (frame : Frame) :
    Held (frame :: frames) := by
  refine List.IsChain.cons held fun outer first isString => ?_
  unfold inString at code
  rw [Option.mem_def.mp first, Option.any_some, isString] at code
  cases code

end Held
end Frame

namespace Reader

variable {reader before after : Reader} {kind : TokenKind} {next : Option Char} {span : Span}
  {blocks outer frames : List Frame}

/-! ## What comes to stand in front of a token, and where -/

/-- What is inserted in front of a token where nothing is reported, and what is open
behind it.  Other than `Laid`, it tells where the line begins. -/
inductive Arrives (before : Reader) (kind : TokenKind) (next : Option Char) :
    List TokenKind → List Frame → Prop
  /-- Inside a line, and where lines have no meaning, nothing is inserted. -/
  | still (quiet : before.atLineStart = false ∨ Frame.layoutActive before.frames = false) :
      Arrives before kind next [] before.frames
  /-- The line leaves some blocks and may begin a statement. -/
  | settles {blocks outer : List Frame} (separated : Bool)
      (line : before.atLineStart = true)
      (leaves : Leaves before.frames before.column blocks outer)
      (begins : separated = true ↔ Frame.level? outer = some before.column ∧
        (lastBehind before.kinds blocks).any TokenKind.canEndStatement = true ∧
        kind.canStartStatement next = true) :
      Arrives before kind next (outdents blocks ++ separator separated) outer
  /-- The line opens a block. -/
  | deepens (active : Frame.layoutActive before.frames = true) :
      Arrives before kind next [.indent] (.indent before.column :: before.frames)

theorem beginLine_arrives (line : before.atLineStart = true)
    (active : Frame.layoutActive before.frames = true)
    (kinds : reader.kinds = before.kinds) (frames : reader.frames = before.frames)
    {offset : Nat}
    (silent : (reader.beginLine before.column offset kind next).diagnostics = #[]) :
    ∃ inserted around, before.Arrives kind next inserted around ∧
      (reader.beginLine before.column offset kind next).kinds = before.kinds ++ inserted ∧
      (reader.beginLine before.column offset kind next).frames = around := by
  rcases exists_leaves reader.frames before.column with ⟨blocks, outer, leaves⟩
  rcases fitted_closes leaves with ⟨closed, left, _, _⟩
  rw [beginLine_eq leaves] at silent ⊢
  rw [kinds] at closed silent ⊢
  have leavesBefore : Leaves before.frames before.column blocks outer := frames ▸ leaves
  have joins : (Frame.level? outer = some before.column →
      ((lastBehind before.kinds blocks).any TokenKind.canEndStatement &&
        kind.canStartStatement next) = false) →
      ∃ inserted around, before.Arrives kind next inserted around ∧
        (reader.fitted before.column).kinds = before.kinds ++ inserted ∧
        (reader.fitted before.column).frames = around := by
    intro goesOn
    refine ⟨_, _, .settles false line leavesBefore ⟨nofun, fun begins => ?_⟩, ?_, left⟩
    · have stays := goesOn begins.1
      rw [begins.2.1, begins.2.2] at stays
      cases stays
    · rw [closed, separator_false, List.append_nil]
  have deepens : blocks = [] → Frame.level? outer ≠ some before.column →
      ∃ inserted around, before.Arrives kind next inserted around ∧
        (beginLine.openBlock reader before.column offset (reader.fitted before.column)).kinds =
          before.kinds ++ inserted ∧
        (beginLine.openBlock reader before.column offset
          (reader.fitted before.column)).frames = around := by
    intro nothing other
    unfold beginLine.openBlock
    split
    · refine ⟨_, _, .deepens active, ?_, ?_⟩
      · rw [kinds_insert]
        show (reader.fitted before.column).kinds ++ _ = _
        rw [closed, nothing, List.append_assoc]
        rfl
      · rw [frames_insert, frames_openFrame, left, leavesBefore.split, nothing]
        rfl
    · exact joins fun here => absurd here other
  cases levelled : Frame.level? outer with
  | none =>
      rw [levelled] at joins deepens
      dsimp only
      cases blocks with
      | nil => exact deepens rfl nofun
      | cons block blocks => exact joins nofun
  | some level =>
      rw [levelled] at joins deepens silent
      dsimp only at silent ⊢
      by_cases here : before.column = level
      · rw [if_pos here]
        split
        · rename_i begins
          rw [Bool.and_eq_true] at begins
          refine ⟨_, _, .settles true line leavesBefore ⟨fun _ => ⟨?_, begins⟩, fun _ => rfl⟩, ?_,
            left⟩
          · rw [levelled, here]
          · rw [kinds_insert, closed, List.append_assoc]
            rfl
        · exact joins fun _ => Bool.eq_false_iff.mpr ‹_›
      · rw [if_neg here] at silent ⊢
        have other : some level ≠ some before.column :=
          fun same => here (Option.some.inj same).symm
        cases blocks with
        | nil => exact deepens rfl other
        | cons block blocks => exact absurd silent (report_diagnostics_ne _ _ _)

theorem applyLayout_arrives (silent : (reader.applyLayout kind next).diagnostics = #[]) :
    ∃ inserted around, reader.Arrives kind next inserted around ∧
      (reader.applyLayout kind next).kinds = reader.kinds ++ inserted ∧
      (reader.applyLayout kind next).frames = around := by
  cases line : reader.atLineStart with
  | false =>
      have became := applyLayout_inLine line kind next
      exact ⟨_, _, .still (.inl line), became.kinds, became.frames⟩
  | true =>
      cases active : Frame.layoutActive reader.frames with
      | false =>
          rw [applyLayout_eq_of_inactive line active silent]
          exact ⟨_, _, .still (.inr active), (List.append_nil _).symm, rfl⟩
      | true =>
          rw [applyLayout_active line active] at silent ⊢
          exact @beginLine_arrives { reader with atLineStart := false } reader kind next line active
            rfl rfl reader.offset silent

/-! ## The rule is kept in front of a token -/

/-- A line that stays in what is open does not begin left of its level. -/
theorem Leaves.level_le {column level : Nat} (leaves : Leaves frames column blocks outer)
    (inside : Frame.level? outer = some level) : level ≤ column := by
  have stays := leaves.stays
  cases outer with
  | nil =>
      cases inside
      exact Nat.zero_le column
  | cons frame outer =>
      cases frame with
      | indent own =>
          cases inside
          have shallow : decide (column < level) = false := stays
          exact Nat.le_of_not_lt (of_decide_eq_false shallow)
      | _ => cases inside

variable {columnOf : Token → Nat} {source : String} {token mark : Token} {front marks : List Token}
  {inserted : List TokenKind}

theorem kind_of_outdents (kinds : marks.map Token.kind = outdents blocks) :
    ∀ mark ∈ marks, mark.kind = .outdent := by
  intro mark member
  have among : mark.kind ∈ outdents blocks := kinds ▸ List.mem_map_of_mem member
  exact List.eq_of_mem_replicate among

theorem noSeparator_of_outdents (kinds : marks.map Token.kind = outdents blocks) :
    ∀ mark ∈ marks, mark.kind ≠ .autoSemicolon := by
  intro mark member separates
  rw [kind_of_outdents kinds mark member] at separates
  cases separates

/-- The ends of some blocks leave what is around the blocks. -/
theorem columns_closed (closed : ∀ frame ∈ blocks, frame.isBlock = true)
    (kinds : marks.map Token.kind = outdents blocks)
    (enclosed : Scope.columns columnOf front token = Frame.columns (blocks ++ outer)) :
    Scope.columns columnOf (front ++ marks) token = Frame.columns outer := by
  have count : marks.length = blocks.length := by
    rw [← List.length_map Token.kind, kinds]
    exact List.length_replicate
  rw [Scope.columns_outdents (kind_of_outdents kinds), enclosed, count]
  exact Frame.drop_columns closed

/-- A token comes to stand behind some others and what is inserted in front of it. -/
structure Lands (columnOf : Token → Nat) (source : String) (front : List Token)
    (around : List Frame) (token : Token) : Prop where
  onside : AllOnside columnOf source front
  enclosed : Scope.columns columnOf front token = Frame.columns around
  fits : Onside columnOf source front token

namespace Lands

theorem column_le
    (enclosed : Scope.columns columnOf front token = Frame.columns outer)
    (code : Frame.inString outer = false)
    (level_le : ∀ level, Frame.level? outer = some level → level ≤ columnOf token)
    (first : Token) (innermost : (Scope.ofToken front token).head? = some (.block first)) :
    columnOf first ≤ columnOf token := by
  refine level_le _ ?_
  rw [Frame.level?_eq code, ← enclosed, Scope.head?_columns innermost]
  rfl

/-- In front of a token that goes on with what is there, nothing more is inserted. -/
theorem joined (arranged : Arranged columnOf source front (Frame.columns outer))
    (code : Frame.inString outer = false)
    (level_le : ∀ level, Frame.level? outer = some level → level ≤ columnOf token)
    (goesOn : ¬ BeginsStatement columnOf source front token) :
    Lands columnOf source front outer token where
  onside := arranged.onside
  enclosed := arranged.enclosed token
  fits := .of_joined arranged.ends
    (fun _ _ => column_le (arranged.enclosed token) code level_le) goesOn

/-- In front of a token that begins a statement stands a separator. -/
theorem separated (arranged : Arranged columnOf source front (Frame.columns outer))
    (code : Frame.inString outer = false)
    (level_le : ∀ level, Frame.level? outer = some level → level ≤ columnOf token)
    (begins : BeginsStatement columnOf source front token)
    (separates : mark.kind = .autoSemicolon) (glued : mark.leading = []) :
    Lands columnOf source (front ++ [mark]) outer token := by
  have enclosed : Scope.columns columnOf (front ++ [mark]) token =
      Frame.columns outer := by
    rw [Scope.columns_other, arranged.enclosed, separates]
    · rfl
    · rw [separates]
      nofun
    · rw [separates]
      nofun
  have inLine : mark.beginsLine source = false := beginsLine_of_glued glued
  exact ⟨arranged.onside.concat (.of_inLine inLine arranged.ends), enclosed,
    .of_separated separates (column_le enclosed code level_le) begins⟩

/-- A bracket that closes a group stands in the group, behind the ends of its blocks. -/
theorem close {closer : ClosingBracket} {target : Frame}
    (lands : Lands columnOf source front (blocks ++ target :: outer) token)
    (closes : token.kind = .punctuation closer.mark)
    (closed : ∀ frame ∈ blocks, frame.isBlock = true)
    (fits : target.isClosedBy closer = true) (kinds : marks.map Token.kind = outdents blocks)
    (glued : ∀ mark ∈ marks, mark.leading = []) :
    Arranged columnOf source (front ++ marks ++ [token]) (Frame.columns outer) := by
  have goesOn : ∀ front, ¬ BeginsStatement columnOf source front token := by
    intro front begins
    have noCloser := begins.noCloser
    rw [closes, isCloser_mark] at noCloser
    cases noCloser
  have ends : EndsJoined front := fun separated => goesOn _ (lands.fits.separated.mp separated)
  have inside := lands.onside.append_marks ends glued (noSeparator_of_outdents kinds)
  -- A block that the line has just opened is closed again, so it is never looked into.
  have enclosed := columns_closed closed kinds lands.enclosed
  rw [Frame.columns_of_isClosedBy fits] at enclosed
  have onside : Onside columnOf source (front ++ marks) token := by
    refine .of_joined inside.2 (fun _ _ first innermost => ?_) (goesOn _)
    have same := @Scope.head?_columns columnOf _ _ _ innermost
    rw [enclosed] at same
    cases same
  have real : token.kind.isLayout = false := by
    rw [closes]
    rfl
  have arranged := Arranged.of_onside inside.1 onside real enclosed
  have left : columnsBehind (none :: Frame.columns outer) token.kind = Frame.columns outer := by
    rw [closes]
    cases closer <;> rfl
  rwa [left] at arranged

end Lands

/-- The open frames of a reader are what its tokens leave open, and the tokens keep to
the rule. -/
structure Framed (columnOf : Token → Nat) (source : String) (reader : Reader) : Prop where
  arranged : Arranged columnOf source reader.tokens.toList (Frame.columns reader.frames)
  held : Frame.Held reader.frames

/-- A reader stands in front of a token that it has not found yet. -/
structure Faces (columnOf : Token → Nat) (source : String) (reader : Reader) (token : Token) : Prop
    extends Framed columnOf source reader where
  code : Frame.inString reader.frames = false
  column : columnOf token = reader.column
  line : reader.atLineStart = (token.beginsLine source || reader.tokens.toList.isEmpty)

namespace Faces

variable (faces : reader.Faces columnOf source token)

include faces

/-- In front of a token that stays in its line, and between brackets. -/
theorem still
    (quiet : reader.atLineStart = false ∨ Frame.layoutActive reader.frames = false) :
    Lands columnOf source reader.tokens.toList reader.frames token := by
  rcases quiet with inLine | inactive
  · rw [faces.line, Bool.or_eq_false_iff] at inLine
    exact ⟨faces.arranged.onside, faces.arranged.enclosed token,
      .of_inLine inLine.1 faces.arranged.ends⟩
  · have noLevel := Frame.level?_of_inactive inactive
    refine .joined faces.arranged faces.code (fun level inside => ?_) fun begins => ?_
    · rw [noLevel] at inside
      cases inside
    · have level := (atLevel_iff (ne_indent_of_ends begins.ends)).mp begins.level
      rw [faces.arranged.enclosed, ← Frame.level?_eq faces.code, noLevel] at level
      cases level

/-- Behind the ends of some blocks a statement begins at the level of what is around. -/
theorem begins_iff (line : reader.atLineStart = true) (code : Frame.inString outer = false)
    (closed : ∀ frame ∈ blocks, frame.isBlock = true)
    (split : reader.frames = blocks ++ outer)
    (kinds : marks.map Token.kind = outdents blocks)
    (enclosed : Scope.columns columnOf (reader.tokens.toList ++ marks) token =
      Frame.columns outer) :
    BeginsStatement columnOf source (reader.tokens.toList ++ marks) token ↔
      Frame.level? outer = some reader.column ∧
        (lastBehind reader.kinds blocks).any TokenKind.canEndStatement = true ∧
        token.kind.canStartStatement (token.next? source) = true := by
  have last : (reader.tokens.toList ++ marks).getLast?.any (·.kind.canEndStatement) =
      (lastBehind reader.kinds blocks).any TokenKind.canEndStatement := by
    rw [← getLast?_outdents, ← kinds]
    unfold Reader.kinds
    rw [← List.map_append, List.getLast?_map, Option.any_map]
  have level : (reader.tokens.toList ++ marks).getLast?.any (·.kind.canEndStatement) = true →
      (AtLevel columnOf (reader.tokens.toList ++ marks) token ↔
        Frame.level? outer = some reader.column) := by
    intro ends
    rw [atLevel_iff (ne_indent_of_ends ends), enclosed, Frame.level?_eq code, faces.column]
  constructor
  · intro begins
    exact ⟨(level begins.ends).mp begins.level, last ▸ begins.ends, begins.starts⟩
  · rintro ⟨here, canEnd, starts⟩
    have ends := last.trans canEnd
    refine ⟨?_, (level ends).mpr here, ends, starts⟩
    rw [faces.line, Bool.or_eq_true] at line
    refine line.resolve_right fun first => ?_
    rw [List.isEmpty_iff] at first
    have noBlock : blocks = [] := by
      have nothing := faces.arranged.enclosed token
      rw [first, split] at nothing
      exact Frame.eq_nil_of_columns closed nothing.symm
    have noMark : marks = [] := by
      rw [noBlock] at kinds
      exact List.map_eq_nil_iff.mp kinds
    rw [first, noMark] at ends
    cases ends

/-- In front of a token whose line leaves some blocks. -/
theorem settles {separated : Bool} (line : reader.atLineStart = true)
    (leaves : Leaves reader.frames reader.column blocks outer)
    (begins : separated = true ↔ Frame.level? outer = some reader.column ∧
      (lastBehind reader.kinds blocks).any TokenKind.canEndStatement = true ∧
      token.kind.canStartStatement (token.next? source) = true)
    (kinds : marks.map Token.kind = outdents blocks ++ separator separated)
    (glued : ∀ mark ∈ marks, mark.leading = []) :
    Lands columnOf source (reader.tokens.toList ++ marks) outer token := by
  rcases List.map_eq_append_iff.mp kinds with ⟨closing, separating, rfl, closed, rest⟩
  rw [List.forall_mem_append] at glued
  -- Behind the ends of the blocks, the tokens are arranged for any token that may follow.
  have code : Frame.inString outer = false :=
    Frame.Held.outside (leaves.split ▸ faces.held) (leaves.split ▸ faces.code) leaves.isBlock
  have front := faces.arranged.onside.append_marks faces.arranged.ends glued.1
    (noSeparator_of_outdents closed)
  have enclosed : ∀ next, Scope.columns columnOf (reader.tokens.toList ++ closing)
      next = Frame.columns outer := fun next =>
    columns_closed leaves.isBlock closed (leaves.split ▸ faces.arranged.enclosed next)
  have arranged : Arranged columnOf source (reader.tokens.toList ++ closing)
      (Frame.columns outer) := ⟨front.1, front.2, enclosed⟩
  have level_le : ∀ level, Frame.level? outer = some level →
      level ≤ columnOf token := by
    intro level inside
    rw [faces.column]
    exact leaves.level_le inside
  rw [← faces.begins_iff line code leaves.isBlock leaves.split closed (enclosed token)] at begins
  rw [← List.append_assoc]
  cases separated with
  | true =>
      rcases List.map_eq_singleton_iff.mp rest with ⟨mark, rfl, separates⟩
      exact .separated arranged code level_le (begins.mp rfl) separates
        (glued.2 mark List.mem_cons_self)
  | false =>
      have nothing : separating = [] := List.map_eq_nil_iff.mp rest
      subst nothing
      rw [List.append_nil]
      exact .joined arranged code level_le fun begun => Bool.false_ne_true (begins.mpr begun)

/-- In front of the first token of a block. -/
theorem deepens (kinds : marks.map Token.kind = [.indent])
    (glued : ∀ mark ∈ marks, mark.leading = []) :
    Lands columnOf source (reader.tokens.toList ++ marks)
      (.indent reader.column :: reader.frames) token := by
  rcases List.map_eq_singleton_iff.mp kinds with ⟨mark, rfl, indent⟩
  have inLine : mark.beginsLine source = false :=
    beginsLine_of_glued (glued mark List.mem_cons_self)
  have enclosed : Scope.columns columnOf (reader.tokens.toList ++ [mark]) token =
      some (columnOf token) :: Frame.columns reader.frames := by
    rw [Scope.columns_indent indent, faces.arranged.enclosed]
  refine ⟨faces.arranged.onside.concat (.of_inLine inLine faces.arranged.ends), ?_, ?_⟩
  · rw [enclosed, faces.column]
    rfl
  · refine .of_joined (endsJoined_concat ?_) (fun _ _ first innermost => ?_) fun begins => ?_
    · rw [indent]
      nofun
    · have same := @Scope.head?_columns columnOf _ _ _ innermost
      rw [enclosed] at same
      exact Nat.le_of_eq (Option.some.inj (Option.some.inj same)).symm
    · refine ne_indent_of_ends begins.ends ?_
      rw [List.getLast?_concat]
      exact congrArg some indent

/-- In front of any token. -/
theorem lands {around : List Frame}
    (arrives : reader.Arrives token.kind (token.next? source) inserted around)
    (kinds : marks.map Token.kind = inserted) (glued : ∀ mark ∈ marks, mark.leading = []) :
    Lands columnOf source (reader.tokens.toList ++ marks) around token := by
  cases arrives with
  | still quiet =>
      have nothing : marks = [] := List.map_eq_nil_iff.mp kinds
      subst nothing
      rw [List.append_nil]
      exact faces.still quiet
  | settles separated line leaves begins => exact faces.settles line leaves begins kinds glued
  | deepens active => exact faces.deepens kinds glued

/-- What is open around the token is no string, and still holds only splices directly. -/
theorem around_held {around : List Frame}
    (arrives : reader.Arrives kind next inserted around) :
    Frame.Held around ∧ Frame.inString around = false := by
  cases arrives with
  | still quiet => exact ⟨faces.held, faces.code⟩
  | deepens active => exact ⟨faces.held.cons faces.code _, rfl⟩
  | settles separated line leaves begins =>
      have held : Frame.Held (_ ++ _) := leaves.split ▸ faces.held
      exact ⟨held.right_of_append, held.outside (leaves.split ▸ faces.code) leaves.isBlock⟩

end Faces

/-! ## The token itself -/

section Emit

variable {reader : Reader} {kind : TokenKind} {span : Span} {next : Option Char}
  {columnOf : Token → Nat} {source : String}

/-- A token that closes nothing stands in what is around it, and perhaps opens a group. -/
theorem emit_framed_of_noCloser (silent : (reader.emit kind span next).diagnostics = #[])
    (noCloser : ClosingBracket.ofKind? kind = none) (real : kind.isLayout = false)
    (faces : reader.Faces columnOf source ⟨kind, span, reader.trivia.toList⟩)
    (follows : Token.next? source ⟨kind, span, reader.trivia.toList⟩ = next) :
    (reader.emit kind span next).Framed columnOf source ∧
      Frame.inString (reader.emit kind span next).frames = false := by
  subst follows
  rcases emit_marks silent with ⟨marks, tokens, glued, _⟩
  rcases emit_of_noCloser reader noCloser span _ with ⟨kinds, frames, diagnostics⟩
  rcases applyLayout_arrives (diagnostics.symm.trans silent) with
    ⟨inserted, around, arrives, early, left⟩
  have same : marks.map Token.kind = inserted := by
    rw [kinds_of_marks tokens, early, List.append_assoc] at kinds
    exact List.append_cancel_right (List.append_cancel_left kinds)
  have lands := faces.lands arrives same glued
  have arranged := Arranged.of_onside lands.onside lands.fits real lands.enclosed
  rcases faces.around_held arrives with ⟨held, code⟩
  have stays : kind.isCloser = false := congrArg Option.isSome noCloser
  rw [left] at frames
  have opened : columnsBehind (Frame.columns around) kind =
        Frame.columns (((Bracket.ofKind? kind).map (Frame.group · span.start)).toList ++ around) ∧
      Frame.Held (((Bracket.ofKind? kind).map (Frame.group · span.start)).toList ++ around) ∧
      Frame.inString (((Bracket.ofKind? kind).map (Frame.group · span.start)).toList ++ around) =
        false := by
    unfold columnsBehind TokenKind.isOpener
    rw [stays]
    cases Bracket.ofKind? kind with
    | none => exact ⟨rfl, held, code⟩
    | some bracket => exact ⟨rfl, held.cons code _, rfl⟩
  rw [← frames] at opened
  rw [opened.1, ← tokens] at arranged
  exact ⟨⟨arranged, opened.2.1⟩, opened.2.2⟩

/-- A closing bracket leaves its group, behind the ends of the blocks in it. -/
theorem emit_framed_of_closer {closer : ClosingBracket}
    (silent : (reader.emit (.punctuation closer.mark) span next).diagnostics = #[])
    (faces : reader.Faces columnOf source
      ⟨.punctuation closer.mark, span, reader.trivia.toList⟩)
    (follows : Token.next? source ⟨.punctuation closer.mark, span, reader.trivia.toList⟩ = next) :
    (reader.emit (.punctuation closer.mark) span next).Framed columnOf source := by
  subst follows
  rcases emit_marks silent with ⟨marks, tokens, glued, _⟩
  have kinds := kinds_of_marks tokens
  rw [emit_of_closer] at silent kinds
  rcases applyLayout_arrives ((addCloser_grows _ _ _).silent silent) with
    ⟨inserted, around, arrives, early, left⟩
  rcases addCloser_silent silent with ⟨blocks, target, outer, closes⟩
  have same : marks.map Token.kind = inserted ++ outdents blocks := by
    rw [closes.kinds, early, List.append_assoc, ← List.append_assoc inserted] at kinds
    exact (List.append_cancel_right (List.append_cancel_left kinds)).symm
  rcases List.map_eq_append_iff.mp same with ⟨before, behind, rfl, inFront, inside⟩
  rw [List.forall_mem_append] at glued
  have split : around = blocks ++ target :: outer := left.symm.trans closes.split
  have lands := faces.lands arrives inFront glued.1
  have held := (faces.around_held arrives).1
  rw [split] at lands held
  have frames := closes.frames
  rw [← emit_of_closer] at frames
  have arranged := lands.close rfl closes.closed closes.fits inside glued.2
  rw [List.append_assoc _ before, ← tokens, ← frames] at arranged
  exact ⟨arranged, frames ▸ held.right_of_append.tail⟩

end Emit

end Reader
end Offside
