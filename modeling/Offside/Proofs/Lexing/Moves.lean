import Mathlib.Logic.Relation
import Offside.Proofs.Lexing.Nesting

namespace Offside

/-!
# The layout rules, move by move

What the layout rules do in front of a token is a row of small moves.  A move opens or
closes one block, separates two statements, finds an indentation that fits nothing or
gives up one group.  Whatever every single move keeps is kept by the layout rules, and by
a closing bracket that reaches through what is open inside of its group.
-/

/-- What is open at some point of a source, and what was found and reported up to there. -/
structure Ground where
  frames : List Frame
  tokens : List Token
  diagnostics : List Diagnostic

namespace Ground

/-- A token of width zero that was inserted. -/
def insert (ground : Ground) (kind : TokenKind) (offset : Nat) : Ground :=
  { ground with tokens := ground.tokens ++ [.bare kind (.empty offset)] }

def report (ground : Ground) (fault : LexicalFault) (span : Span) : Ground :=
  { ground with diagnostics := ground.diagnostics ++ [.lexical fault span] }

/-- One thing that the layout rules do. -/
inductive Move : Ground → Ground → Prop
  | outdent (column offset : Nat) (frames : List Frame) (tokens : List Token)
      (diagnostics : List Diagnostic) :
      Move ⟨.indent column :: frames, tokens, diagnostics⟩
        (insert ⟨frames, tokens, diagnostics⟩ .outdent offset)
  | indent (column offset : Nat) (frames : List Frame) (tokens : List Token)
      (diagnostics : List Diagnostic) :
      Move ⟨frames, tokens, diagnostics⟩
        (insert ⟨.indent column :: frames, tokens, diagnostics⟩ .indent offset)
  | separate (offset : Nat) (ground : Ground) : Move ground (ground.insert .autoSemicolon offset)
  | misfit (column offset : Nat) (ground : Ground) :
      Move ground ((ground.report (.inconsistentIndentation column) (.empty offset)).insert
        (.error "") offset)
  /-- A group is given up and leaves a mark behind. -/
  | abandon (bracket : Bracket) (opened offset : Nat) (frames : List Frame)
      (tokens : List Token) (diagnostics : List Diagnostic) :
      Move ⟨.group bracket opened :: frames, tokens, diagnostics⟩
        ((report ⟨frames, tokens, diagnostics⟩ (.unterminatedBlock bracket.char)
          ⟨opened, opened + 1⟩).insert (.error "") offset)
  /-- A group is given up without a mark. -/
  | cutOff (bracket : Bracket) (opened : Nat) (frames : List Frame)
      (tokens : List Token) (diagnostics : List Diagnostic) :
      Move ⟨.group bracket opened :: frames, tokens, diagnostics⟩
        (report ⟨frames, tokens, diagnostics⟩ (.unterminatedBlock bracket.char)
          ⟨opened, opened + 1⟩)

/-- A row of moves. -/
abbrev Moves : Ground → Ground → Prop := Relation.ReflTransGen Move

end Ground

namespace Reader

open Ground

/-- What a reader has found and reported, when some frames are taken for open. -/
def groundWith (reader : Reader) (frames : List Frame) : Ground :=
  ⟨frames, reader.tokens.toList, reader.diagnostics.toList⟩

def ground (reader : Reader) : Ground := reader.groundWith reader.frames

variable {reader : Reader} {frames : List Frame} {kind : TokenKind}

@[simp]
theorem groundWith_insert (offset : Nat) :
    (reader.insert kind offset).groundWith frames =
      (reader.groundWith frames).insert kind offset := by
  unfold groundWith Reader.insert Ground.insert
  rw [Array.toList_push]

@[simp]
theorem groundWith_report (fault : LexicalFault) (span : Span) :
    (reader.report fault span).groundWith frames =
      (reader.groundWith frames).report fault span := by
  unfold groundWith Reader.report Ground.report
  rw [Array.toList_push]

/-- Going through frames one by one, each with a move of its own. -/
theorem foldl_moves {change : Reader → Frame → Reader} {cut : List Frame}
    (each : ∀ frame ∈ cut, ∀ reader outer,
      Move (groundWith reader (frame :: outer)) ((change reader frame).groundWith outer)) :
    ∀ reader, Moves (groundWith reader (cut ++ frames))
      ((cut.foldl change reader).groundWith frames) := by
  induction cut with
  | nil => exact fun reader => .refl
  | cons frame cut inductionHypothesis =>
      rw [List.forall_mem_cons] at each
      exact fun reader =>
        .head (each.1 reader (cut ++ frames)) (inductionHypothesis each.2 (change reader frame))

theorem closeBlocks_moves (reader : Reader) (column : Nat) :
    Moves reader.ground (reader.closeBlocks column).ground := by
  have whole := takeWhile_append_drop (Frame.isDeeperThan column) reader.frames
  have blocks : ∀ frame ∈ reader.frames.takeWhile (Frame.isDeeperThan column),
      frame.isDeeperThan column = true := List.all_eq_true.mp List.all_takeWhile
  unfold ground
  rw [frames_closeBlocks]
  unfold closeBlocks
  dsimp only
  generalize reader.frames.takeWhile (Frame.isDeeperThan column) = cut at *
  conv => lhs; rw [← whole]
  refine foldl_moves (fun frame member before outer => ?_)
    { reader with frames := reader.frames.drop cut.length }
  have deeper := blocks frame member
  cases frame with
  | indent level =>
      rw [groundWith_insert]
      exact .outdent _ _ _ _ _
  | _ => cases deeper

theorem beginLine_moves (reader : Reader) (column offset : Nat) (kind : TokenKind)
    (next : Option Char) :
    Moves reader.ground (reader.beginLine column offset kind next).ground := by
  have fitted : Moves reader.ground
      ({ reader.closeBlocks column with lineIndent := column } : Reader).ground :=
    closeBlocks_moves reader column
  generalize closed :
    ({ reader.closeBlocks column with lineIndent := column } : Reader) = begun at fitted
  refine beginLine_cases (motive := fun after => Moves reader.ground after.ground) closed fitted
    (fitted.trans ?_) (fitted.trans ?_) fun _ => fitted.trans ?_
  · unfold ground
    rw [groundWith_insert]
    exact .single (.separate _ _)
  · unfold ground
    rw [groundWith_insert, groundWith_report]
    exact .single (.misfit _ _ _)
  · unfold ground
    rw [groundWith_insert]
    exact .single (.indent _ _ _ _ _)

theorem abandonGroups_moves (reader : Reader) :
    Moves reader.ground reader.abandonGroups.ground := by
  have whole := takeWhile_append_drop Frame.ignoresLines reader.frames
  have groups : ∀ frame ∈ reader.frames.takeWhile Frame.ignoresLines,
      frame.ignoresLines = true := List.all_eq_true.mp List.all_takeWhile
  unfold ground
  rw [frames_abandonGroups]
  unfold abandonGroups
  dsimp only
  generalize reader.frames.takeWhile Frame.ignoresLines = cut at *
  conv => lhs; rw [← whole]
  refine foldl_moves (fun frame member before outer => ?_)
    { reader with frames := reader.frames.drop cut.length }
  have group := groups frame member
  cases frame with
  | group bracket opened =>
      unfold abandonGroups.abandon
      rw [groundWith_insert, groundWith_report]
      exact .abandon _ _ _ _ _ _
  | _ => cases group

/-- All that the layout rules do. -/
theorem applyLayout_moves (reader : Reader) (kind : TokenKind) (next : Option Char) :
    Moves reader.ground (reader.applyLayout kind next).ground := by
  have outside := abandonGroups_moves { reader with atLineStart := false }
  exact applyLayout_cases (motive := fun after => Moves reader.ground after.ground) rfl
    (fun _ => .refl) .refl (fun _ => beginLine_moves { reader with atLineStart := false } _ _ _ _)
    outside fun _ => outside.trans (beginLine_moves _ _ _ _ _)

/-- A closing bracket cuts off blocks and groups. -/
theorem foldl_cutOff_moves {cut : List Frame}
    (sound : ∀ frame ∈ cut, frame.isString = false ∧ ∀ opened, frame ≠ .splice opened)
    (reader : Reader) :
    Moves (reader.groundWith (cut ++ frames)) ((cut.foldl cutOff reader).groundWith frames) := by
  refine foldl_moves (fun frame member before outer => ?_) reader
  have sound := sound frame member
  cases frame with
  | indent column =>
      unfold cutOff
      rw [groundWith_insert]
      exact .outdent _ _ _ _ _
  | group bracket opened =>
      unfold cutOff
      rw [groundWith_report]
      exact .cutOff _ _ _ _ _
  | splice opened => exact absurd rfl (sound.2 opened)
  | string quote opened => cases sound.1

end Reader
end Offside
