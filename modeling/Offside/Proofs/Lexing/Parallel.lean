import Mathlib.Data.List.Forall2
import Offside.Lexed
import Offside.Proofs.Text.Edited

namespace Offside

/-!
# Two readings side by side

A source may be written in different ways that mean the same: with other blanks in front
of a line, or with other line ends.  The two readings of such sources are compared here,
as far as they do not depend on the text itself.

Two readers are parallel if they have found tokens of the same kinds, up to the texts of
strings, and have the same constructs open.  Where things stand may differ: a relation
between the offsets in the one source and in the other one says how the places belong to
each other.  The layout rules then do the same in both readers.
-/

section

/-! ## Lists that agree entry by entry -/

variable {α β γ : Type} {agree : α → β → Prop} {list : List α} {other : List β}

/-- What can be told from each of the entries. -/
theorem map_eq_of_forall₂ {tell : α → γ} {tellThere : β → γ}
    (alike : List.Forall₂ agree list other)
    (each : ∀ entry there, agree entry there → tellThere there = tell entry) :
    other.map tellThere = list.map tell := by
  have same := alike.imp each
  rw [← List.forall₂_eq_eq_eq, List.forall₂_map_left_iff, List.forall₂_map_right_iff]
  exact same.flip

/-- Sorting keeps the entries side by side if they compare alike in both lists. -/
theorem forall₂_mergeSort {before : α → α → Bool} {beforeThere : β → β → Bool}
    (alike : List.Forall₂ agree list other)
    (compares : ∀ first firstThere second secondThere, agree first firstThere →
      agree second secondThere → before first second = beforeThere firstThere secondThere) :
    List.Forall₂ agree (list.mergeSort before) (other.mergeSort beforeThere) := by
  have lengths := alike.length_eq
  -- The pairs of entries are sorted by their first halves, which sorts both halves.
  have firsts : ((list.zip other).mergeSort fun one two => before one.1 two.1).map Prod.fst =
      list.mergeSort before := by
    conv => rhs; rw [← List.map_fst_zip (Nat.le_of_eq lengths)]
    exact List.map_mergeSort fun _ _ _ _ => rfl
  have seconds : ((list.zip other).mergeSort fun one two => before one.1 two.1).map Prod.snd =
      other.mergeSort beforeThere := by
    conv => rhs; rw [← List.map_snd_zip (Nat.le_of_eq lengths.symm)]
    refine List.map_mergeSort ?_
    rintro ⟨first, firstThere⟩ member ⟨second, secondThere⟩ memberThere
    exact compares _ _ _ _ (List.forall₂_zip alike member) (List.forall₂_zip alike memberThere)
  rw [← firsts, ← seconds, List.forall₂_map_left_iff, List.forall₂_map_right_iff, List.forall₂_same]
  intro pair member
  have among := (List.mergeSort_perm _ _).subset member
  exact List.forall₂_zip alike among

end

/-! ## Frames and readers side by side -/

namespace Frame

/-- The frame without the place where it was opened. -/
def shape : Frame → Frame
  | indent column => indent column
  | group bracket _ => group bracket 0
  | splice _ => splice 0
  | string quote _ => string quote 0

theorem isString_shape (frame : Frame) : frame.shape.isString = frame.isString := by
  cases frame <;> rfl

theorem isClosedBy_shape (closer : ClosingBracket) (frame : Frame) :
    frame.shape.isClosedBy closer = frame.isClosedBy closer := by
  cases frame <;> rfl

theorem isDeeperThan_shape (column : Nat) (frame : Frame) :
    frame.shape.isDeeperThan column = frame.isDeeperThan column := by
  cases frame <;> rfl

theorem ignoresLines_shape (frame : Frame) : frame.shape.ignoresLines = frame.ignoresLines := by
  cases frame with
  | group bracket opened => cases bracket <;> rfl
  | _ => rfl

theorem layoutActive_shape (frames : List Frame) :
    layoutActive (frames.map shape) = layoutActive frames := by
  cases frames with
  | nil => rfl
  | cons frame frames =>
      cases frame with
      | group bracket opened => cases bracket <;> rfl
      | _ => rfl

theorem level?_shape (frames : List Frame) : level? (frames.map shape) = level? frames := by
  cases frames with
  | nil => rfl
  | cons frame frames => cases frame <;> rfl

variable {frames framesThere : List Frame}

theorem takeWhile_shape {test : Frame → Bool}
    (blind : ∀ frame : Frame, test frame.shape = test frame)
    (same : framesThere.map shape = frames.map shape) :
    (framesThere.takeWhile test).map shape = (frames.takeWhile test).map shape := by
  have through : ∀ frames : List Frame,
      (frames.takeWhile test).map shape = (frames.map shape).takeWhile test := by
    intro frames
    rw [List.takeWhile_map]
    congr 2
    exact (funext blind).symm
  rw [through, through, same]

theorem drop_shape (same : framesThere.map shape = frames.map shape) (count : Nat) :
    (framesThere.drop count).map shape = (frames.drop count).map shape := by
  rw [List.map_drop, List.map_drop, same]

theorem take_shape (same : framesThere.map shape = frames.map shape) (count : Nat) :
    (framesThere.take count).map shape = (frames.take count).map shape := by
  rw [List.map_take, List.map_take, same]

theorem length_of_shape (same : framesThere.map shape = frames.map shape) :
    framesThere.length = frames.length := by
  have lengths := congrArg List.length same
  rwa [List.length_map, List.length_map] at lengths

end Frame

/-- How two readings may differ: in the texts of strings, and in where things stand. -/
structure Rewriting where
  /-- What becomes of the text of a string. -/
  edit : String → String
  /-- Which places of the two sources belong to each other. -/
  place : Nat → Nat → Prop

/-- A token and what it becomes in the other source. -/
structure Token.Parallels (rewriting : Rewriting) (token other : Token) : Prop where
  kind : other.kind = token.kind.mapText rewriting.edit
  start : rewriting.place token.span.start other.span.start
  stop : rewriting.place token.span.stop other.span.stop
  newline : other.hasNewlineBefore = token.hasNewlineBefore
  trivia : other.hasTriviaBefore = token.hasTriviaBefore

/-- What two finished readings have in common. -/
structure Lexed.Parallels (rewriting : Rewriting) (first second : Lexed) : Prop where
  tokens : List.Forall₂ (Token.Parallels rewriting) first.tokens second.tokens
  faults : second.diagnostics.map Diagnostic.fault = first.diagnostics.map Diagnostic.fault

namespace Lexed.Parallels

variable {rewriting : Rewriting} {first second : Lexed}

theorem kinds (parallels : first.Parallels rewriting second) :
    second.tokens.map Token.kind =
      first.tokens.map fun token => token.kind.mapText rewriting.edit :=
  map_eq_of_forall₂ parallels.tokens fun _ _ token => token.kind

theorem newlines (parallels : first.Parallels rewriting second) :
    second.tokens.map Token.hasNewlineBefore = first.tokens.map Token.hasNewlineBefore :=
  map_eq_of_forall₂ parallels.tokens fun _ _ token => token.newline

/-- Where nothing is reported of the one source, nothing is reported of the other one. -/
theorem sound (parallels : first.Parallels rewriting second) (silent : first.diagnostics = []) :
    second.diagnostics = [] := by
  have faults := parallels.faults
  rw [silent] at faults
  exact List.map_eq_nil_iff.mp faults

end Lexed.Parallels

namespace Reader

/-- Two readers that have found the same so far and have the same constructs open. -/
structure Parallels (rewriting : Rewriting) (first second : Reader) : Prop where
  tabWidth : second.tabWidth = first.tabWidth
  offset : rewriting.place first.offset second.offset
  column : second.column = first.column
  frames : second.frames.map Frame.shape = first.frames.map Frame.shape
  newline : (second.trivia.toList.any fun trivia => trivia.kind == .newline) =
    first.trivia.toList.any fun trivia => trivia.kind == .newline
  trivia : second.trivia.toList.isEmpty = first.trivia.toList.isEmpty
  atLineStart : second.atLineStart = first.atLineStart
  lineIndent : second.lineIndent = first.lineIndent
  lastEnd : rewriting.place first.lastEnd second.lastEnd
  tokens : List.Forall₂ (Token.Parallels rewriting) first.tokens.toList second.tokens.toList
  faults : second.diagnostics.toList.map Diagnostic.fault =
    first.diagnostics.toList.map Diagnostic.fault

namespace Parallels

variable {rewriting : Rewriting} {first second : Reader}

/-- In front of their sources two readers are parallel. -/
theorem start (origin : rewriting.place 0 0) (tabWidth : Nat) (text other : List Char) :
    Parallels rewriting (.start tabWidth text) (.start tabWidth other) :=
  ⟨rfl, origin, rfl, rfl, rfl, rfl, rfl, rfl, origin, .nil, rfl⟩

/-! ## Steps that do not look -/

theorem push {tokens tokensThere : Array Token} {token other : Token}
    (tokensAlike : List.Forall₂ (Token.Parallels rewriting) tokens.toList tokensThere.toList)
    (alike : token.Parallels rewriting other) :
    List.Forall₂ (Token.Parallels rewriting) (tokens.push token).toList
      (tokensThere.push other).toList := by
  rw [Array.toList_push, Array.toList_push]
  exact List.rel_append tokensAlike (.cons alike .nil)

/-- The layout rules insert no strings. -/
theorem insert (parallels : Parallels rewriting first second) {kind : TokenKind}
    (plain : kind.mapText rewriting.edit = kind) {offset other : Nat}
    (placed : rewriting.place offset other) :
    Parallels rewriting (first.insert kind offset) (second.insert kind other) :=
  { parallels with tokens := push parallels.tokens ⟨plain.symm, placed, placed, rfl, rfl⟩ }

theorem insertBehind (parallels : Parallels rewriting first second) {kind : TokenKind}
    (plain : kind.mapText rewriting.edit = kind) :
    Parallels rewriting (first.insert kind first.lastEnd) (second.insert kind second.lastEnd) :=
  parallels.insert plain parallels.lastEnd

theorem add (parallels : Parallels rewriting first second) (kind : TokenKind)
    {span other : Span} (starts : rewriting.place span.start other.start)
    (stops : rewriting.place span.stop other.stop) :
    Parallels rewriting (first.add kind span)
      (second.add (kind.mapText rewriting.edit) other) where
  tabWidth := parallels.tabWidth
  offset := parallels.offset
  column := parallels.column
  frames := parallels.frames
  newline := rfl
  trivia := rfl
  atLineStart := parallels.atLineStart
  lineIndent := parallels.lineIndent
  lastEnd := stops
  tokens := push parallels.tokens
    ⟨rfl, starts, stops, parallels.newline, congrArg (!·) parallels.trivia⟩
  faults := parallels.faults

theorem addTrivia (parallels : Parallels rewriting first second) (kind : TriviaKind)
    (span other : Span) :
    Parallels rewriting (first.addTrivia kind span) (second.addTrivia kind other) := by
  refine { parallels with newline := ?_, trivia := ?_ }
  · unfold Reader.addTrivia
    rw [Array.toList_push, Array.toList_push, List.any_append, List.any_append,
      parallels.newline]
    rfl
  · unfold Reader.addTrivia
    rw [Array.toList_push, Array.toList_push, List.isEmpty_eq_false_iff.mpr
      (List.append_ne_nil_of_right_ne_nil _ (List.cons_ne_nil _ _)),
      List.isEmpty_eq_false_iff.mpr (List.append_ne_nil_of_right_ne_nil _ (List.cons_ne_nil _ _))]

theorem report (parallels : Parallels rewriting first second) (fault : LexicalFault)
    (span other : Span) :
    Parallels rewriting (first.report fault span) (second.report fault other) := by
  refine { parallels with faults := ?_ }
  unfold Reader.report
  rw [Array.toList_push, Array.toList_push, List.map_append, List.map_append, parallels.faults]
  rfl

theorem setFrames (parallels : Parallels rewriting first second) {frames other : List Frame}
    (same : other.map Frame.shape = frames.map Frame.shape) :
    Parallels rewriting { first with frames := frames } { second with frames := other } :=
  { parallels with frames := same }

theorem openFrame (parallels : Parallels rewriting first second) {frame other : Frame}
    (same : other.shape = frame.shape) :
    Parallels rewriting (first.openFrame frame) (second.openFrame other) := by
  refine { parallels with frames := ?_ }
  unfold Reader.openFrame
  rw [List.map_cons, List.map_cons, same, parallels.frames]

theorem setAtLineStart (parallels : Parallels rewriting first second) (begins : Bool) :
    Parallels rewriting { first with atLineStart := begins }
      { second with atLineStart := begins } :=
  { parallels with atLineStart := rfl }

theorem setLineIndent (parallels : Parallels rewriting first second) (column : Nat) :
    Parallels rewriting { first with lineIndent := column }
      { second with lineIndent := column } :=
  { parallels with lineIndent := rfl }

theorem advance (parallels : Parallels rewriting first second)
    {text other : List Char} (rest otherRest : List Char)
    (columns : Column.afterText second.tabWidth second.column other =
      Column.afterText first.tabWidth first.column text)
    (places : rewriting.place (first.offset + Utf8.byteLength text)
      (second.offset + Utf8.byteLength other)) :
    Parallels rewriting (first.advance text rest) (second.advance other otherRest) :=
  { parallels with offset := places, column := columns }

theorem foldl {change changeThere : Reader → Frame → Reader}
    (each : ∀ {first second : Reader} {frame other : Frame}, other.shape = frame.shape →
      Parallels rewriting first second →
        Parallels rewriting (change first frame) (changeThere second other))
    {cut cutThere : List Frame} (same : cutThere.map Frame.shape = cut.map Frame.shape)
    (parallels : Parallels rewriting first second) :
    Parallels rewriting (cut.foldl change first) (cutThere.foldl changeThere second) := by
  induction cut generalizing cutThere first second with
  | nil =>
      cases cutThere with
      | nil => exact parallels
      | cons frame cutThere => cases same
  | cons frame cut inductionHypothesis =>
      cases cutThere with
      | nil => cases same
      | cons other cutThere =>
          rcases List.cons.inj same with ⟨head, tail⟩
          rw [List.foldl_cons, List.foldl_cons]
          exact inductionHypothesis tail (each head parallels)

/-! ## The layout rules -/

theorem lastKind? (parallels : Parallels rewriting first second) :
    second.lastKind? = first.lastKind?.map (TokenKind.mapText rewriting.edit) := by
  have kinds := map_eq_of_forall₂ parallels.tokens fun _ _ token => token.kind
  have last := congrArg List.getLast? kinds
  rw [List.getLast?_map, List.getLast?_map] at last
  unfold Reader.lastKind?
  rw [← Array.getLast?_toList, ← Array.getLast?_toList, last, Option.map_map]
  rfl

/-- Where strings are not told apart, the last token answers in the same way. -/
theorem any_lastKind? (parallels : Parallels rewriting first second) {test : TokenKind → Bool}
    (blind : ∀ kind, test (kind.mapText rewriting.edit) = test kind) :
    second.lastKind?.any test = first.lastKind?.any test := by
  rw [parallels.lastKind?]
  cases first.lastKind? with
  | none => rfl
  | some kind => exact blind kind

theorem closeBlocks (parallels : Parallels rewriting first second) (column : Nat) :
    Parallels rewriting (first.closeBlocks column) (second.closeBlocks column) := by
  have closed := Frame.takeWhile_shape (Frame.isDeeperThan_shape column) parallels.frames
  unfold Reader.closeBlocks
  dsimp only
  rw [Frame.length_of_shape closed]
  refine foldl ?_ closed (parallels.setFrames (Frame.drop_shape parallels.frames _))
  intro first second frame other same parallels
  exact parallels.insertBehind rfl

theorem openBlock (parallels : Parallels rewriting first second) {reader readerThere : Reader}
    (lineIndent : readerThere.lineIndent = reader.lineIndent) (column : Nat)
    {offset other : Nat} (placed : rewriting.place offset other) :
    Parallels rewriting (beginLine.openBlock reader column offset first)
      (beginLine.openBlock readerThere column other second) := by
  unfold beginLine.openBlock
  rw [parallels.any_lastKind? (TokenKind.opensBlock_mapText _), lineIndent]
  split
  · exact (parallels.openFrame rfl).insert rfl placed
  · exact parallels

variable {next nextThere : Option Char}

theorem beginLine (parallels : Parallels rewriting first second) (column : Nat)
    {offset other : Nat} (placed : rewriting.place offset other) (kind : TokenKind)
    (follows : (nextThere.any fun c => !isBlank c) = next.any fun c => !isBlank c) :
    Parallels rewriting (first.beginLine column offset kind next)
      (second.beginLine column other (kind.mapText rewriting.edit) nextThere) := by
  have fitted := (parallels.closeBlocks column).setLineIndent column
  have dedented : second.frames.head?.any (Frame.isDeeperThan column) =
      first.frames.head?.any (Frame.isDeeperThan column) := by
    have heads := congrArg List.head? parallels.frames
    rw [List.head?_map, List.head?_map] at heads
    have blind := congrArg (Option.any (Frame.isDeeperThan column)) heads
    rw [Option.any_map, Option.any_map] at blind
    exact (funext (Frame.isDeeperThan_shape column) : Frame.isDeeperThan column ∘ Frame.shape =
      Frame.isDeeperThan column) ▸ blind
  have level : Frame.level? (second.closeBlocks column).frames =
      Frame.level? (first.closeBlocks column).frames := by
    rw [← Frame.level?_shape, ← Frame.level?_shape (first.closeBlocks column).frames]
    exact congrArg Frame.level? fitted.frames
  have last := fitted.any_lastKind? (TokenKind.canEndStatement_mapText rewriting.edit)
  have opened := fitted.openBlock parallels.lineIndent column placed
  unfold Reader.beginLine
  dsimp only
  rw [level, dedented, last, TokenKind.canStartStatement_mapText rewriting.edit _ follows]
  split
  · split
    · split
      · exact fitted.insertBehind rfl
      · exact fitted
    · split
      · exact (fitted.report (.inconsistentIndentation column) _ _).insert rfl placed
      · exact opened
  · split
    · exact fitted
    · exact opened

theorem abandonGroups (parallels : Parallels rewriting first second) :
    Parallels rewriting first.abandonGroups second.abandonGroups := by
  have abandoned := Frame.takeWhile_shape Frame.ignoresLines_shape parallels.frames
  unfold Reader.abandonGroups
  dsimp only
  rw [Frame.length_of_shape abandoned]
  refine foldl ?_ abandoned (parallels.setFrames (Frame.drop_shape parallels.frames _))
  intro first second frame other same parallels
  cases frame with
  | group bracket opened =>
      cases other <;> cases same
      exact (parallels.report (.unterminatedBlock bracket.char) _ _).insertBehind rfl
  | _ =>
      cases other <;> cases same
      exact parallels

theorem applyLayout (parallels : Parallels rewriting first second) (kind : TokenKind)
    (follows : (nextThere.any fun c => !isBlank c) = next.any fun c => !isBlank c) :
    Parallels rewriting (first.applyLayout kind next)
      (second.applyLayout (kind.mapText rewriting.edit) nextThere) := by
  have active : ∀ {inside insideThere : Reader}, Parallels rewriting inside insideThere →
      Frame.layoutActive insideThere.frames = Frame.layoutActive inside.frames := by
    intro inside insideThere parallels
    rw [← Frame.layoutActive_shape, ← Frame.layoutActive_shape inside.frames, parallels.frames]
  have begins : ∀ {inside insideThere : Reader}, Parallels rewriting inside insideThere →
      Parallels rewriting
        (if Frame.layoutActive inside.frames then
          inside.beginLine inside.column inside.offset kind next else inside)
        (if Frame.layoutActive insideThere.frames then
          insideThere.beginLine insideThere.column insideThere.offset
            (kind.mapText rewriting.edit) nextThere else insideThere) := by
    intro inside insideThere parallels
    rw [active parallels, parallels.column]
    split
    · exact parallels.beginLine _ parallels.offset kind follows
    · exact parallels
  have begun := parallels.setAtLineStart false
  have walksOut :
      (!Frame.layoutActive second.frames && (kind.mapText rewriting.edit).startsDefinition &&
        decide (second.column ≤ second.lineIndent)) =
      (!Frame.layoutActive first.frames && kind.startsDefinition &&
        decide (first.column ≤ first.lineIndent)) := by
    rw [active parallels, parallels.column, parallels.lineIndent,
      TokenKind.startsDefinition_mapText]
  unfold Reader.applyLayout
  rw [parallels.atLineStart]
  split
  · dsimp only
    refine begins ?_
    rw [walksOut]
    split
    · exact begun.abandonGroups
    · exact begun
  · exact parallels

/-! ## Adding a token -/

theorem cutOff (parallels : Parallels rewriting first second) {frame other : Frame}
    (same : other.shape = frame.shape) :
    Parallels rewriting (first.cutOff frame) (second.cutOff other) := by
  cases frame <;> cases other <;> cases same
  · exact parallels.insertBehind rfl
  · exact parallels.report _ _ _
  · exact parallels.report _ _ _
  · exact parallels

theorem addCloser (parallels : Parallels rewriting first second) (closer : ClosingBracket)
    {span other : Span} (starts : rewriting.place span.start other.start)
    (stops : rewriting.place span.stop other.stop) :
    Parallels rewriting (first.addCloser closer span) (second.addCloser closer other) := by
  have visible : (second.frames.takeWhile fun frame => !frame.isString).map Frame.shape =
      (first.frames.takeWhile fun frame => !frame.isString).map Frame.shape :=
    Frame.takeWhile_shape (fun frame => congrArg (!·) (Frame.isString_shape frame))
      parallels.frames
  have found : (second.frames.takeWhile fun frame => !frame.isString).findIdx?
        (Frame.isClosedBy closer) =
      (first.frames.takeWhile fun frame => !frame.isString).findIdx?
        (Frame.isClosedBy closer) := by
    have blind : Frame.isClosedBy closer ∘ Frame.shape = Frame.isClosedBy closer :=
      funext (Frame.isClosedBy_shape closer)
    have indices := congrArg (List.findIdx? (Frame.isClosedBy closer)) visible
    rwa [List.findIdx?_map, List.findIdx?_map, blind] at indices
  unfold Reader.addCloser
  dsimp only
  rw [found]
  cases (first.frames.takeWhile fun frame => !frame.isString).findIdx?
      (Frame.isClosedBy closer) with
  | none => exact (parallels.report _ span other).add (.error _) starts stops
  | some index =>
      have cut := parallels.foldl (fun same parallels => parallels.cutOff same)
        (Frame.take_shape visible index)
      exact (cut.setFrames (Frame.drop_shape parallels.frames _)).add (.punctuation _) starts stops

theorem emit (parallels : Parallels rewriting first second) (kind : TokenKind)
    {span other : Span} (starts : rewriting.place span.start other.start)
    (stops : rewriting.place span.stop other.stop)
    (follows : (nextThere.any fun c => !isBlank c) = next.any fun c => !isBlank c) :
    Parallels rewriting (first.emit kind span next)
      (second.emit (kind.mapText rewriting.edit) other nextThere) := by
  have placed := parallels.applyLayout kind follows
  unfold Reader.emit
  dsimp only
  rw [TokenKind.closing_mapText, TokenKind.bracket_mapText]
  split
  · exact placed.addCloser _ starts stops
  · split
    · rename_i bracket _
      have same : (Frame.group bracket other.start).shape =
          (Frame.group bracket span.start).shape := rfl
      exact (placed.openFrame same).add kind starts stops
    · exact placed.add kind starts stops

/-! ## The end of the source -/

theorem closeAtEnd (parallels : Parallels rewriting first second) {frame other : Frame}
    (same : other.shape = frame.shape) :
    Parallels rewriting (first.closeAtEnd frame) (second.closeAtEnd other) := by
  cases frame <;> cases other <;> cases same
  · exact parallels.insertBehind rfl
  · exact (parallels.report _ _ _).insert rfl parallels.offset
  · exact parallels
  · exact (parallels.report _ _ _).insert rfl parallels.offset

theorem finish (parallels : Parallels rewriting first second) :
    first.finish.Parallels rewriting second.finish := by
  have closed := parallels.foldl (fun same parallels => parallels.closeAtEnd same)
    parallels.frames
  have starts : rewriting.place (Span.empty first.offset).start (Span.empty second.offset).start :=
    parallels.offset
  have ended := closed.add .endOfFile starts starts
  exact ⟨ended.tokens, ended.faults⟩

end Parallels
end Reader

end Offside
