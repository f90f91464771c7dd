import Offside.Lexed
import Offside.Proofs.Lexing.Ahead

namespace Offside

/-!
# The same reading further on

A reader asks for few things: the text in front of it, its column, what is open, what the
last token was and whether the line has just begun.  Two readers that agree in all that
find the same tokens, and what they report is the same; where one of them stands further
on in its source, so do its tokens and reports.

One of the two readers may have more text behind what the other one reads, as long as
the next lexeme does not depend on it.
-/

/-! ## Further on in a source -/

/-- A span that stands further on. -/
def Span.moved (distance : Nat) (span : Span) : Span :=
  ⟨span.start + distance, span.stop + distance⟩

/-- A report that stands further on. -/
def Diagnostic.moved (distance : Nat) (diagnostic : Diagnostic) : Diagnostic :=
  { diagnostic with span := diagnostic.span.moved distance }

def Trivia.moved (distance : Nat) (trivia : Trivia) : Trivia :=
  { trivia with span := trivia.span.moved distance }

/-- A token that stands further on, with its trivia. -/
def Token.moved (distance : Nat) (token : Token) : Token where
  kind := token.kind
  span := token.span.moved distance
  leading := token.leading.map (Trivia.moved distance)

theorem Token.moved_zero (token : Token) : token.moved 0 = token := by
  unfold moved
  exact congrArg (Token.mk _ _) (List.map_id _)

namespace Frame

/-- A frame that was opened further on. -/
def moved (distance : Nat) : Frame → Frame
  | indent column => indent column
  | group bracket opened => group bracket (opened + distance)
  | splice opened => splice (opened + distance)
  | string quote opened => string quote (opened + distance)

theorem moved_zero (frame : Frame) : frame.moved 0 = frame := by
  cases frame <;> rfl

variable (distance : Nat) (frames : List Frame)

theorem isString_moved (frame : Frame) : (frame.moved distance).isString = frame.isString := by
  cases frame <;> rfl

theorem isClosedBy_moved (closer : ClosingBracket) (frame : Frame) :
    (frame.moved distance).isClosedBy closer = frame.isClosedBy closer := by
  cases frame <;> rfl

theorem isDeeperThan_moved (column : Nat) (frame : Frame) :
    (frame.moved distance).isDeeperThan column = frame.isDeeperThan column := by
  cases frame <;> rfl

theorem ignoresLines_moved (frame : Frame) :
    (frame.moved distance).ignoresLines = frame.ignoresLines := by
  cases frame with
  | group bracket opened => cases bracket <;> rfl
  | _ => rfl

theorem layoutActive_moved :
    layoutActive (frames.map (moved distance)) = layoutActive frames := by
  cases frames with
  | nil => rfl
  | cons frame frames =>
      cases frame with
      | group bracket opened => cases bracket <;> rfl
      | _ => rfl

theorem level?_moved : level? (frames.map (moved distance)) = level? frames := by
  cases frames with
  | nil => rfl
  | cons frame frames => cases frame <;> rfl

theorem takeWhile_moved {test : Frame → Bool}
    (same : ∀ frame : Frame, test (frame.moved distance) = test frame) :
    (frames.map (moved distance)).takeWhile test =
      (frames.takeWhile test).map (moved distance) := by
  rw [List.takeWhile_map]
  congr 2
  exact funext same

end Frame

namespace Reader

/-- Two readers that find the same from now on.  One of them stands further on in its
source and has other tokens in front and more text behind. -/
structure Tracks (base front : List Token) (distance : Nat) (back : List Char)
    (first second : Reader) : Prop where
  tabWidth : second.tabWidth = first.tabWidth
  rest : second.rest = first.rest ++ back
  offset : second.offset = first.offset + distance
  column : second.column = first.column
  frames : second.frames = first.frames.map (Frame.moved distance)
  trivia : second.trivia.toList = first.trivia.toList.map (Trivia.moved distance)
  atLineStart : second.atLineStart = first.atLineStart
  lineIndent : second.lineIndent = first.lineIndent
  lastEnd : second.lastEnd = first.lastEnd + distance
  tokens : ∃ new, first.tokens.toList = base ++ new ∧
    second.tokens.toList = front ++ new.map (Token.moved distance)
  diagnostics : second.diagnostics.toList =
    first.diagnostics.toList.map (Diagnostic.moved distance)

namespace Tracks

variable {base front : List Token} {distance : Nat} {back : List Char} {first second : Reader}

/-! ## Steps that do not look -/

theorem push {tokens : Array Token} {token : Token} {tokensThere : Array Token}
    (tracks : ∃ new, tokens.toList = base ++ new ∧
      tokensThere.toList = front ++ new.map (Token.moved distance)) :
    ∃ new, (tokens.push token).toList = base ++ new ∧
      (tokensThere.push (token.moved distance)).toList =
        front ++ new.map (Token.moved distance) := by
  rcases tracks with ⟨new, here, there⟩
  refine ⟨new ++ [token], ?_, ?_⟩
  · rw [Array.toList_push, here, List.append_assoc]
  · rw [Array.toList_push, there, List.map_append, List.append_assoc]
    rfl

theorem insert (tracks : Tracks base front distance back first second) (kind : TokenKind)
    (offset : Nat) :
    Tracks base front distance back (first.insert kind offset)
      (second.insert kind (offset + distance)) :=
  { tracks with tokens := push tracks.tokens }

theorem insertBehind (tracks : Tracks base front distance back first second)
    (kind : TokenKind) :
    Tracks base front distance back (first.insert kind first.lastEnd)
      (second.insert kind second.lastEnd) := by
  rw [tracks.lastEnd]
  exact tracks.insert kind first.lastEnd

theorem add (tracks : Tracks base front distance back first second) (kind : TokenKind)
    (span : Span) :
    Tracks base front distance back (first.add kind span)
      (second.add kind (span.moved distance)) := by
  have token : (⟨kind, span.moved distance, second.trivia.toList⟩ : Token) =
      (⟨kind, span, first.trivia.toList⟩ : Token).moved distance := by
    rw [tracks.trivia]
    rfl
  refine { tracks with tokens := ?_, trivia := rfl, lastEnd := rfl }
  unfold Reader.add
  rw [token]
  exact push tracks.tokens

theorem addTrivia (tracks : Tracks base front distance back first second) (kind : TriviaKind)
    (span : Span) :
    Tracks base front distance back (first.addTrivia kind span)
      (second.addTrivia kind (span.moved distance)) := by
  refine { tracks with trivia := ?_ }
  unfold Reader.addTrivia
  rw [Array.toList_push, Array.toList_push, tracks.trivia, List.map_append]
  rfl

theorem report (tracks : Tracks base front distance back first second) (fault : LexicalFault)
    (span : Span) :
    Tracks base front distance back (first.report fault span)
      (second.report fault (span.moved distance)) := by
  refine { tracks with diagnostics := ?_ }
  unfold Reader.report
  rw [Array.toList_push, Array.toList_push, tracks.diagnostics, List.map_append]
  rfl

/-- A report about an opening character. -/
theorem reportBracket (tracks : Tracks base front distance back first second)
    (fault : LexicalFault) (opened : Nat) :
    Tracks base front distance back (first.report fault ⟨opened, opened + 1⟩)
      (second.report fault ⟨opened + distance, opened + distance + 1⟩) := by
  have reported := tracks.report fault ⟨opened, opened + 1⟩
  unfold Span.moved at reported
  rw [Nat.add_right_comm] at reported
  exact reported

theorem setFrames (tracks : Tracks base front distance back first second)
    (frames : List Frame) :
    Tracks base front distance back { first with frames := frames }
      { second with frames := frames.map (Frame.moved distance) } :=
  { tracks with frames := rfl }

theorem openFrame (tracks : Tracks base front distance back first second) (frame : Frame) :
    Tracks base front distance back (first.openFrame frame)
      (second.openFrame (frame.moved distance)) := by
  refine { tracks with frames := ?_ }
  exact congrArg (frame.moved distance :: ·) tracks.frames

theorem setAtLineStart (tracks : Tracks base front distance back first second) (begins : Bool) :
    Tracks base front distance back { first with atLineStart := begins }
      { second with atLineStart := begins } :=
  { tracks with atLineStart := rfl }

theorem setLineIndent (tracks : Tracks base front distance back first second) (column : Nat) :
    Tracks base front distance back { first with lineIndent := column }
      { second with lineIndent := column } :=
  { tracks with lineIndent := rfl }

theorem advance (tracks : Tracks base front distance back first second)
    (text rest : List Char) :
    Tracks base front distance back (first.advance text rest)
      (second.advance text (rest ++ back)) := by
  refine { tracks with rest := rfl, offset := ?_, column := ?_ }
  · show second.offset + _ = first.offset + _ + distance
    rw [tracks.offset]
    omega
  · show Column.afterText second.tabWidth second.column text = _
    rw [tracks.tabWidth, tracks.column]
    rfl

theorem spanOf (tracks : Tracks base front distance back first second) (text : List Char) :
    second.spanOf text = (first.spanOf text).moved distance := by
  unfold Reader.spanOf Span.moved
  rw [tracks.offset, Nat.add_right_comm]

theorem foldl {change changeThere : Reader → Frame → Reader}
    (each : ∀ {first second : Reader} (frame : Frame),
      Tracks base front distance back first second →
        Tracks base front distance back (change first frame)
          (changeThere second (frame.moved distance)))
    (cut : List Frame) (tracks : Tracks base front distance back first second) :
    Tracks base front distance back (cut.foldl change first)
      ((cut.map (Frame.moved distance)).foldl changeThere second) := by
  induction cut generalizing first second with
  | nil => exact tracks
  | cons frame cut inductionHypothesis => exact inductionHypothesis (each frame tracks)

/-! ## The layout rules -/

theorem lastKind? (tracks : Tracks base front distance back first second)
    (lasts : front.getLast?.map Token.kind = base.getLast?.map Token.kind) :
    second.lastKind? = first.lastKind? := by
  rcases tracks.tokens with ⟨new, here, there⟩
  unfold Reader.lastKind?
  rw [← Array.getLast?_toList, ← Array.getLast?_toList, here, there]
  rcases List.eq_nil_or_concat new with rfl | ⟨new, token, rfl⟩
  · rw [List.map_nil, List.append_nil, List.append_nil]
    exact lasts
  · rw [List.concat_eq_append, List.map_append, ← List.append_assoc, ← List.append_assoc,
      List.map_singleton, List.getLast?_concat, List.getLast?_concat]
    rfl

theorem closeBlocks (tracks : Tracks base front distance back first second) (column : Nat) :
    Tracks base front distance back (first.closeBlocks column) (second.closeBlocks column) := by
  unfold Reader.closeBlocks
  dsimp only
  rw [tracks.frames, Frame.takeWhile_moved _ _ (Frame.isDeeperThan_moved distance column),
    List.length_map, ← List.map_drop]
  refine foldl ?_ _ (tracks.setFrames _)
  exact fun _ tracks => tracks.insertBehind .outdent

theorem openBlock (tracks : Tracks base front distance back first second)
    (lasts : front.getLast?.map Token.kind = base.getLast?.map Token.kind)
    {reader readerThere : Reader} (lineIndent : readerThere.lineIndent = reader.lineIndent)
    (column offset : Nat) :
    Tracks base front distance back (beginLine.openBlock reader column offset first)
      (beginLine.openBlock readerThere column (offset + distance) second) := by
  unfold beginLine.openBlock
  rw [tracks.lastKind? lasts, lineIndent]
  split
  · exact (tracks.openFrame (.indent column)).insert .indent offset
  · exact tracks

theorem beginLine (tracks : Tracks base front distance back first second)
    (lasts : front.getLast?.map Token.kind = base.getLast?.map Token.kind)
    (column offset : Nat) (kind : TokenKind) (next : Option Char) :
    Tracks base front distance back (first.beginLine column offset kind next)
      (second.beginLine column (offset + distance) kind next) := by
  have fitted := (tracks.closeBlocks column).setLineIndent column
  have dedented : second.frames.head?.any (Frame.isDeeperThan column) =
      first.frames.head?.any (Frame.isDeeperThan column) := by
    rw [tracks.frames, List.head?_map]
    cases first.frames.head? with
    | none => rfl
    | some frame => exact Frame.isDeeperThan_moved distance column frame
  have level : Frame.level? (second.closeBlocks column).frames =
      Frame.level? (first.closeBlocks column).frames := by
    rw [fitted.frames, Frame.level?_moved]
  have last := fitted.lastKind? lasts
  have opened := fitted.openBlock lasts tracks.lineIndent column offset
  unfold Reader.beginLine
  dsimp only
  rw [level, dedented, last]
  split
  · split
    · split
      · exact fitted.insertBehind .autoSemicolon
      · exact fitted
    · split
      · exact (fitted.report (.inconsistentIndentation column) (.empty offset)).insert
          (.error "") offset
      · exact opened
  · split
    · exact fitted
    · exact opened

theorem abandonGroups (tracks : Tracks base front distance back first second) :
    Tracks base front distance back first.abandonGroups second.abandonGroups := by
  unfold Reader.abandonGroups
  dsimp only
  rw [tracks.frames, Frame.takeWhile_moved _ _ (Frame.ignoresLines_moved distance),
    List.length_map, ← List.map_drop]
  refine foldl ?_ _ (tracks.setFrames _)
  intro first second frame tracks
  cases frame with
  | group bracket opened =>
      exact (tracks.reportBracket (.unterminatedBlock bracket.char) opened).insertBehind (.error "")
  | _ => exact tracks

theorem applyLayout (tracks : Tracks base front distance back first second)
    (lasts : front.getLast?.map Token.kind = base.getLast?.map Token.kind)
    (kind : TokenKind) (next : Option Char) :
    Tracks base front distance back (first.applyLayout kind next)
      (second.applyLayout kind next) := by
  have begins : ∀ {inside insideThere : Reader},
      Tracks base front distance back inside insideThere →
      Tracks base front distance back
        (if Frame.layoutActive inside.frames then
          inside.beginLine inside.column inside.offset kind next else inside)
        (if Frame.layoutActive insideThere.frames then
          insideThere.beginLine insideThere.column insideThere.offset kind next
          else insideThere) := by
    intro inside insideThere tracks
    rw [tracks.frames, Frame.layoutActive_moved, tracks.column, tracks.offset]
    split
    · exact tracks.beginLine lasts _ _ kind next
    · exact tracks
  have begun := tracks.setAtLineStart false
  have walksOut :
      (!Frame.layoutActive second.frames && kind.startsDefinition &&
        decide (second.column ≤ second.lineIndent)) =
      (!Frame.layoutActive first.frames && kind.startsDefinition &&
        decide (first.column ≤ first.lineIndent)) := by
    rw [tracks.frames, Frame.layoutActive_moved, tracks.column, tracks.lineIndent]
  unfold Reader.applyLayout
  rw [tracks.atLineStart]
  split
  · dsimp only
    refine begins ?_
    rw [walksOut]
    split
    · exact begun.abandonGroups
    · exact begun
  · exact tracks

/-! ## Adding a token -/

theorem cutOff (tracks : Tracks base front distance back first second) (frame : Frame) :
    Tracks base front distance back (first.cutOff frame)
      (second.cutOff (frame.moved distance)) := by
  cases frame with
  | indent column => exact tracks.insertBehind .outdent
  | group bracket opened => exact tracks.reportBracket (.unterminatedBlock bracket.char) opened
  | splice opened => exact tracks.reportBracket (.unterminatedBlock '$') opened
  | string quote opened => exact tracks

theorem addCloser (tracks : Tracks base front distance back first second)
    (closer : ClosingBracket) (span : Span) :
    Tracks base front distance back (first.addCloser closer span)
      (second.addCloser closer (span.moved distance)) := by
  have notString : ∀ frame : Frame,
      (!(frame.moved distance).isString) = !frame.isString :=
    fun frame => congrArg (!·) (Frame.isString_moved distance frame)
  have fits : Frame.isClosedBy closer ∘ Frame.moved distance = Frame.isClosedBy closer :=
    funext (Frame.isClosedBy_moved distance closer)
  unfold Reader.addCloser
  dsimp only
  rw [tracks.frames, Frame.takeWhile_moved _ _ notString, List.findIdx?_map, fits]
  cases (first.frames.takeWhile fun frame => !frame.isString).findIdx?
      (Frame.isClosedBy closer) with
  | none => exact (tracks.report _ span).add _ span
  | some index =>
      dsimp only
      rw [← List.map_take, ← List.map_drop]
      exact ((foldl (fun frame tracks => tracks.cutOff frame) _ tracks).setFrames _).add _ span

theorem emit (tracks : Tracks base front distance back first second)
    (lasts : front.getLast?.map Token.kind = base.getLast?.map Token.kind)
    (kind : TokenKind) (span : Span) (next : Option Char) :
    Tracks base front distance back (first.emit kind span next)
      (second.emit kind (span.moved distance) next) := by
  have placed := tracks.applyLayout lasts kind next
  unfold Reader.emit
  dsimp only
  split
  · exact placed.addCloser _ span
  · split
    · exact (placed.openFrame (.group _ span.start)).add kind span
    · exact placed.add kind span

/-! ## Reading -/

theorem take_append_within {rest : List Char} {count : Nat}
    (within : back = [] ∨ count ≤ rest.length) :
    (rest ++ back).take count = rest.take count := by
  rcases within with rfl | within
  · rw [List.append_nil]
  · exact List.take_append_of_le_length within

theorem drop_append_within {rest : List Char} {count : Nat}
    (within : back = [] ∨ count ≤ rest.length) :
    (rest ++ back).drop count = rest.drop count ++ back := by
  rcases within with rfl | within
  · rw [List.append_nil, List.append_nil]
  · exact List.drop_append_of_le_length within

/-- The text behind must not change the lexeme.  Unless the lexeme is trivia, it must leave
something in front of that text, since the layout rules look at the character behind it. -/
theorem readLexeme [XidStart] (tracks : Tracks base front distance back first second)
    (lasts : front.getLast?.map Token.kind = base.getLast?.map Token.kind)
    {c : Char} {rest : List Char}
    (same : first.lexeme c (rest ++ back) = first.lexeme c rest)
    (within : back = [] ∨ (first.lexeme c rest).more ≤ rest.length)
    (short : back = [] ∨ (∃ kind, (first.lexeme c rest).lexeme = .trivia kind) ∨
      (first.lexeme c rest).more < rest.length) :
    Tracks base front distance back (first.readLexeme c rest)
      (second.readLexeme c (rest ++ back)) := by
  have last := tracks.lastKind? lasts
  unfold lexeme at same within short
  unfold Reader.readLexeme
  dsimp only
  rw [last, same]
  generalize Lexeme.scan (first.lastKind?.any TokenKind.endsOperand) c rest = found
    at within short ⊢
  rcases found with ⟨lexeme, more⟩
  dsimp only at within short ⊢
  have next : (∃ kind, lexeme = .trivia kind) ∨
      (rest.drop more ++ back).head? = (rest.drop more).head? := by
    rcases short with rfl | trivia | short
    · rw [List.append_nil]
      exact .inr rfl
    · exact .inl trivia
    · cases left : rest.drop more with
      | nil => exact absurd (List.drop_eq_nil_iff.mp left) (Nat.not_le.mpr short)
      | cons d left => exact .inr rfl
  rw [take_append_within within, drop_append_within within, tracks.spanOf]
  refine advance ?_ _ _
  split
  · exact (tracks.addTrivia .newline _).setAtLineStart true
  · rw [tracks.atLineStart]
    exact (tracks.addTrivia .blockComment _).setAtLineStart _
  · exact tracks.addTrivia _ _
  · rw [next.resolve_left nofun]
    exact tracks.emit lasts _ _ _
  · rename_i quote
    rw [next.resolve_left nofun]
    exact (tracks.emit lasts _ _ _).openFrame (.string quote (first.spanOf _).start)
  · rw [next.resolve_left nofun]
    exact (tracks.report _ _).emit lasts _ _ _

/-- Some characters become a token. -/
theorem addText (tracks : Tracks base front distance back first second)
    (kind : List Char → TokenKind) {count : Nat} (within : back = [] ∨ count ≤ first.rest.length) :
    Tracks base front distance back
      ((first.add (kind (first.rest.take count)) (first.spanOf (first.rest.take count))).advance
        (first.rest.take count) (first.rest.drop count))
      ((second.add (kind (second.rest.take count))
        (second.spanOf (second.rest.take count))).advance
        (second.rest.take count) (second.rest.drop count)) := by
  rw [tracks.rest, take_append_within within, drop_append_within within, tracks.spanOf]
  exact (tracks.add _ _).advance _ _

/-- The text behind must not change the piece of the string. -/
theorem readPiece [XidStart] (tracks : Tracks base front distance back first second)
    {quote : QuoteForm} (opened : Nat) (outer : List Frame)
    (same : StringText.scanPiece quote (first.rest ++ back) =
      StringText.scanPiece quote first.rest)
    (within : back = [] ∨
      (StringText.scanPiece quote first.rest).reach quote ≤ first.rest.length) :
    Tracks base front distance back (first.readPiece quote opened outer)
      (second.readPiece quote (opened + distance) (outer.map (Frame.moved distance))) := by
  have behindDollar : ∀ count, back = [] ∨ count + 1 ≤ first.rest.length →
      (back = [] ∨ 1 ≤ first.rest.length) ∧
        (back = [] ∨ count ≤ (first.rest.drop 1).length) := by
    rintro count (none | within)
    · exact ⟨.inl none, .inl none⟩
    · rw [List.length_drop]
      exact ⟨.inr (by omega), .inr (by omega)⟩
  rw [← tracks.rest] at same
  unfold Reader.readPiece
  dsimp only
  rw [same]
  split
  · rename_i found
    rw [found] at within
    exact (tracks.setFrames outer).addText (fun _ => .stringEnd quote) within
  · rename_i found
    rw [found] at within
    have inside := behindDollar 1 within
    have dollar := tracks.addText (fun _ => .punctuation .dollar) inside.1
    have opening := dollar.openFrame (.splice first.offset)
    have splice : (Frame.splice first.offset).moved distance = .splice second.offset :=
      congrArg Frame.splice tracks.offset.symm
    rw [splice] at opening
    exact opening.addText (fun _ => .punctuation .leftBrace) inside.2
  · rename_i found
    rw [found] at within
    have inside := behindDollar _ within
    have dollar := tracks.addText (fun _ => .punctuation .dollar) inside.1
    exact dollar.addText (fun name => .identifier (String.ofList name)) inside.2
  · rename_i found
    rw [found] at within
    exact tracks.addText (fun piece => .stringMiddle (String.ofList piece)) within
  · rename_i length found
    rw [found] at within
    change back = [] ∨ length ≤ first.rest.length at within
    rw [tracks.rest, take_append_within within, drop_append_within within, tracks.spanOf]
    refine advance ?_ _ _
    have read : Tracks base front distance back
        (if (first.rest.take length).isEmpty then first else
          first.add (.stringMiddle (String.ofList (first.rest.take length)))
            (first.spanOf (first.rest.take length)))
        (if (first.rest.take length).isEmpty then second else
          second.add (.stringMiddle (String.ofList (first.rest.take length)))
            ((first.spanOf (first.rest.take length)).moved distance)) := by
      split
      · exact tracks
      · exact tracks.add _ _
    exact ((read.setFrames outer).report .unterminatedString ⟨opened, _⟩).insert (.error "") _

theorem readLexeme_same [XidStart] (tracks : Tracks base front distance [] first second)
    (lasts : front.getLast?.map Token.kind = base.getLast?.map Token.kind) (c : Char)
    (rest : List Char) :
    Tracks base front distance [] (first.readLexeme c rest) (second.readLexeme c rest) := by
  have same : first.lexeme c (rest ++ []) = first.lexeme c rest := by rw [List.append_nil]
  have read := tracks.readLexeme lasts same (.inl rfl) (.inl rfl)
  rwa [List.append_nil] at read

/-- With nothing behind, one step of the two readers is the same. -/
theorem step [XidStart] (tracks : Tracks base front distance [] first second)
    (lasts : front.getLast?.map Token.kind = base.getLast?.map Token.kind) :
    Tracks base front distance [] first.step second.step := by
  have same := tracks.rest
  rw [List.append_nil] at same
  unfold Reader.step
  rw [same, tracks.frames]
  split
  · exact tracks
  · rename_i c rest unread
    cases frames : first.frames with
    | nil => exact tracks.readLexeme_same lasts c rest
    | cons frame outer =>
        cases frame with
        | string quote opened =>
            exact tracks.readPiece opened outer (by rw [List.append_nil]) (.inl rfl)
        | _ => exact tracks.readLexeme_same lasts c rest

theorem run [XidStart] (tracks : Tracks base front distance [] first second)
    (lasts : front.getLast?.map Token.kind = base.getLast?.map Token.kind) :
    Tracks base front distance [] first.run second.run := by
  have same := tracks.rest
  rw [List.append_nil] at same
  fun_induction Reader.run first generalizing second with
  | case1 first atEnd =>
      rw [run_of_read (same.trans (List.isEmpty_iff.mp atEnd))]
      exact tracks
  | case2 first unread inductionHypothesis =>
      rw [List.isEmpty_iff] at unread
      rw [run_of_unread (fun none => unread (same.symm.trans none))]
      have stepped := tracks.step lasts
      have sameBehind := stepped.rest
      rw [List.append_nil] at sameBehind
      exact inductionHypothesis stepped sameBehind

/-! ## The end of the source -/

theorem closeAtEnd (tracks : Tracks base front distance [] first second) (frame : Frame) :
    Tracks base front distance [] (first.closeAtEnd frame)
      (second.closeAtEnd (frame.moved distance)) := by
  cases frame with
  | indent column => exact tracks.insertBehind .outdent
  | splice opened => exact tracks
  | string quote opened =>
      have reported := tracks.report .unterminatedString ⟨opened, first.offset⟩
      have inserted := reported.insert (.error "") first.offset
      unfold Span.moved at inserted
      rw [← tracks.offset] at inserted
      exact inserted
  | group bracket opened =>
      have reported := tracks.reportBracket
        (.unterminatedBlock (if bracket = .hashCurly then Bracket.curly else bracket).char) opened
      have inserted := reported.insert (.error "") first.offset
      rw [← tracks.offset] at inserted
      exact inserted

/-- Readers of one text that have found the same so far. -/
theorem same (tracks : Tracks [] [] 0 back first second) :
    second.frames = first.frames ∧ second.tokens = first.tokens ∧
      second.diagnostics = first.diagnostics := by
  refine ⟨?_, Array.toList_inj.mp ?_, Array.toList_inj.mp ?_⟩
  · rw [tracks.frames, funext Frame.moved_zero]
    exact List.map_id _
  · rcases tracks.tokens with ⟨new, here, there⟩
    rw [there, here, funext Token.moved_zero]
    exact congrArg _ (List.map_id _)
  · rw [tracks.diagnostics]
    exact List.map_id _

/-- What the two readers have found in the end. -/
theorem finish (tracks : Tracks base front distance [] first second) :
    ∃ new, first.finish.tokens = base ++ new ∧
      second.finish.tokens = front ++ new.map (Token.moved distance) ∧
      second.finish.diagnostics = first.finish.diagnostics.map (Diagnostic.moved distance) := by
  have closed : Tracks base front distance [] (first.frames.foldl Reader.closeAtEnd first)
      (second.frames.foldl Reader.closeAtEnd second) := by
    rw [tracks.frames]
    exact foldl (fun frame tracks => tracks.closeAtEnd frame) _ tracks
  have ended := closed.add .endOfFile (.empty first.offset)
  unfold Span.empty Span.moved at ended
  rw [← tracks.offset] at ended
  rcases ended.tokens with ⟨new, here, there⟩
  exact ⟨new, here, there, ended.diagnostics⟩

end Tracks
end Reader
end Offside
