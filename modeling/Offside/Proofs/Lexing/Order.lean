import Offside.Proofs.Lexing.Ahead
import Offside.Proofs.Lexing.Lossless
import Offside.Proofs.Text.Rows

namespace Offside

/-!
# Tokens in the order of their places

Tokens that are read stand one behind the other.  Those that are inserted stand either
right behind the last real token, as the end of a block and a separator do, or right in
front of the next one, as the beginning of a block does and the mark of an inconsistent
indentation.  As long as nothing is inserted behind the last token once something was
inserted in front of the next one, all tokens are in order.

The layout rules of a line keep to that.  But a closing bracket at the beginning of a line
may open a block first and then cut it off, and at the end of the source a group that is
never closed is marked before the blocks around it end.  The end of such a block stands in
front of the token before it, wherever blanks lie in between.  Nothing else is ever out of
place.
-/

/-- Whether tokens of the kind may be inserted in front of the next real token, whatever
lies between that and the last one. -/
def TokenKind.standsAhead (kind : TokenKind) : Bool := kind == .indent || kind == .error ""

/-- The tokens are in order, or the second one ends a block that has just begun or that
was open around a mark. -/
def Token.Leads (token next : Token) : Prop :=
  token.span.Before next.span ∨ next.kind = .outdent ∧ token.kind.standsAhead = true

/-- The tokens are in order, unless the first one was inserted in front of what came next. -/
def Token.Precedes (token later : Token) : Prop :=
  token.kind.standsAhead = true ∨ token.span.Before later.span

namespace Reader

variable {before after reader : Reader} {token : Token} {kind : TokenKind}
  {bound limit further beyond : Nat}

/-- A token is added behind the last real token.  It is the last real one itself, or it is
inserted right there or in front of the next one. -/
structure Places (before : Reader) (token : Token) (after : Reader) : Prop where
  start : before.lastEnd ≤ token.span.start
  rises : before.lastEnd ≤ after.lastEnd
  stands : token.kind.standsAhead = true ∨ token.span.stop ≤ after.lastEnd

/-- The tokens found so far are in order.  The last one ends at a bound at most, and none
of them goes beyond a limit. -/
structure InOrder (bound limit : Nat) (reader : Reader) : Prop where
  chain : reader.tokens.toList.IsChain Token.Leads
  ends : ∀ token ∈ reader.tokens.toList.getLast?, token.span.stop ≤ bound
  within : ∀ token ∈ reader.tokens.toList, token.span.Proper ∧ token.span.stop ≤ limit
  precede : reader.tokens.toList.Pairwise Token.Precedes
  /-- Nothing but what is inserted in front of the next token goes beyond the last real one. -/
  stand : ∀ token ∈ reader.tokens.toList,
    token.kind.standsAhead = true ∨ token.span.stop ≤ reader.lastEnd

namespace InOrder

theorem of_same (inOrder : before.InOrder bound limit) (tokens : after.tokens = before.tokens)
    (lastEnd : after.lastEnd = before.lastEnd) : after.InOrder bound limit := by
  rcases inOrder with ⟨chain, ends, within, precede, stand⟩
  rw [← tokens] at chain ends within precede stand
  rw [← lastEnd] at stand
  exact ⟨chain, ends, within, precede, stand⟩

theorem mono (inOrder : reader.InOrder bound limit) (more : bound ≤ further)
    (beyondLimit : limit ≤ beyond) : reader.InOrder further beyond where
  chain := inOrder.chain
  ends token last := Nat.le_trans (inOrder.ends token last) more
  within token member :=
    ⟨(inOrder.within token member).1, Nat.le_trans (inOrder.within token member).2 beyondLimit⟩
  precede := inOrder.precede
  stand := inOrder.stand

/-- A token behind which the last one leads to it. -/
theorem pushLed (inOrder : before.InOrder bound limit)
    (tokens : after.tokens = before.tokens.push token)
    (led : ∀ last ∈ before.tokens.toList.getLast?, last.Leads token)
    (proper : token.span.Proper) (more : limit ≤ beyond)
    (upTo : token.span.stop ≤ further) (inside : token.span.stop ≤ beyond)
    (places : before.Places token after) :
    after.InOrder further beyond := by
  have added : after.tokens.toList = before.tokens.toList ++ [token] := by
    rw [tokens, Array.toList_push]
  refine ⟨?_, ?_, ?_, ?_, ?_⟩
  · rw [added]
    refine inOrder.chain.append (.singleton token) fun last isLast next isNext => ?_
    cases Option.mem_some_iff.mp isNext
    exact led last isLast
  · rw [added, List.getLast?_concat]
    rintro _ ⟨⟩
    exact upTo
  · rw [added]
    refine List.forall_mem_append.mpr ⟨(inOrder.mono (Nat.le_refl _) more).within, ?_⟩
    exact List.forall_mem_singleton.mpr ⟨proper, inside⟩
  · rw [added]
    refine List.pairwise_append.mpr ⟨inOrder.precede, List.pairwise_singleton _ _, ?_⟩
    intro other member
    refine List.forall_mem_singleton.mpr ?_
    exact (inOrder.stand other member).imp_right fun near => Nat.le_trans near places.start
  · rw [added]
    refine List.forall_mem_append.mpr ⟨fun other member => ?_, ?_⟩
    · exact (inOrder.stand other member).imp_right fun near => Nat.le_trans near places.rises
    · exact List.forall_mem_singleton.mpr places.stands

/-- A token behind the bound. -/
theorem push (inOrder : before.InOrder bound limit)
    (tokens : after.tokens = before.tokens.push token) (behind : bound ≤ token.span.start)
    (proper : token.span.Proper) (more : limit ≤ beyond)
    (upTo : token.span.stop ≤ further) (inside : token.span.stop ≤ beyond)
    (places : before.Places token after) :
    after.InOrder further beyond :=
  inOrder.pushLed tokens
    (fun last isLast => .inl (Nat.le_trans (inOrder.ends last isLast) behind)) proper more upTo
    inside places

end InOrder

/-- Nothing stands behind the end of the last real token. -/
structure Settled (reader : Reader) : Prop where
  inOrder : reader.InOrder reader.lastEnd reader.offset
  behind : reader.lastEnd ≤ reader.offset

/-- Nothing stands behind the end of the last real token, apart from a token that is
inserted in front of the next one. -/
structure Ready (reader : Reader) : Prop where
  inOrder : reader.InOrder reader.offset reader.offset
  behind : reader.lastEnd ≤ reader.offset
  last : reader.InOrder reader.lastEnd reader.offset ∨
    ∀ token ∈ reader.tokens.toList.getLast?, token.kind.standsAhead = true

theorem Settled.ready (settled : reader.Settled) : reader.Ready :=
  ⟨settled.inOrder.mono settled.behind (Nat.le_refl _), settled.behind, .inl settled.inOrder⟩

theorem Settled.of_same (settled : before.Settled) (tokens : after.tokens = before.tokens)
    (lastEnd : after.lastEnd = before.lastEnd) (offset : after.offset = before.offset) :
    after.Settled := by
  refine ⟨?_, by rw [lastEnd, offset]; exact settled.behind⟩
  rw [lastEnd, offset]
  exact settled.inOrder.of_same tokens lastEnd

theorem Ready.of_same (ready : before.Ready) (tokens : after.tokens = before.tokens)
    (lastEnd : after.lastEnd = before.lastEnd) (offset : after.offset = before.offset) :
    after.Ready := by
  refine ⟨?_, by rw [lastEnd, offset]; exact ready.behind, ?_⟩
  · rw [offset]
    exact ready.inOrder.of_same tokens lastEnd
  · rw [lastEnd, offset, tokens]
    exact ready.last.imp_left fun inOrder => inOrder.of_same tokens lastEnd

/-- Insertion behind the last real token. -/
theorem Settled.insertBehind (settled : reader.Settled) (kind : TokenKind) :
    (reader.insert kind reader.lastEnd).Settled :=
  ⟨settled.inOrder.push rfl (Nat.le_refl _) (Nat.le_refl _) (Nat.le_refl _) (Nat.le_refl _)
    settled.behind ⟨Nat.le_refl _, Nat.le_refl _, .inr (Nat.le_refl _)⟩, settled.behind⟩

/-- Insertion in front of the next real token. -/
theorem Ready.insertAhead (ready : reader.Ready) (ahead : kind.standsAhead = true) :
    (reader.insert kind reader.offset).Ready := by
  refine ⟨ready.inOrder.push rfl (Nat.le_refl _) (Nat.le_refl _) (Nat.le_refl _)
    (Nat.le_refl _) (Nat.le_refl _) ⟨ready.behind, Nat.le_refl _, .inl ahead⟩, ready.behind,
    .inr fun token last => ?_⟩
  have added : (reader.insert kind reader.offset).tokens.toList.getLast? =
      some (.bare kind (.empty reader.offset)) := by
    show (reader.tokens.push _).toList.getLast? = _
    rw [Array.toList_push, List.getLast?_concat]
  rw [added] at last
  cases last
  exact ahead

/-- The end of a block stands right behind the last real token, whatever was inserted. -/
theorem Ready.outdent (ready : reader.Ready) :
    (reader.insert .outdent reader.lastEnd).Settled := by
  refine ⟨ready.inOrder.pushLed rfl (fun last isLast => ?_) (Nat.le_refl _) (Nat.le_refl _)
    (Nat.le_refl _) ready.behind ⟨Nat.le_refl _, Nat.le_refl _, .inr (Nat.le_refl _)⟩,
    ready.behind⟩
  rcases ready.last with near | ahead
  · exact .inl (near.ends last isLast)
  · exact .inr ⟨rfl, ahead last isLast⟩

/-! ## The layout rules -/

theorem foldl_settled {change : Reader → Frame → Reader} {cut : List Frame}
    (each : ∀ frame ∈ cut, ∀ reader : Reader, reader.Settled → (change reader frame).Settled)
    (settled : reader.Settled) : (cut.foldl change reader).Settled := by
  induction cut generalizing reader with
  | nil => exact settled
  | cons frame cut inductionHypothesis =>
      rw [List.forall_mem_cons] at each
      exact inductionHypothesis each.2 (each.1 reader settled)

theorem foldl_ready {change : Reader → Frame → Reader} {cut : List Frame}
    (each : ∀ reader frame, Ready reader → (change reader frame).Ready)
    (ready : reader.Ready) : (cut.foldl change reader).Ready := by
  induction cut generalizing reader with
  | nil => exact ready
  | cons frame cut inductionHypothesis => exact inductionHypothesis (each reader frame ready)

theorem closeBlocks_settled (settled : reader.Settled) (column : Nat) :
    (reader.closeBlocks column).Settled :=
  foldl_settled (fun _ _ _ before => before.insertBehind .outdent) (settled.of_same rfl rfl rfl)

theorem beginLine_ready (settled : reader.Settled) (column : Nat) (kind : TokenKind)
    (next : Option Char) : (reader.beginLine column reader.offset kind next).Ready := by
  have fitted : ({ reader.closeBlocks column with lineIndent := column } : Reader).Settled :=
    (closeBlocks_settled settled column).of_same rfl rfl rfl
  have offset : ({ reader.closeBlocks column with lineIndent := column } : Reader).offset =
      reader.offset := (Inserts.closeBlocks reader column).offset
  generalize closed :
    ({ reader.closeBlocks column with lineIndent := column } : Reader) = begun at fitted offset
  rw [← offset]
  have told : (begun.report (.inconsistentIndentation column) (.empty begun.offset)).Ready :=
    fitted.ready.of_same rfl rfl rfl
  have opened : (begun.openFrame (.indent column)).Ready := fitted.ready.of_same rfl rfl rfl
  exact beginLine_cases (motive := Ready) closed fitted.ready
    (fitted.insertBehind .autoSemicolon).ready (told.insertAhead rfl)
    fun _ => opened.insertAhead rfl

theorem abandonGroups_settled (settled : reader.Settled) : reader.abandonGroups.Settled := by
  unfold abandonGroups
  refine foldl_settled (fun frame member before settled => ?_) (settled.of_same rfl rfl rfl)
  cases frame with
  | group bracket opened =>
      have told : (before.report (.unterminatedBlock bracket.char) ⟨opened, opened + 1⟩).Settled :=
        settled.of_same rfl rfl rfl
      exact told.insertBehind (.error "")
  | indent column => exact settled
  | splice opened => exact settled
  | string quote opened => exact settled

theorem applyLayout_ready (settled : reader.Settled) (kind : TokenKind) (next : Option Char) :
    (reader.applyLayout kind next).Ready := by
  have begun : ({ reader with atLineStart := false } : Reader).Settled :=
    settled.of_same rfl rfl rfl
  have outside := abandonGroups_settled begun
  exact applyLayout_cases (motive := Ready) rfl (fun _ => settled.ready) begun.ready
    (fun _ => beginLine_ready begun _ _ _) outside.ready fun _ => beginLine_ready outside _ _ _

/-! ## Reading -/

/-- A text was read into a token, which is the last one now. -/
structure HasAdded (text : List Char) (before after : Reader) : Prop where
  inOrder : after.InOrder (before.spanOf text).stop (before.spanOf text).stop
  lastEnd : after.lastEnd = (before.spanOf text).stop
  offset : after.offset = before.offset

/-- Behind the text of the last token nothing is out of place. -/
theorem HasAdded.advance {text : List Char} (added : before.HasAdded text after)
    (rest : List Char) : (after.advance text rest).Settled ∧
      (after.advance text rest).lastEnd = (after.advance text rest).offset := by
  have stands : (after.advance text rest).lastEnd = (after.advance text rest).offset := by
    show after.lastEnd = after.offset + Utf8.byteLength text
    rw [added.lastEnd, added.offset]
    rfl
  refine ⟨⟨?_, Nat.le_of_eq stands⟩, stands⟩
  rw [← stands]
  have inOrder := added.inOrder
  rw [← added.lastEnd] at inOrder
  exact inOrder.of_same rfl rfl

/-- A real token that stands where the reader does. -/
theorem Ready.hasAdded {placed : Reader} (ready : placed.Ready)
    (offset : placed.offset = before.offset) (kind : TokenKind) (text : List Char) :
    before.HasAdded text (placed.add kind (before.spanOf text)) := by
  have wide : before.offset ≤ (before.spanOf text).stop := Nat.le_add_right _ _
  have behind : placed.lastEnd ≤ before.offset := Nat.le_trans ready.behind (Nat.le_of_eq offset)
  refine ⟨ready.inOrder.push rfl ?_ wide ?_ (Nat.le_refl _) (Nat.le_refl _)
    ⟨behind, Nat.le_trans behind wide, .inr (Nat.le_refl _)⟩, rfl, offset⟩
  · exact Nat.le_of_eq offset
  · exact Nat.le_trans (Nat.le_of_eq offset) wide

theorem cutOff_ready (ready : reader.Ready) (frame : Frame) : (reader.cutOff frame).Ready := by
  cases frame with
  | indent column => exact ready.outdent.ready
  | group bracket opened => exact ready.of_same rfl rfl rfl
  | splice opened => exact ready.of_same rfl rfl rfl
  | string quote opened => exact ready

theorem addCloser_hasAdded {placed : Reader} (ready : placed.Ready)
    (offset : placed.offset = before.offset) (closer : ClosingBracket) (text : List Char) :
    before.HasAdded text (placed.addCloser closer (before.spanOf text)) := by
  unfold addCloser
  dsimp only
  split
  · have told : (placed.report (.unmatchedDelimiter closer.char) (before.spanOf text)).Ready :=
      ready.of_same rfl rfl rfl
    exact told.hasAdded offset _ text
  · rename_i index _
    generalize (placed.frames.takeWhile fun frame => !frame.isString).take index = cut
    have closed : (cut.foldl cutOff placed).Ready :=
      foldl_ready (fun _ frame ready => cutOff_ready ready frame) ready
    have stays := (Inserts.foldl Inserts.cutOff cut placed).offset
    have outside : Ready { cut.foldl cutOff placed with
        frames := placed.frames.drop (index + 1) } := closed.of_same rfl rfl rfl
    exact outside.hasAdded (stays.trans offset) _ text

theorem emit_hasAdded (settled : reader.Settled) (kind : TokenKind) (text : List Char)
    (next : Option Char) :
    reader.HasAdded text (reader.emit kind (reader.spanOf text) next) := by
  have ready := applyLayout_ready settled kind next
  have offset := (Inserts.applyLayout reader kind next).offset
  unfold emit
  dsimp only
  split
  · exact addCloser_hasAdded ready offset _ text
  · split
    · rename_i bracket _
      have opened : ((reader.applyLayout kind next).openFrame
          (.group bracket (reader.spanOf text).start)).Ready := ready.of_same rfl rfl rfl
      exact opened.hasAdded offset kind text
    · exact ready.hasAdded offset kind text

/-- What holds of a reader between its steps: inside of a string no blanks are skipped. -/
structure Steady (reader : Reader) : Prop extends Settled reader where
  inString : Frame.inString reader.frames = true → reader.lastEnd = reader.offset

/-- Behind trivia nothing changes except that the reader stands further on. -/
theorem Settled.skip (settled : reader.Settled) (text rest : List Char) :
    (reader.advance text rest).Settled := by
  have further : reader.offset ≤ (reader.advance text rest).offset := Nat.le_add_right _ _
  exact ⟨(settled.inOrder.mono (Nat.le_refl _) further).of_same rfl rfl,
    Nat.le_trans settled.behind further⟩

theorem readLexeme_steady [XidStart] (settled : reader.Settled)
    (code : Frame.inString reader.frames = false) (c : Char) (rest : List Char) :
    (reader.readLexeme c rest).Steady := by
  have trivia : ∀ {after : Reader} (text beyond : List Char), after.tokens = reader.tokens →
      after.lastEnd = reader.lastEnd → after.offset = reader.offset →
      after.frames = reader.frames → (after.advance text beyond).Steady := by
    intro after text beyond tokens lastEnd offset frames
    refine ⟨(settled.of_same tokens lastEnd offset).skip text beyond, fun inString => ?_⟩
    have same : Frame.inString after.frames = true := inString
    rw [frames, code] at same
    cases same
  have token : ∀ {after : Reader} {text : List Char} (beyond : List Char),
      reader.HasAdded text after → (after.advance text beyond).Steady :=
    fun beyond added => ⟨(added.advance beyond).1, fun _ => (added.advance beyond).2⟩
  unfold readLexeme
  dsimp only
  generalize Lexeme.scan (reader.lastKind?.any TokenKind.endsOperand) c rest = found
  split
  · exact trivia _ _ rfl rfl rfl rfl
  · exact trivia _ _ rfl rfl rfl rfl
  · exact trivia _ _ rfl rfl rfl rfl
  · exact token _ (emit_hasAdded settled _ _ _)
  · rename_i quote _
    have emitted := emit_hasAdded settled (.stringStart quote) (c :: rest.take found.more)
      (rest.drop found.more).head?
    exact token _ ⟨emitted.inOrder.of_same rfl rfl, emitted.lastEnd, emitted.offset⟩
  · rename_i fault _
    have told : (reader.report fault (reader.spanOf (c :: rest.take found.more))).Settled :=
      settled.of_same rfl rfl rfl
    have emitted := emit_hasAdded told (.error (String.ofList (c :: rest.take found.more)))
      (c :: rest.take found.more) (rest.drop found.more).head?
    exact token _ ⟨emitted.inOrder, emitted.lastEnd, emitted.offset⟩

theorem readPiece_steady [XidStart] (settled : reader.Settled)
    (stands : reader.lastEnd = reader.offset)
    (quote : QuoteForm) (opened : Nat) (outer : List Frame) :
    (reader.readPiece quote opened outer).Steady := by
  have piece : ∀ {before : Reader}, before.Settled → ∀ (kind : TokenKind)
      (text rest : List Char), ((before.add kind (before.spanOf text)).advance text rest).Settled ∧
        ((before.add kind (before.spanOf text)).advance text rest).lastEnd =
          ((before.add kind (before.spanOf text)).advance text rest).offset :=
    fun before kind text rest => (before.ready.hasAdded rfl kind text).advance rest
  have dollar := piece settled (.punctuation .dollar) (reader.rest.take 1) (reader.rest.drop 1)
  unfold readPiece
  dsimp only
  split
  · have outside : ({ reader with frames := outer } : Reader).Settled :=
      settled.of_same rfl rfl rfl
    have closed := piece outside (.stringEnd quote)
      (reader.rest.take (StringText.marksLength quote))
      (reader.rest.drop (StringText.marksLength quote))
    exact ⟨closed.1, fun _ => closed.2⟩
  · have opened : (((reader.add (.punctuation .dollar) (reader.spanOf (reader.rest.take 1))).advance
        (reader.rest.take 1) (reader.rest.drop 1)).openFrame (.splice reader.offset)).Settled :=
      dollar.1.of_same rfl rfl rfl
    have bracket := piece opened (.punctuation .leftBrace) ((reader.rest.drop 1).take 1)
      ((reader.rest.drop 1).drop 1)
    exact ⟨bracket.1, fun _ => bracket.2⟩
  · rename_i length _
    have name := piece dollar.1
      (.identifier (String.ofList ((reader.rest.drop 1).take length)))
      ((reader.rest.drop 1).take length) ((reader.rest.drop 1).drop length)
    exact ⟨name.1, fun _ => name.2⟩
  · rename_i length _
    have text := piece settled (.stringMiddle (String.ofList (reader.rest.take length)))
      (reader.rest.take length) (reader.rest.drop length)
    exact ⟨text.1, fun _ => text.2⟩
  · rename_i length _
    generalize reader.rest.take length = text
    have read : reader.HasAdded text (reader.addFragment text) := by
      unfold addFragment
      split
      · rename_i empty
        have nothing : (reader.spanOf text).stop = reader.offset := by
          rw [List.isEmpty_iff.mp empty]
          rfl
        refine ⟨?_, stands.trans nothing.symm, rfl⟩
        rw [nothing]
        exact settled.ready.inOrder
      · exact settled.ready.hasAdded rfl _ text
    have marked : reader.HasAdded text (({ reader.addFragment text with frames := outer }.report
        .unterminatedString ⟨opened, (reader.spanOf text).stop⟩).insert (.error "")
          (reader.spanOf text).stop) :=
      ⟨read.inOrder.push rfl (Nat.le_refl _) (Nat.le_refl _) (Nat.le_refl _) (Nat.le_refl _)
        (Nat.le_refl _) ⟨Nat.le_of_eq read.lastEnd, Nat.le_refl _, .inl rfl⟩, read.lastEnd,
        read.offset⟩
    have closed := marked.advance (reader.rest.drop length)
    exact ⟨closed.1, fun _ => closed.2⟩

theorem step_steady [XidStart] (steady : reader.Steady) : reader.step.Steady := by
  cases unread : reader.rest with
  | nil =>
      unfold step
      rw [unread]
      exact steady
  | cons c rest =>
      cases code : Frame.inString reader.frames with
      | true =>
          rcases Frame.exists_of_inString code with ⟨quote, opened, outer, frames⟩
          rw [step_eq_readPiece frames (by rw [unread]; exact List.cons_ne_nil _ _)]
          exact readPiece_steady steady.toSettled (steady.inString code) quote opened outer
      | false =>
          rw [step_eq_readLexeme code unread]
          exact readLexeme_steady steady.toSettled code c rest

/-- By induction on the run. -/
theorem run_steady [XidStart] (steady : reader.Steady) : reader.run.Steady := by
  fun_induction run reader with
  | case1 reader atEnd => exact steady
  | case2 reader unread inductionHypothesis => exact inductionHypothesis (step_steady steady)

theorem closeAtEnd_ready (ready : reader.Ready) (frame : Frame) :
    (reader.closeAtEnd frame).Ready := by
  cases frame with
  | indent column => exact ready.outdent.ready
  | splice opened => exact ready
  | string quote opened =>
      have told : (reader.report .unterminatedString ⟨opened, reader.offset⟩).Ready :=
        ready.of_same rfl rfl rfl
      exact told.insertAhead rfl
  | group bracket opened =>
      have told : (reader.report (.unterminatedBlock
          (if bracket = .hashCurly then Bracket.curly else bracket).char)
          ⟨opened, opened + 1⟩).Ready := ready.of_same rfl rfl rfl
      exact told.insertAhead rfl

end Reader

/-- At the end of a source its tokens are those of a reader that has them in order. -/
theorem lex_inOrder [XidStart] (source : String) (tabWidth : Nat) :
    ∃ ended : Reader, (lex source tabWidth).tokens = ended.tokens.toList ∧
      ended.InOrder source.utf8ByteSize source.utf8ByteSize ∧
      ∀ last ∈ ended.tokens.toList.getLast?, last.span = .empty source.utf8ByteSize := by
  have steady : (Reader.start tabWidth source.toList).run.Steady :=
    Reader.run_steady ⟨⟨⟨.nil, by rintro _ ⟨⟩, List.forall_mem_nil _, .nil,
      List.forall_mem_nil _⟩, Nat.le_refl _⟩, fun _ => rfl⟩
  have read := Reader.run_hasRead (Reader.start_hasRead tabWidth source.toList)
  have size : source.utf8ByteSize = (Reader.start tabWidth source.toList).run.offset := by
    rw [read.offset, ← Utf8.utf8ByteSize_ofList]
    exact congrArg String.utf8ByteSize (String.ofList_toList).symm
  rw [size]
  unfold lex Reader.finish
  dsimp only
  generalize (Reader.start tabWidth source.toList).run = reader at steady
  have closed : (reader.frames.foldl Reader.closeAtEnd reader).Ready :=
    Reader.foldl_ready (fun _ frame ready => Reader.closeAtEnd_ready ready frame) steady.ready
  have offset : (reader.frames.foldl Reader.closeAtEnd reader).offset = reader.offset :=
    (Reader.Inserts.foldl Reader.Inserts.closeAtEnd reader.frames reader).offset
  generalize reader.frames.foldl Reader.closeAtEnd reader = closing at closed offset
  have inOrder := closed.inOrder
  have behind := closed.behind
  rw [offset] at inOrder behind
  refine ⟨closing.add .endOfFile (.empty reader.offset), rfl, ?_, fun last isLast => ?_⟩
  · exact inOrder.push rfl (Nat.le_refl _) (Nat.le_refl _) (Nat.le_refl _) (Nat.le_refl _)
      (Nat.le_refl _) ⟨behind, behind, .inr (Nat.le_refl _)⟩
  · unfold Reader.add at isLast
    rw [Array.toList_push, List.getLast?_concat] at isLast
    cases isLast
    rfl

/-- The tokens of a source are in order, apart from the ends of some blocks, and they all
stand in the source.  The last one stands at its end. -/
theorem lex_leads [XidStart] (source : String) (tabWidth : Nat) :
    (lex source tabWidth).tokens.IsChain Token.Leads ∧
      (∀ token ∈ (lex source tabWidth).tokens,
        token.span.Proper ∧ token.span.stop ≤ source.utf8ByteSize) ∧
      ∀ last ∈ (lex source tabWidth).tokens.getLast?,
        last.span = .empty source.utf8ByteSize := by
  rcases lex_inOrder source tabWidth with ⟨ended, same, inOrder, last⟩
  rw [same]
  exact ⟨inOrder.chain, inOrder.within, last⟩

/-- What comes behind a token stands behind it, unless the token was inserted in front of what
came next. -/
theorem lex_precedes [XidStart] (source : String) (tabWidth : Nat) :
    (lex source tabWidth).tokens.Pairwise Token.Precedes := by
  rcases lex_inOrder source tabWidth with ⟨ended, same, inOrder, -⟩
  rw [same]
  exact inOrder.precede

end Offside
