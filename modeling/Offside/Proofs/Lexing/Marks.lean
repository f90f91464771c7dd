import Offside.Proofs.Lexing.Depth

namespace Offside

/-!
# Faults leave marks

Whoever has only the tokens of a source, and not what was reported about it, wants to
see from them that something was wrong.  So a report should come with a faulty token:
the text that could not be read, the closing bracket that fits nothing, or a mark of
width zero where something was missing or was given up.

No faulty token ever comes without its report.  A report without a token comes from
one place only.  A closing bracket that cuts off groups and splices inside the
construct it closes reports each of them and marks none.  Everywhere else the two
come together, so that a source has as many faulty tokens as reports exactly when no
closing bracket of it cuts off a group or a splice.
-/

namespace Reader

/-- The number of faulty tokens found so far. -/
def marks (reader : Reader) : Nat := reader.kinds.countP TokenKind.isError

/-- Besides those that a faulty token marks, a number of faults were reported. -/
def Owes (owed : Nat) (reader : Reader) : Prop :=
  reader.diagnostics.size = reader.marks + owed

variable {before after reader : Reader} {owed : Nat} {kind : TokenKind} {token : Token}

theorem marks_push (tokens : after.tokens = before.tokens.push token) :
    after.marks = before.marks + if token.kind.isError then 1 else 0 := by
  unfold marks
  rw [kinds_push tokens, List.countP_append, List.countP_singleton]

namespace Owes

theorem of_same (owes : before.Owes owed) (tokens : after.tokens = before.tokens)
    (diagnostics : after.diagnostics = before.diagnostics) : after.Owes owed := by
  unfold Owes marks kinds
  rw [tokens, diagnostics]
  exact owes

/-- A sound token owes nothing. -/
theorem push (owes : before.Owes owed) (tokens : after.tokens = before.tokens.push token)
    (sound : token.kind.isError = false) (diagnostics : after.diagnostics = before.diagnostics) :
    after.Owes owed := by
  unfold Owes at *
  simp [diagnostics, owes, marks_push tokens, sound]

/-- A report waits for its mark. -/
theorem report (owes : reader.Owes owed) (fault : LexicalFault) (span : Span) :
    (reader.report fault span).Owes (owed + 1) := by
  have reported : (reader.report fault span).diagnostics.size = reader.diagnostics.size + 1 :=
    Array.size_push _
  have same : (reader.report fault span).marks = reader.marks := rfl
  unfold Owes at *
  omega

/-- A faulty token makes up for one report. -/
theorem mark (owes : before.Owes (owed + 1)) (tokens : after.tokens = before.tokens.push token)
    (faulty : token.kind.isError = true)
    (diagnostics : after.diagnostics = before.diagnostics) : after.Owes owed := by
  unfold Owes at *
  rw [diagnostics, owes, marks_push tokens, if_pos faulty]
  omega

/-- Going through frames one by one, when only some of them leave a report unmarked. -/
theorem foldl (unmarked : Frame → Bool) {change : Reader → Frame → Reader} {cut : List Frame}
    (each : ∀ frame ∈ cut, ∀ owed reader, Owes owed reader →
      (change reader frame).Owes (owed + if unmarked frame then 1 else 0))
    (owes : reader.Owes owed) :
    (cut.foldl change reader).Owes (owed + cut.countP unmarked) := by
  induction cut generalizing owed reader with
  | nil => exact owes
  | cons frame cut inductionHypothesis =>
      rw [List.forall_mem_cons] at each
      have next := inductionHypothesis each.2 (each.1 owed reader owes)
      rw [List.countP_cons, Nat.add_comm (cut.countP unmarked), ← Nat.add_assoc]
      exact next

/-- Going through frames one by one, when every report is marked. -/
theorem foldl_marked {change : Reader → Frame → Reader} {cut : List Frame}
    (each : ∀ frame ∈ cut, ∀ owed reader, Owes owed reader → (change reader frame).Owes owed)
    (owes : reader.Owes owed) : (cut.foldl change reader).Owes owed := by
  have all := foldl (fun _ => false) each owes
  rwa [List.countP_false] at all

end Owes

/-! ## The layout rules -/

theorem closeBlocks_owes (owes : reader.Owes owed) (column : Nat) :
    (reader.closeBlocks column).Owes owed := by
  unfold closeBlocks
  apply Owes.foldl_marked
  · intro frame member owed before owes
    exact owes.push rfl rfl rfl
  · exact owes.of_same rfl rfl

theorem beginLine_owes (owes : reader.Owes owed) (column offset : Nat) (kind : TokenKind)
    (next : Option Char) : (reader.beginLine column offset kind next).Owes owed := by
  have fitted : ({ reader.closeBlocks column with lineIndent := column } : Reader).Owes owed :=
    (closeBlocks_owes owes column).of_same rfl rfl
  exact beginLine_cases (motive := fun after => after.Owes owed) rfl fitted
    (fitted.push rfl rfl rfl) ((fitted.report _ _).mark rfl rfl rfl)
    fun _ => fitted.push rfl rfl rfl

theorem abandonGroups_owes (owes : reader.Owes owed) : reader.abandonGroups.Owes owed := by
  unfold abandonGroups
  apply Owes.foldl_marked
  · intro frame member owed before owes
    cases frame with
    | group bracket opened => exact (owes.report _ _).mark rfl rfl rfl
    | indent column => exact owes
    | splice opened => exact owes
    | string quote opened => exact owes
  · exact owes.of_same rfl rfl

theorem applyLayout_owes (owes : reader.Owes owed) (kind : TokenKind) (next : Option Char) :
    (reader.applyLayout kind next).Owes owed := by
  have begun : ({ reader with atLineStart := false } : Reader).Owes owed :=
    owes.of_same rfl rfl
  have outside := abandonGroups_owes begun
  exact applyLayout_cases (motive := fun after => after.Owes owed) rfl (fun _ => owes) begun
    (fun _ => beginLine_owes begun _ _ _ _) outside fun _ => beginLine_owes outside _ _ _ _

/-! ## Closing brackets -/

/-- What is cut off is reported, and a block is closed with a token of its own. -/
theorem cutOff_owes {frame : Frame} (owes : reader.Owes owed)
    (noString : frame.isString = false) :
    (reader.cutOff frame).Owes (owed + if !frame.isBlock then 1 else 0) := by
  cases frame with
  | indent column => exact owes.push rfl rfl rfl
  | group bracket opened => exact owes.report _ _
  | splice opened => exact owes.report _ _
  | string quote opened => cases noString

/-- A closing bracket owes a mark for every group and splice that it cuts off. -/
theorem addCloser_owes (owes : reader.Owes owed) (closer : ClosingBracket) (span : Span) :
    ∃ more, (reader.addCloser closer span).Owes (owed + more) ∧
      (more = 0 ↔ reader.losesGroup closer = false) := by
  unfold addCloser losesGroup
  dsimp only
  cases found : (reader.frames.takeWhile fun frame => !frame.isString).findIdx?
      (Frame.isClosedBy closer) with
  | none => exact ⟨0, (owes.report _ _).mark rfl rfl rfl, iff_of_true rfl rfl⟩
  | some index =>
      rcases visible_split found with ⟨cut, target, taken, _, _, unfit⟩
      dsimp only
      rw [taken]
      have closed : (cut.foldl cutOff reader).Owes
          (owed + cut.countP fun frame => !frame.isBlock) :=
        Owes.foldl _ (fun frame member _ _ owes => cutOff_owes owes (unfit frame member).2) owes
      refine ⟨_, closed.push rfl rfl rfl, ?_⟩
      rw [List.countP_eq_zero, List.any_eq_false]

/-! ## Reading -/

/-- A sound token owes marks only if it is a closing bracket that cuts something off. -/
theorem emit_owes (owes : reader.Owes owed) (sound : kind.isError = false) (span : Span)
    (next : Option Char) :
    ∃ more, (reader.emit kind span next).Owes (owed + more) ∧
      (more = 0 ↔ reader.losesGroupAt kind next = false) := by
  have placed := applyLayout_owes owes kind next
  unfold emit losesGroupAt
  cases ClosingBracket.ofKind? kind with
  | some closer => exact addCloser_owes placed closer span
  | none =>
      refine ⟨0, ?_, iff_of_true rfl rfl⟩
      dsimp only
      split
      · exact placed.push rfl sound rfl
      · exact placed.push rfl sound rfl

/-- A faulty token makes up for the report in front of it. -/
theorem emit_error_owes (owes : reader.Owes (owed + 1)) (text : String) (span : Span)
    (next : Option Char) : (reader.emit (.error text) span next).Owes owed :=
  (applyLayout_owes owes (.error text) next).mark rfl rfl rfl

theorem readLexeme_owes [XidStart] (owes : reader.Owes owed) {c : Char} {rest : List Char}
    (code : Frame.inString reader.frames = false) (unread : reader.rest = c :: rest) :
    ∃ more, (reader.readLexeme c rest).Owes (owed + more) ∧
      (more = 0 ↔ reader.losesGroupAhead = false) := by
  have fits := Lexeme.fits_scan (reader.lastKind?.any TokenKind.endsOperand) c rest
  unfold Lexeme.Found.Fits at fits
  unfold readLexeme losesGroupAhead lexeme
  rw [unread, code]
  dsimp only
  generalize Lexeme.scan (reader.lastKind?.any TokenKind.endsOperand) c rest = found at fits
  split
  · rename_i same
    rw [same]
    exact ⟨0, owes.of_same rfl rfl, iff_of_true rfl rfl⟩
  · rename_i same
    rw [same]
    exact ⟨0, owes.of_same rfl rfl, iff_of_true rfl rfl⟩
  · rename_i same
    rw [same]
    exact ⟨0, owes.of_same rfl rfl, iff_of_true rfl rfl⟩
  · rename_i kind same
    rw [same] at fits ⊢
    cases fits with
    | token lexical spells =>
        rcases emit_owes owes (isError_of_isLexical lexical)
          (reader.spanOf (c :: rest.take found.more)) (rest.drop found.more).head? with
          ⟨more, emitted, lost⟩
        exact ⟨more, emitted.of_same rfl rfl, lost⟩
  · rename_i quote same
    rw [same]
    have emitted := (applyLayout_owes owes (.stringStart quote) (rest.drop found.more).head?)
    exact ⟨0, emitted.push rfl rfl rfl, iff_of_true rfl rfl⟩
  · rename_i fault same
    rw [same]
    have emitted := emit_error_owes (owes.report fault (reader.spanOf (c :: rest.take found.more)))
      (String.ofList (c :: rest.take found.more)) (reader.spanOf (c :: rest.take found.more))
      (rest.drop found.more).head?
    exact ⟨0, emitted.of_same rfl rfl, iff_of_true rfl rfl⟩

theorem readPiece_owes [XidStart] (owes : reader.Owes owed) (quote : QuoteForm) (opened : Nat)
    (outer : List Frame) : (reader.readPiece quote opened outer).Owes owed := by
  have dollar : (reader.add (.punctuation .dollar) (reader.spanOf (reader.rest.take 1))).Owes
      owed := owes.push rfl rfl rfl
  unfold readPiece
  dsimp only
  split
  · exact owes.push rfl rfl rfl
  · exact dollar.push rfl rfl rfl
  · exact dollar.push rfl rfl rfl
  · exact owes.push rfl rfl rfl
  · rename_i length _
    have read : (reader.addFragment (reader.rest.take length)).Owes owed := by
      unfold addFragment
      split
      · exact owes
      · exact owes.push rfl rfl rfl
    exact (read.report _ _).mark rfl rfl rfl

theorem losesGroupAhead_of_inString [XidStart] (inString : Frame.inString reader.frames = true) :
    reader.losesGroupAhead = false := by
  unfold losesGroupAhead
  rw [inString]
  split
  · rfl
  · split <;> rfl

theorem step_owes [XidStart] (owes : reader.Owes owed) :
    ∃ more, reader.step.Owes (owed + more) ∧ (more = 0 ↔ reader.losesGroupAhead = false) := by
  cases unread : reader.rest with
  | nil =>
      have stays : reader.step = reader := by
        unfold step
        rw [unread]
      have nothing : reader.losesGroupAhead = false := by
        unfold losesGroupAhead
        rw [unread]
      exact ⟨0, stays.symm ▸ owes, iff_of_true rfl nothing⟩
  | cons c rest =>
      cases code : Frame.inString reader.frames with
      | true =>
          rcases Frame.exists_of_inString code with ⟨quote, opened, outer, frames⟩
          rw [step_eq_readPiece frames (by rw [unread]; exact List.cons_ne_nil _ _)]
          exact ⟨0, readPiece_owes owes quote opened outer,
            iff_of_true rfl (losesGroupAhead_of_inString code)⟩
      | false =>
          rw [step_eq_readLexeme code unread]
          exact readLexeme_owes owes code unread

/-- A run ends with as many marks as reports, unless some step of it cuts off a group. -/
theorem run_owes [XidStart] (owes : reader.Owes owed) :
    ∃ more, reader.run.Owes (owed + more) ∧
      (more = 0 ↔ ∀ steps, (step^[steps] reader).losesGroupAhead = false) := by
  fun_induction run reader generalizing owed with
  | case1 reader atEnd =>
      have nothing : reader.rest = [] := List.isEmpty_iff.mp atEnd
      have stays : reader.step = reader := by
        unfold step
        rw [nothing]
      refine ⟨0, owes, iff_of_true rfl fun steps => ?_⟩
      rw [Function.iterate_fixed stays]
      unfold losesGroupAhead
      rw [nothing]
  | case2 reader unread inductionHypothesis =>
      rcases step_owes owes with ⟨first, stepped, lostNow⟩
      rcases inductionHypothesis stepped with ⟨later, ran, lostLater⟩
      refine ⟨first + later, by rw [← Nat.add_assoc]; exact ran, ?_⟩
      rw [Nat.add_eq_zero_iff, lostNow, lostLater]
      constructor
      · rintro ⟨now, behind⟩ steps
        cases steps with
        | zero => exact now
        | succ steps => exact behind steps
      · intro never
        exact ⟨never 0, fun steps => never (steps + 1)⟩

/-- At the end everything is marked, apart from splices, which are not reported either. -/
theorem closeAtEnd_owes (owes : reader.Owes owed) (frame : Frame) :
    (reader.closeAtEnd frame).Owes owed := by
  cases frame with
  | indent column => exact owes.push rfl rfl rfl
  | splice opened => exact owes
  | string quote opened => exact (owes.report _ _).mark rfl rfl rfl
  | group bracket opened => exact (owes.report _ _).mark rfl rfl rfl

end Reader

/-- A source never has more faulty tokens than reports.  It has as many exactly when no
closing bracket that the reader meets cuts off a group or a splice. -/
theorem lex_marked [XidStart] (source : String) (tabWidth : Nat) :
    (lex source tabWidth).tokens.countP (fun token => token.kind.isError) ≤
      (lex source tabWidth).diagnostics.length ∧
    ((lex source tabWidth).tokens.countP (fun token => token.kind.isError) =
        (lex source tabWidth).diagnostics.length ↔
      ∀ steps, (Reader.afterSteps source tabWidth steps).losesGroupAhead = false) := by
  have started : (Reader.start tabWidth source.toList).Owes 0 := rfl
  rcases Reader.run_owes started with ⟨owed, ran, lost⟩
  unfold lex Reader.finish Reader.afterSteps
  dsimp only
  generalize (Reader.start tabWidth source.toList).run = reader at ran
  have closed : (reader.frames.foldl Reader.closeAtEnd reader).Owes (0 + owed) :=
    Reader.Owes.foldl_marked (fun frame _ _ _ owes => Reader.closeAtEnd_owes owes frame) ran
  have ended : ((reader.frames.foldl Reader.closeAtEnd reader).add .endOfFile
      (.empty reader.offset)).Owes (0 + owed) := closed.push rfl rfl rfl
  generalize (reader.frames.foldl Reader.closeAtEnd reader).add .endOfFile
    (.empty reader.offset) = whole at ended
  have counted : whole.marks = whole.tokens.toList.countP fun token => token.kind.isError :=
    List.countP_map
  unfold Reader.Owes at ended
  rw [counted] at ended
  rw [← lost, Array.length_toList]
  omega

/-- The round bracket closes its group over a square one, which is reported and leaves
no mark. -/
example : (lex "([)\n" 4).diagnostics.length = 1 ∧
    (lex "([)\n" 4).tokens.countP (fun token => token.kind.isError) = 0 := by
  decide +kernel

end Offside
