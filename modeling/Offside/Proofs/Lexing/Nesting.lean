import Offside.Proofs.Lexing.Growth
import Offside.Proofs.Lexing.Spelling
import Offside.Proofs.Nesting

namespace Offside

/-!
# A silent lexer nests its tokens

The open frames of a reader are what a reading of its tokens has left open, as long
as nothing has been reported.  After the first report there is no telling what the
frames have to do with the tokens.  But then the tokens show the fault as well:
either one of them marks it, or a closing bracket has met the wrong delimiter and
no reading gets past it.  Neither ever goes away again, since a reader only adds
tokens behind those that it has.
-/

/-- What a frame looks like to a reading of the tokens. -/
def Frame.delimiter : Frame → Delimiter
  | indent _ => .block
  | group bracket _ => .group bracket.closer
  | splice _ => .group .curly
  | string quote _ => .string quote

/-- Every splice stands in a string. -/
def Frame.Anchored (frames : List Frame) : Prop :=
  ∀ opened outer, .splice opened :: outer <:+ frames → ∃ frame ∈ outer, frame.isString = true

namespace Frame.Anchored

theorem nil : Frame.Anchored [] := by
  intro opened outer suffix
  cases List.suffix_nil.mp suffix

theorem of_suffix {frames inner : List Frame} (anchored : Frame.Anchored frames)
    (suffix : inner <:+ frames) : Frame.Anchored inner :=
  fun opened outer further => anchored opened outer (further.trans suffix)

theorem cons {frame : Frame} {frames : List Frame} (anchored : Frame.Anchored frames)
    (inString : ∀ opened, frame = .splice opened → ∃ outer ∈ frames, outer.isString = true) :
    Frame.Anchored (frame :: frames) := by
  intro opened outer suffix
  rcases List.suffix_cons_iff.mp suffix with whole | inner
  · cases whole
    exact inString opened rfl
  · exact anchored opened outer inner

end Frame.Anchored

namespace Reader

/-! ## Before and after the first report -/

/-- The kinds of all tokens that were found so far. -/
def kinds (reader : Reader) : List TokenKind := reader.tokens.toList.map Token.kind

/-- Nothing was reported, and the tokens have left exactly some frames open. -/
structure Clean (frames : List Frame) (reader : Reader) : Prop where
  silent : reader.diagnostics = #[]
  sound : ∀ token ∈ reader.tokens, token.kind.isError = false
  nested : Nesting.exact.read [] reader.kinds = some (frames.map Frame.delimiter)
  anchored : Frame.Anchored frames

/-- Something was reported, and the tokens show it. -/
structure Faulty (reader : Reader) : Prop where
  told : reader.diagnostics ≠ #[]
  shown : (∃ token ∈ reader.tokens, token.kind.isError = true) ∨
    Nesting.loose.read [] reader.kinds = none

/-- The tokens agree with what was reported. -/
def Honest (reader : Reader) : Prop := reader.Clean reader.frames ∨ reader.Faulty

variable {before after reader : Reader} {frames : List Frame} {kind : TokenKind}

/-- A fault never goes away again. -/
theorem Faulty.grows (faulty : before.Faulty) (grows : before.Grows after) :
    after.Faulty := by
  rcases grows with ⟨⟨tokens, added⟩, ⟨reports, told, _⟩⟩
  refine ⟨fun nothing => faulty.told ?_, ?_⟩
  · rw [nothing] at told
    have none := List.append_eq_nil_iff.mp told.symm
    exact Array.toList_eq_nil_iff.mp none.1
  · rcases faulty.shown with ⟨token, member, marked⟩ | stuck
    · refine Or.inl ⟨token, ?_, marked⟩
      rw [← Array.mem_toList_iff, added]
      exact List.mem_append_left _ (Array.mem_toList_iff.mpr member)
    · apply Or.inr
      unfold kinds
      rw [added, List.map_append]
      exact Nesting.loose.read_append_of_stuck stuck _

/-- A report together with a token that marks the fault. -/
theorem Faulty.of_push {token : Token} (told : after.diagnostics ≠ #[])
    (tokens : after.tokens = before.tokens.push token) (marked : token.kind.isError = true) :
    after.Faulty := by
  refine ⟨told, Or.inl ⟨token, ?_, marked⟩⟩
  rw [tokens]
  exact Array.mem_push_self

/-- A sound token that leads from the open frames to others. -/
theorem Clean.push {inner : List Frame} {token : Token} (clean : before.Clean frames)
    (diagnostics : after.diagnostics = before.diagnostics)
    (tokens : after.tokens = before.tokens.push token) (sound : token.kind.isError = false)
    (stepped : Nesting.exact.step (frames.map Frame.delimiter) token.kind =
      some (inner.map Frame.delimiter))
    (anchored : Frame.Anchored inner) : after.Clean inner where
  silent := diagnostics.trans clean.silent
  sound := by
    intro other member
    rw [tokens] at member
    rcases Array.mem_push.mp member with earlier | last
    · exact clean.sound other earlier
    · rw [last]
      exact sound
  nested := by
    unfold kinds
    rw [tokens, Array.toList_push, List.map_append]
    exact (Nesting.exact.read_concat clean.nested).trans stepped
  anchored := anchored

/-- A token that leaves all delimiters alone. -/
theorem Clean.pushInert {token : Token} (clean : before.Clean frames)
    (diagnostics : after.diagnostics = before.diagnostics)
    (tokens : after.tokens = before.tokens.push token) (sound : token.kind.isError = false)
    (inert : token.kind.isInert = true) : after.Clean frames :=
  clean.push diagnostics tokens sound (Nesting.exact.step_of_inert inert) clean.anchored

/-- A token that opens a frame. -/
theorem Clean.pushOpening {token : Token} {frame : Frame} (clean : before.Clean frames)
    (diagnostics : after.diagnostics = before.diagnostics)
    (tokens : after.tokens = before.tokens.push token) (sound : token.kind.isError = false)
    (opens : token.kind.opens? = some frame.delimiter)
    (inString : ∀ opened, frame = .splice opened → ∃ outer ∈ frames, outer.isString = true) :
    after.Clean (frame :: frames) :=
  clean.push diagnostics tokens sound (Nesting.exact.step_of_opens opens)
    (clean.anchored.cons inString)

/-- A token that closes the innermost frame. -/
theorem Clean.pushClosing {token : Token} {frame : Frame}
    (clean : before.Clean (frame :: frames))
    (diagnostics : after.diagnostics = before.diagnostics)
    (tokens : after.tokens = before.tokens.push token) (sound : token.kind.isError = false)
    (closes : token.kind.closes? = some frame.delimiter) : after.Clean frames :=
  clean.push diagnostics tokens sound (Nesting.exact.step_of_closes _ closes)
    (clean.anchored.of_suffix (List.suffix_cons _ _))

/-- What is said of a reader depends on its tokens and reports, and on its frames. -/
theorem Honest.of_same (honest : before.Honest) (tokens : after.tokens = before.tokens)
    (diagnostics : after.diagnostics = before.diagnostics)
    (frames : after.frames = before.frames) : after.Honest := by
  rcases honest with clean | faulty
  · refine Or.inl ⟨diagnostics.trans clean.silent, ?_, ?_, ?_⟩
    · rw [tokens]
      exact clean.sound
    · unfold kinds
      rw [tokens, frames]
      exact clean.nested
    · rw [frames]
      exact clean.anchored
  · exact Or.inr (faulty.grows (.of_same tokens diagnostics))

/-! ## The layout rules -/

theorem clean_outdents {cut : List Frame} (blocks : ∀ frame ∈ cut, ∃ column, frame = .indent column)
    (clean : reader.Clean (cut ++ frames)) :
    (cut.foldl (fun reader _ => reader.insert .outdent reader.lastEnd) reader).Clean frames := by
  induction cut generalizing reader with
  | nil => exact clean
  | cons frame cut inductionHypothesis =>
      rw [List.forall_mem_cons] at blocks
      rcases blocks.1 with ⟨column, isBlock⟩
      cases isBlock
      exact inductionHypothesis blocks.2 (clean.pushClosing rfl rfl rfl rfl)

theorem takeWhile_append_drop (test : Frame → Bool) (frames : List Frame) :
    frames.takeWhile test ++ frames.drop (frames.takeWhile test).length = frames :=
  List.prefix_iff_eq_append.mp (List.takeWhile_prefix test)

theorem closeBlocks_clean (clean : reader.Clean reader.frames) (column : Nat) :
    (reader.closeBlocks column).Clean (reader.closeBlocks column).frames := by
  rw [frames_closeBlocks]
  unfold closeBlocks
  have blocks : ∀ frame ∈ reader.frames.takeWhile (Frame.isDeeperThan column),
      ∃ column, frame = .indent column := by
    intro frame member
    have deeper := List.all_eq_true.mp List.all_takeWhile frame member
    cases frame with
    | indent level => exact ⟨level, rfl⟩
    | _ => cases deeper
  apply clean_outdents blocks
  rw [takeWhile_append_drop]
  exact ⟨clean.silent, clean.sound, clean.nested, clean.anchored⟩

theorem beginLine_honest (clean : reader.Clean reader.frames) (column offset : Nat)
    (kind : TokenKind) (next : Option Char) :
    (reader.beginLine column offset kind next).Honest := by
  have fitted : ({ reader.closeBlocks column with lineIndent := column } : Reader).Clean
      (reader.closeBlocks column).frames := by
    have closed := closeBlocks_clean clean column
    exact ⟨closed.silent, closed.sound, closed.nested, closed.anchored⟩
  exact beginLine_cases (motive := Honest) rfl (Or.inl fitted)
    (Or.inl (fitted.pushInert rfl rfl rfl rfl))
    (Or.inr (.of_push (report_diagnostics_ne _ _ _) rfl rfl))
    fun _ => Or.inl (fitted.pushOpening rfl rfl rfl rfl nofun)

/-- Groups that are given up are reported and leave marks behind. -/
theorem abandonGroups_honest (clean : reader.Clean reader.frames) :
    reader.abandonGroups.Honest := by
  cases abandoned : reader.frames.takeWhile Frame.ignoresLines with
  | nil =>
      have untouched : reader.abandonGroups = reader := by
        unfold abandonGroups
        rw [abandoned]
        rfl
      rw [untouched]
      exact Or.inl clean
  | cons frame others =>
      have group : frame.ignoresLines = true := by
        apply List.all_eq_true.mp (List.all_takeWhile (l := reader.frames)) frame
        rw [abandoned]
        exact List.mem_cons_self
      unfold abandonGroups
      rw [abandoned]
      dsimp only
      rw [List.foldl_cons]
      -- The first of the groups is told of; the others cannot take that back.
      have grows := Inserts.grows (Inserts.foldl Inserts.abandon others
        (abandonGroups.abandon
          { reader with frames := reader.frames.drop (frame :: others).length } frame))
      refine Or.inr (Faulty.grows ?_ grows)
      cases frame with
      | group bracket opened => exact .of_push (report_diagnostics_ne _ _ _) rfl rfl
      | _ => cases group

theorem applyLayout_honest (honest : reader.Honest) (kind : TokenKind) (next : Option Char) :
    (reader.applyLayout kind next).Honest := by
  rcases honest with clean | faulty
  · have begun : ({ reader with atLineStart := false } : Reader).Clean reader.frames :=
      ⟨clean.silent, clean.sound, clean.nested, clean.anchored⟩
    have abandoned := @abandonGroups_honest { reader with atLineStart := false } begun
    refine applyLayout_cases (motive := Honest) rfl (fun _ => Or.inl clean) (Or.inl begun)
      (fun _ => beginLine_honest begun _ _ _ _) abandoned fun _ => ?_
    rcases abandoned with cleanOutside | faultyOutside
    · exact beginLine_honest cleanOutside _ _ _ _
    · exact Or.inr (faultyOutside.grows (Inserts.beginLine _ _ _ _ _).grows)
  · exact Or.inr (faulty.grows (Inserts.applyLayout reader kind next).grows)

/-! ## Closing brackets -/

/-- Something was cut off, so that the given bracket will not fit. -/
structure CutsOff (closer : ClosingBracket) (reader : Reader) : Prop where
  told : reader.diagnostics ≠ #[]
  unfit : Nesting.loose.read [] reader.kinds = none ∨
    ∃ other stack, other ≠ closer ∧
      Nesting.loose.read [] reader.kinds = some (.group other :: stack)

variable {closer : ClosingBracket}

theorem kinds_push {token : Token} (tokens : after.tokens = before.tokens.push token) :
    after.kinds = before.kinds ++ [token.kind] := by
  unfold kinds
  rw [tokens, Array.toList_push, List.map_append]
  rfl

/-- No closing token gets past what was cut off, unless it is of another shape. -/
theorem CutsOff.stuck {token : Token} {closed : Delimiter} (cutsOff : before.CutsOff closer)
    (tokens : after.tokens = before.tokens.push token)
    (closes : token.kind.closes? = some closed)
    (unlike : ∀ other, other ≠ closer → Delimiter.group other ≠ Nesting.loose.view closed) :
    Nesting.loose.read [] after.kinds = none := by
  rw [kinds_push tokens]
  rcases cutsOff.unfit with stuck | ⟨other, stack, unequal, read⟩
  · exact Nesting.loose.read_append_of_stuck stuck _
  · rw [Nesting.loose.read_concat read]
    exact Nesting.loose.step_of_closes_ne closes (unlike other unequal)

theorem CutsOff.cutOff (cutsOff : reader.CutsOff closer) (frame : Frame) :
    (reader.cutOff frame).CutsOff closer := by
  cases frame with
  | indent column =>
      exact ⟨cutsOff.told, Or.inl (cutsOff.stuck rfl rfl fun _ _ => nofun)⟩
  | group bracket opened => exact ⟨report_diagnostics_ne _ _ _, cutsOff.unfit⟩
  | splice opened => exact ⟨report_diagnostics_ne _ _ _, cutsOff.unfit⟩
  | string quote opened => exact cutsOff

theorem CutsOff.foldl (cutsOff : reader.CutsOff closer) (cut : List Frame) :
    (cut.foldl Reader.cutOff reader).CutsOff closer := by
  induction cut generalizing reader with
  | nil => exact cutsOff
  | cons frame cut inductionHypothesis => exact inductionHypothesis (cutsOff.cutOff frame)

theorem Clean.cutsOff {other : ClosingBracket} {frame : Frame}
    (clean : before.Clean (frame :: frames)) (isGroup : frame.delimiter = .group other)
    (unequal : other ≠ closer) (told : after.diagnostics ≠ #[])
    (tokens : after.tokens = before.tokens) : after.CutsOff closer := by
  refine ⟨told, Or.inr ⟨other, (frames.map Frame.delimiter).map Delimiter.loosen, unequal, ?_⟩⟩
  have read := Nesting.read_loose clean.nested
  rw [List.map_cons, isGroup] at read
  unfold kinds
  rw [tokens]
  exact read

/-- Cutting off closes blocks, up to the first bracket that has to be cut off. -/
theorem Clean.foldl_cutOff {cut : List Frame}
    (unfit : ∀ frame ∈ cut, frame.isClosedBy closer = false ∧ frame.isString = false)
    (clean : reader.Clean (cut ++ frames)) :
    (cut.foldl Reader.cutOff reader).Clean frames ∨
      (cut.foldl Reader.cutOff reader).CutsOff closer := by
  induction cut generalizing reader with
  | nil => exact Or.inl clean
  | cons frame cut inductionHypothesis =>
      rw [List.forall_mem_cons] at unfit
      rw [List.foldl_cons]
      cases frame with
      | indent column =>
          exact inductionHypothesis unfit.2 (clean.pushClosing rfl rfl rfl rfl)
      | group bracket opened =>
          have unequal : bracket.closer ≠ closer := beq_eq_false_iff_ne.mp unfit.1.1
          exact Or.inr (CutsOff.foldl
            (clean.cutsOff rfl unequal (report_diagnostics_ne _ _ _) rfl) cut)
      | splice opened =>
          have unequal : closer ≠ .curly := beq_eq_false_iff_ne.mp unfit.1.1
          exact Or.inr (CutsOff.foldl
            (clean.cutsOff rfl unequal.symm (report_diagnostics_ne _ _ _) rfl) cut)
      | string quote opened => cases unfit.1.2

/-- The first item that passes a test, and the items around it. -/
theorem findIdx?_split {test : Frame → Bool} {items : List Frame} {index : Nat}
    (found : items.findIdx? test = some index) :
    ∃ target, items = items.take index ++ target :: items.drop (index + 1) ∧
      test target = true ∧ ∀ item ∈ items.take index, test item = false := by
  rcases List.findIdx?_eq_some_iff_getElem.mp found with ⟨inside, passed, earlier⟩
  refine ⟨items[index], ?_, passed, ?_⟩
  · rw [← List.drop_eq_getElem_cons inside, List.take_append_drop]
  · intro item member
    rcases List.mem_take_iff_getElem.mp member with ⟨place, before, same⟩
    have failed := earlier place (by omega)
    rw [same] at failed
    simpa using failed

/-- What a closing bracket sees are the frames inside the innermost string. -/
theorem visible_split {frames : List Frame} {index : Nat}
    (found : (frames.takeWhile fun frame => !frame.isString).findIdx?
      (Frame.isClosedBy closer) = some index) :
    ∃ cut target, (frames.takeWhile fun frame => !frame.isString).take index = cut ∧
      frames = cut ++ target :: frames.drop (index + 1) ∧
      target.isClosedBy closer = true ∧
      ∀ frame ∈ cut, frame.isClosedBy closer = false ∧ frame.isString = false := by
  have seen : ∀ frame ∈ frames.takeWhile fun frame => !frame.isString,
      frame.isString = false := by
    intro frame member
    simpa using List.all_eq_true.mp List.all_takeWhile frame member
  have whole := takeWhile_append_drop (fun frame => !frame.isString) frames
  rcases findIdx?_split found with ⟨target, split, fits, before⟩
  generalize frames.takeWhile (fun frame => !frame.isString) = visible at *
  refine ⟨visible.take index, target, rfl, ?_, fits, fun frame member => ?_⟩
  · have inside : index < visible.length :=
      (List.findIdx?_eq_some_iff_getElem.mp found).1
    have behind := congrArg (· ++ frames.drop visible.length) split
    rw [List.append_assoc, List.cons_append,
      ← List.drop_append_of_le_length (by omega), whole] at behind
    exact behind
  · exact ⟨before frame member, seen frame (List.mem_of_mem_take member)⟩

/-- A closing bracket closes what it fits.  Whatever it cuts off keeps it from fitting
to the eyes of a reading. -/
theorem addCloser_honest (clean : reader.Clean reader.frames) (closer : ClosingBracket)
    (span : Span) : (reader.addCloser closer span).Honest := by
  unfold addCloser
  dsimp only
  cases found : (reader.frames.takeWhile fun frame => !frame.isString).findIdx?
      (Frame.isClosedBy closer) with
  | none => exact Or.inr (.of_push (report_diagnostics_ne _ _ _) rfl rfl)
  | some index =>
      rcases visible_split found with ⟨cut, target, taken, whole, fits, unfit⟩
      dsimp only
      rw [taken]
      have closes : (TokenKind.punctuation closer.mark).closes? = some (.group closer) := by
        cases closer <;> rfl
      rw [whole] at clean
      rcases clean.foldl_cutOff unfit with closed | cutsOff
      · refine Or.inl (closed.pushClosing rfl rfl rfl ?_)
        have same : target.delimiter = .group closer := by
          cases target with
          | group bracket opened => exact congrArg _ (beq_iff_eq.mp fits)
          | splice opened => exact congrArg _ (beq_iff_eq.mp fits).symm
          | indent column => cases fits
          | string quote opened => cases fits
        rw [same]
        exact closes
      · refine Or.inr ⟨cutsOff.told, Or.inr (cutsOff.stuck rfl closes ?_)⟩
        exact fun other unequal same => unequal (Delimiter.group.inj same)

/-! ## Reading -/

theorem opens_of_ofKind? {bracket : Bracket} (found : Bracket.ofKind? kind = some bracket) :
    kind.opens? = some (.group bracket.closer) := by
  unfold Bracket.ofKind? at found
  split at found <;> cases found <;> rfl

theorem isError_of_isLexical (lexical : kind.isLexical = true) : kind.isError = false := by
  cases kind <;> first | rfl | cases lexical

theorem isInert_of_isLexical (lexical : kind.isLexical = true)
    (noCloser : ClosingBracket.ofKind? kind = none) (noOpener : Bracket.ofKind? kind = none) :
    kind.isInert = true := by
  cases kind with
  | punctuation mark =>
      cases mark <;> first | rfl | (cases noCloser; done) | cases noOpener
  | _ => first | rfl | cases lexical

theorem emit_honest (honest : reader.Honest) (lexical : kind.isLexical = true) (span : Span)
    (next : Option Char) : (reader.emit kind span next).Honest := by
  have sound := isError_of_isLexical lexical
  have placed := applyLayout_honest honest kind next
  unfold emit
  dsimp only
  generalize reader.applyLayout kind next = laid at placed
  rcases placed with clean | faulty
  · split
    · exact addCloser_honest clean _ span
    · rename_i noCloser
      split
      · rename_i bracket opener
        exact Or.inl (clean.pushOpening rfl rfl sound (opens_of_ofKind? opener) nofun)
      · rename_i noOpener
        exact Or.inl (clean.pushInert rfl rfl sound
          (isInert_of_isLexical lexical noCloser noOpener))
  · refine Or.inr (faulty.grows ?_)
    split
    · exact addCloser_grows laid _ span
    · split
      · exact .push rfl rfl
      · exact .push rfl rfl

/-- Faulty text is reported and marked. -/
theorem emit_error_faulty (told : reader.diagnostics ≠ #[]) (text : String) (span : Span)
    (next : Option Char) : (reader.emit (.error text) span next).Faulty := by
  have grows := (Inserts.applyLayout reader (.error text) next).grows
  have pushed : (reader.emit (.error text) span next).tokens =
      (reader.applyLayout (.error text) next).tokens.push
        ⟨.error text, span, _⟩ := rfl
  refine .of_push (fun nothing => told ?_) pushed rfl
  rcases grows.diagnostics with ⟨more, added, _⟩
  have empty : (reader.applyLayout (.error text) next).diagnostics = #[] := nothing
  rw [empty] at added
  exact Array.toList_eq_nil_iff.mp (List.append_eq_nil_iff.mp added.symm).1

theorem emit_stringStart_honest (honest : reader.Honest) (quote : QuoteForm) (span : Span)
    (next : Option Char) :
    ((reader.emit (.stringStart quote) span next).openFrame
      (.string quote span.start)).Honest := by
  rcases applyLayout_honest honest (.stringStart quote) next with clean | faulty
  · exact Or.inl (clean.pushOpening rfl rfl rfl rfl nofun)
  · exact Or.inr (faulty.grows (.push rfl rfl))

theorem readLexeme_honest [XidStart] (clean : reader.Clean reader.frames) (c : Char)
    (rest : List Char) : (reader.readLexeme c rest).Honest := by
  have honest : reader.Honest := Or.inl clean
  have fits := Lexeme.fits_scan (reader.lastKind?.any TokenKind.endsOperand) c rest
  unfold Lexeme.Found.Fits at fits
  unfold readLexeme
  dsimp only
  generalize Lexeme.scan (reader.lastKind?.any TokenKind.endsOperand) c rest = found at fits
  split
  · exact honest.of_same rfl rfl rfl
  · exact honest.of_same rfl rfl rfl
  · exact honest.of_same rfl rfl rfl
  · rename_i kind same
    rw [same] at fits
    cases fits with
    | token lexical spells =>
        exact Honest.of_same (emit_honest honest lexical _ _) rfl rfl rfl
  · exact Honest.of_same (emit_stringStart_honest honest _ _ _) rfl rfl rfl
  · have faulty := emit_error_faulty (report_diagnostics_ne reader ‹LexicalFault›
      (reader.spanOf (c :: rest.take found.more))) (String.ofList (c :: rest.take found.more))
        (reader.spanOf (c :: rest.take found.more)) (rest.drop found.more).head?
    exact Honest.of_same (Or.inr faulty) rfl rfl rfl

theorem readPiece_honest [XidStart] {quote : QuoteForm} {opened : Nat} {outer : List Frame}
    (clean : reader.Clean reader.frames)
    (inString : reader.frames = .string quote opened :: outer) :
    (reader.readPiece quote opened outer).Honest := by
  have cleanString := clean
  rw [inString] at cleanString
  have aString : ∃ frame ∈ reader.frames, frame.isString = true := by
    rw [inString]
    exact ⟨_, List.mem_cons_self, rfl⟩
  have dollar : Clean reader.frames
      (reader.add (.punctuation .dollar) (reader.spanOf (reader.rest.take 1))) :=
    clean.pushInert rfl rfl rfl rfl
  unfold readPiece
  dsimp only
  split
  · exact Or.inl (cleanString.pushClosing rfl rfl rfl rfl)
  · exact Or.inl (dollar.pushOpening rfl rfl rfl rfl fun _ _ => aString)
  · exact Or.inl (dollar.pushInert rfl rfl rfl rfl)
  · exact Or.inl (clean.pushInert rfl rfl rfl rfl)
  · exact Or.inr (.of_push (report_diagnostics_ne _ _ _) rfl rfl)

theorem step_honest [XidStart] (honest : reader.Honest) : reader.step.Honest := by
  rcases honest with clean | faulty
  · unfold step
    split
    · exact Or.inl clean
    · split
      · exact readPiece_honest clean ‹_›
      · exact readLexeme_honest clean _ _
  · exact Or.inr (faulty.grows (step_grows reader))

theorem run_honest [XidStart] (honest : reader.Honest) : reader.run.Honest := by
  fun_induction run reader with
  | case1 reader atEnd => exact honest
  | case2 reader unread inductionHypothesis => exact inductionHypothesis (step_honest honest)

theorem start_honest (tabWidth : Nat) (source : List Char) :
    (start tabWidth source).Honest :=
  Or.inl ⟨rfl, nofun, rfl, .nil⟩

/-! ## The end of the source -/

/-- A string that is open at the end is reported, whatever is open around it. -/
theorem foldl_closeAtEnd_faulty (unclosed : ∃ frame ∈ frames, frame.isString = true)
    (reader : Reader) : (frames.foldl closeAtEnd reader).Faulty := by
  induction frames generalizing reader with
  | nil =>
      rcases unclosed with ⟨frame, member, isString⟩
      cases member
  | cons frame frames inductionHypothesis =>
      rcases unclosed with ⟨other, member, isString⟩
      rcases List.mem_cons.mp member with here | further
      · cases here
        cases frame with
        | string quote opened =>
            have faulty : (reader.closeAtEnd (.string quote opened)).Faulty :=
              .of_push (report_diagnostics_ne _ _ _) rfl rfl
            exact faulty.grows (foldl_closeAtEnd_grows frames _)
        | _ => cases isString
      · exact inductionHypothesis ⟨other, further, isString⟩ _

/-- At the end blocks are closed, and everything else that is open is reported. -/
theorem foldl_closeAtEnd_honest (clean : reader.Clean frames) :
    (frames.foldl closeAtEnd reader).Clean [] ∨ (frames.foldl closeAtEnd reader).Faulty := by
  induction frames generalizing reader with
  | nil => exact Or.inl clean
  | cons frame frames inductionHypothesis =>
      cases frame with
      | indent column => exact inductionHypothesis (clean.pushClosing rfl rfl rfl rfl)
      | splice opened =>
          exact Or.inr (foldl_closeAtEnd_faulty
            (clean.anchored opened frames (List.suffix_refl _)) reader)
      | string quote opened =>
          have faulty : (reader.closeAtEnd (.string quote opened)).Faulty :=
            .of_push (report_diagnostics_ne _ _ _) rfl rfl
          exact Or.inr (faulty.grows (foldl_closeAtEnd_grows frames _))
      | group bracket opened =>
          have faulty : (reader.closeAtEnd (.group bracket opened)).Faulty :=
            .of_push (report_diagnostics_ne _ _ _) rfl rfl
          exact Or.inr (faulty.grows (foldl_closeAtEnd_grows frames _))

end Reader

/-- Nothing is reported, no token marks a fault, and the tokens are nested. -/
structure Lexed.Silent (lexed : Lexed) : Prop where
  diagnostics : lexed.diagnostics = []
  sound : ∀ token ∈ lexed.tokens, token.kind.isError = false
  nested : Nesting.exact.read [] (lexed.tokens.map Token.kind) = some []

/-- Something is reported, and a token marks it or a reading is stuck on it. -/
structure Lexed.Faulty (lexed : Lexed) : Prop where
  told : lexed.diagnostics ≠ []
  shown : (∃ token ∈ lexed.tokens, token.kind.isError = true) ∨
    Nesting.loose.read [] (lexed.tokens.map Token.kind) = none

/-- What a lexer reports can be seen from its tokens. -/
theorem lex_honest [XidStart] (source : String) (tabWidth : Nat) :
    (lex source tabWidth).Silent ∨ (lex source tabWidth).Faulty := by
  have honest := Reader.run_honest (Reader.start_honest tabWidth source.toList)
  unfold lex Reader.finish
  generalize (Reader.start tabWidth source.toList).run = reader at honest
  have closed : (reader.frames.foldl Reader.closeAtEnd reader).Clean [] ∨
      (reader.frames.foldl Reader.closeAtEnd reader).Faulty := by
    rcases honest with clean | faulty
    · exact Reader.foldl_closeAtEnd_honest clean
    · exact Or.inr (faulty.grows (Reader.foldl_closeAtEnd_grows reader.frames reader))
  dsimp only
  generalize reader.frames.foldl Reader.closeAtEnd reader = closed at *
  rcases closed with clean | faulty
  · have ended : (closed.add .endOfFile (.empty reader.offset)).Clean [] :=
      clean.pushInert rfl rfl rfl rfl
    refine Or.inl ⟨congrArg Array.toList ended.silent, fun token member => ?_, ended.nested⟩
    exact ended.sound token (Array.mem_toList_iff.mp member)
  · have ended : (closed.add .endOfFile (.empty reader.offset)).Faulty :=
      faulty.grows (.push rfl rfl)
    refine Or.inr ⟨fun nothing => ended.told (Array.toList_eq_nil_iff.mp nothing), ?_⟩
    rcases ended.shown with ⟨token, member, marked⟩ | stuck
    · exact Or.inl ⟨token, Array.mem_toList_iff.mpr member, marked⟩
    · exact Or.inr stuck

end Offside
