import Offside.Proofs.Lexing.Abreast
import Offside.Proofs.Lexing.Bookkeeping
import Offside.Proofs.Lexing.Respacing

namespace Offside

/-!
# Tabs are worth the spaces to their tab stop

A tab in the blanks of a line may give way to the spaces that reach to the same tab stop.
The line then begins in the same column, so the layout rules do what they did, and nothing
else in the source depends on it.

The two readings run side by side.  Only the blanks that are read as such may change, so
the text of every other lexeme stands in both sources, and behind it are other blanks at
most.  Neither the lexeme nor the faults in it depend on those.
-/

namespace Column

/-- A text with spaces in place of its chosen tabs.  Each tab is chosen by its offset and
gives way to the spaces that reach to the same tab stop. -/
def expandTabs (tabWidth : Nat) (chosen : Nat → Bool) (offset column : Nat) :
    List Char → List Char
  | [] => []
  | c :: text =>
    (if c == '\t' && chosen offset then
        List.replicate (exactAfter tabWidth column '\t' - column) ' '
      else [c]) ++
      expandTabs tabWidth chosen (offset + c.utf8Size) (after tabWidth column c) text

variable {tabWidth offset column : Nat} {chosen : Nat → Bool}

theorem expandTabs_append (text beyond : List Char) :
    expandTabs tabWidth chosen offset column (text ++ beyond) =
      expandTabs tabWidth chosen offset column text ++
        expandTabs tabWidth chosen (offset + Utf8.byteLength text)
          (afterText tabWidth column text) beyond := by
  induction text generalizing offset column with
  | nil => rfl
  | cons c text inductionHypothesis =>
      rw [List.cons_append, expandTabs, expandTabs, inductionHypothesis, List.append_assoc,
        Utf8.byteLength_cons, Nat.add_assoc]
      rfl

/-- A text without chosen places stays as it is. -/
theorem expandTabs_of_unchosen {text : List Char}
    (unchosen : ∀ place, offset ≤ place → place < offset + Utf8.byteLength text →
      chosen place = false) :
    expandTabs tabWidth chosen offset column text = text := by
  induction text generalizing offset column with
  | nil => rfl
  | cons c text inductionHypothesis =>
      rw [Utf8.byteLength_cons] at unchosen
      have here := unchosen offset (Nat.le_refl _)
        (Nat.lt_add_of_pos_right (Nat.add_pos_left c.utf8Size_pos _))
      rw [expandTabs, here, Bool.and_false, inductionHypothesis]
      · rfl
      · intro place above below
        exact unchosen place (by omega) (by omega)

/-- A tab is at least one column wide. -/
theorem lt_exactAfter_tab (wide : 0 < tabWidth) (column : Nat) :
    column < exactAfter tabWidth column '\t' := by
  have stop : column < tabWidth * (column / tabWidth + 1) := Nat.lt_mul_div_succ column wide
  rw [Nat.mul_comm] at stop
  exact stop

/-- A stretch of spaces counts as many columns. -/
theorem afterText_spaces (count : Nat) :
    afterText tabWidth column (List.replicate (count + 1) ' ') =
      (column + (count + 1)) % wordSize := by
  induction count generalizing column with
  | zero => rfl
  | succ count inductionHypothesis =>
      rw [List.replicate_succ]
      show afterText tabWidth ((column + 1) % wordSize) _ = _
      rw [inductionHypothesis, Nat.mod_add_mod, Nat.add_right_comm, Nat.add_assoc column]

/-- The spaces in place of a tab lead to the same column. -/
theorem afterText_expandTabs (wide : 0 < tabWidth) (text : List Char) :
    afterText tabWidth column (expandTabs tabWidth chosen offset column text) =
      afterText tabWidth column text := by
  induction text generalizing offset column with
  | nil => rfl
  | cons c text inductionHypothesis =>
      have one : afterText tabWidth column
          (if c == '\t' && chosen offset then
            List.replicate (exactAfter tabWidth column '\t' - column) ' ' else [c]) =
          after tabWidth column c := by
        split
        · rename_i isChosen
          rw [Bool.and_eq_true, beq_iff_eq] at isChosen
          have further := lt_exactAfter_tab wide column
          rcases Nat.exists_eq_succ_of_ne_zero (Nat.sub_ne_zero_of_lt further) with ⟨count, gap⟩
          rw [gap, afterText_spaces, isChosen.1]
          have reach : column + (count + 1) = exactAfter tabWidth column '\t' := by omega
          rw [reach]
          rfl
        · rfl
      rw [expandTabs]
      unfold afterText at one inductionHypothesis ⊢
      rw [List.foldl_append, one, inductionHypothesis]
      rfl

theorem isSpacing_tab : isSpacing '\t' = true := by decide +kernel

theorem isSpacing_space : isSpacing ' ' = true := by decide +kernel

theorem expandTabs_respaced (wide : 0 < tabWidth) (text : List Char) :
    Respaced isSpacing text (expandTabs tabWidth chosen offset column text) := by
  induction text generalizing offset column with
  | nil => exact .nil
  | cons c text inductionHypothesis =>
      rw [expandTabs]
      split
      · rename_i isChosen
        rw [Bool.and_eq_true, beq_iff_eq] at isChosen
        have further := lt_exactAfter_tab wide column
        rcases Nat.exists_eq_succ_of_ne_zero (Nat.sub_ne_zero_of_lt further) with ⟨count, gap⟩
        rw [gap, List.replicate_succ, isChosen.1]
        refine .replace isSpacing_tab isSpacing_space ?_ inductionHypothesis
        intro d member
        rw [List.eq_of_mem_replicate member]
        exact isSpacing_space
      · exact .keep c inductionHypothesis

end Column

/-- Nothing but blanks differs.  Places in the two sources are not compared. -/
abbrev Rewriting.blanks : Rewriting := ⟨id, fun _ _ => True⟩

/-! ## Trivia on the way -/

namespace Lexed

/-- All trivia of a source, in the order of the source. -/
def trivia (lexed : Lexed) : List Trivia := lexed.tokens.flatMap Token.leading

end Lexed

namespace Reader

variable {reader before after : Reader} {c : Char} {rest : List Char}

/-- The trivia that was read so far. -/
def passed (reader : Reader) : List Trivia :=
  reader.tokens.toList.flatMap Token.leading ++ reader.trivia.toList

theorem passed_add (reader : Reader) (kind : TokenKind) (span : Span) :
    (reader.add kind span).passed = reader.passed := by
  unfold passed add
  rw [Array.toList_push, List.flatMap_append, List.flatMap_singleton]
  exact List.append_nil _

theorem Inserts.passed_eq (inserts : before.Inserts after) : after.passed = before.passed := by
  rcases inserts.tokens with ⟨inserted, added, each⟩
  have none : inserted.flatMap Token.leading = [] := by
    rw [List.flatMap_eq_nil_iff]
    intro token member
    cases each token member
    rfl
  unfold passed
  rw [added, inserts.trivia, List.flatMap_append, none, List.append_nil]

theorem passed_emit (reader : Reader) (kind : TokenKind) (span : Span) (next : Option Char) :
    (reader.emit kind span next).passed = reader.passed := by
  have emits := emit_emits reader kind span next
  generalize reader.emit kind span next = after at emits ⊢
  cases emits with
  | kept inserts => exact (passed_add _ _ _).trans inserts.passed_eq
  | unmatched inserts closes reported => exact (passed_add _ _ _).trans inserts.passed_eq

/-- Outside of strings a step takes in one piece of trivia at most. -/
theorem readLexeme_passed [XidStart] (reader : Reader) (c : Char) (rest : List Char) :
    (reader.readLexeme c rest).passed = reader.passed ++
      match (reader.lexeme c rest).lexeme with
      | .trivia kind => [⟨kind, reader.spanOf (c :: rest.take (reader.lexeme c rest).more)⟩]
      | _ => [] := by
  cases found : (reader.lexeme c rest).lexeme with
  | trivia kind =>
      rw [readLexeme_eq_of_trivia found rfl rfl]
      unfold passed advance addTrivia
      rw [Array.toList_push, List.append_assoc]
  | token kind =>
      rw [List.append_nil]
      unfold lexeme at found
      unfold readLexeme
      dsimp only
      rw [found]
      exact passed_emit reader kind _ _
  | stringOpening quote =>
      rw [List.append_nil]
      unfold lexeme at found
      unfold readLexeme
      dsimp only
      rw [found]
      exact passed_emit reader (.stringStart quote) _ _
  | faulty fault =>
      rw [List.append_nil]
      unfold lexeme at found
      unfold readLexeme
      dsimp only
      rw [found]
      exact passed_emit (reader.report fault _) _ _ _

theorem readPiece_passed [XidStart] (reader : Reader) (quote : QuoteForm) (opened : Nat)
    (outer : List Frame) :
    (reader.readPiece quote opened outer).passed = reader.passed := by
  have dollar : (reader.add (.punctuation .dollar) (reader.spanOf (reader.rest.take 1))).passed =
      reader.passed := passed_add _ _ _
  unfold readPiece
  dsimp only
  split
  · exact passed_add { reader with frames := outer } _ _
  · exact (passed_add _ _ _).trans dollar
  · exact (passed_add _ _ _).trans dollar
  · exact passed_add _ _ _
  · rename_i length found
    have cut : ∀ {read : Reader} (span : Span), read.passed = reader.passed →
        ((({ read with frames := outer } : Reader).report .unterminatedString span).insert
          (.error "") span.stop).passed = reader.passed := by
      intro read span same
      exact (Inserts.insert _ _ rfl).passed_eq.trans same
    refine cut ⟨opened, _⟩ ?_
    split
    · rfl
    · exact passed_add _ _ _

/-- What a step takes in lies between the places where it begins and ends. -/
theorem step_passed [XidStart] (reader : Reader) :
    ∃ new, reader.step.passed = reader.passed ++ new ∧ reader.offset ≤ reader.step.offset ∧
    ∀ trivia ∈ new, trivia.span = ⟨reader.offset, reader.step.offset⟩ := by
  unfold step
  split
  · exact ⟨[], (List.append_nil _).symm, Nat.le_refl _, List.forall_mem_nil _⟩
  · rename_i c rest unread
    split
    · rename_i quote opened outer inString
      have passes := readPiece_passes reader quote opened outer
      refine ⟨[], ?_, ?_, List.forall_mem_nil _⟩
      · rw [readPiece_passed, List.append_nil]
      · rw [passes.offset]
        exact Nat.le_add_right _ _
    · have passes := readLexeme_passes unread
      refine ⟨_, readLexeme_passed reader c rest, ?_, ?_⟩
      · rw [passes.offset]
        exact Nat.le_add_right _ _
      · intro trivia member
        split at member
        · rw [List.mem_singleton.mp member, passes.offset]
          rfl
        · cases member

/-- What a run takes in lies behind the place where it begins. -/
theorem run_passed [XidStart] (reader : Reader) :
    ∃ ahead, reader.run.passed = reader.passed ++ ahead ∧
    ∀ trivia ∈ ahead, reader.offset ≤ trivia.span.start := by
  fun_induction run reader with
  | case1 reader atEnd => exact ⟨[], (List.append_nil _).symm, List.forall_mem_nil _⟩
  | case2 reader unread inductionHypothesis =>
      rcases step_passed reader with ⟨new, added, further, spans⟩
      rcases inductionHypothesis with ⟨ahead, passed, behind⟩
      refine ⟨new ++ ahead, by rw [passed, added, List.append_assoc], ?_⟩
      intro trivia member
      rcases List.mem_append.mp member with isNew | isAhead
      · rw [spans trivia isNew]
      · exact Nat.le_trans further (behind trivia isAhead)

/-- All trivia ends up in front of some token. -/
theorem trivia_finish (reader : Reader) : reader.finish.trivia = reader.passed := by
  have closed := Inserts.foldl Inserts.closeAtEnd reader.frames reader
  have same := closed.passed_eq
  unfold Lexed.trivia
  rw [tokens_finish, List.flatMap_append, List.flatMap_singleton]
  exact same

/-! ## The chosen tabs -/

/-- Some places of a source, all of them in blanks that are read as such. -/
structure Foresees [XidStart] (chosen : Nat → Bool) (reader : Reader) : Prop where
  behind : ∀ trivia ∈ reader.passed, trivia.span.stop ≤ reader.offset
  inBlank : ∀ place, chosen place = true → ∃ trivia ∈ reader.run.passed,
    trivia.kind = .whitespace ∧ trivia.span.start ≤ place ∧ place < trivia.span.stop

variable {chosen : Nat → Bool}

theorem Foresees.step [XidStart] (foresees : reader.Foresees chosen) (unread : reader.rest ≠ []) :
    reader.step.Foresees chosen where
  behind := by
    rcases step_passed reader with ⟨new, added, further, spans⟩
    intro trivia member
    rw [added] at member
    rcases List.mem_append.mp member with before | isNew
    · exact Nat.le_trans (foresees.behind trivia before) further
    · rw [spans trivia isNew]
  inBlank := by
    rw [← run_of_unread unread]
    exact foresees.inBlank

/-- No place is chosen in a text that is not read as blanks. -/
theorem Foresees.unchosen [XidStart] (foresees : reader.Foresees chosen) (unread : reader.rest ≠ [])
    (solid : ∀ trivia ∈ reader.step.passed, trivia ∈ reader.passed ∨ trivia.kind ≠ .whitespace)
    {place : Nat} (above : reader.offset ≤ place) (below : place < reader.step.offset) :
    chosen place = false := by
  refine Bool.eq_false_iff.mpr fun isChosen => ?_
  rcases foresees.inBlank place isChosen with ⟨trivia, member, blank, starts, stops⟩
  rw [run_of_unread unread] at member
  rcases run_passed reader.step with ⟨ahead, passed, behind⟩
  rw [passed] at member
  rcases List.mem_append.mp member with sofar | isAhead
  · rcases solid trivia sofar with before | notBlank
    · have := foresees.behind trivia before
      omega
    · exact notBlank blank
  · have := behind trivia isAhead
    omega

/-! ## Side by side -/

/-- Two readers, the second one of a text with spaces in place of the chosen tabs. -/
structure Expands (chosen : Nat → Bool) (first second : Reader) : Prop where
  parallels : Parallels .blanks first second
  rest : second.rest =
    Column.expandTabs first.tabWidth chosen first.offset first.column first.rest
  wide : 0 < first.tabWidth

namespace Expands

variable {first second afterThere : Reader}

theorem respaced (expands : Expands chosen first second) :
    Respaced isSpacing first.rest second.rest := by
  rw [expands.rest]
  exact Column.expandTabs_respaced expands.wide first.rest

/-- Both readers have moved past a text, the second one past its spaces. -/
theorem behind (expands : Expands chosen first second) {front : List Char}
    (passes : first.Passes front after)
    (passesThere : second.Passes
      (Column.expandTabs first.tabWidth chosen first.offset first.column front) afterThere)
    (parallels : Parallels .blanks after afterThere) : Expands chosen after afterThere where
  parallels := parallels
  rest := by
    have rest := expands.rest
    rw [passes.rest, Column.expandTabs_append, passesThere.rest] at rest
    rw [List.append_cancel_left rest, passes.tabWidth, passes.offset, passes.column]
  wide := by
    rw [passes.tabWidth]
    exact expands.wide

/-- A text without chosen tabs stands in front of both readers. -/
theorem rest_of_unchosen (expands : Expands chosen first second) {front beyond : List Char}
    (split : first.rest = front ++ beyond)
    (unchosen : ∀ place, first.offset ≤ place →
      place < first.offset + Utf8.byteLength front → chosen place = false) :
    Column.expandTabs first.tabWidth chosen first.offset first.column front = front ∧
      ∃ other, second.rest = front ++ other ∧ Respaced isSpacing beyond other := by
  have same := @Column.expandTabs_of_unchosen first.tabWidth first.offset first.column chosen
    front unchosen
  have rest := expands.rest
  rw [split, Column.expandTabs_append, same] at rest
  exact ⟨same, _, rest, Column.expandTabs_respaced expands.wide beyond⟩

variable [XidStart]

theorem readPiece (expands : Expands chosen first second) (foresees : first.Foresees chosen)
    (unread : first.rest ≠ []) {quote : QuoteForm} {opened : Nat} {outer : List Frame}
    (frames : first.frames = .string quote opened :: outer) :
    Expands chosen first.step second.step := by
  rcases expands.parallels.string_frames frames with ⟨openedThere, outerThere, there, around⟩
  have passes := readPiece_passes first quote opened outer
  have stepped := step_eq_readPiece frames unread
  rw [← stepped] at passes
  have split := (List.take_append_drop
    ((StringText.scanPiece quote first.rest).reach quote) first.rest).symm
  have unchosen : ∀ place, first.offset ≤ place → place < first.offset + Utf8.byteLength
      (first.rest.take ((StringText.scanPiece quote first.rest).reach quote)) →
      chosen place = false := by
    intro place above below
    refine foresees.unchosen unread (fun trivia member => .inl ?_) above
      (by rw [passes.offset]; exact below)
    rwa [stepped, readPiece_passed] at member
  rcases expands.rest_of_unchosen split unchosen with ⟨same, other, rest, respaced⟩
  have scanned : StringText.scanPiece quote second.rest =
      StringText.scanPiece quote first.rest := by
    rw [rest]
    exact StringText.scanPiece_take_append respaced
  have taken : ∀ count ≤ (StringText.scanPiece quote first.rest).reach quote,
      second.rest.take count = first.rest.take count := by
    intro count within
    have inside := List.length_take_of_le (StringText.reach_scanPiece_le quote first.rest)
    rw [rest, List.take_append_of_le_length (by rw [inside]; exact within), List.take_take,
      Nat.min_eq_left within]
  have unreadThere : second.rest ≠ [] := by
    intro nothing
    have empty := expands.respaced.isEmpty
    rw [nothing] at empty
    exact unread (List.isEmpty_iff.mp empty.symm)
  have passesThere := readPiece_passes second quote openedThere outerThere
  have steppedThere := step_eq_readPiece there unreadThere
  rw [scanned, taken _ (Nat.le_refl _), ← steppedThere, ← same] at passesThere
  refine expands.behind passes passesThere ?_
  rw [stepped, steppedThere]
  exact expands.parallels.readPiece opened openedThere around scanned taken (fun _ _ => rfl)
    (fun _ _ => True.intro)

/-- Blanks stay blanks, and both readers come to stand in the same column. -/
theorem readBlank (expands : Expands chosen first second)
    (code : Frame.inString first.frames = false) {c : Char} {rest : List Char}
    (unread : first.rest = c :: rest) (spacing : isSpacing c = true) :
    Expands chosen first.step second.step := by
  have codeThere := expands.parallels.inString.trans code
  rcases exists_append (runLength_le isSpacing rest) with ⟨run, beyond, rfl, measured⟩
  have blanks := all_of_runLength_append measured.symm
  have each : ∀ d ∈ c :: run, isSpacing d = true := List.forall_mem_cons.mpr ⟨spacing, blanks.1⟩
  have scanned : first.lexeme c (run ++ beyond) = ⟨.trivia .whitespace, run.length⟩ :=
    Lexeme.scan_spacing each blanks.2
  have passes := readLexeme_passes unread
  have stepped := step_eq_readLexeme code unread
  rw [scanned, List.take_left, ← stepped] at passes
  have rest := expands.rest
  rw [unread, ← List.cons_append, Column.expandTabs_append] at rest
  have widened := @Column.expandTabs_respaced first.tabWidth first.offset first.column chosen
    expands.wide (c :: run)
  have behind := @Column.expandTabs_respaced first.tabWidth
    (first.offset + Utf8.byteLength (c :: run))
    (Column.afterText first.tabWidth first.column (c :: run)) chosen expands.wide beyond
  have columns := @Column.afterText_expandTabs first.tabWidth first.offset first.column chosen
    expands.wide (c :: run)
  generalize frontIs : Column.expandTabs first.tabWidth chosen first.offset first.column
    (c :: run) = front at rest widened columns
  generalize Column.expandTabs first.tabWidth chosen
    (first.offset + Utf8.byteLength (c :: run))
    (Column.afterText first.tabWidth first.column (c :: run)) beyond = other at rest behind
  cases front with
  | nil => cases widened
  | cons d more =>
      have eachThere := widened.all each
      have endsThere : headIs isSpacing other = false :=
        (behind.headIs true fun _ passes => passes).trans blanks.2
      have scannedThere : second.lexeme d (more ++ other) = ⟨.trivia .whitespace, more.length⟩ :=
        Lexeme.scan_spacing eachThere endsThere
      rw [List.cons_append] at rest
      have passesThere := readLexeme_passes rest
      have steppedThere := step_eq_readLexeme codeThere rest
      rw [scannedThere, List.take_left, ← steppedThere, ← frontIs] at passesThere
      refine expands.behind passes passesThere ?_
      rw [stepped, steppedThere]
      have noBreak : ∀ text : List Char, (∀ d ∈ text, isSpacing d = true) →
          text.contains '\n' = false := by
        intro text each
        refine Bool.eq_false_iff.mpr fun member => ?_
        exact absurd rfl (ne_newline_of_isSpacing (each '\n' (List.contains_iff_mem.mp member)))
      refine expands.parallels.readLexeme
        (by rw [scanned, List.take_left]) (by rw [scanned, List.drop_left])
        (by rw [scannedThere, List.take_left]) (by rw [scannedThere, List.drop_left])
        (by rw [scanned, scannedThere]; rfl) ((noBreak _ eachThere).trans (noBreak _ each).symm)
        ?_ (.inl ⟨.whitespace, by rw [scanned]⟩) ?_ True.intro
      · rw [scanned]
        nofun
      · rw [expands.parallels.tabWidth, expands.parallels.column]
        exact columns

/-- What does not begin with a blank of a line is the same lexeme in both sources. -/
theorem readSolid (expands : Expands chosen first second) (foresees : first.Foresees chosen)
    (code : Frame.inString first.frames = false) {c : Char} {rest : List Char}
    (unread : first.rest = c :: rest) (solid : isSpacing c = false) :
    Expands chosen first.step second.step := by
  have nonempty : first.rest ≠ [] := by
    rw [unread]
    exact List.cons_ne_nil _ _
  have codeThere := expands.parallels.inString.trans code
  have passes := readLexeme_passes unread
  have stepped := step_eq_readLexeme code unread
  rw [← stepped] at passes
  have split : first.rest = (c :: rest.take (first.lexeme c rest).more) ++
      rest.drop (first.lexeme c rest).more := by
    rw [unread, List.cons_append, List.take_append_drop]
  have unchosen : ∀ place, first.offset ≤ place → place < first.offset + Utf8.byteLength
      (c :: rest.take (first.lexeme c rest).more) → chosen place = false := by
    intro place above below
    refine foresees.unchosen nonempty (fun trivia member => ?_) above
      (by rw [passes.offset]; exact below)
    rw [stepped, readLexeme_passed] at member
    refine (List.mem_append.mp member).imp id fun isNew blank => ?_
    split at isNew
    · rename_i kind found
      rw [List.mem_singleton.mp isNew] at blank
      have isBlank : kind = .whitespace := blank
      rw [isBlank] at found
      rw [Lexeme.isSpacing_of_whitespace found] at solid
      cases solid
    · cases isNew
  rcases expands.rest_of_unchosen split unchosen with ⟨same, other, rest', respaced⟩
  have unreadThere : second.rest = c :: (rest.take (first.lexeme c rest).more ++ other) := rest'
  have operands := expands.parallels.any_lastKind? (TokenKind.endsOperand_mapText id)
  have scanned : second.lexeme c (rest.take (first.lexeme c rest).more ++ other) =
      first.lexeme c rest := by
    unfold lexeme at respaced ⊢
    rw [operands]
    exact Lexeme.scan_take_append solid respaced
  have parts := respaced.take_append
  have passesThere := readLexeme_passes unreadThere
  have steppedThere := step_eq_readLexeme codeThere unreadThere
  rw [scanned, parts.1, ← steppedThere, ← same] at passesThere
  refine expands.behind passes passesThere ?_
  rw [stepped, steppedThere]
  refine expands.parallels.readLexeme rfl rfl (by rw [scanned, parts.1]) (by rw [scanned, parts.2])
    (by rw [scanned, Lexeme.mapText_id]) rfl (fun _ _ => rfl) (.inr ?_) ?_ True.intro
  · have blank : ∀ c, isSpacing c = true → (!isBlank c) = false := by
      intro c spacing
      rw [isBlank_of_isSpacing c spacing]
      rfl
    exact respaced.headIs false blank
  · rw [expands.parallels.tabWidth, expands.parallels.column]

theorem step (expands : Expands chosen first second) (foresees : first.Foresees chosen)
    (unread : first.rest ≠ []) : Expands chosen first.step second.step := by
  cases code : Frame.inString first.frames with
  | true =>
      rcases Frame.exists_of_inString code with ⟨quote, opened, outer, frames⟩
      exact expands.readPiece foresees unread frames
  | false =>
      cases rest : first.rest with
      | nil => exact absurd rest unread
      | cons c rest' =>
          cases spacing : isSpacing c with
          | true => exact expands.readBlank code rest spacing
          | false => exact expands.readSolid foresees code rest spacing

/-- By induction on the run of the first reader. -/
theorem run (expands : Expands chosen first second) (foresees : first.Foresees chosen) :
    Parallels .blanks first.run second.run := by
  fun_induction Reader.run first generalizing second with
  | case1 first atEnd =>
      have empty := expands.respaced.isEmpty
      rw [atEnd] at empty
      rw [run_of_read (List.isEmpty_iff.mp empty)]
      exact expands.parallels
  | case2 first unread inductionHypothesis =>
      have nonempty : first.rest ≠ [] := by rwa [List.isEmpty_iff] at unread
      have nonemptyThere : second.rest ≠ [] := by
        intro nothing
        have empty := expands.respaced.isEmpty
        rw [nothing] at empty
        exact nonempty (List.isEmpty_iff.mp empty.symm)
      rw [run_of_unread nonemptyThere]
      exact inductionHypothesis (expands.step foresees nonempty) (foresees.step nonempty)

end Expands
end Reader

/-! ## Sources -/

/-- Whether a place lies in a span. -/
def Span.holds (span : Span) (place : Nat) : Bool := span.start ≤ place && place < span.stop

namespace Lexed

/-- Whether trivia is white space that a line begins with: at the start of the source or right
behind a line break. -/
def isIndentation (lexed : Lexed) (trivia : Trivia) : Bool :=
  trivia.kind == .whitespace && (trivia.span.start == 0 ||
    lexed.trivia.any fun before =>
      before.kind == .newline && before.span.stop == trivia.span.start)

/-- Whether a place lies in white space that a line begins with. -/
def indents (lexed : Lexed) (place : Nat) : Bool :=
  lexed.trivia.any fun trivia => lexed.isIndentation trivia && trivia.span.holds place

end Lexed

/-- A source in which no line begins with a tab.  Each tab in the white space that a line
begins with has given way to the spaces that reach to the same tab stop. -/
def detab [XidStart] (source : String) (tabWidth : Nat) : String :=
  String.ofList (Column.expandTabs (max tabWidth 1) (lex source tabWidth).indents 0 0
    source.toList)

/-- Any choice of tabs will do, as long as each of them is read as white space. -/
theorem lex_expandTabs [XidStart] {source : String} {tabWidth : Nat} {chosen : Nat → Bool}
    (blank : ∀ place, chosen place = true → ∃ trivia ∈ (lex source tabWidth).trivia,
      trivia.kind = .whitespace ∧ trivia.span.holds place = true) :
    (lex source tabWidth).Parallels .blanks
      (lex (String.ofList (Column.expandTabs (max tabWidth 1) chosen 0 0 source.toList))
        tabWidth) := by
  have wide : 0 < max tabWidth 1 := Nat.lt_of_lt_of_le Nat.one_pos (Nat.le_max_right _ _)
  unfold lex at blank ⊢
  rw [String.toList_ofList]
  rw [Reader.trivia_finish] at blank
  have foresees : (Reader.start tabWidth source.toList).Foresees chosen := by
    refine ⟨List.forall_mem_nil _, fun place isChosen => ?_⟩
    rcases blank place isChosen with ⟨trivia, member, kind, inside⟩
    unfold Span.holds at inside
    rw [Bool.and_eq_true, decide_eq_true_eq, decide_eq_true_eq] at inside
    exact ⟨trivia, member, kind, inside.1, inside.2⟩
  have expands : Reader.Expands chosen (.start tabWidth source.toList)
      (.start tabWidth (Column.expandTabs (max tabWidth 1) chosen 0 0 source.toList)) :=
    ⟨.start True.intro tabWidth _ _, rfl, wide⟩
  exact (expands.run foresees).finish

/-- The tabs that lines begin with are worth the spaces to their tab stops: with those spaces
in place of the tabs a source has the same kinds of tokens, with line breaks in front of the
same ones, and the same is reported. -/
theorem lex_detab [XidStart] (source : String) (tabWidth : Nat) :
    (lex (detab source tabWidth) tabWidth).tokens.map Token.kind =
        (lex source tabWidth).tokens.map Token.kind ∧
      (lex (detab source tabWidth) tabWidth).tokens.map Token.hasNewlineBefore =
        (lex source tabWidth).tokens.map Token.hasNewlineBefore ∧
      (lex (detab source tabWidth) tabWidth).diagnostics.map Diagnostic.message =
        (lex source tabWidth).diagnostics.map Diagnostic.message := by
  have blank : ∀ place, (lex source tabWidth).indents place = true →
      ∃ trivia ∈ (lex source tabWidth).trivia,
        trivia.kind = .whitespace ∧ trivia.span.holds place = true := by
    intro place indents
    rcases List.any_eq_true.mp indents with ⟨trivia, member, indentation⟩
    unfold Lexed.isIndentation at indentation
    rw [Bool.and_eq_true, Bool.and_eq_true, beq_iff_eq] at indentation
    exact ⟨trivia, member, indentation.1.1, indentation.2⟩
  have parallels := lex_expandTabs blank
  have faults := parallels.faults
  have kinds := parallels.kinds
  rw [funext fun token : Token => TokenKind.mapText_id token.kind] at kinds
  refine ⟨kinds, parallels.newlines, ?_⟩
  have messages := congrArg (List.map Fault.message) faults
  rwa [List.map_map, List.map_map] at messages

end Offside
