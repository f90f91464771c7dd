import Offside.Proofs.Lexing.Ahead
import Offside.Proofs.Lexing.Returns

namespace Offside

/-!
# Carriage returns do not matter to a reader

A source in which nothing is at fault is read alongside the same source with a carriage
return in front of each of its line feeds.  The two readers take the same steps but for one
kind of place: in front of a line feed the second reader has a blank more to read.  Before
the line has ended it therefore stands in another column and may have more trivia to keep.
So the end of a line is taken as a whole, along with the blanks or the comment in front of
it; behind it the readers are parallel again.
-/

/-- Strings take in carriage returns, and each place of the source moves behind those that
come in front of it. -/
abbrev Rewriting.returns (source : List Char) : Rewriting where
  edit := withReturns
  place here there := ∃ front back, source = front ++ back ∧
    here = Utf8.byteLength front ∧ there = Utf8.byteLength (crlf front)

namespace Reader

variable {reader first second after afterThere : Reader} {c : Char} {rest beyond : List Char}

/-! ## Steps at the end of the source -/

theorem remaining_step_le [XidStart] (reader : Reader) :
    reader.step.remaining ≤ reader.remaining := by
  by_cases read : reader.rest = []
  · exact Nat.le_of_eq (congrArg remaining (step_of_read read))
  · exact Nat.le_of_lt (remaining_step_lt reader read)

/-! ## The end of a line -/

/-- The reader behind the end of a line, with the trivia that was read there. -/
def breakLine (reader : Reader) (gap : Array Trivia) (text beyond : List Char) : Reader :=
  { reader with
    rest := beyond
    offset := reader.offset + Utf8.byteLength text
    column := 0
    trivia := reader.trivia ++ gap
    atLineStart := true }

theorem step_newline [XidStart] (code : Frame.inString reader.frames = false)
    (unread : reader.rest = '\n' :: beyond) :
    reader.step = reader.breakLine #[⟨.newline, reader.spanOf ['\n']⟩] ['\n'] beyond := by
  have found : (reader.lexeme '\n' beyond) = ⟨.trivia .newline, 0⟩ := Lexeme.scan_newline _ _
  rw [step_eq_readLexeme code unread,
    readLexeme_eq_of_trivia (by rw [found]) (by rw [found]) (by rw [found])]
  unfold advance addTrivia breakLine
  dsimp only
  rw [← Array.append_singleton]
  congr 1
  exact Bool.or_true _

/-- Trivia within a line, and the line feed behind it. -/
theorem step_step_newline [XidStart] (code : Frame.inString reader.frames = false) {run : List Char}
    (unread : reader.rest = c :: (run ++ '\n' :: beyond)) (unbroken : Unbroken (c :: run))
    {kind : TriviaKind}
    (found : reader.lexeme c (run ++ '\n' :: beyond) = ⟨.trivia kind, run.length⟩) :
    ∃ gap : Array Trivia, (gap.toList.any fun trivia => trivia.kind == .newline) = true ∧
      reader.step.step = reader.breakLine gap ((c :: run) ++ ['\n']) beyond := by
  have stepped := step_eq_readLexeme code unread
  rw [readLexeme_eq_of_trivia (by rw [found]) (by rw [found, List.take_left])
    (by rw [found, List.drop_left]), unbroken.contains, Bool.or_false] at stepped
  have codeThere : Frame.inString reader.step.frames = false := by
    rw [stepped]
    exact code
  have unreadThere : reader.step.rest = '\n' :: beyond := by
    rw [stepped]
    rfl
  refine ⟨#[⟨kind, reader.spanOf (c :: run)⟩, ⟨.newline, reader.step.spanOf ['\n']⟩],
    Bool.or_true _, ?_⟩
  rw [step_newline codeThere unreadThere]
  conv => lhs; rw [stepped]
  unfold breakLine advance addTrivia
  dsimp only
  rw [Utf8.byteLength_append, Nat.add_assoc, stepped]
  congr 1

namespace Parallels

variable {rewriting : Rewriting}

/-- Behind the end of a line both readers stand in the first column. -/
theorem breakLine (parallels : Parallels rewriting first second) {gap gapThere : Array Trivia}
    (breaks : (gap.toList.any fun trivia => trivia.kind == .newline) = true)
    (breaksThere : (gapThere.toList.any fun trivia => trivia.kind == .newline) = true)
    {text textThere : List Char} (beyond beyondThere : List Char)
    (places : rewriting.place (first.offset + Utf8.byteLength text)
      (second.offset + Utf8.byteLength textThere)) :
    Parallels rewriting (first.breakLine gap text beyond)
      (second.breakLine gapThere textThere beyondThere) := by
  have filled : ∀ {trivia gap : Array Trivia},
      (gap.toList.any fun trivia => trivia.kind == .newline) = true →
      ((trivia ++ gap).toList.any fun trivia => trivia.kind == .newline) = true ∧
        (trivia ++ gap).toList.isEmpty = false := by
    intro trivia gap breaks
    have some : ((trivia ++ gap).toList.any fun trivia => trivia.kind == .newline) = true := by
      rw [Array.toList_append, List.any_append, breaks, Bool.or_true]
    refine ⟨some, List.isEmpty_eq_false_iff.mpr fun nothing => ?_⟩
    rw [nothing] at some
    cases some
  have here := @filled first.trivia gap breaks
  have there := @filled second.trivia gapThere breaksThere
  exact { parallels with
    offset := places
    column := rfl
    newline := there.1.trans here.1.symm
    trivia := there.2.trans here.2.symm
    atLineStart := rfl }

/-- A piece of plain text and what becomes of it. -/
theorem readText [XidStart] (parallels : Parallels rewriting first second) {quote : QuoteForm}
    {opened openedThere : Nat} {outer outerThere : List Frame} {reach reachThere : Nat}
    (found : StringText.scanPiece quote first.rest = .text reach)
    (foundThere : StringText.scanPiece quote second.rest = .text reachThere)
    (edited : rewriting.edit (String.ofList (first.rest.take reach)) =
      String.ofList (second.rest.take reachThere))
    (columns : Column.afterText second.tabWidth second.column (second.rest.take reachThere) =
      Column.afterText first.tabWidth first.column (first.rest.take reach))
    (places : rewriting.place (first.offset + Utf8.byteLength (first.rest.take reach))
      (second.offset + Utf8.byteLength (second.rest.take reachThere))) :
    Parallels rewriting (first.readPiece quote opened outer)
      (second.readPiece quote openedThere outerThere) := by
  have starts : rewriting.place (first.spanOf (first.rest.take reach)).start
      (second.spanOf (second.rest.take reachThere)).start := parallels.offset
  have added := parallels.add (.stringMiddle (String.ofList (first.rest.take reach))) starts places
  have kind : (TokenKind.stringMiddle (String.ofList (first.rest.take reach))).mapText
      rewriting.edit = .stringMiddle (String.ofList (second.rest.take reachThere)) :=
    congrArg TokenKind.stringMiddle edited
  rw [kind] at added
  unfold Reader.readPiece
  dsimp only
  rw [found, foundThere]
  exact added.advance _ _ columns places

end Parallels

/-! ## Side by side -/

/-- Two readers, the second one of the source with carriage returns. -/
structure Carries (source : List Char) (first second : Reader) : Prop where
  parallels : Parallels (.returns source) first second
  rest : second.rest = crlf first.rest
  whole : ∃ front, source = front ++ first.rest ∧
    first.offset = Utf8.byteLength front ∧ second.offset = Utf8.byteLength (crlf front)

namespace Carries

variable {source : List Char}

/-- Behind a text both readers stand at the same place. -/
theorem place (carries : Carries source first second) (text : List Char)
    (split : first.rest = text ++ beyond) :
    (Rewriting.returns source).place (first.offset + Utf8.byteLength text)
      (second.offset + Utf8.byteLength (crlf text)) := by
  rcases carries.whole with ⟨front, whole, offset, offsetThere⟩
  refine ⟨front ++ text, beyond, ?_, ?_, ?_⟩
  · rw [whole, split, List.append_assoc]
  · rw [offset, Utf8.byteLength_append]
  · rw [offsetThere, crlf_append, Utf8.byteLength_append]

/-- Both readers have moved past a text. -/
theorem behind (carries : Carries source first second) {text : List Char}
    (split : first.rest = text ++ after.rest)
    (restThere : afterThere.rest = crlf after.rest)
    (parallels : Parallels (.returns source) after afterThere)
    (offset : after.offset = first.offset + Utf8.byteLength text)
    (offsetThere : afterThere.offset = second.offset + Utf8.byteLength (crlf text)) :
    Carries source after afterThere where
  parallels := parallels
  rest := restThere
  whole := by
    rcases carries.whole with ⟨front, whole, here, there⟩
    refine ⟨front ++ text, ?_, ?_, ?_⟩
    · rw [whole, split, List.append_assoc]
    · rw [offset, here, Utf8.byteLength_append]
    · rw [offsetThere, there, crlf_append, Utf8.byteLength_append]

/-- Each reader has moved past its text. -/
theorem passed (carries : Carries source first second) {text : List Char}
    (passes : first.Passes text after) (passesThere : second.Passes (crlf text) afterThere)
    (parallels : Parallels (.returns source) after afterThere) :
    Carries source after afterThere := by
  refine carries.behind passes.rest ?_ parallels passes.offset passesThere.offset
  have rest := carries.rest
  rw [passes.rest, crlf_append, passesThere.rest] at rest
  exact List.append_cancel_left rest

theorem unread_there (carries : Carries source first second) (unread : first.rest ≠ []) :
    second.rest ≠ [] := by
  intro nothing
  have empty := (crlf_respaced first.rest).isEmpty
  rw [← carries.rest, nothing] at empty
  exact unread (List.isEmpty_iff.mp empty.symm)

theorem columns (carries : Carries source first second) (text : List Char) :
    Column.afterText second.tabWidth second.column (crlf text) =
      Column.afterText first.tabWidth first.column text := by
  rw [Column.afterText_crlf, carries.parallels.tabWidth, carries.parallels.column]

/-! ### Pieces of strings -/

theorem readPiece [XidStart] (carries : Carries source first second) (silent : first.Silent)
    (unread : first.rest ≠ []) {quote : QuoteForm} {opened : Nat} {outer : List Frame}
    (frames : first.frames = .string quote opened :: outer) :
    Carries source first.step second.step := by
  rcases carries.parallels.string_frames frames with ⟨openedThere, outerThere, there, around⟩
  have noCut := scanPiece_of_silent silent frames unread
  have passes := readPiece_passes first quote opened outer
  have passesThere := readPiece_passes second quote openedThere outerThere
  have split := (List.take_append_drop
    ((StringText.scanPiece quote first.rest).reach quote) first.rest).symm
  rw [step_eq_readPiece frames unread, step_eq_readPiece there (carries.unread_there unread)]
  by_cases text : ∃ reach, StringText.scanPiece quote first.rest = .text reach
  · rcases text with ⟨reach, found⟩
    have foundThere := StringText.scanPiece_crlf_text found
    rw [← carries.rest] at foundThere
    have taken : second.rest.take (crlf (first.rest.take reach)).length =
        crlf (first.rest.take reach) := by
      rw [carries.rest]
      exact (crlf_take_drop reach first.rest).1
    rw [found] at passes split
    rw [foundThere] at passesThere
    have moved : second.Passes (crlf (first.rest.take reach))
        (second.readPiece quote openedThere outerThere) := taken ▸ passesThere
    refine carries.passed passes moved (carries.parallels.readText found foundThere ?_ ?_ ?_)
    · show withReturns _ = _
      unfold withReturns
      rw [String.toList_ofList, taken]
    · rw [taken]
      exact carries.columns _
    · rw [taken]
      exact carries.place _ split
  · have noText : ∀ reach, StringText.scanPiece quote first.rest ≠ .text reach :=
      fun reach found => text ⟨reach, found⟩
    rcases StringText.scanPiece_crlf noText noCut with ⟨same, unbroken⟩
    rw [← carries.rest] at same
    have kept : ∀ count ≤ (StringText.scanPiece quote first.rest).reach quote,
        crlf (first.rest.take count) = first.rest.take count := by
      intro count within
      have part := unbroken.take count
      rw [List.take_take, Nat.min_eq_left within] at part
      exact part.crlf_eq
    have taken : ∀ count ≤ (StringText.scanPiece quote first.rest).reach quote,
        second.rest.take count = first.rest.take count := by
      intro count within
      have inside := Nat.le_trans within (StringText.reach_scanPiece_le quote first.rest)
      have front := (crlf_take_drop count first.rest).1
      rw [kept count within, List.length_take_of_le inside] at front
      rw [carries.rest, front]
    have whole := Nat.le_refl ((StringText.scanPiece quote first.rest).reach quote)
    rw [same, taken _ whole, ← kept _ whole] at passesThere
    refine carries.passed passes passesThere (carries.parallels.readPiece opened openedThere
      around same taken (fun reach found => ?_) fun count within => ?_)
    · exact (found.elim (noText reach) (noCut reach)).elim
    · have place := carries.place _ (List.take_append_drop count first.rest).symm
      rwa [kept count within] at place

/-! ### Lexemes -/

theorem operands (carries : Carries source first second) :
    (second.lastKind?.any TokenKind.endsOperand) = first.lastKind?.any TokenKind.endsOperand :=
  carries.parallels.any_lastKind? (TokenKind.endsOperand_mapText _)

/-- A string that nothing is reported about goes on to a splice or to its marks. -/
theorem goesOn_of_silent [XidStart] (silent : first.Silent)
    (code : Frame.inString first.frames = false)
    (unread : first.rest = c :: rest) {quote : QuoteForm}
    (found : (first.lexeme c rest).lexeme = .stringOpening quote) :
    StringText.isCutOff quote ((rest.drop (first.lexeme c rest).more).drop
      (StringText.length quote (rest.drop (first.lexeme c rest).more))) = false := by
  have nonempty : first.rest ≠ [] := by
    rw [unread]
    exact List.cons_ne_nil _ _
  have spliced := (Lexeme.scan_opening found).1
  have body : first.step.rest = rest.drop (first.lexeme c rest).more ∧
      ∃ opened outer, first.step.frames = .string quote opened :: outer := by
    rw [step_eq_readLexeme code unread]
    unfold lexeme at found ⊢
    unfold readLexeme
    dsimp only
    rw [found]
    exact ⟨rfl, _, _, rfl⟩
  rcases body with ⟨body, opened, outer, frames⟩
  unfold lexeme at body ⊢
  rw [← body] at spliced ⊢
  have unreadThere : first.step.rest ≠ [] := by
    intro nothing
    rw [nothing] at spliced
    cases spliced
  have noCut := scanPiece_of_silent (silent.step nonempty) frames unreadThere
  cases splice : StringText.startsSplice first.step.rest with
  | true =>
      rw [StringText.length_of_stops (StringText.stops_of_startsSplice splice)]
      exact StringText.isCutOff_of_startsSplice splice
  | false =>
      have unclosed : StringText.closesWith quote first.step.rest = false := by
        refine Bool.eq_false_iff.mpr fun closes => ?_
        rw [StringText.hasSplice_of_closesWith closes] at spliced
        cases spliced
      have plain := StringText.scanPiece_plain unclosed splice
      refine Bool.eq_false_iff.mpr fun cutOff => ?_
      rw [if_pos cutOff] at plain
      exact noCut _ plain

/-- A token, a block comment or the marks of a string. -/
theorem readSolid [XidStart] (carries : Carries source first second) (silent : first.Silent)
    (code : Frame.inString first.frames = false) (unread : first.rest = c :: rest)
    (solid : isBlank c = false)
    (noLine : (first.lexeme c rest).lexeme ≠ .trivia .lineComment) :
    Carries source first.step second.step := by
  have codeThere := carries.parallels.inString.trans code
  have noBreak : c ≠ '\n' := by
    intro lineBreak
    rw [lineBreak, isBlank_newline] at solid
    cases solid
  have unreadThere : second.rest = c :: crlf rest := by
    rw [carries.rest, unread, crlf_cons noBreak]
  have sound : ∀ fault, (first.lexeme c rest).lexeme ≠ .faulty fault := by
    intro fault found
    rcases lexeme_cases silent code unread with ⟨trivia, other⟩ | ⟨kind, other⟩ <;>
    · rw [found] at other
      cases other
  have scanned : second.lexeme c (crlf rest) = (first.lexeme c rest).withReturns rest := by
    have again := Lexeme.scan_crlf solid noLine sound
      (fun quote found => goesOn_of_silent silent code unread found)
    unfold lexeme
    rw [carries.operands]
    exact again
  have parts := crlf_take_drop (first.lexeme c rest).more rest
  have edited : c :: crlf (rest.take (first.lexeme c rest).more) =
      crlf (c :: rest.take (first.lexeme c rest).more) := (crlf_cons noBreak _).symm
  have reads : c :: (crlf rest).take (second.lexeme c (crlf rest)).more =
      crlf (c :: rest.take (first.lexeme c rest).more) := by
    rw [scanned, ← edited]
    exact congrArg (c :: ·) parts.1
  have leaves : (crlf rest).drop (second.lexeme c (crlf rest)).more =
      crlf (rest.drop (first.lexeme c rest).more) := by
    rw [scanned]
    exact parts.2
  have split : first.rest = (c :: rest.take (first.lexeme c rest).more) ++
      rest.drop (first.lexeme c rest).more := by
    rw [unread, List.cons_append, List.take_append_drop]
  have passes := readLexeme_passes unread
  have passesThere := readLexeme_passes unreadThere
  rw [reads] at passesThere
  rw [step_eq_readLexeme code unread, step_eq_readLexeme codeThere unreadThere]
  refine carries.passed passes passesThere (carries.parallels.readLexeme rfl rfl reads leaves
    (by rw [scanned]; rfl) (contains_newline_crlf _) (fun fault found => ?_) (.inr ?_)
    (carries.columns _) (carries.place _ split))
  · exact absurd found (sound fault)
  · have blind : ∀ c, isBlank c = true → (!isBlank c) = false := fun c blank => congrArg (!·) blank
    exact (crlf_respaced (rest.drop (first.lexeme c rest).more)).headIs false blind

/-! ### Line ends -/

/-- Both readers have taken the end of a line as a whole. -/
theorem brokenLine (carries : Carries source first second) (text : List Char)
    (split : first.rest = (text ++ ['\n']) ++ beyond) {gap gapThere : Array Trivia}
    (breaks : (gap.toList.any fun trivia => trivia.kind == .newline) = true)
    (breaksThere : (gapThere.toList.any fun trivia => trivia.kind == .newline) = true) :
    Carries source (first.breakLine gap (text ++ ['\n']) beyond)
      (second.breakLine gapThere (crlf (text ++ ['\n'])) (crlf beyond)) :=
  carries.behind split rfl
    (carries.parallels.breakLine breaks breaksThere beyond (crlf beyond) (carries.place _ split))
    rfl rfl

variable [XidStart]

/-- A line feed alone, for which the second reader takes two steps. -/
theorem readFeed (carries : Carries source first second)
    (code : Frame.inString first.frames = false) (unread : first.rest = '\n' :: beyond) :
    Carries source first.step second.step.step := by
  have codeThere := carries.parallels.inString.trans code
  have unreadThere : second.rest = '\r' :: ([] ++ '\n' :: crlf beyond) := by
    rw [carries.rest, unread]
    rfl
  have blank : second.lexeme '\r' ([] ++ '\n' :: crlf beyond) = ⟨.trivia .whitespace, 0⟩ :=
    Lexeme.scan_spacing (List.forall_mem_singleton.mpr (by decide +kernel)) rfl
  rcases step_step_newline codeThere unreadThere (.cons .nil (by decide)) blank with
    ⟨gap, breaks, steps⟩
  rw [steps, step_newline code unread]
  exact carries.brokenLine [] unread rfl breaks

/-- Trivia at the end of its line, with the line feed behind it. -/
theorem readLast (carries : Carries source first second)
    (code : Frame.inString first.frames = false) {run further : List Char}
    (unread : first.rest = c :: (run ++ '\n' :: further)) (unbroken : Unbroken (c :: run))
    {kind : TriviaKind}
    (found : first.lexeme c (run ++ '\n' :: further) = ⟨.trivia kind, run.length⟩)
    (foundThere : second.lexeme c ((run ++ ['\r']) ++ '\n' :: crlf further) =
      ⟨.trivia kind, (run ++ ['\r']).length⟩) :
    Carries source first.step.step second.step.step := by
  have codeThere := carries.parallels.inString.trans code
  have edited : crlf ((c :: run) ++ ['\n']) = (c :: (run ++ ['\r'])) ++ ['\n'] := by
    rw [crlf_append, unbroken.crlf_eq]
    simp [crlf]
  have whole : first.rest = ((c :: run) ++ ['\n']) ++ further := by
    simp [unread]
  have unreadThere : second.rest = c :: ((run ++ ['\r']) ++ '\n' :: crlf further) := by
    rw [carries.rest, whole, crlf_append, edited]
    simp
  have unbrokenThere : Unbroken (c :: (run ++ ['\r'])) :=
    unbroken.append (.cons .nil (by decide))
  rcases step_step_newline code unread unbroken found with ⟨gap, breaks, steps⟩
  rcases step_step_newline codeThere unreadThere unbrokenThere foundThere with
    ⟨gapThere, breaksThere, stepsThere⟩
  rw [steps, stepsThere, ← edited]
  exact carries.brokenLine (c :: run) whole breaks breaksThere

/-- Trivia in front of something else on its line. -/
theorem readWithin (carries : Carries source first second)
    (code : Frame.inString first.frames = false) {run : List Char}
    (unread : first.rest = c :: (run ++ beyond)) (unbroken : Unbroken (c :: run))
    {kind : TriviaKind}
    (found : first.lexeme c (run ++ beyond) = ⟨.trivia kind, run.length⟩)
    (foundThere : second.lexeme c (run ++ crlf beyond) = ⟨.trivia kind, run.length⟩) :
    Carries source first.step second.step := by
  have codeThere := carries.parallels.inString.trans code
  have kept : crlf (c :: run) = c :: run := unbroken.crlf_eq
  have unreadThere : second.rest = c :: (run ++ crlf beyond) := by
    rw [carries.rest, unread, ← List.cons_append, crlf_append, kept]
    rfl
  have passes := readLexeme_passes unread
  have passesThere := readLexeme_passes unreadThere
  have columns := carries.columns (c :: run)
  have place := carries.place (c :: run) unread
  rw [found, List.take_left] at passes
  rw [foundThere, List.take_left, ← kept] at passesThere
  rw [kept] at columns place
  rw [step_eq_readLexeme code unread, step_eq_readLexeme codeThere unreadThere]
  exact carries.passed passes passesThere (carries.parallels.readLexeme
    (by rw [found, List.take_left]) (by rw [found, List.drop_left])
    (by rw [foundThere, List.take_left]) (by rw [foundThere, List.drop_left])
    (by rw [found, foundThere]; rfl) rfl (fun _ _ => rfl) (.inl ⟨kind, by rw [found]⟩) columns
    place)

/-- Trivia within a line, with the line feed behind it if there is one. -/
theorem readInline (carries : Carries source first second)
    (code : Frame.inString first.frames = false) (unread : first.rest = c :: rest)
    {kind : TriviaKind} (found : (first.lexeme c rest).lexeme = .trivia kind)
    (noBreak : kind ≠ .newline) (noBlock : kind ≠ .blockComment) :
    Carries source first.step second.step ∨
      Carries source first.step.step second.step.step := by
  rcases Lexeme.scan_inline found noBreak noBlock with ⟨test, takes, stops, noFeed, again⟩
  rcases exists_append (runLength_le test rest) with ⟨run, beyond, rfl, measured⟩
  rcases all_of_runLength_append measured.symm with ⟨each, ends⟩
  have unbroken : Unbroken (c :: run) := by
    refine .cons (fun d member lineBreak => ?_) noFeed
    rw [← lineBreak, each d member] at stops
    cases stops
  have scanned : first.lexeme c (run ++ beyond) = ⟨.trivia kind, run.length⟩ := by
    have here := again _ ((Respaced.refl (run ++ beyond)).sameWord fun _ blank => blank)
    rwa [← measured] at here
  have keptRun : crlf run = run := by
    have kept := unbroken.crlf_eq
    rw [crlf_cons noFeed] at kept
    exact (List.cons.inj kept).2
  have scannedThere : second.lexeme c (run ++ crlf beyond) =
      ⟨.trivia kind, runLength test (run ++ crlf beyond)⟩ := by
    have there := again _ (crlf_sameWord (run ++ beyond))
    rw [crlf_append, keptRun] at there
    unfold lexeme
    rw [carries.operands, there]
  by_cases lineEnds : ∃ further, beyond = '\n' :: further
  · rcases lineEnds with ⟨further, rfl⟩
    have split : run ++ crlf ('\n' :: further) = (run ++ ['\r']) ++ '\n' :: crlf further := by
      simp [crlf_newline]
    have measuredThere : runLength test ((run ++ ['\r']) ++ '\n' :: crlf further) =
        (run ++ ['\r']).length :=
      runLength_append
        (List.forall_mem_append.mpr ⟨each, List.forall_mem_singleton.mpr takes⟩) stops
    rw [split, measuredThere] at scannedThere
    exact .inr (carries.readLast code unread unbroken scanned scannedThere)
  · have endsThere : headIs test (crlf beyond) = false := by
      cases beyond with
      | nil => rfl
      | cons d further =>
          have inLine : d ≠ '\n' := fun lineBreak => lineEnds ⟨further, by rw [lineBreak]⟩
          rw [crlf_cons inLine]
          exact ends
    rw [runLength_append each endsThere] at scannedThere
    exact .inl (carries.readWithin code unread unbroken scanned scannedThere)

/-! ### Runs -/

/-- One or two steps further on the readers are side by side again. -/
theorem round (carries : Carries source first second) (silent : first.Silent)
    (unread : first.rest ≠ []) :
    ∃ after afterThere, after.run = first.run ∧ after.remaining < first.remaining ∧
      afterThere.run = second.run ∧ Carries source after afterThere := by
  have nearer := remaining_step_lt first unread
  have runs := run_step first
  have runsThere := run_step second
  have runsTwice := (run_step second.step).trans runsThere
  cases code : Frame.inString first.frames with
  | true =>
      rcases Frame.exists_of_inString code with ⟨quote, opened, outer, frames⟩
      exact ⟨_, _, runs, nearer, runsThere, carries.readPiece silent unread frames⟩
  | false =>
      rcases List.exists_cons_of_ne_nil unread with ⟨c, rest, split⟩
      by_cases solid : isBlank c = false ∧
          (first.lexeme c rest).lexeme ≠ .trivia .lineComment
      · exact ⟨_, _, runs, nearer, runsThere,
          carries.readSolid silent code split solid.1 solid.2⟩
      · by_cases lineBreak : c = '\n'
        · subst lineBreak
          exact ⟨_, _, runs, nearer, runsTwice, carries.readFeed code split⟩
        · have inline : ∃ kind, (first.lexeme c rest).lexeme = .trivia kind ∧
              kind ≠ .newline ∧ kind ≠ .blockComment := by
            cases blank : isBlank c with
            | true =>
                refine ⟨.whitespace, ?_, nofun, nofun⟩
                unfold lexeme
                rw [Lexeme.scan_blank _ _ lineBreak blank]
            | false =>
                refine ⟨.lineComment, ?_, nofun, nofun⟩
                exact Classical.not_not.mp fun noLine => solid ⟨blank, noLine⟩
          rcases inline with ⟨kind, found, noBreak, noBlock⟩
          rcases carries.readInline code split found noBreak noBlock with once | twice
          · exact ⟨_, _, runs, nearer, runsThere, once⟩
          · exact ⟨_, _, (run_step first.step).trans runs,
              Nat.lt_of_le_of_lt (remaining_step_le first.step) nearer, runsTwice, twice⟩

/-- By induction on what remains to be done. -/
theorem run (carries : Carries source first second) (silent : first.Silent) :
    Parallels (.returns source) first.run second.run := by
  induction measured : first.remaining using Nat.strongRecOn generalizing first second with
  | ind bound inductionHypothesis =>
      by_cases read : first.rest = []
      · have readThere : second.rest = [] := by
          rw [carries.rest, read]
          rfl
        rw [run_of_read read, run_of_read readThere]
        exact carries.parallels
      · rcases carries.round silent read with ⟨after, afterThere, runs, nearer, runsThere, behind⟩
        have silentBehind : after.Silent := by
          unfold Silent
          rw [runs]
          exact silent
        rw [← runs, ← runsThere]
        exact inductionHypothesis _ (by omega) behind silentBehind rfl

end Carries
end Reader

/-! ## Sources -/

/-- A source in which nothing is at fault is read alongside the source with carriage
returns. -/
theorem lex_withReturns_parallels [XidStart] {source : String} {tabWidth : Nat}
    (sound : (lex source tabWidth).diagnostics = []) :
    (lex source tabWidth).Parallels (.returns source.toList)
      (lex (withReturns source) tabWidth) := by
  unfold lex withReturns
  rw [String.toList_ofList]
  have origin : (Rewriting.returns source.toList).place 0 0 :=
    ⟨[], source.toList, rfl, rfl, rfl⟩
  have started : Reader.Carries source.toList (.start tabWidth source.toList)
      (.start tabWidth (crlf source.toList)) :=
    ⟨.start origin tabWidth _ _, rfl, [], rfl, rfl, rfl⟩
  exact (started.run sound).finish

end Offside
