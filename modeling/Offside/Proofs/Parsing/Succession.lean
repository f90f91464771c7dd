import Offside.Proofs.Grammar.Prefix
import Offside.Proofs.Parsing.Lossless
import Offside.Proofs.Parsing.Resumption

namespace Offside

/-!
# Definitions of two sources in a row

The definitions of a source that is in order are read alike when another source follows.
A parse of both sources comes to the end of the first one as a parse of that source does,
and goes on from there as a parse of the second source begins.
-/

open TokenStream (Continues Reappears)

namespace Progress

variable {stream other : TokenStream} {session sessionThere : Session}
  {before after progress : Progress}

/-! ## Rounds on the outermost level -/

/-- Separators are skipped up to something else. -/
theorem not_separator_skipSeparators (progress : Progress) :
    progress.skipSeparators.stream.kind.isSeparator = false ∨
      progress.skipSeparators.stream.atEnd = true := by
  fun_induction Progress.skipSeparators progress with
  | case1 progress separator atEnd => exact .inr atEnd
  | case2 progress separator inside inductionHypothesis => exact inductionHypothesis
  | case3 progress other => exact .inl (by simpa using other)

theorem definitions_succ (session : Session) (count : Nat) (progress : Progress) :
    progress.definitions session (count + 1) =
      if progress.skipSeparators.stream.atEnd then progress.skipSeparators
      else
        match progress.skipSeparators.definition session with
        | .next done | .leave done => done.definitions session count
        | .failed failure diagnostics =>
          (progress.skipSeparators.restarted failure diagnostics).addRest := rfl

/-- A round begins behind the separators. -/
theorem definitions_of_skipSeparators {first second : Progress} (count : Nat)
    (same : first.skipSeparators = second.skipSeparators) :
    first.definitions session (count + 1) = second.definitions session (count + 1) := by
  rw [definitions_succ, definitions_succ, same]

theorem definition_courses (session : Session) (progress : Progress) :
    (progress.definition session).Courses progress := by
  unfold definition
  split
  · exact Outcome.Courses.recover (Nonterminal.run_courses _ _ _ _)
  · exact (Course.restarted id).trans (.addFaulty _)

/-- By induction on the number of rounds. -/
theorem definitions_course (session : Session) (count : Nat) (progress : Progress) :
    progress.Course (progress.definitions session count) := by
  induction count generalizing progress with
  | zero => exact .refl progress
  | succ count inductionHypothesis =>
      have skipped := Course.skipSeparators progress
      rw [definitions_succ]
      split
      · exact skipped
      · have once := definition_courses session progress.skipSeparators
        generalize progress.skipSeparators.definition session = outcome at once ⊢
        cases outcome with
        | next done => exact skipped.trans (once.trans (inductionHypothesis done))
        | leave done => exact skipped.trans (once.trans (inductionHypothesis done))
        | failed failure diagnostics =>
            exact skipped.trans ((Course.restarted once.1).trans (.addRest _))

/-- What is read goes well only if it is a definition. -/
theorem definition_cases (session : Session) (sound : ¬ progress.stream.HasErrorToken) :
    (∃ done, progress.definition session = .next done ∧
      progress.stream.definitionStartsAt 0 = true ∧
      Nonterminal.derive ⟨session, true⟩ .definition progress = .next done) ∨
    (∃ done, progress.definition session = .next done ∧ ¬ done.Spotless) ∨
    ∃ failure diagnostics, progress.definition session = .failed failure diagnostics ∧
      ¬ (progress.restarted failure diagnostics).Spotless := by
  have courses : (Nonterminal.derive ⟨session, true⟩ .definition progress).Courses progress :=
    Nonterminal.run_courses _ _ _ _
  have taken : (Nonterminal.derive ⟨session, true⟩ .definition progress).Takes progress
    (.call .definition) := Nonterminal.run_takes _ _ _ sound
  unfold definition
  split
  · rename_i starts
    cases came : Nonterminal.derive ⟨session, true⟩ .definition progress with
    | next done => exact .inl ⟨done, rfl, starts, rfl⟩
    | leave done =>
        rw [came] at taken
        exact absurd taken.1 nofun
    | failed failure diagnostics =>
        rw [came] at courses
        unfold recover
        dsimp only
        split
        · exact .inr (.inr ⟨failure, diagnostics, rfl,
            not_spotless_restarted sound courses.2⟩)
        · exact .inr (.inl ⟨_, rfl, not_spotless_addFaulty sound courses.2⟩)
  · exact .inr (.inl ⟨_, rfl,
      not_spotless_addFaulty sound (progress.unexpected_courses _).2⟩)

/-- A round that goes well reads a definition, unless the source ends. -/
theorem definitions_cases {count : Nat} (sound : ¬ progress.stream.HasErrorToken)
    (spotless : (progress.definitions session (count + 1)).Spotless) :
    (progress.skipSeparators.stream.atEnd = true ∧
      progress.definitions session (count + 1) = progress.skipSeparators) ∨
    ∃ done, progress.skipSeparators.stream.atEnd = false ∧
      progress.skipSeparators.stream.definitionStartsAt 0 = true ∧
      Nonterminal.derive ⟨session, true⟩ .definition progress.skipSeparators = .next done ∧
      progress.definitions session (count + 1) = done.definitions session count := by
  have soundThere : ¬ progress.skipSeparators.stream.HasErrorToken := by
    rw [(Course.skipSeparators progress).stream]
    exact sound
  cases atEnd : progress.skipSeparators.stream.atEnd with
  | true =>
      rw [definitions_succ, atEnd]
      exact .inl ⟨rfl, rfl⟩
  | false =>
      rw [definitions_succ, atEnd, if_neg Bool.false_ne_true] at spotless ⊢
      rcases definition_cases session soundThere with
        ⟨done, same, starts, derived⟩ | ⟨done, same, stained⟩ |
          ⟨failure, diagnostics, same, stained⟩
      · rw [same]
        exact .inr ⟨done, rfl, starts, derived, rfl⟩
      · rw [same] at spotless
        exact absurd ((definitions_course session count done).spotless spotless) stained
      · rw [same] at spotless
        exact absurd ((Course.addRest _).spotless spotless) stained

/-- More rounds than tokens make no difference. -/
theorem definitions_eq_of_enough {count countThere : Nat} (progress : Progress)
    (enough : progress.stream.left.length < count) (more : count ≤ countThere) :
    progress.definitions session countThere = progress.definitions session count := by
  induction count generalizing progress countThere with
  | zero => omega
  | succ count inductionHypothesis =>
      obtain ⟨left, rfl⟩ : ∃ left, countThere = left + 1 := ⟨countThere - 1, by omega⟩
      have fewer := (skipSeparators_reaches session progress []).left_le
      rw [definitions_succ, definitions_succ]
      split
      · rfl
      · rename_i goesOn
        have inside : progress.skipSeparators.stream.atEnd = false := by simpa using goesOn
        have meets := definition_meets session _ inside []
        cases came : progress.skipSeparators.definition session with
        | next done =>
            rw [came] at meets
            rcases meets with ⟨held, opened, step, read, same, less⟩
            exact inductionHypothesis done (by omega) (by omega)
        | leave done =>
            rw [came] at meets
            rcases meets with ⟨held, opened, step, read, impossible⟩
            cases impossible
        | failed failure diagnostics => rfl

/-! ## The end of a source in order -/

/-- The last token that has been taken is not one behind which something has to follow. -/
def Settled (progress : Progress) : Prop :=
  0 < progress.stream.position →
    (progress.stream.tokenAt (progress.stream.position - 1)).kind.dangles = false

theorem Settled.of_course (course : before.Course after)
    (settled : before.Settled)
    (ends : before.stream.position < after.stream.position →
      (before.stream.tokenAt (after.stream.position - 1)).kind.dangles = false) :
    after.Settled := by
  intro begun
  have forward := course.position
  have same : after.stream.tokenAt (after.stream.position - 1) =
      before.stream.tokenAt (after.stream.position - 1) := by
    rw [course.stream]
    rfl
  rw [same]
  rcases Nat.lt_or_eq_of_le forward with further | stayed
  · exact ends further
  · rw [← stayed] at begun ⊢
    exact settled begun

theorem Settled.skipSeparators (settled : progress.Settled) :
    progress.skipSeparators.Settled := by
  fun_induction Progress.skipSeparators progress with
  | case1 progress separator atEnd => exact settled
  | case2 progress separator before inductionHypothesis =>
      refine inductionHypothesis (settled.of_course (.take progress) fun _ => ?_)
      have moved : progress.take.stream =
          progress.stream.moveTo (progress.stream.position + 1) :=
        TokenStream.advance_eq_moveTo (by simpa using before)
      rw [moved]
      exact TokenKind.dangles_of_isSeparator separator
  | case3 progress other => exact settled

/-- By induction on the number of rounds. -/
theorem Settled.definitions (count : Nat) (sound : ¬ progress.stream.HasErrorToken)
    (settled : progress.Settled)
    (spotless : (progress.definitions session count).Spotless) :
    (progress.definitions session count).Settled := by
  induction count generalizing progress with
  | zero => exact settled
  | succ count inductionHypothesis =>
      have skipped := settled.skipSeparators
      have soundThere : ¬ progress.skipSeparators.stream.HasErrorToken := by
        rw [(Course.skipSeparators progress).stream]
        exact sound
      rcases definitions_cases sound spotless with
        ⟨_, same⟩ | ⟨done, _, _, derived, same⟩
      · rw [same]
        exact skipped
      · have courses : (Nonterminal.derive ⟨session, true⟩ .definition
            progress.skipSeparators).Courses progress.skipSeparators :=
          Nonterminal.run_courses _ _ _ _
        have ends : (Nonterminal.derive ⟨session, true⟩ .definition
            progress.skipSeparators).Ends progress.skipSeparators :=
          Nonterminal.run_ends _ _ _ soundThere
        rw [derived] at courses ends
        rw [same] at spotless ⊢
        refine inductionHypothesis ?_ ?_ spotless
        · rw [courses.stream]
          exact soundThere
        · exact skipped.of_course courses
            (ends ((definitions_course session count done).spotless spotless))

/-! ## Up to the end of the first source -/

theorem skipSeparators_onto (continues : stream.Continues other)
    (within : progress.Within stream) :
    (progress.onto other).skipSeparators = (progress.skipSeparators.onto other).skipSeparators := by
  fun_induction Progress.skipSeparators progress with
  | case1 progress separator atEnd => rfl
  | case2 progress separator goesOn inductionHypothesis =>
      have before : progress.stream.atEnd = false := by simpa using goesOn
      have there := within.continues continues
      have inside : progress.stream.position < progress.stream.body.size :=
        progress.stream.position_lt_of_not_atEnd before
      have separatorThere : (progress.onto other).stream.kind.isSeparator = true := by
        rw [there.kind_eq inside]
        exact separator
      have beforeThere : ¬ (progress.onto other).stream.atEnd = true := by
        rw [there.atEnd inside]
        exact goesOn
      rw [← inductionHypothesis (within.of_course (.take progress)),
        ← within.take continues before]
      exact (Progress.skipSeparators.eq_def (progress.onto other)).trans
        ((if_pos separatorThere).trans (dif_neg beforeThere))
  | case3 progress other => rfl

theorem skipSeparators_onto_of_inside (continues : stream.Continues other)
    (within : progress.Within stream)
    (inside : progress.skipSeparators.stream.atEnd = false) :
    (progress.onto other).skipSeparators = progress.skipSeparators.onto other := by
  have withinThere := within.of_course (.skipSeparators progress)
  have there := withinThere.continues continues
  have none : progress.skipSeparators.stream.kind.isSeparator = false := by
    rcases not_separator_skipSeparators progress with none | atEnd
    · exact none
    · rw [inside] at atEnd
      cases atEnd
  rw [skipSeparators_onto continues within, Progress.skipSeparators.eq_def
    (progress.skipSeparators.onto other), there.kind_eq
      (progress.skipSeparators.stream.position_lt_of_not_atEnd inside), none]
  rfl

/-- Definitions that are read without a report are read in the same rounds when another
source follows.  Then further rounds follow, in front of what follows.  By induction on the
number of rounds. -/
theorem definitions_onto (continues : stream.Continues other)
    (blameless : session.lexerComplained = false)
    (sameDepth : sessionThere.maxDepth = session.maxDepth) {count : Nat}
    (within : before.Within stream) (enough : stream.body.size < before.stream.position + count)
    (spotless : (before.definitions session count).Spotless) :
    ∃ rounds, rounds + before.stream.position ≤
        (before.definitions session count).stream.position ∧
      (before.definitions session count).stream.position = stream.body.size ∧
      ∀ extra, (before.onto other).definitions sessionThere (rounds + (extra + 1)) =
        ((before.definitions session count).onto other).definitions sessionThere
          (extra + 1) := by
  induction count generalizing before with
  | zero =>
      have bounded := within.bounded
      omega
  | succ count inductionHypothesis =>
      have sound := within.sound continues
      have skipped := Course.skipSeparators before
      have forward := skipped.position
      have withinThere := within.of_course skipped
      rcases definitions_cases sound spotless with
        ⟨atEnd, same⟩ | ⟨done, inside, starts, derived, same⟩
      · rw [same]
        refine ⟨0, by omega, withinThere.position_of_atEnd continues atEnd, fun extra => ?_⟩
        · rw [Nat.zero_add]
          exact definitions_of_skipSeparators extra (skipSeparators_onto continues within)
      · have there := withinThere.continues continues
        have insideThere := withinThere.inside_of_not_atEnd inside
        have here := before.skipSeparators.stream.position_lt_of_not_atEnd inside
        have courses : (Nonterminal.derive ⟨session, true⟩ .definition
            before.skipSeparators).Courses before.skipSeparators :=
          Nonterminal.run_courses _ _ _ _
        have taken : (Nonterminal.derive ⟨session, true⟩ .definition
            before.skipSeparators).Takes before.skipSeparators (.call .definition) :=
          Nonterminal.run_takes _ _ _ (withinThere.sound continues)
        rw [derived] at courses taken
        rw [same] at spotless ⊢
        have spotlessThere := (definitions_course session count done).spotless spotless
        have further := taken spotlessThere rfl
        have withinDone := withinThere.of_course courses
        have carried : Nonterminal.derive ⟨sessionThere, true⟩ .definition
            (before.skipSeparators.onto other) = .next (done.onto other) := by
          have carries := Nonterminal.run_carries continues
            (Nonterminal.perLevel * (session.maxDepth + 1)) .definition ⟨session, true⟩
            ⟨sessionThere, true⟩ before.skipSeparators done ⟨blameless, sameDepth, rfl⟩
            withinThere (.inl derived) spotlessThere (.inr (.inl ⟨insideThere, rfl⟩))
          unfold Nonterminal.derive at derived ⊢
          rw [sameDepth]
          exact carries.trans (congrArg (Outcome.onto other) derived)
        have read : (before.skipSeparators.onto other).definition sessionThere =
            .next (done.onto other) := by
          unfold Progress.definition
          rw [there.definitionStartsAt here, if_pos starts, carried]
          rfl
        rcases inductionHypothesis withinDone (by omega) spotless with
          ⟨rounds, bounded, ended, goesOn⟩
        refine ⟨rounds + 1, by omega, ended, fun extra => ?_⟩
        rw [← goesOn extra, Nat.add_right_comm, definitions_succ,
          skipSeparators_onto_of_inside continues within inside, there.atEnd here, inside,
          if_neg Bool.false_ne_true, read]

/-! ## Depth -/

theorem depth_skipSeparators (progress : Progress) :
    progress.skipSeparators.depth = progress.depth := by
  fun_induction Progress.skipSeparators progress with
  | case1 progress separator atEnd => rfl
  | case2 progress separator before inductionHypothesis => exact inductionHypothesis
  | case3 progress other => rfl

/-- What was charged for a definition is released behind it. -/
theorem depth_of_derive {done : Progress}
    (derived : Nonterminal.derive ⟨session, true⟩ .definition progress = .next done) :
    done.depth = progress.depth := by
  have unfolded : Nonterminal.derive ⟨session, true⟩ .definition progress =
      Nonterminal.run (Nonterminal.perLevel * session.maxDepth + 3 + 1) ⟨session, true⟩
        .definition progress := rfl
  rw [unfolded, Nonterminal.run_definition] at derived
  split at derived
  · cases derived
  · generalize Rule.definitionParts.run _ _ (({ progress with depth := progress.depth + 1 } :
      Progress).openNode .functionDefinition) = outcome at derived
    cases outcome with
    | next inner =>
        cases derived
        rfl
    | leave inner => cases derived
    | failed failure diagnostics => cases derived

theorem depth_definitions {count : Nat} (sound : ¬ progress.stream.HasErrorToken)
    (spotless : (progress.definitions session count).Spotless) :
    (progress.definitions session count).depth = progress.depth := by
  induction count generalizing progress with
  | zero => rfl
  | succ count inductionHypothesis =>
      rcases definitions_cases sound spotless with
        ⟨_, same⟩ | ⟨done, _, _, derived, same⟩
      · rw [same]
        exact depth_skipSeparators progress
      · have courses : (Nonterminal.derive ⟨session, true⟩ .definition
            progress.skipSeparators).Courses progress.skipSeparators :=
          Nonterminal.run_courses _ _ _ _
        have soundThere : ¬ done.stream.HasErrorToken := by
          rw [derived] at courses
          rw [courses.stream, (Course.skipSeparators progress).stream]
          exact sound
        rw [same] at spotless ⊢
        rw [inductionHypothesis soundThere spotless, depth_of_derive derived,
          depth_skipSeparators]

end Progress

/-! ## In front of the second source -/

/-- Behind the separator, if there is one, a parse begins as a parse of the second source
alone does. -/
theorem Progress.begins_behind {follower other : TokenStream} {progress : Progress}
    {position : Nat} (separated : Bool) (likeness : Likeness)
    (here : progress.stream = other.moveTo position) (depth : progress.depth = 0)
    (silent : progress.diagnostics = #[])
    (separator : separated = true → (other.tokenAt position).kind = .autoSemicolon)
    (atStart : follower.position = 0) :
    ∃ ready, progress.skipSeparators = ready.skipSeparators ∧
      (Progress.start follower .compilationUnit).TracksBehind
        (Builder.HasInFront (progress.builder.children.toList.map Element.outline ++
          if separated then [.token (.bare .autoSemicolon (.empty 0))] else []))
        follower other (position + separated.toNat) likeness ready := by
  have first : (Progress.start follower .compilationUnit).stream.position = 0 := atStart
  cases separated with
  | false =>
      refine ⟨progress, rfl, rfl, ?_, depth, ?_, ?_⟩
      · rw [first, here]
        rfl
      · show _ = progress.builder.children.toList.map Element.outline ++ [] ++ []
        rw [List.append_nil, List.append_nil]
      · rw [silent]
        exact .nil
  | true =>
      have kind : progress.stream.kind = .autoSemicolon := by
        rw [here]
        exact separator rfl
      have goesOn : progress.stream.atEnd = false := by
        show (progress.stream.kind == .endOfFile) = false
        rw [kind]
        rfl
      have isSeparator : progress.stream.kind.isSeparator = true := by
        rw [kind]
        rfl
      refine ⟨progress.take, ?_, rfl, ?_, depth, ?_, ?_⟩
      · rw [Progress.skipSeparators.eq_def progress, if_pos isSeparator,
          dif_neg (by rw [goesOn]; exact Bool.false_ne_true)]
      · show progress.stream.advance = _
        rw [TokenStream.advance_eq_moveTo goesOn, first, here]
        rfl
      · have token : progress.stream.current.outline = .bare .autoSemicolon (.empty 0) :=
          congrArg (Token.bare · (.empty 0)) kind
        show ((progress.builder.pushToken progress.stream.current).children.toList).map
          Element.outline = _ ++ [_] ++ []
        unfold Builder.pushToken
        rw [Array.toList_push, List.map_append, List.append_nil, ← token]
        rfl
      · show likeness.Reports #[] progress.diagnostics
        rw [silent]
        exact .nil

/-! ## Whole streams -/

/-- The parse of a stream up to the mark at its end. -/
def TokenStream.definitions (session : Session) (stream : TokenStream) : Progress :=
  (Progress.start stream .compilationUnit).definitions session (stream.size + 1)

namespace TokenStream

variable {stream other follower : TokenStream} {session sessionThere : Session}

theorem position_definitions (session : Session) (atStart : stream.position = 0)
    (endsOnce : stream.EndsOnce) :
    (stream.definitions session).stream.position = stream.body.size := by
  have course := Progress.definitions_course session (stream.size + 1)
    (.start stream .compilationUnit)
  have enough : (Progress.start stream .compilationUnit).stream.left.length <
      stream.size + 1 := by
    show (List.drop stream.position stream.body.toList).length < stream.body.size + 1 + 1
    rw [List.length_drop, Array.length_toList]
    omega
  rcases Progress.definitions_reaches session _ _ enough with
    ⟨held, opened, step, read, same, atEnd⟩
  have bounded : (stream.definitions session).stream.position ≤ stream.body.size := by
    refine course.bounded ?_
    show stream.position ≤ stream.body.size
    omega
  rcases Nat.lt_or_eq_of_le bounded with inside | ended
  · have goesOn := endsOnce.kind_ne inside
    rw [course.stream] at atEnd
    exact absurd (beq_iff_eq.mp atEnd) goesOn
  · exact ended

/-- A parse that reports nothing goes well up to the mark at the end. -/
theorem spotless_definitions (atStart : stream.position = 0) (endsOnce : stream.EndsOnce)
    (silent : (parseStream session stream).diagnostics = []) :
    (stream.definitions session).Spotless := by
  rcases parseStream_covers session atStart endsOnce with ⟨held, covers⟩
  have tokens := covers.root_tokens
  have taken : (parseStream session stream).root.tokens =
      (stream.definitions session).builder.tokens ++
        [(stream.definitions session).stream.current] := by
    show (Builder.finish _).tokens = _
    rw [Builder.tokens_finish]
    exact Builder.tokens_pushToken _ _
  rw [taken] at tokens
  have body := (List.append_inj' tokens rfl).1
  refine ⟨Array.toList_eq_nil_iff.mp silent, fun token member => ?_⟩
  rw [body] at member
  exact endsOnce token (Array.mem_toList_iff.mp member)

/-- Nothing has to follow the last token of a stream that is in order. -/
theorem settled_of_silent (atStart : stream.position = 0) (endsOnce : stream.EndsOnce)
    (sound : ¬ stream.HasErrorToken)
    (silent : (parseStream session stream).diagnostics = []) (position : Nat)
    (last : position + 1 = stream.body.size) :
    (stream.tokenAt position).kind.dangles = false := by
  have ended := position_definitions session atStart endsOnce
  have course := Progress.definitions_course session (stream.size + 1)
    (.start stream .compilationUnit)
  have begins : (Progress.start stream .compilationUnit).Settled := by
    intro begun
    rw [show (Progress.start stream .compilationUnit).stream.position = _ from atStart] at begun
    omega
  have settled := begins.definitions (stream.size + 1) sound
    (spotless_definitions atStart endsOnce silent)
  have shown := settled (by
    show 0 < (stream.definitions session).stream.position
    omega)
  rw [show (Progress.definitions _ _ _).stream.position = _ from ended, course.stream,
    ← last] at shown
  exact shown

/-- The definitions of two sources in a row. -/
theorem parseStream_succession (atStart : stream.position = 0)
    (continues : stream.Continues other) (blameless : session.lexerComplained = false)
    (sameDepth : sessionThere.maxDepth = session.maxDepth)
    (silent : (parseStream session stream).diagnostics = []) {separated : Bool}
    (separator : separated = true → (other.tokenAt stream.body.size).kind = .autoSemicolon)
    (starts : follower.kind.startsDefinition = true) (atStartThere : follower.position = 0)
    {distance : Nat}
    (reappears : follower.Reappears other (stream.body.size + separated.toNat)
      (.moved distance)) :
    (parseStream sessionThere other).root.children.map Element.outline =
        (parseStream session stream).root.children.dropLast.map Element.outline ++
          (if separated then [.token (.bare .autoSemicolon (.empty 0))] else []) ++
          (parseStream sessionThere follower).root.children.map Element.outline ∧
      (parseStream sessionThere other).diagnostics =
        (parseStream sessionThere follower).diagnostics.map (Diagnostic.moved distance) := by
  have ended := position_definitions session atStart continues.endsOnce
  have spotless := spotless_definitions atStart continues.endsOnce silent
  have course := Progress.definitions_course session (stream.size + 1)
    (.start stream .compilationUnit)
  have depth := Progress.depth_definitions continues.sound spotless
  have within : (Progress.start stream .compilationUnit).Within stream :=
    ⟨rfl, by show stream.position ≤ _; omega⟩
  have startsThere : (Progress.start stream .compilationUnit).onto other =
      .start other .compilationUnit := by
    unfold Progress.onto Progress.start
    dsimp only
    rw [← continues.position, TokenStream.moveTo_self]
  rcases Progress.definitions_onto continues blameless sameDepth within
      (by show _ < stream.position + (stream.body.size + 1 + 1); omega) spotless with
    ⟨rounds, bounded, _, goesOn⟩
  change rounds + stream.position ≤ (stream.definitions session).stream.position at bounded
  let met := (stream.definitions session).onto other
  have there : met.stream = other.moveTo stream.body.size := congrArg other.moveTo ended
  have nothing : met.diagnostics = #[] := spotless.silent
  rcases Progress.begins_behind separated (.moved distance) there depth nothing separator
    atStartThere with ⟨ready, skipped, tracks⟩
  obtain ⟨extra, all⟩ : ∃ extra, other.size + 1 = rounds + (extra + 1) :=
    ⟨other.size - rounds, by have := reappears.size; unfold TokenStream.size; omega⟩
  have whole : other.definitions sessionThere = ready.definitions sessionThere (extra + 1) := by
    show (Progress.start other .compilationUnit).definitions _ _ = _
    rw [← startsThere, all, goesOn extra]
    exact Progress.definitions_of_skipSeparators extra skipped
  have alone : (Progress.start follower .compilationUnit).definitions sessionThere (extra + 1) =
      follower.definitions sessionThere := by
    refine Progress.definitions_eq_of_enough _ ?_ ?_
    · show (List.drop follower.position follower.body.toList).length < follower.body.size + 1 + 1
      rw [List.length_drop, Array.length_toList]
      omega
    · have := reappears.size
      unfold TokenStream.size at all ⊢
      omega
  have grow := Builder.growAlike_hasInFront (met.builder.children.toList.map Element.outline ++
    if separated then [.token (.bare .autoSemicolon (.empty 0))] else [])
  have behind := (tracks.definitions grow reappears sessionThere (extra + 1)
    (.inr starts)).take grow reappears
  rw [alone, ← whole] at behind
  have left : (parseStream session stream).root.children.dropLast =
      met.builder.children.toList := by
    show ((stream.definitions session).builder.children.push _).toList.dropLast = _
    rw [Array.toList_push, List.dropLast_concat]
    rfl
  rw [left]
  exact ⟨behind.builders, behind.reports.eq_moved⟩

end TokenStream
end Offside
