import Offside.Parsed
import Offside.Proofs.Parsing.Recovery
import Offside.Proofs.Tree.Places

namespace Offside

/-!
# A parse that goes well

A parse goes well as long as it reports nothing and does not take the mark at the end of
its source.  It never takes a report back and never drops a token, so a parse that has
gone well in the end has gone well all along.

That is true of every rule whatsoever, whether the grammar has it or not.
-/

namespace Progress

/-- Nothing has been reported, and what has been taken stood before the end. -/
structure Spotless (progress : Progress) : Prop where
  silent : progress.diagnostics = #[]
  inside : ∀ token ∈ progress.builder.tokens, token.kind ≠ .endOfFile

/-- A parse went from one point to another one. -/
structure Course (before after : Progress) : Prop where
  stream : after.stream = before.stream.moveTo after.stream.position
  position : before.stream.position ≤ after.stream.position
  bounded : before.stream.position ≤ before.stream.body.size →
    after.stream.position ≤ before.stream.body.size
  /-- Reports are never taken back. -/
  silent : after.diagnostics = #[] → before.diagnostics = #[]
  /-- Tokens are never dropped. -/
  tokens : ∀ token ∈ before.builder.tokens, token ∈ after.builder.tokens

variable {before middle after inner progress : Progress}

/-! ## Tokens of the node under construction -/

theorem tokens_closeNode (outer : Builder) (part : Option FieldName) :
    (inner.closeNode outer part).builder.tokens = outer.tokens ++ inner.builder.tokens := by
  rw [← inner.builder.tokens_finish, ← Builder.tokens_push]
  cases part with
  | none => rfl
  | some part =>
      exact congrArg (fun children : Array Element => Element.tokens children.toList)
        (Builder.children_pushField outer part inner.builder.finish)

theorem tokens_wrap (kind : NodeKind) :
    (progress.wrap kind).builder.tokens = progress.builder.tokens := by
  show ((Builder.new progress.builder.kind).push
    ({ progress.builder with kind := kind } : Builder).finish).tokens = _
  rw [Builder.tokens_push, Builder.tokens_finish]
  show Element.tokens [] ++ _ = _
  rw [Element.tokens_nil, List.nil_append]
  rfl

theorem mem_tokens_take {token : Token} : token ∈ progress.take.builder.tokens ↔
    token ∈ progress.builder.tokens ∨ token = progress.stream.current := by
  show token ∈ (progress.builder.pushToken progress.stream.current).tokens ↔ _
  rw [Builder.tokens_pushToken, List.mem_append, List.mem_singleton]

/-- What was built inside of a node has gone well if the node has. -/
theorem Spotless.of_closeNode {outer : Builder} {part : Option FieldName}
    (spotless : (inner.closeNode outer part).Spotless) : inner.Spotless := by
  refine ⟨spotless.silent, fun token member => spotless.inside token ?_⟩
  rw [tokens_closeNode]
  exact List.mem_append_right _ member

/-- A token that is taken at the end of the source is the mark at the end. -/
theorem Spotless.not_atEnd (spotless : progress.take.Spotless) :
    progress.stream.atEnd = false := by
  cases atEnd : progress.stream.atEnd with
  | false => rfl
  | true =>
      exact absurd (beq_iff_eq.mp atEnd)
        (spotless.inside progress.stream.current (mem_tokens_take.mpr (.inr rfl)))

theorem stream_settle (session : Session) (progress : Progress) (ambiguity : Ambiguity) :
    (progress.settle session ambiguity).2.stream = progress.stream := by
  unfold Progress.settle
  split
  · rfl
  · dsimp only
    split
    · rfl
    · rfl

namespace Course

/-! ## Steps of a parse -/

theorem spotless (course : before.Course after) (spotless : after.Spotless) :
    before.Spotless :=
  ⟨course.silent spotless.silent,
    fun token member => spotless.inside token (course.tokens token member)⟩

theorem of_same (stream : after.stream = before.stream)
    (silent : after.diagnostics = #[] → before.diagnostics = #[])
    (tokens : after.builder.tokens = before.builder.tokens) : before.Course after where
  stream := by rw [stream, TokenStream.moveTo_self]
  position := Nat.le_of_eq (congrArg TokenStream.position stream.symm)
  bounded := fun inside => by rwa [stream]
  silent := silent
  tokens := fun token member => by rwa [tokens]

theorem refl (progress : Progress) : progress.Course progress := .of_same rfl id rfl

theorem trans (first : before.Course middle) (second : middle.Course after) :
    before.Course after where
  stream := by
    have moved := second.stream
    rw [first.stream, TokenStream.moveTo_moveTo] at moved
    exact moved
  position := Nat.le_trans first.position second.position
  bounded := by
    have bounded := second.bounded
    rw [first.stream, TokenStream.body_moveTo, TokenStream.position_moveTo] at bounded
    exact fun inside => bounded (first.bounded inside)
  silent := fun silent => first.silent (second.silent silent)
  tokens := fun token member => second.tokens token (first.tokens token member)

theorem take (progress : Progress) : progress.Course progress.take := by
  cases atEnd : progress.stream.atEnd with
  | true =>
      have stays : progress.take.stream = progress.stream := by
        show progress.stream.advance = progress.stream
        unfold TokenStream.advance
        exact if_pos atEnd
      refine ⟨?_, ?_, ?_, id, fun token member => mem_tokens_take.mpr (.inl member)⟩
      · rw [stays, TokenStream.moveTo_self]
      · exact Nat.le_of_eq (congrArg TokenStream.position stays.symm)
      · rw [stays]
        exact id
  | false =>
      have moved : progress.take.stream =
          progress.stream.moveTo (progress.stream.position + 1) :=
        TokenStream.advance_eq_moveTo atEnd
      refine ⟨?_, ?_, fun _ => ?_, id, fun token member => mem_tokens_take.mpr (.inl member)⟩
      · rw [moved]
        rfl
      · rw [moved]
        exact Nat.le_succ _
      · rw [moved]
        exact progress.stream.position_lt_of_not_atEnd atEnd

/-- A node is built inside and put into the node around it. -/
theorem closeNode {kind : NodeKind} (course : (progress.openNode kind).Course inner)
    (part : Option FieldName) :
    progress.Course (inner.closeNode progress.builder part) := by
  refine ⟨course.stream, course.position, course.bounded, course.silent,
    fun token member => ?_⟩
  rw [tokens_closeNode]
  exact List.mem_append_left _ member

/-- A node that was built inside is dropped. -/
theorem dropNode {kind : NodeKind} (course : (progress.openNode kind).Course inner) :
    progress.Course { inner with builder := progress.builder } :=
  ⟨course.stream, course.position, course.bounded, course.silent, fun _ member => member⟩

theorem gather (progress : Progress) (depth : Nat) :
    progress.Course (progress.gather depth) := by
  fun_induction Progress.gather progress depth with
  | case1 progress depth atEnd => exact .refl progress
  | case2 progress depth before stops => exact .refl progress
  | case3 progress depth before goesOn inductionHypothesis =>
      exact (take progress).trans inductionHypothesis

theorem takeAll (progress : Progress) : progress.Course progress.takeAll := by
  fun_induction Progress.takeAll progress with
  | case1 progress atEnd => exact .refl progress
  | case2 progress before inductionHypothesis => exact (take progress).trans inductionHypothesis

theorem addFaulty (progress : Progress) : progress.Course progress.addFaulty := by
  have gathered := gather (progress.openNode .error) 0
  unfold Progress.addFaulty
  dsimp only
  split
  · exact gathered.dropNode
  · exact gathered.closeNode none

theorem addRest (progress : Progress) : progress.Course progress.addRest := by
  have gathered := takeAll (progress.openNode .error)
  unfold Progress.addRest
  dsimp only
  split
  · exact gathered.dropNode
  · exact gathered.closeNode none

theorem skipSeparators (progress : Progress) : progress.Course progress.skipSeparators := by
  fun_induction Progress.skipSeparators progress with
  | case1 progress separator atEnd => exact .refl progress
  | case2 progress separator before inductionHypothesis =>
      exact (take progress).trans inductionHypothesis
  | case3 progress other => exact .refl progress

theorem settle (session : Session) (progress : Progress) (ambiguity : Ambiguity) :
    progress.Course (progress.settle session ambiguity).2 := by
  unfold Progress.settle
  split
  · exact .refl progress
  · dsimp only
    split
    · exact .refl progress
    · exact .of_same rfl (fun silent => absurd silent Array.push_ne_empty) rfl

/-- Starting over after a failure keeps what was reported meanwhile. -/
theorem restarted {failure : Failure} {diagnostics : Array Diagnostic}
    (reports : diagnostics = #[] → progress.diagnostics = #[]) :
    progress.Course (progress.restarted failure diagnostics) := by
  refine .of_same (stream_restarted _ _ _) (fun silent => ?_)
    (congrArg Builder.tokens (builder_restarted _ _ _))
  have nothing := diagnostics_restarted progress failure diagnostics
  rw [silent, Array.toList_empty] at nothing
  exact reports (Array.toList_eq_nil_iff.mp (List.append_eq_nil_iff.mp nothing.symm).1)

end Course

/-- What was given up is a stain, unless the lexer has complained. -/
theorem not_spotless_restarted {failure : Failure} {diagnostics : Array Diagnostic}
    (sound : ¬ progress.stream.HasErrorToken)
    (reported : failure.reported = true → progress.stream.HasErrorToken) :
    ¬ (progress.restarted failure diagnostics).Spotless := by
  intro spotless
  have unreported : failure.reported = false := by simpa using mt reported sound
  have nothing := diagnostics_restarted progress failure diagnostics
  rw [spotless.silent, unreported] at nothing
  exact absurd nothing.symm (List.append_ne_nil_of_right_ne_nil _ (List.cons_ne_nil _ _))

theorem not_spotless_addFaulty {failure : Failure} {diagnostics : Array Diagnostic}
    (sound : ¬ progress.stream.HasErrorToken)
    (reported : failure.reported = true → progress.stream.HasErrorToken) :
    ¬ (progress.restarted failure diagnostics).addFaulty.Spotless :=
  fun spotless => not_spotless_restarted sound reported ((Course.addFaulty _).spotless spotless)

end Progress

/-! ## What comes of a rule -/

namespace Outcome

/-- What comes of a rule that began at some point. -/
def Courses (before : Progress) : Outcome → Prop
  | next after | leave after => before.Course after
  | failed failure diagnostics =>
    (diagnostics = #[] → before.diagnostics = #[]) ∧
      (failure.reported = true → before.stream.HasErrorToken)

variable {before middle : Progress} {outcome : Outcome}

theorem Courses.of_course (first : before.Course middle) (second : outcome.Courses middle) :
    outcome.Courses before := by
  cases outcome with
  | next after => exact first.trans second
  | leave after => exact first.trans second
  | failed failure diagnostics =>
      refine ⟨fun silent => first.silent (second.1 silent), fun reported => ?_⟩
      have marked := second.2 reported
      rw [first.stream] at marked
      exact marked

theorem Courses.andThen {rest : Progress → Outcome} (first : outcome.Courses before)
    (second : ∀ middle, (rest middle).Courses middle) :
    (outcome.andThen rest).Courses before := by
  cases outcome with
  | next middle => exact .of_course first (second middle)
  | leave after => exact first
  | failed failure diagnostics => exact first

/-- A change behind a rule that changes nothing of what is said here. -/
theorem Courses.map {change : Progress → Progress} (courses : outcome.Courses middle)
    (stream : middle.stream = before.stream)
    (silent : middle.diagnostics = #[] → before.diagnostics = #[])
    (changes : ∀ after, middle.Course after → before.Course (change after)) :
    (outcome.map change).Courses before := by
  cases outcome with
  | next after => exact changes after courses
  | leave after => exact changes after courses
  | failed failure diagnostics =>
      exact ⟨fun nothing => silent (courses.1 nothing),
        fun reported => stream ▸ courses.2 reported⟩

theorem Courses.recover (courses : outcome.Courses before) :
    (before.recover outcome).Courses before := by
  cases outcome with
  | next after => exact courses
  | leave after => exact courses
  | failed failure diagnostics =>
      unfold Progress.recover
      dsimp only
      split
      · exact courses
      · exact (Progress.Course.restarted courses.1).trans (.addFaulty _)

theorem Courses.repeatRounds {round : Progress → Outcome}
    (each : ∀ progress, (round progress).Courses progress) (rounds : Nat)
    (progress : Progress) : (repeatRounds round rounds progress).Courses progress := by
  induction rounds generalizing progress with
  | zero => exact .refl progress
  | succ rounds inductionHypothesis =>
      have once := each progress
      unfold Offside.repeatRounds
      cases came : round progress with
      | next after =>
          rw [came] at once
          exact .of_course once (inductionHypothesis after)
      | leave after =>
          rw [came] at once
          exact once
      | failed failure diagnostics =>
          rw [came] at once
          exact once

end Outcome

theorem Progress.unexpected_courses (progress : Progress) (expected : List String) :
    (Outcome.failed (progress.unexpected expected) progress.diagnostics).Courses progress :=
  ⟨id, fun reported => TokenStream.hasErrorToken_of_kind reported⟩

theorem Progress.charge_courses (session : Session) (progress : Progress) :
    (progress.charge session).Courses progress := by
  unfold Progress.charge
  split
  · exact ⟨id, nofun⟩
  · exact .of_same rfl id rfl

/-- By induction on the rule, with one case for each of its forms. -/
theorem Rule.run_courses {call : Surroundings → Nonterminal → Progress → Outcome}
    (calls : ∀ surroundings nonterminal progress,
      (call surroundings nonterminal progress).Courses progress)
    (rule : Rule) (surroundings : Surroundings) (progress : Progress) :
    (rule.run call surroundings progress).Courses progress := by
  induction rule generalizing surroundings progress with
  | done => exact .refl progress
  | seq first second one two => exact (one surroundings progress).andThen (two surroundings)
  | take => exact .take progress
  | call nonterminal => exact calls surroundings nonterminal progress
  | node part kind rule inductionHypothesis =>
      exact (inductionHypothesis surroundings (progress.openNode kind)).map rfl id
        fun after course => course.closeNode part
  | become kind => exact .of_same rfl id rfl
  | nameFirst part =>
      refine .of_same rfl id ?_
      exact congrArg (fun children : Array Element => Element.tokens children.toList)
        (Builder.children_attach _ _ _)
  | wrap kind => exact .of_same rfl id (Progress.tokens_wrap kind)
  | choose condition yes no whenHeld otherwise =>
      unfold run
      split
      · exact whenHeld surroundings progress
      · exact otherwise surroundings progress
  | settle ambiguity first second either or =>
      have settled := Progress.Course.settle surroundings.session progress ambiguity
      unfold run
      dsimp only
      split
      · exact .of_course settled (either surroundings _)
      · exact .of_course settled (or surroundings _)
  | loop rule inductionHypothesis =>
      exact .repeatRounds (inductionHypothesis surroundings) _ progress
  | leave => exact .refl progress
  | nested rule inductionHypothesis =>
      refine ((Progress.charge_courses surroundings.session progress).andThen
        (inductionHypothesis surroundings)).map rfl id fun after course => ?_
      exact course.trans (.of_same rfl id rfl)
  | chain rule inductionHypothesis =>
      exact (inductionHypothesis surroundings progress).map rfl id fun after course =>
        course.trans (.of_same rfl id rfl)
  | link => exact Progress.charge_courses surroundings.session progress
  | withBraces allowed rule inductionHypothesis => exact inductionHypothesis _ progress
  | recover rule inductionHypothesis => exact (inductionHypothesis surroundings progress).recover
  | reject expected => exact (Progress.Course.restarted id).trans (.addFaulty _)
  | fail expected => exact progress.unexpected_courses expected
  | failMissing kind part => exact progress.unexpected_courses []

theorem Nonterminal.run_courses (depth : Nat) (surroundings : Surroundings)
    (nonterminal : Nonterminal) (progress : Progress) :
    (Nonterminal.run depth surroundings nonterminal progress).Courses progress := by
  induction depth generalizing surroundings nonterminal progress with
  | zero => exact ⟨id, nofun⟩
  | succ depth inductionHypothesis =>
      exact Rule.run_courses inductionHypothesis nonterminal.rule surroundings progress

end Offside
