import Offside.Proofs.Parsing.Course

namespace Offside

/-!
# What takes a token

Whether a rule that is done has taken a token can mostly be read off its form: a rule
that takes one on each of its ways takes one.  The same goes for the ways on which a rule
leaves the loop around it, and for whether there are such ways at all.

A token at the end of the source cannot be taken without leaving a stain.  So what takes
a token cannot be done at the end, as long as the parse goes well.
-/

/-- Whether a nonterminal always takes a token.  A run of items may be empty where
something else ends it. -/
def Nonterminal.takes : Nonterminal → Bool
  | items place => place = .bare
  | _ => true

namespace Rule

/-- Whether the rule never leaves the loop around it. -/
def stays : Rule → Bool
  | seq first second | choose _ first second | settle _ first second =>
    first.stays && second.stays
  | node _ _ rule | nested rule | chain rule | withBraces _ rule | recover rule => rule.stays
  | leave => false
  | _ => true

/-- Whether the rule takes a token on each way on which it is done or, if that is asked
for, on which it leaves the loop around it. -/
def takes : Rule → (leaving : Bool) → Bool
  | done, leaving | become _, leaving | nameFirst _, leaving | wrap _, leaving
  | link, leaving => leaving
  | leave, leaving => !leaving
  | seq first second, false => first.takes false || second.takes false
  | seq first second, true => first.takes true && (first.takes false || second.takes true)
  | choose _ first second, leaving | settle _ first second, leaving =>
    first.takes leaving && second.takes leaving
  | call nonterminal, leaving => leaving || nonterminal.takes
  | loop rule, leaving => leaving || (rule.takes false && rule.takes true)
  | node _ _ rule, leaving | nested rule, leaving | chain rule, leaving
  | withBraces _ rule, leaving | recover rule, leaving => rule.takes leaving
  | take, _ | reject _, _ | fail _, _ | failMissing _ _, _ => true

end Rule

/-! ## The grammar -/

theorem Nonterminal.rule_takes : ∀ nonterminal : Nonterminal,
    nonterminal.takes = true → nonterminal.rule.takes false = true := by
  decide +kernel

theorem Nonterminal.rule_stays : ∀ nonterminal : Nonterminal,
    nonterminal.rule.stays = true := by
  decide +kernel

/-! ## Runs that go well -/

namespace Outcome

/-- What comes of a rule is in keeping with its form, as long as it goes well. -/
def Takes (before : Progress) (rule : Rule) : Outcome → Prop
  | next after => after.Spotless → rule.takes false = true →
    before.stream.position < after.stream.position
  | leave after => rule.stays = false ∧ (after.Spotless → rule.takes true = true →
    before.stream.position < after.stream.position)
  | failed _ _ => True

namespace Takes

variable {before middle : Progress} {rule other first second : Rule} {outcome : Outcome}

/-- Nothing more is said of a rule that takes less and stays less. -/
theorem weaken (taken : outcome.Takes middle rule)
    (same : middle.stream.position = before.stream.position)
    (takes : ∀ leaving, other.takes leaving = true → rule.takes leaving = true)
    (stays : rule.stays = false → other.stays = false) : outcome.Takes before other := by
  cases outcome with
  | next after => exact fun spotless always => same ▸ taken spotless (takes false always)
  | leave after =>
      exact ⟨stays taken.1,
        fun spotless always => same ▸ taken.2 spotless (takes true always)⟩
  | failed failure diagnostics => exact True.intro

/-- A change behind a rule that does not make up for what went wrong. -/
theorem map {change : Progress → Progress} (taken : outcome.Takes before rule)
    (changes : ∀ after, (change after).stream.position = after.stream.position ∧
      ((change after).Spotless → after.Spotless)) : (outcome.map change).Takes before rule := by
  cases outcome with
  | next after =>
      intro spotless always
      rw [(changes after).1]
      exact taken ((changes after).2 spotless) always
  | leave after =>
      refine ⟨taken.1, fun spotless always => ?_⟩
      rw [(changes after).1]
      exact taken.2 ((changes after).2 spotless) always
  | failed failure diagnostics => exact True.intro

theorem setDepth (depth : Nat) (taken : outcome.Takes before rule) :
    (outcome.map fun inner => { inner with depth := depth }).Takes before rule :=
  taken.map fun _ => ⟨rfl, fun spotless => ⟨spotless.silent, spotless.inside⟩⟩

/-- One rule behind another one takes a token if either of them does. -/
theorem andThen {rest : Progress → Outcome} (courses : outcome.Courses before)
    (once : outcome.Takes before first)
    (further : ∀ middle, before.Course middle →
      (rest middle).Courses middle ∧ (rest middle).Takes middle second) :
    (outcome.andThen rest).Takes before (.seq first second) := by
  cases outcome with
  | next middle =>
      have forward := courses.position
      have twice := further middle courses
      show (rest middle).Takes before _
      cases came : rest middle with
      | next after =>
          rw [came] at twice
          have onward := twice.1.position
          intro spotless always
          rcases Bool.or_eq_true_iff.mp always with early | late
          · have := once (twice.1.spotless spotless) early
            omega
          · have := twice.2 spotless late
            omega
      | leave after =>
          rw [came] at twice
          have onward := twice.1.position
          refine ⟨?_, fun spotless always => ?_⟩
          · show (first.stays && second.stays) = false
            rw [twice.2.1, Bool.and_false]
          · rcases Bool.or_eq_true_iff.mp (Bool.and_eq_true_iff.mp always).2 with early | late
            · have := once (twice.1.spotless spotless) early
              omega
            · have := twice.2.2 spotless late
              omega
      | failed failure diagnostics => exact True.intro
  | leave after =>
      refine ⟨?_, fun spotless always => once.2 spotless (Bool.and_eq_true_iff.mp always).1⟩
      show (first.stays && second.stays) = false
      rw [once.1, Bool.false_and]
  | failed failure diagnostics => exact True.intro

/-- Where something was recovered from, the parse has not gone well. -/
theorem recover (courses : outcome.Courses before) (sound : ¬ before.stream.HasErrorToken)
    (taken : outcome.Takes before rule) :
    (before.recover outcome).Takes before (.recover rule) := by
  cases outcome with
  | next after => exact taken
  | leave after => exact taken
  | failed failure diagnostics =>
      unfold Progress.recover
      dsimp only
      split
      · exact True.intro
      · exact fun spotless => absurd spotless (Progress.not_spotless_addFaulty sound courses.2)

/-- A loop is never left from inside. -/
theorem repeatRounds_ne_leave (round : Progress → Outcome) (rounds : Nat)
    (progress after : Progress) : repeatRounds round rounds progress ≠ .leave after := by
  induction rounds generalizing progress with
  | zero => exact nofun
  | succ rounds inductionHypothesis =>
      unfold Offside.repeatRounds
      split
      · exact inductionHypothesis _
      · exact nofun
      · exact nofun

/-- A loop makes at least one round. -/
theorem repeatRounds {round : Progress → Outcome}
    (courses : ∀ progress, (round progress).Courses progress)
    (once : (round before).Takes before rule) (rounds : Nat) :
    (repeatRounds round (rounds + 1) before).Takes before (.loop rule) := by
  have begins := courses before
  unfold Offside.repeatRounds
  cases came : round before with
  | next middle =>
      rw [came] at once begins
      have ends := Courses.repeatRounds courses rounds middle
      dsimp only
      cases goes : Offside.repeatRounds round rounds middle with
      | next after =>
          rw [goes] at ends
          intro spotless always
          have := once (ends.spotless spotless) (Bool.and_eq_true_iff.mp always).1
          have onward := ends.position
          omega
      | leave after => exact absurd goes (repeatRounds_ne_leave _ _ _ _)
      | failed failure diagnostics => exact True.intro
  | leave after =>
      rw [came] at once
      exact fun spotless always => once.2 spotless (Bool.and_eq_true_iff.mp always).2
  | failed failure diagnostics => exact True.intro

end Takes
end Outcome

theorem Progress.Spotless.stream_take {progress : Progress} (spotless : progress.take.Spotless) :
    progress.take.stream = progress.stream.moveTo (progress.stream.position + 1) :=
  TokenStream.advance_eq_moveTo spotless.not_atEnd

theorem Progress.Course.not_hasErrorToken {before after : Progress}
    (course : before.Course after) (sound : ¬ before.stream.HasErrorToken) :
    ¬ after.stream.HasErrorToken := by
  rw [course.stream]
  exact sound

/-- By induction on the rule, with one case for each of its forms. -/
theorem Rule.run_takes {call : Surroundings → Nonterminal → Progress → Outcome}
    (courses : ∀ surroundings nonterminal progress,
      (call surroundings nonterminal progress).Courses progress)
    (calls : ∀ surroundings nonterminal progress, ¬ progress.stream.HasErrorToken →
      (call surroundings nonterminal progress).Takes progress (.call nonterminal))
    (rule : Rule) (surroundings : Surroundings) {progress : Progress}
    (sound : ¬ progress.stream.HasErrorToken) :
    (rule.run call surroundings progress).Takes progress rule := by
  induction rule generalizing surroundings progress with
  | done => exact fun _ always => by cases always
  | seq first second one two =>
      refine .andThen (Rule.run_courses courses first surroundings progress)
        (one surroundings sound) fun middle course => ?_
      exact ⟨Rule.run_courses courses second surroundings middle,
        two surroundings (course.not_hasErrorToken sound)⟩
  | take =>
      intro spotless _
      rw [spotless.stream_take]
      exact Nat.lt_succ_self _
  | call nonterminal => exact calls surroundings nonterminal progress sound
  | node part kind rule inductionHypothesis =>
      have inside : (rule.run call surroundings (progress.openNode kind)).Takes
          (progress.openNode kind) rule := inductionHypothesis surroundings sound
      have outside : (rule.run call surroundings (progress.openNode kind)).Takes progress
          (.node part kind rule) := inside.weaken rfl (fun _ => id) id
      exact outside.map fun _ => ⟨rfl, Progress.Spotless.of_closeNode⟩
  | become kind => exact fun _ always => by cases always
  | nameFirst part => exact fun _ always => by cases always
  | wrap kind => exact fun _ always => by cases always
  | choose condition yes no whenHeld otherwise =>
      unfold run
      split
      · exact (whenHeld surroundings sound).weaken rfl
          (fun _ always => (Bool.and_eq_true_iff.mp always).1)
          fun stays => Bool.and_eq_false_iff.mpr (.inl stays)
      · exact (otherwise surroundings sound).weaken rfl
          (fun _ always => (Bool.and_eq_true_iff.mp always).2)
          fun stays => Bool.and_eq_false_iff.mpr (.inr stays)
  | settle ambiguity first second either or =>
      have settled := Progress.Course.settle surroundings.session progress ambiguity
      have same := Progress.stream_settle surroundings.session progress ambiguity
      unfold run
      dsimp only
      split
      · exact (either surroundings (settled.not_hasErrorToken sound)).weaken (by rw [same])
          (fun _ always => (Bool.and_eq_true_iff.mp always).1)
          fun stays => Bool.and_eq_false_iff.mpr (.inl stays)
      · exact (or surroundings (settled.not_hasErrorToken sound)).weaken (by rw [same])
          (fun _ always => (Bool.and_eq_true_iff.mp always).2)
          fun stays => Bool.and_eq_false_iff.mpr (.inr stays)
  | loop rule inductionHypothesis =>
      exact .repeatRounds (Rule.run_courses courses rule surroundings)
        (inductionHypothesis surroundings sound) _
  | leave => exact ⟨rfl, fun _ always => by cases always⟩
  | nested rule inductionHypothesis =>
      unfold run Progress.charge
      dsimp only
      split
      · exact True.intro
      · have inside : (rule.run call surroundings
            { progress with depth := progress.depth + 1 }).Takes
            { progress with depth := progress.depth + 1 } rule :=
          inductionHypothesis surroundings sound
        exact (inside.setDepth progress.depth).weaken rfl (fun _ => id) id
  | chain rule inductionHypothesis =>
      exact ((inductionHypothesis surroundings sound).setDepth progress.depth).weaken rfl
        (fun _ => id) id
  | link =>
      unfold run Progress.charge
      split
      · exact True.intro
      · exact fun _ always => by cases always
  | withBraces allowed rule inductionHypothesis =>
      exact (inductionHypothesis { surroundings with bracesAllowed := allowed } sound).weaken
        rfl (fun _ => id) id
  | recover rule inductionHypothesis =>
      exact .recover (Rule.run_courses courses rule surroundings progress) sound
        (inductionHypothesis surroundings sound)
  | reject expected =>
      exact fun spotless => absurd spotless
        (Progress.not_spotless_addFaulty sound (progress.unexpected_courses expected).2)
  | fail expected => exact True.intro
  | failMissing kind part => exact True.intro

/-- By induction on the number of nonterminals that may be open. -/
theorem Nonterminal.run_takes (depth : Nat) (surroundings : Surroundings)
    (nonterminal : Nonterminal) {progress : Progress}
    (sound : ¬ progress.stream.HasErrorToken) :
    (Nonterminal.run depth surroundings nonterminal progress).Takes progress
      (.call nonterminal) := by
  induction depth generalizing surroundings nonterminal progress with
  | zero => exact True.intro
  | succ depth inductionHypothesis =>
      have taken := Rule.run_takes (Nonterminal.run_courses depth)
        (fun surroundings nonterminal _ => inductionHypothesis surroundings nonterminal)
        nonterminal.rule surroundings sound
      show (nonterminal.rule.run _ surroundings progress).Takes progress _
      cases came : nonterminal.rule.run (Nonterminal.run depth) surroundings progress with
      | next after =>
          rw [came] at taken
          exact fun spotless always => taken spotless (nonterminal.rule_takes always)
      | leave after =>
          rw [came] at taken
          exact absurd (taken.1.symm.trans nonterminal.rule_stays) nofun
      | failed failure diagnostics => exact True.intro

/-- What comes of a rule of the grammar, whatever it calls. -/
theorem Rule.run_takes_nonterminals (rule : Rule) (depth : Nat) (surroundings : Surroundings)
    {progress : Progress} (sound : ¬ progress.stream.HasErrorToken) :
    (rule.run (Nonterminal.run depth) surroundings progress).Takes progress rule :=
  Rule.run_takes (Nonterminal.run_courses depth)
    (fun surroundings nonterminal _ => Nonterminal.run_takes depth surroundings nonterminal)
    rule surroundings sound

end Offside
