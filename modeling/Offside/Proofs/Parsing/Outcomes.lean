import Offside.Proofs.Parsing.Gathering
import Offside.Proofs.Parsing.Succession
import Offside.Proofs.Tree.Order

namespace Offside

/-!
# What holds of every outcome

Much of what can be said of a parse is said of its progress alone: a rule that starts from
a progress with some property comes to a progress with another one, whichever way it ends,
unless it is given up.  The lemmas here carry such properties through the forms of rule
that run other rules and through the outermost level of a source.

Some properties of a whole parse can be read off the grammar.  They take an analysis that
estimates, form by form, what a rule comes to, a proof that the estimates are right, and
a check of the grammar by computation.
-/

namespace Outcome

/-- The progress of a rule that is done. -/
def done? : Outcome → Option Progress
  | next after => some after
  | leave _ | failed _ _ => none

theorem done?_eq_some {outcome : Outcome} {after : Progress} :
    outcome.done? = some after ↔ outcome = .next after := by
  cases outcome <;> simp [done?]

/-- What holds of the progress of a rule when it is done and when it leaves the loop around
it.  Nothing is said of a rule that was given up. -/
def Yields (done left : Progress → Prop) : Outcome → Prop
  | next progress => done progress
  | leave progress => left progress
  | failed _ _ => True

namespace Yields

variable {outcome : Outcome} {done left done' left' : Progress → Prop}

theorem mono (yields : outcome.Yields done left)
    (whenDone : ∀ progress, done progress → done' progress)
    (whenLeft : ∀ progress, left progress → left' progress) : outcome.Yields done' left' := by
  cases outcome with
  | next progress => exact whenDone progress yields
  | leave progress => exact whenLeft progress yields
  | failed failure diagnostics => exact True.intro

theorem andThen {rest : Progress → Outcome} (first : outcome.Yields done left)
    (second : ∀ progress, done progress → (rest progress).Yields done' left) :
    (outcome.andThen rest).Yields done' left := by
  cases outcome with
  | next progress => exact second progress first
  | leave progress => exact first
  | failed failure diagnostics => exact True.intro

theorem map {change : Progress → Progress} (yields : outcome.Yields done left)
    (whenDone : ∀ progress, done progress → done' (change progress))
    (whenLeft : ∀ progress, left progress → left' (change progress)) :
    (outcome.map change).Yields done' left' := by
  cases outcome with
  | next progress => exact whenDone progress yields
  | leave progress => exact whenLeft progress yields
  | failed failure diagnostics => exact True.intro

theorem recover {before : Progress} (yields : outcome.Yields done left)
    (restarted : ∀ failure diagnostics, done (before.restarted failure diagnostics).addFaulty) :
    (before.recover outcome).Yields done left := by
  cases outcome with
  | next progress => exact yields
  | leave progress => exact yields
  | failed failure diagnostics =>
      unfold Progress.recover
      dsimp only
      split
      · exact True.intro
      · exact restarted failure diagnostics

/-- What each round keeps holds in the end, unless the last round has left the loop.  By
induction on the number of rounds. -/
theorem repeatRounds {round : Progress → Outcome} {progress : Progress}
    (each : ∀ progress, done progress → (round progress).Yields done left) (rounds : Nat)
    (holds : done progress) :
    (repeatRounds round rounds progress).Yields
      (fun progress => done progress ∨ left progress) left' := by
  induction rounds generalizing progress with
  | zero => exact .inl holds
  | succ rounds inductionHypothesis =>
      have once := each progress holds
      unfold Offside.repeatRounds
      cases comes : round progress with
      | next after =>
          rw [comes] at once
          exact inductionHypothesis once
      | leave after =>
          rw [comes] at once
          exact .inr once
      | failed failure diagnostics => exact True.intro

end Yields
end Outcome

/-- What an analysis of a rule comes to: an estimate of what the rule comes to when it is
done, and one for when it leaves the loop around it. -/
structure Estimate (State : Type) where
  done : State
  left : State
  /-- Whether everything that the estimates rely on was found to be so. -/
  sound : Bool

namespace Progress

variable {progress before after : Progress}

/-- Settling an ambiguity may add a report, and changes nothing else. -/
theorem exists_settle_eq (session : Session) (progress : Progress) (ambiguity : Ambiguity) :
    ∃ diagnostics, (progress.settle session ambiguity).2 =
      { progress with diagnostics := diagnostics } := by
  unfold settle
  split
  · exact ⟨_, rfl⟩
  · dsimp only
    split <;> exact ⟨_, rfl⟩

/-- A level is charged, if there is one left, and nothing else changes. -/
theorem charge_yields (session : Session) (progress : Progress) {left : Progress → Prop} :
    (progress.charge session).Yields (fun after => progress.depth < session.maxDepth ∧
      after = { progress with depth := progress.depth + 1 }) left := by
  unfold charge
  split
  · exact True.intro
  · exact ⟨Nat.lt_of_not_le (by assumption), rfl⟩

/-- However an ambiguity is settled, one of the two rules is run, and nothing but the reports
has changed before. -/
theorem exists_run_settle (call : Surroundings → Nonterminal → Progress → Outcome)
    (ambiguity : Ambiguity) (first second : Rule) (surroundings : Surroundings)
    (progress : Progress) :
    ∃ diagnostics,
      (Rule.settle ambiguity first second).run call surroundings progress =
        first.run call surroundings { progress with diagnostics := diagnostics } ∨
      (Rule.settle ambiguity first second).run call surroundings progress =
        second.run call surroundings { progress with diagnostics := diagnostics } := by
  rcases progress.exists_settle_eq surroundings.session ambiguity with ⟨diagnostics, settled⟩
  refine ⟨diagnostics, ?_⟩
  rw [Rule.run, settled]
  split
  · exact .inl rfl
  · exact .inr rfl

/-! ## Faulty input -/

/-- Nothing was built, or else one node that holds nothing but the tokens of faulty input.
Whatever has been charged stays charged. -/
structure AddsFaulty (before after : Progress) : Prop where
  depth : after.depth = before.depth
  builder : after.builder = before.builder ∨
    ∃ faulty, faulty.kind = .error ∧ faulty.IsFlat ∧ faulty.fields = [] ∧ faulty.Spanned ∧
      after.builder = before.builder.push faulty

theorem gather_keeps (progress : Progress) (level : Nat) :
    (progress.gather level).depth = progress.depth ∧
      (progress.gather level).builder.fields = progress.builder.fields := by
  fun_induction gather progress level with
  | case1 progress level atEnd => exact ⟨rfl, rfl⟩
  | case2 progress level before stops => exact ⟨rfl, rfl⟩
  | case3 progress level before goesOn inductionHypothesis => exact inductionHypothesis

theorem takeAll_keeps (progress : Progress) : progress.takeAll.depth = progress.depth ∧
    progress.takeAll.builder.fields = progress.builder.fields := by
  fun_induction takeAll progress with
  | case1 progress atEnd => exact ⟨rfl, rfl⟩
  | case2 progress before inductionHypothesis => exact inductionHypothesis

theorem depth_restarted (before : Progress) (failure : Failure) (diagnostics : Array Diagnostic) :
    (before.restarted failure diagnostics).depth = before.depth := by
  unfold restarted reportFailure
  split <;> rfl

/-- Tokens that were collected in a node of faulty input lie flat in it. -/
theorem Collects.addsFaulty {gathered : Progress} {tokens : List Token}
    (collects : (progress.openNode .error).Collects gathered tokens)
    (keeps : gathered.depth = progress.depth ∧ gathered.builder.fields = #[]) :
    progress.AddsFaulty
      (if gathered.builder.isEmpty then { gathered with builder := progress.builder }
        else gathered.closeNode progress.builder none) := by
  have children : gathered.builder.finish.children = tokens.map .token :=
    collects.children.trans (List.nil_append _)
  split
  · exact ⟨keeps.1, .inl rfl⟩
  · rename_i filled
    refine ⟨keeps.1, .inr ⟨gathered.builder.finish, collects.kind, ?_,
      congrArg Array.toList keeps.2, Builder.spanned_finish fun empty => filled ?_, rfl⟩⟩
    · unfold Node.IsFlat
      rw [Node.tokens_eq_children, children, Element.tokens_map_token]
    · exact Array.isEmpty_iff.mpr (Array.toList_eq_nil_iff.mp empty)

theorem addsFaulty_addFaulty (progress : Progress) : progress.AddsFaulty progress.addFaulty := by
  rcases gather_gathered (progress.openNode .error) 0 with ⟨tokens, collects, _⟩
  exact collects.addsFaulty (gather_keeps (progress.openNode .error) 0)

theorem addsFaulty_addRest (progress : Progress) : progress.AddsFaulty progress.addRest := by
  rcases takeAll_collects (progress.openNode .error) with ⟨tokens, collects, _⟩
  exact collects.addsFaulty (takeAll_keeps (progress.openNode .error))

/-- After a failure nothing is built that was not there before. -/
theorem AddsFaulty.of_restarted {failure : Failure} {diagnostics : Array Diagnostic}
    (adds : (before.restarted failure diagnostics).AddsFaulty after) : before.AddsFaulty after := by
  refine ⟨adds.depth.trans (depth_restarted _ _ _), ?_⟩
  have builder := adds.builder
  rw [builder_restarted] at builder
  exact builder

theorem addsFaulty_reportFailure (progress : Progress) (failure : Failure) :
    progress.AddsFaulty (progress.reportFailure failure).addFaulty := by
  have adds : (progress.restarted failure progress.diagnostics).AddsFaulty
      (progress.reportFailure failure).addFaulty := addsFaulty_addFaulty _
  exact adds.of_restarted

/-! ## The outermost level -/

/-- What every step of the outermost level keeps, holds in the end. -/
structure Kept (session : Session) (holds : Progress → Prop) : Prop where
  take : ∀ progress, holds progress → holds progress.take
  definition : ∀ progress, holds progress → (progress.definition session).Yields holds holds
  faulty : ∀ before after, before.AddsFaulty after → holds before → holds after

variable {session : Session} {holds : Progress → Prop}

theorem Kept.skipSeparators (kept : Kept session holds) (started : holds progress) :
    holds progress.skipSeparators := by
  fun_induction Progress.skipSeparators progress with
  | case1 progress separator atEnd => exact started
  | case2 progress separator before inductionHypothesis =>
      exact inductionHypothesis (kept.take progress started)
  | case3 progress other => exact started

theorem Kept.definitions (kept : Kept session holds) (count : Nat) (started : holds progress) :
    holds (progress.definitions session count) := by
  induction count generalizing progress with
  | zero => exact started
  | succ count inductionHypothesis =>
      have ready := kept.skipSeparators started
      have once := kept.definition _ ready
      rw [definitions_succ]
      split
      · exact ready
      · cases comes : progress.skipSeparators.definition session with
        | next done =>
            rw [comes] at once
            exact inductionHypothesis once
        | leave done =>
            rw [comes] at once
            exact inductionHypothesis once
        | failed failure diagnostics =>
            exact kept.faulty _ _ (addsFaulty_addRest _).of_restarted ready

/-- A definition that is read by its nonterminal, or faulty input in its place. -/
theorem yields_definition (progress : Progress)
    (derived : (Nonterminal.derive ⟨session, true⟩ .definition progress).Yields holds holds)
    (faulty : ∀ after, progress.AddsFaulty after → holds after) :
    (progress.definition session).Yields holds holds := by
  unfold definition
  split
  · exact derived.recover fun failure diagnostics =>
      faulty _ (addsFaulty_addFaulty _).of_restarted
  · exact faulty _ (addsFaulty_reportFailure progress _)

end Progress
end Offside
