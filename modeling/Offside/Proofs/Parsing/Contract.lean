import Offside.Proofs.Parsing.Recovery

namespace Offside

/-!
# Contracts of rules

A contract says what a rule relies on and what it answers for.  Both are asserted
of two things: the token stream, and the delimiters that are open at this point of
the tree under construction.  The second thing exists only for the proof.  Sound
tokens are read with it as with any stack, and a node of faulty input, whatever it
holds, counts as nothing.

Whatever a contract asserts, a rule that fulfils one also advances the parse as it
should.  So a proof that a rule of the grammar fulfils a contract shows at once
that it takes no token behind the end of the source and none that marks an error,
that it asks no question about a group that it does not stand on, and that it
closes what it opens.  There is one lemma for each form of rule; what holds of a
rule of the grammar is put together from these.
-/

/-! ## Reading what a tree holds -/

namespace Nesting

/-- Read some stretches, passing over faulty input. -/
def readHeld (nesting : Nesting) (stack : List Delimiter) :
    List Stretch → Option (List Delimiter)
  | [] => some stack
  | .sound token :: held =>
    (nesting.step stack token.kind).bind fun stack => nesting.readHeld stack held
  | .faulty _ :: held => nesting.readHeld stack held

variable (nesting : Nesting)

theorem readHeld_append (stack : List Delimiter) (front back : List Stretch) :
    nesting.readHeld stack (front ++ back) =
      (nesting.readHeld stack front).bind fun stack => nesting.readHeld stack back := by
  induction front generalizing stack with
  | nil => rfl
  | cons stretch front inductionHypothesis =>
      cases stretch with
      | sound token =>
          rw [List.cons_append, readHeld, readHeld, Option.bind_assoc]
          exact congrArg _ (funext fun inner => inductionHypothesis inner)
      | faulty tokens => exact inductionHypothesis stack

/-- Without faulty input the stretches are read like their tokens. -/
theorem readHeld_eq_read {held : List Stretch} (sound : Stretch.anyFaulty held = false)
    (stack : List Delimiter) :
    nesting.readHeld stack held =
      nesting.read stack ((Stretch.allTokens held).map Token.kind) := by
  induction held generalizing stack with
  | nil => rfl
  | cons stretch held inductionHypothesis =>
      cases stretch with
      | sound token =>
          rw [readHeld]
          exact congrArg _ (funext fun inner => inductionHypothesis sound inner)
      | faulty tokens => cases sound

end Nesting

/-- What a condition shows of the stream by its answer.  The other questions are
about the tree under construction and the place of the rule. -/
def Condition.Shows (answer : Bool) : Condition → TokenStream → Prop
  | ahead test, stream => test stream = answer
  | first _, _ => True
  | bracesAllowed, _ => True

theorem Condition.shows_holds (condition : Condition) (surroundings : Surroundings)
    (progress : Progress) :
    condition.Shows (condition.holds surroundings progress) progress.stream := by
  cases condition with
  | ahead test => rfl
  | first test => exact True.intro
  | bracesAllowed => exact True.intro

/-! ## Contracts -/

/-- What can be said of a stream and of the delimiters that are open. -/
abbrev Assertion := TokenStream → List Delimiter → Prop

namespace Assertion

/-- Exactly the given delimiters are open. -/
def level (stack : List Delimiter) : Assertion := fun _ opened => opened = stack

/-- Exactly the given delimiters are open, and the stream passes a test. -/
def levelWhen (test : TokenStream → Prop) (stack : List Delimiter) : Assertion :=
  fun stream opened => opened = stack ∧ test stream

/-- What is asserted of a place that is never reached. -/
def never : Assertion := fun _ _ => False

/-- An assertion together with a bound on the tokens that are left. -/
def within (assertion : Assertion) (bound : Nat) : Assertion :=
  fun stream opened => assertion stream opened ∧ stream.left.length ≤ bound

/-- An assertion that still holds when the stream has moved. -/
def Stable (assertion : Assertion) (after : Assertion) : Prop :=
  ∀ stream opened position, assertion stream opened → after (stream.moveTo position) opened

end Assertion

open Assertion

/-- A parse advances to a point where an assertion holds. -/
def Progress.Reaches (session : Session) (before : Progress) (stack : List Delimiter)
    (after : Progress) (ensures : Assertion) : Prop :=
  ∃ held inner, before.Advance session after held ∧
    Nesting.loose.readHeld stack held = some inner ∧ ensures after.stream inner

namespace Outcome

/-- What comes of a rule is as its contract says. -/
def Meets (session : Session) (before : Progress) (stack : List Delimiter)
    (ensures leaves : Assertion) : Outcome → Prop
  | next after => before.Reaches session stack after ensures
  | leave after => before.Reaches session stack after leaves
  | failed failure diagnostics => before.GivesUp session failure diagnostics

end Outcome

/-- Calls of nonterminals leave the open delimiters as they are. -/
def NeutralCalls (call : Surroundings → Nonterminal → Progress → Outcome) : Prop :=
  ∀ surroundings nonterminal progress stack,
    (call surroundings nonterminal progress).Meets surroundings.session progress stack
      (level stack) never

/-- Whether all nodes that a rule builds itself are constructs.  Nodes of faulty input
are left to the recovery from failures. -/
def Rule.buildsConstructs : Rule → Bool
  | seq first second => first.buildsConstructs && second.buildsConstructs
  | node _ kind rule => kind != .error && rule.buildsConstructs
  | become kind => kind != .error
  | wrap kind => kind != .error
  | choose _ yes no => yes.buildsConstructs && no.buildsConstructs
  | settle _ first second => first.buildsConstructs && second.buildsConstructs
  | loop rule | nested rule | chain rule | withBraces _ rule | recover rule =>
    rule.buildsConstructs
  | _ => true

/-- Where a rule is run with what it requires, it ensures what it says when it is
done and, when it leaves the loop around it, what it says for that. -/
def Rule.Contract (requires : Assertion) (rule : Rule) (ensures leaves : Assertion) : Prop :=
  rule.buildsConstructs = true → ∀ call, NeutralCalls call → ∀ surroundings progress stack,
    requires progress.stream stack →
      (rule.run call surroundings progress).Meets surroundings.session progress stack
        ensures leaves

/-! ## Outcomes of composed rules -/

section Outcomes

variable {session : Session} {before middle after : Progress} {stack inner : List Delimiter}
  {requires ensures leaves ensures' leaves' : Assertion}

theorem Progress.Reaches.refl (holds : ensures before.stream stack) :
    before.Reaches session stack before ensures :=
  ⟨[], stack, .refl before, rfl, holds⟩

theorem Progress.Reaches.of_advance {held : List Stretch}
    (first : before.Advance session middle held)
    (read : Nesting.loose.readHeld stack held = some inner)
    (second : middle.Reaches session inner after ensures) :
    before.Reaches session stack after ensures := by
  rcases second with ⟨further, final, step, readFurther, holds⟩
  refine ⟨held ++ further, final, first.trans step, ?_, holds⟩
  rw [Nesting.readHeld_append, read, Option.bind_some, readFurther]

theorem Progress.Reaches.weaken (reached : before.Reaches session stack after ensures)
    (weaker : ∀ stream opened, ensures stream opened → ensures' stream opened) :
    before.Reaches session stack after ensures' := by
  rcases reached with ⟨held, inner, step, read, holds⟩
  exact ⟨held, inner, step, read, weaker _ _ holds⟩

namespace Outcome

/-- What comes of a rule that began further on, seen from the beginning. -/
theorem Meets.of_advance {held : List Stretch} (first : before.Advance session middle held)
    (read : Nesting.loose.readHeld stack held = some inner) {outcome : Outcome}
    (second : outcome.Meets session middle inner ensures leaves) :
    outcome.Meets session before stack ensures leaves := by
  cases outcome with
  | next after => exact Progress.Reaches.of_advance first read second
  | leave after => exact Progress.Reaches.of_advance first read second
  | failed failure diagnostics => exact Progress.GivesUp.of_advance first second

theorem Meets.weaken {outcome : Outcome}
    (meets : outcome.Meets session before stack ensures leaves)
    (done : ∀ stream opened, ensures stream opened → ensures' stream opened)
    (left : ∀ stream opened, leaves stream opened → leaves' stream opened) :
    outcome.Meets session before stack ensures' leaves' := by
  cases outcome with
  | next after => exact Progress.Reaches.weaken meets done
  | leave after => exact Progress.Reaches.weaken meets left
  | failed failure diagnostics => exact meets

theorem Meets.andThen {outcome : Outcome} {rest : Progress → Outcome}
    (first : outcome.Meets session before stack requires leaves)
    (second : ∀ middle inner, requires middle.stream inner →
      (rest middle).Meets session middle inner ensures leaves) :
    (outcome.andThen rest).Meets session before stack ensures leaves := by
  cases outcome with
  | next middle =>
      rcases first with ⟨held, inner, step, read, holds⟩
      exact (second middle inner holds).of_advance step read
  | leave after => exact first
  | failed failure diagnostics => exact first

/-- The depth of nesting is no part of any contract. -/
theorem Meets.setDepth {outcome : Outcome} (depth : Nat)
    (meets : outcome.Meets session before stack ensures leaves) :
    (outcome.map fun inner => { inner with depth := depth }).Meets session before stack
      ensures leaves := by
  cases outcome with
  | next after =>
      rcases meets with ⟨held, inner, step, read, holds⟩
      exact ⟨held, inner, ⟨⟨step.stream, step.tokens, step.position, step.builder, step.kind⟩,
        step.sound, step.reports⟩, read, holds⟩
  | leave after =>
      rcases meets with ⟨held, inner, step, read, holds⟩
      exact ⟨held, inner, ⟨⟨step.stream, step.tokens, step.position, step.builder, step.kind⟩,
        step.sound, step.reports⟩, read, holds⟩
  | failed failure diagnostics => exact meets

end Outcome

/-- A level of nesting is charged without taking anything, or the rule fails. -/
theorem Progress.charge_meets (progress : Progress) (holds : ensures progress.stream stack) :
    (progress.charge session).Meets session progress stack ensures leaves := by
  unfold Progress.charge
  split
  · exact .tooDeep progress _
  · exact ⟨[], stack, .of_builder rfl rfl id rfl, rfl, holds⟩

end Outcomes

namespace Rule

variable {requires ensures leaves middle : Assertion} {rule first second : Rule}

namespace Contract

/-! ## Adapting a contract -/

theorem weaken {requires' ensures' leaves' : Assertion}
    (contract : rule.Contract requires ensures leaves)
    (need : ∀ stream opened, requires' stream opened → requires stream opened)
    (done : ∀ stream opened, ensures stream opened → ensures' stream opened)
    (left : ∀ stream opened, leaves stream opened → leaves' stream opened) :
    rule.Contract requires' ensures' leaves' := by
  intro builds call neutral surroundings progress stack holds
  exact (contract builds call neutral surroundings progress stack (need _ _ holds)).weaken done left

/-- A contract may ignore what is known of the stream. -/
theorem ignore {test : TokenStream → Prop} (contract : rule.Contract requires ensures leaves) :
    rule.Contract (fun stream opened => requires stream opened ∧ test stream) ensures leaves :=
  contract.weaken (fun _ _ holds => holds.1) (fun _ _ => id) (fun _ _ => id)

/-- No rule gives tokens back. -/
theorem within (contract : rule.Contract requires ensures leaves) (bound : Nat) :
    rule.Contract (requires.within bound) (ensures.within bound) (leaves.within bound) := by
  intro builds call neutral surroundings progress stack holds
  have meets := contract builds call neutral surroundings progress stack holds.1
  have fewer : ∀ {after : Progress} {held : List Stretch},
      progress.Advance surroundings.session after held →
        after.stream.left.length ≤ bound := by
    intro after held step
    have counted := congrArg List.length step.tokens
    have bounded := holds.2
    rw [List.length_append] at counted
    omega
  cases outcome : rule.run call surroundings progress with
  | next after =>
      rw [outcome] at meets
      rcases meets with ⟨held, inner, step, read, ensured⟩
      exact ⟨held, inner, step, read, ensured, fewer step⟩
  | leave after =>
      rw [outcome] at meets
      rcases meets with ⟨held, inner, step, read, ensured⟩
      exact ⟨held, inner, step, read, ensured, fewer step⟩
  | failed failure diagnostics =>
      rw [outcome] at meets
      exact meets

/-! ## One lemma for each form of rule -/

theorem done : Rule.done.Contract requires requires leaves := by
  intro builds call neutral surroundings progress stack holds
  exact .refl holds

theorem seq (before : first.Contract requires middle leaves)
    (after : second.Contract middle ensures leaves) :
    (Rule.seq first second).Contract requires ensures leaves := by
  intro builds call neutral surroundings progress stack holds
  rcases Bool.and_eq_true_iff.mp builds with ⟨buildsFirst, buildsSecond⟩
  exact (before buildsFirst call neutral surroundings progress stack holds).andThen
    fun middle inner => after buildsSecond call neutral surroundings middle inner

/-- A token is taken only in front of the end of the source, and not when it marks
an error. -/
theorem take (takes : ∀ stream opened, requires stream opened →
      stream.atEnd = false ∧ stream.kind.isError = false ∧
        ∃ inner, Nesting.loose.step opened stream.kind = some inner ∧
          ensures stream.advance inner) :
    Rule.take.Contract requires ensures leaves := by
  intro builds call neutral surroundings progress stack holds
  rcases takes _ _ holds with ⟨before, sound, inner, stepped, ensured⟩
  refine ⟨_, inner, .take before sound, ?_, ensured⟩
  exact (congrArg (fun read => read.bind some) stepped).trans rfl

theorem call (nonterminal : Nonterminal) (stack : List Delimiter) :
    (Rule.call nonterminal).Contract (level stack) (level stack) leaves := by
  intro builds call neutral surroundings progress opened holds
  cases holds
  refine (neutral surroundings nonterminal progress stack).weaken (fun _ _ => id) ?_
  intro stream inner impossible
  exact False.elim impossible

theorem node (part : Option FieldName) {kind : NodeKind}
    (contract : rule.Contract requires ensures leaves) :
    (Rule.node part kind rule).Contract requires ensures leaves := by
  intro builds call neutral surroundings progress stack holds
  rcases Bool.and_eq_true_iff.mp builds with ⟨construct, buildsInside⟩
  have kept : kind ≠ .error := bne_iff_ne.mp construct
  have meets := contract buildsInside call neutral surroundings (progress.openNode kind) stack
    holds
  unfold run
  dsimp only
  cases outcome : rule.run call surroundings (progress.openNode kind) with
  | next inner =>
      rw [outcome] at meets
      rcases meets with ⟨held, opened, step, read, ensured⟩
      exact ⟨held, opened, step.closeNode kept part, read, ensured⟩
  | leave inner =>
      rw [outcome] at meets
      rcases meets with ⟨held, opened, step, read, ensured⟩
      exact ⟨held, opened, step.closeNode kept part, read, ensured⟩
  | failed failure diagnostics =>
      rw [outcome] at meets
      exact ⟨meets.reports, meets.reported, meets.settled⟩

theorem become (kind : NodeKind) :
    (Rule.become kind).Contract requires requires leaves := by
  intro builds call neutral surroundings progress stack holds
  have kept : kind ≠ .error := bne_iff_ne.mp builds
  exact ⟨[], stack, .of_builder rfl rfl (fun _ => kept) rfl, rfl, holds⟩

theorem nameFirst (part : FieldName) :
    (Rule.nameFirst part).Contract requires requires leaves := by
  intro builds call neutral surroundings progress stack holds
  refine ⟨[], stack, .of_builder rfl (Builder.stretches_attach _ _ _) ?_ rfl, rfl, holds⟩
  exact fun kept => (Builder.kind_attach _ _ _).symm ▸ kept

theorem wrap (kind : NodeKind) :
    (Rule.wrap kind).Contract requires requires leaves := by
  intro builds call neutral surroundings progress stack holds
  have kept : kind ≠ .error := bne_iff_ne.mp builds
  exact ⟨[], stack, .wrap progress kept, rfl, holds⟩

theorem choose {condition : Condition}
    (whenHeld : first.Contract
      (fun stream opened => requires stream opened ∧ condition.Shows true stream)
      ensures leaves)
    (otherwise : second.Contract
      (fun stream opened => requires stream opened ∧ condition.Shows false stream)
      ensures leaves) :
    (Rule.choose condition first second).Contract requires ensures leaves := by
  intro builds call neutral surroundings progress stack holds
  rcases Bool.and_eq_true_iff.mp builds with ⟨buildsFirst, buildsSecond⟩
  have shown := condition.shows_holds surroundings progress
  unfold run
  cases answer : condition.holds surroundings progress with
  | true =>
      rw [answer] at shown
      exact whenHeld buildsFirst call neutral surroundings progress stack ⟨holds, shown⟩
  | false =>
      rw [answer] at shown
      exact otherwise buildsSecond call neutral surroundings progress stack ⟨holds, shown⟩

/-- An ambiguity is settled where looking ahead has an answer in every stream whose
groups are closed. -/
theorem settle {ambiguity : Ambiguity}
    (settles : ∀ stream opened previous, requires stream opened → stream.GroupsClose →
      (stream.resolve previous ambiguity).isSome = true)
    (either : first.Contract requires ensures leaves)
    (or : second.Contract requires ensures leaves) :
    (Rule.settle ambiguity first second).Contract requires ensures leaves := by
  intro builds call neutral surroundings progress stack holds
  rcases Bool.and_eq_true_iff.mp builds with ⟨buildsFirst, buildsSecond⟩
  have settled : progress.Advance surroundings.session
      (progress.settle surroundings.session ambiguity).2 [] :=
    .settle progress ambiguity (settles _ _ _ holds)
  have same : (progress.settle surroundings.session ambiguity).2.stream =
      progress.stream := by
    rw [settled.stream, settled.position]
    rfl
  rw [← same] at holds
  unfold run
  dsimp only
  cases choice : (progress.settle surroundings.session ambiguity).1 with
  | true =>
      exact (either buildsFirst call neutral surroundings _ stack holds).of_advance settled rfl
  | false =>
      exact (or buildsSecond call neutral surroundings _ stack holds).of_advance settled rfl

/-- A loop keeps its invariant in every round.  It may run out of rounds, so the
invariant has to be good enough for what follows the loop. -/
theorem loop {invariant : Assertion} (round : rule.Contract invariant invariant ensures)
    (enough : ∀ stream opened, invariant stream opened → ensures stream opened) :
    (Rule.loop rule).Contract invariant ensures leaves := by
  intro builds call neutral surroundings progress stack holds
  unfold run
  generalize progress.stream.remaining + 1 = rounds
  induction rounds generalizing progress stack with
  | zero => exact .refl (enough _ _ holds)
  | succ rounds inductionHypothesis =>
      have meets := round builds call neutral surroundings progress stack holds
      unfold repeatRounds
      cases outcome : rule.run call surroundings progress with
      | next after =>
          rw [outcome] at meets
          rcases meets with ⟨held, inner, step, read, kept⟩
          exact (inductionHypothesis after inner kept).of_advance step read
      | leave after =>
          rw [outcome] at meets
          exact meets
      | failed failure diagnostics =>
          rw [outcome] at meets
          exact meets

/-- A loop that takes a token in every round does not run out of rounds, so it ends
only by being left. -/
theorem loop_of_progress {invariant : Assertion}
    (round : ∀ bound, rule.Contract (invariant.within bound)
      (fun stream opened => invariant stream opened ∧ stream.left.length < bound) ensures) :
    (Rule.loop rule).Contract invariant ensures leaves := by
  intro builds call neutral surroundings progress stack holds
  unfold run
  have enough : progress.stream.left.length < progress.stream.remaining + 1 := by
    unfold TokenStream.left TokenStream.remaining TokenStream.size
    rw [List.length_drop, Array.length_toList]
    omega
  generalize progress.stream.remaining + 1 = rounds at enough
  -- There are always fewer tokens left than rounds.
  induction rounds generalizing progress stack with
  | zero => omega
  | succ rounds inductionHypothesis =>
      have meets := round _ builds call neutral surroundings progress stack
        ⟨holds, Nat.le_refl progress.stream.left.length⟩
      unfold repeatRounds
      cases outcome : rule.run call surroundings progress with
      | next after =>
          rw [outcome] at meets
          rcases meets with ⟨held, inner, step, read, kept, fewer⟩
          exact (inductionHypothesis after inner kept (by omega)).of_advance step read
      | leave after =>
          rw [outcome] at meets
          exact meets
      | failed failure diagnostics =>
          rw [outcome] at meets
          exact meets

theorem leave : Rule.leave.Contract requires ensures requires := by
  intro builds call neutral surroundings progress stack holds
  exact .refl holds

theorem nested (contract : rule.Contract requires ensures leaves) :
    (Rule.nested rule).Contract requires ensures leaves := by
  intro builds call neutral surroundings progress stack holds
  apply Outcome.Meets.setDepth progress.depth
  refine (progress.charge_meets holds).andThen fun middle inner charged => ?_
  exact contract builds call neutral surroundings middle inner charged

theorem chain (contract : rule.Contract requires ensures leaves) :
    (Rule.chain rule).Contract requires ensures leaves := by
  intro builds call neutral surroundings progress stack holds
  exact (contract builds call neutral surroundings progress stack holds).setDepth progress.depth

theorem link : Rule.link.Contract requires requires leaves := by
  intro builds call neutral surroundings progress stack holds
  exact progress.charge_meets holds

theorem withBraces (allowed : Bool) (contract : rule.Contract requires ensures leaves) :
    (Rule.withBraces allowed rule).Contract requires ensures leaves := by
  intro builds call neutral surroundings progress stack holds
  exact contract builds call neutral { surroundings with bracesAllowed := allowed } progress stack
    holds

/-- A rule is recovered from only in front of the end of the source, where there
is something to gather. -/
theorem recover (contract : rule.Contract requires ensures leaves)
    (inside : ∀ stream opened, requires stream opened → stream.atEnd = false)
    (anywhere : requires.Stable ensures) :
    (Rule.recover rule).Contract requires ensures leaves := by
  intro builds call neutral surroundings progress stack holds
  have meets := contract builds call neutral surroundings progress stack holds
  unfold run Progress.recover
  cases outcome : rule.run call surroundings progress with
  | next after =>
      rw [outcome] at meets
      exact meets
  | leave after =>
      rw [outcome] at meets
      exact meets
  | failed failure diagnostics =>
      rw [outcome] at meets
      dsimp only
      split
      · exact meets
      · rcases Progress.GivesUp.addFaulty meets (inside _ _ holds) with ⟨tokens, _, step⟩
        refine ⟨[.faulty tokens], stack, step, rfl, ?_⟩
        have moved := anywhere _ _
          (progress.restarted failure diagnostics).addFaulty.stream.position holds
        rw [← step.stream] at moved
        exact moved

/-- The current token is rejected only in front of the end of the source. -/
theorem reject (expected : List String)
    (inside : ∀ stream opened, requires stream opened → stream.atEnd = false)
    (anywhere : requires.Stable ensures) :
    (Rule.reject expected).Contract requires ensures leaves := by
  intro builds call neutral surroundings progress stack holds
  have given : progress.GivesUp surroundings.session (progress.unexpected expected)
      progress.diagnostics := .unexpected progress expected
  rcases given.addFaulty (inside _ _ holds) with ⟨tokens, _, step⟩
  refine ⟨[.faulty tokens], stack, step, rfl, ?_⟩
  have moved := anywhere _ _
    (progress.restarted (progress.unexpected expected)
      progress.diagnostics).addFaulty.stream.position holds
  rw [← step.stream] at moved
  exact moved

theorem fail (expected : List String) :
    (Rule.fail expected).Contract requires ensures leaves := by
  intro builds call neutral surroundings progress stack holds
  exact .unexpected progress expected

theorem failMissing (kind : NodeKind) (part : FieldName) :
    (Rule.failMissing kind part).Contract requires ensures leaves := by
  intro builds call neutral surroundings progress stack holds
  exact .missing progress kind part

end Contract

end Rule
end Offside
