import Offside.Proofs.Grammar.Continuation
import Offside.Proofs.Parsing.Transfer

namespace Offside

/-!
# The same parse in a longer source

A source that is in order is parsed in the same way when another one follows it.  Up to
the place where the first source ends, both parses take the same tokens into the same
nodes; and where the one finds the end of its source, the other one finds a separator or
a definition, which makes no difference to any construct that is complete there.

Only parses that go well are compared.  A parse that has to report something may have
been led astray by the end of its source.
-/

open TokenStream (Continues)

/-! ## Progress in another stream -/

/-- The same progress in another stream. -/
def Progress.onto (other : TokenStream) (progress : Progress) : Progress :=
  { progress with stream := other.moveTo progress.stream.position }

/-- A parse that goes through a stream. -/
structure Progress.Within (stream : TokenStream) (progress : Progress) : Prop where
  here : progress.stream = stream.moveTo progress.stream.position
  bounded : progress.stream.position ≤ stream.body.size

namespace Outcome

/-- The same outcome in another stream. -/
def onto (other : TokenStream) (outcome : Outcome) : Outcome := outcome.map (Progress.onto other)

/-- A rule was not given up. -/
def Comes (after : Progress) (outcome : Outcome) : Prop :=
  outcome = .next after ∨ outcome = .leave after

variable {outcome : Outcome} {before after : Progress}

theorem Courses.of_comes (courses : outcome.Courses before) (comes : outcome.Comes after) :
    before.Course after := by
  rcases comes with rfl | rfl
  · exact courses
  · exact courses

theorem Comes.of_map {change : Progress → Progress} (comes : (outcome.map change).Comes after) :
    ∃ inner, outcome.Comes inner ∧ after = change inner := by
  cases outcome with
  | next inner =>
      rcases comes with same | same
      · exact ⟨inner, .inl rfl, (Outcome.next.inj same).symm⟩
      · cases same
  | leave inner =>
      rcases comes with same | same
      · cases same
      · exact ⟨inner, .inr rfl, (Outcome.leave.inj same).symm⟩
  | failed failure diagnostics => rcases comes with same | same <;> cases same

theorem map_onto {other : TokenStream} {change changeThere : Progress → Progress}
    (commutes : ∀ progress, changeThere (progress.onto other) = (change progress).onto other) :
    (outcome.onto other).map changeThere = (outcome.map change).onto other := by
  cases outcome with
  | next inner => exact congrArg Outcome.next (commutes inner)
  | leave inner => exact congrArg Outcome.leave (commutes inner)
  | failed failure diagnostics => rfl

theorem Takes.of_comes {rule : Rule} (taken : outcome.Takes before rule)
    (comes : outcome.Comes after) (spotless : after.Spotless)
    (always : rule.alwaysTakes = true) :
    before.stream.position < after.stream.position := by
  have both := Bool.and_eq_true_iff.mp always
  rcases comes with rfl | rfl
  · exact taken spotless both.1
  · exact taken.2 spotless both.2

end Outcome

namespace Progress.Within

variable {stream other : TokenStream} {before after : Progress}

theorem of_course (within : before.Within stream) (course : before.Course after) :
    after.Within stream := by
  refine ⟨?_, ?_⟩
  · rw [course.stream, within.here]
    rfl
  · have bounded := course.bounded
    rw [within.here] at bounded
    exact bounded within.bounded

theorem of_stream (within : before.Within stream) (same : after.stream = before.stream) :
    after.Within stream := by
  refine ⟨?_, ?_⟩
  · rw [same]
    exact within.here
  · rw [same]
    exact within.bounded

/-- At each point of a parse the other stream goes on behind the end of its stream. -/
theorem continues (within : before.Within stream) (continues : stream.Continues other) :
    before.stream.Continues (before.onto other).stream := by
  rw [within.here]
  exact continues.moveTo before.stream.position

theorem size (within : before.Within stream) : before.stream.body.size = stream.body.size := by
  rw [within.here]
  rfl

theorem sound (within : before.Within stream) (continues : stream.Continues other) :
    ¬ before.stream.HasErrorToken := by
  rw [within.here]
  exact continues.sound

theorem inside_of_not_atEnd (within : before.Within stream)
    (goesOn : before.stream.atEnd = false) : before.stream.position < stream.body.size :=
  within.size ▸ before.stream.position_lt_of_not_atEnd goesOn

theorem position_of_atEnd (within : before.Within stream) (continues : stream.Continues other)
    (atEnd : before.stream.atEnd = true) : before.stream.position = stream.body.size := by
  rcases Nat.lt_or_eq_of_le within.bounded with inside | ended
  · exact absurd (beq_iff_eq.mp atEnd)
      ((within.continues continues).endsOnce.kind_ne (within.size ▸ inside))
  · exact ended

/-- Before the end of the source the same token is there to be taken. -/
theorem take (within : before.Within stream) (continues : stream.Continues other)
    (goesOn : before.stream.atEnd = false) :
    (before.onto other).take = before.take.onto other := by
  have there := within.continues continues
  have inside := before.stream.position_lt_of_not_atEnd goesOn
  have goesOnThere : (before.onto other).stream.atEnd = false := (there.atEnd inside).trans goesOn
  unfold Progress.take
  rw [there.current_eq inside, TokenStream.advance_eq_moveTo goesOnThere,
    TokenStream.advance_eq_moveTo goesOn]
  rfl

end Progress.Within

/-! ## Rules -/

/-- Two parses under the same conditions.  The lexer has no complaint about the source of
the first one. -/
structure Surroundings.Fits (surroundings there : Surroundings) : Prop where
  blameless : surroundings.session.lexerComplained = false
  maxDepth : there.session.maxDepth = surroundings.session.maxDepth
  braces : there.bracesAllowed = surroundings.bracesAllowed

/-- Whether something is said of a rule that has come from one point to another one.  It
always is if it did not come to the end of the source. -/
def Progress.Concerns (stream : TokenStream) (arrives rests : Prop) (before after : Progress) :
    Prop :=
  after.stream.position < stream.body.size ∨
    (before.stream.position < stream.body.size ∧ arrives) ∨
    (before.stream.position = stream.body.size ∧ rests)

theorem Ambiguity.IsQuiet.resolve {ambiguity : Ambiguity} (quiet : ambiguity.IsQuiet)
    {stream other : TokenStream} (continues : stream.Continues other)
    (there : stream.position = stream.body.size) (previous : Option NodeKind) :
    stream.resolve previous ambiguity = some false ∧
      other.resolve previous ambiguity = some false := by
  have bodies := Condition.quiet_startsTemplateBody stream other continues there
  have modules := continues.moduleBodyAhead_eq_false there
  cases ambiguity with
  | instanceBody => exact ⟨congrArg some bodies.1, congrArg some bodies.2⟩
  | moduleBody => exact ⟨congrArg some modules.1, congrArg some modules.2⟩
  | _ => exact quiet.elim

/-- A run that goes well is the same in a longer source. -/
def Rule.Carries (stream other : TokenStream)
    (call : Surroundings → Nonterminal → Progress → Outcome) (rule : Rule)
    (arrives rests : Prop) : Prop :=
  ∀ surroundings there before after, surroundings.Fits there → before.Within stream →
    (rule.run call surroundings before).Comes after → after.Spotless →
    before.Concerns stream arrives rests after →
    rule.run call there (before.onto other) =
      (rule.run call surroundings before).onto other

namespace Rule.Carries

variable {stream other : TokenStream} {depth : Nat} {rule first second : Rule}
  {arrives rests arrivesThere restsThere : Prop}

/-- A rule that takes a token cannot be done at the end of the source. -/
theorem weaken (continues : stream.Continues other)
    (carries : rule.Carries stream other (Nonterminal.run depth) arrives rests)
    (comes : arrivesThere → arrives) (stays : restsThere → rule.alwaysTakes = true ∨ rests) :
    rule.Carries stream other (Nonterminal.run depth) arrivesThere restsThere := by
  intro surroundings there before after fits within comesTo spotless concerns
  refine carries surroundings there before after fits within comesTo spotless ?_
  rcases concerns with inside | ⟨inside, arrives⟩ | ⟨atEnd, rests⟩
  · exact .inl inside
  · exact .inr (.inl ⟨inside, comes arrives⟩)
  · rcases stays rests with always | rests
    · have courses := Rule.run_courses (Nonterminal.run_courses depth) rule surroundings before
      have taken := Rule.run_takes_nonterminals rule depth surroundings (within.sound continues)
      have further := taken.of_comes comesTo spotless always
      have bounded := (within.of_course (courses.of_comes comesTo)).bounded
      omega
    · exact .inr (.inr ⟨atEnd, rests⟩)

/-- At the end of the source there may be another reason. -/
theorem orAtEnd
    (carries : rule.Carries stream other (Nonterminal.run depth) arrives rests)
    (atEnd : restsThere → ∀ surroundings there before, surroundings.Fits there →
      before.Within stream → before.stream.position = stream.body.size →
        rule.run (Nonterminal.run depth) there (before.onto other) =
          (rule.run (Nonterminal.run depth) surroundings before).onto other) :
    rule.Carries stream other (Nonterminal.run depth) arrives (rests ∨ restsThere) := by
  intro surroundings there before after fits within comes spotless concerns
  rcases concerns with inside | arrived | ⟨ended, rests | restsThere⟩
  · exact carries surroundings there before after fits within comes spotless (.inl inside)
  · exact carries surroundings there before after fits within comes spotless
      (.inr (.inl arrived))
  · exact carries surroundings there before after fits within comes spotless
      (.inr (.inr ⟨ended, rests⟩))
  · exact atEnd restsThere surroundings there before fits within ended

/-- One rule and then another. -/
theorem seq (continues : stream.Continues other)
    (one : first.Carries stream other (Nonterminal.run depth) arrives rests)
    (two : second.Carries stream other (Nonterminal.run depth) arrivesThere restsThere) :
    (Rule.seq first second).Carries stream other (Nonterminal.run depth)
      (arrivesThere ∧ ((first.stays && second.alwaysTakes) = true ∨ (arrives ∧ restsThere)))
      (rests ∧ restsThere) := by
  intro surroundings there before after fits within comes spotless concerns
  have begins := Rule.run_courses (Nonterminal.run_courses depth) first surroundings before
  have takenFirst := Rule.run_takes_nonterminals first depth surroundings (within.sound continues)
  have same := one surroundings there before
  unfold Rule.run at comes ⊢
  cases came : first.run (Nonterminal.run depth) surroundings before with
  | next middle =>
      rw [came] at begins comes same takenFirst
      have withinThere := within.of_course begins
      have ends := (Rule.run_courses (Nonterminal.run_courses depth) second surroundings
        middle).of_comes comes
      have taken := (Rule.run_takes_nonterminals second depth surroundings
        (withinThere.sound continues)).of_comes comes spotless
      have forward := begins.position
      have onward := ends.position
      have bounded := withinThere.bounded
      have boundedThere := (withinThere.of_course ends).bounded
      rw [same middle fits within (.inl rfl) (ends.spotless spotless) ?_]
      · refine two surroundings there middle after fits withinThere comes spotless ?_
        rcases concerns with inside | ⟨inside, arrives, takes | ⟨_, rests⟩⟩ | ⟨atEnd, rests⟩
        · exact .inl inside
        · have := taken (Bool.and_eq_true_iff.mp takes).2
          exact .inr (.inl ⟨by omega, arrives⟩)
        · rcases Nat.lt_or_eq_of_le bounded with before | ended
          · exact .inr (.inl ⟨before, arrives⟩)
          · exact .inr (.inr ⟨ended, rests⟩)
        · exact .inr (.inr ⟨by omega, rests.2⟩)
      · rcases concerns with inside | ⟨inside, _, takes | ⟨arrives, _⟩⟩ | ⟨atEnd, rests⟩
        · exact .inl (by omega)
        · have := taken (Bool.and_eq_true_iff.mp takes).2
          exact .inl (by omega)
        · exact .inr (.inl ⟨inside, arrives⟩)
        · exact .inr (.inr ⟨atEnd, rests.1⟩)
  | leave middle =>
      rw [came] at comes same takenFirst
      have left : after = middle := by
        rcases comes with impossible | left
        · cases impossible
        · exact (Outcome.leave.inj left).symm
      subst left
      rw [same after fits within (.inr rfl) spotless ?_]
      · rfl
      · rcases concerns with inside | ⟨inside, _, takes | ⟨arrives, _⟩⟩ | ⟨atEnd, rests⟩
        · exact .inl inside
        · have stays := (Bool.and_eq_true_iff.mp takes).1
          rw [takenFirst.1] at stays
          cases stays
        · exact .inr (.inl ⟨inside, arrives⟩)
        · exact .inr (.inr ⟨atEnd, rests.1⟩)
  | failed failure diagnostics =>
      rw [came] at comes
      rcases comes with impossible | impossible <;> cases impossible

/-- A change behind a rule that takes no notice of the stream. -/
theorem map {surroundings there : Surroundings} (begun : Progress) {before after : Progress}
    {change changeThere : Progress → Progress}
    (carries : rule.Carries stream other (Nonterminal.run depth) arrives rests)
    (fits : surroundings.Fits there) (within : begun.Within stream)
    (same : begun.stream = before.stream)
    (comes : ((rule.run (Nonterminal.run depth) surroundings begun).map change).Comes after)
    (spotless : after.Spotless) (concerns : before.Concerns stream arrives rests after)
    (stays : ∀ progress, (change progress).stream = progress.stream)
    (goesWell : ∀ progress, (change progress).Spotless → progress.Spotless)
    (commutes : ∀ progress, changeThere (progress.onto other) = (change progress).onto other) :
    (rule.run (Nonterminal.run depth) there (begun.onto other)).map changeThere =
      ((rule.run (Nonterminal.run depth) surroundings begun).map change).onto other := by
  rcases comes.of_map with ⟨inner, comesInside, rfl⟩
  rw [carries surroundings there begun inner fits within comesInside (goesWell inner spotless),
    Outcome.map_onto commutes]
  unfold Progress.Concerns at concerns ⊢
  rw [stays] at concerns
  rw [same]
  exact concerns

theorem node (part : Option FieldName) (kind : NodeKind)
    (carries : rule.Carries stream other (Nonterminal.run depth) arrives rests) :
    (Rule.node part kind rule).Carries stream other (Nonterminal.run depth) arrives rests := by
  intro surroundings there before after fits within comes spotless concerns
  exact carries.map (before.openNode kind) fits (within.of_stream rfl) rfl comes
    spotless concerns (fun _ => rfl) (fun _ => Progress.Spotless.of_closeNode) fun _ => rfl

theorem nested
    (carries : rule.Carries stream other (Nonterminal.run depth) arrives rests) :
    (Rule.nested rule).Carries stream other (Nonterminal.run depth) arrives rests := by
  intro surroundings there before after fits within comes spotless concerns
  unfold Rule.run Progress.charge at comes ⊢
  dsimp only at comes ⊢
  rw [fits.maxDepth]
  show Outcome.map _ (Outcome.andThen (if surroundings.session.maxDepth ≤ before.depth then _
    else _) _) = _
  split at comes
  · rcases comes with impossible | impossible <;> cases impossible
  · rename_i shallow
    rw [if_neg shallow, if_neg shallow]
    exact carries.map { before with depth := before.depth + 1 } fits
      (within.of_stream rfl) rfl comes spotless concerns (fun _ => rfl)
      (fun _ gone => ⟨gone.silent, gone.inside⟩) fun _ => rfl

theorem chain
    (carries : rule.Carries stream other (Nonterminal.run depth) arrives rests) :
    (Rule.chain rule).Carries stream other (Nonterminal.run depth) arrives rests := by
  intro surroundings there before after fits within comes spotless concerns
  exact carries.map before fits within rfl comes spotless concerns (fun _ => rfl)
    (fun _ gone => ⟨gone.silent, gone.inside⟩) fun _ => rfl

theorem withBraces (allowed : Bool)
    (carries : rule.Carries stream other (Nonterminal.run depth) arrives rests) :
    (Rule.withBraces allowed rule).Carries stream other (Nonterminal.run depth) arrives
      rests := by
  intro surroundings there before after fits within
  exact carries { surroundings with bracesAllowed := allowed }
    { there with bracesAllowed := allowed } before after ⟨fits.blameless, fits.maxDepth, rfl⟩
    within

/-- What was recovered from has been reported. -/
theorem recover (continues : stream.Continues other)
    (carries : rule.Carries stream other (Nonterminal.run depth) arrives rests) :
    (Rule.recover rule).Carries stream other (Nonterminal.run depth) arrives rests := by
  intro surroundings there before after fits within comes spotless concerns
  have courses := Rule.run_courses (Nonterminal.run_courses depth) rule surroundings before
  have same := carries surroundings there before after fits within
  unfold Rule.run at comes ⊢
  cases came : rule.run (Nonterminal.run depth) surroundings before with
  | next middle =>
      rw [came] at comes same
      rw [same comes spotless concerns]
      rfl
  | leave middle =>
      rw [came] at comes same
      rw [same comes spotless concerns]
      rfl
  | failed failure diagnostics =>
      rw [came] at comes courses
      unfold Progress.recover at comes
      dsimp only at comes
      split at comes
      · rcases comes with impossible | impossible <;> cases impossible
      · rcases comes with same | impossible
        · cases same
          exact absurd spotless
            (Progress.not_spotless_addFaulty (within.sound continues) courses.2)
        · cases impossible

theorem take (continues : stream.Continues other) :
    Rule.take.Carries stream other (Nonterminal.run depth) arrives rests := by
  intro surroundings there before after fits within comes spotless concerns
  have taken : before.take = after := by
    rcases comes with same | impossible
    · exact Outcome.next.inj same
    · cases impossible
  subst taken
  exact congrArg Outcome.next (within.take continues spotless.not_atEnd)

/-- A change to what has been built. -/
theorem rebuild {change : Progress → Progress}
    (runs : ∀ surroundings progress,
      rule.run (Nonterminal.run depth) surroundings progress = .next (change progress))
    (commutes : ∀ progress, change (progress.onto other) = (change progress).onto other) :
    rule.Carries stream other (Nonterminal.run depth) arrives rests := by
  intro surroundings there before after fits within comes spotless concerns
  rw [runs, runs, commutes]
  rfl

theorem done : Rule.done.Carries stream other (Nonterminal.run depth) arrives rests :=
  .rebuild (fun _ _ => rfl) fun _ => rfl

theorem leave : Rule.leave.Carries stream other (Nonterminal.run depth) arrives rests :=
  fun _ _ _ _ _ _ _ _ _ => rfl

theorem link : Rule.link.Carries stream other (Nonterminal.run depth) arrives rests := by
  intro surroundings there before after fits within comes spotless concerns
  unfold Rule.run Progress.charge at comes ⊢
  rw [fits.maxDepth, show (before.onto other).depth = before.depth from rfl]
  split at comes
  · rcases comes with impossible | impossible <;> cases impossible
  · rename_i shallow
    rw [if_neg shallow, if_neg shallow]
    rfl

/-- A rule that does not go well in any case. -/
theorem of_not_comes
    (fails : ∀ surroundings progress after, progress.Within stream →
      (rule.run (Nonterminal.run depth) surroundings progress).Comes after → ¬ after.Spotless) :
    rule.Carries stream other (Nonterminal.run depth) arrives rests :=
  fun surroundings _ before after _ within comes spotless _ =>
    absurd spotless (fails surroundings before after within comes)

theorem fail (expected : List String) :
    (Rule.fail expected).Carries stream other (Nonterminal.run depth) arrives rests :=
  of_not_comes fun _ _ _ _ comes => by rcases comes with none | none <;> cases none

theorem failMissing (kind : NodeKind) (part : FieldName) :
    (Rule.failMissing kind part).Carries stream other (Nonterminal.run depth) arrives rests :=
  of_not_comes fun _ _ _ _ comes => by rcases comes with none | none <;> cases none

theorem reject (continues : stream.Continues other) (expected : List String) :
    (Rule.reject expected).Carries stream other (Nonterminal.run depth) arrives rests := by
  refine of_not_comes fun surroundings progress after within comes => ?_
  rcases comes with same | impossible
  · cases same
    exact Progress.not_spotless_addFaulty (within.sound continues)
      (progress.unexpected_courses expected).2
  · cases impossible

/-- Conditions are asked before the end of the source, and there if the answer is known. -/
theorem choose (continues : stream.Continues other) {condition : Condition} {yes no : Rule}
    {yesArrives yesRests noArrives noRests : Prop} (agrees : condition.Agrees)
    (whenHeld : yes.Carries stream other (Nonterminal.run depth) yesArrives yesRests)
    (otherwise : no.Carries stream other (Nonterminal.run depth) noArrives noRests) :
    (Rule.choose condition yes no).Carries stream other (Nonterminal.run depth)
      (yesArrives ∧ noArrives)
      (condition.Quiet ∧ noRests ∨ condition.LooksBack ∧ yesRests ∧ noRests) := by
  intro surroundings there before after fits within comes spotless concerns
  have goesOn := within.continues continues
  have courses := (Rule.run_courses (Nonterminal.run_courses depth)
    (Rule.choose condition yes no) surroundings before).of_comes comes
  have forward := courses.position
  have size := within.size
  unfold Rule.run at comes ⊢
  rcases Nat.lt_or_eq_of_le within.bounded with inside | ended
  · have asked : condition.holds there (before.onto other) =
        condition.holds surroundings before := by
      cases condition with
      | ahead test => exact agrees _ _ goesOn (by omega)
      | first test => rfl
      | bracesAllowed => exact fits.braces
    have either : after.stream.position < stream.body.size ∨ yesArrives ∧ noArrives := by
      rcases concerns with within | ⟨_, arrives⟩ | ⟨atEnd, _⟩
      · exact .inl within
      · exact .inr arrives
      · omega
    rw [asked]
    split at comes
    · rename_i held
      rw [if_pos held, if_pos held]
      exact whenHeld surroundings there before after fits within comes spotless
        (either.imp id fun arrives => .inl ⟨inside, arrives.1⟩)
    · rename_i none
      rw [if_neg none, if_neg none]
      exact otherwise surroundings there before after fits within comes spotless
        (either.imp id fun arrives => .inl ⟨inside, arrives.2⟩)
  · have rests : condition.Quiet ∧ noRests ∨ condition.LooksBack ∧ yesRests ∧ noRests := by
      rcases concerns with within | ⟨inside, _⟩ | ⟨_, rests⟩
      · omega
      · omega
      · exact rests
    rcases rests with ⟨quiet, rests⟩ | ⟨looksBack, yesRests, noRests⟩
    · have neither : condition.holds surroundings before = false ∧
          condition.holds there (before.onto other) = false := by
        cases condition with
        | ahead test => exact quiet _ _ goesOn (by omega)
        | first test => exact quiet.elim
        | bracesAllowed => exact quiet.elim
      rw [neither.1, if_neg Bool.false_ne_true] at comes
      rw [neither.1, neither.2, if_neg Bool.false_ne_true, if_neg Bool.false_ne_true]
      exact otherwise surroundings there before after fits within comes spotless
        (.inr (.inr ⟨ended, rests⟩))
    · have asked : condition.holds there (before.onto other) =
          condition.holds surroundings before := by
        cases condition with
        | ahead test => exact looksBack.elim
        | first test => rfl
        | bracesAllowed => exact fits.braces
      rw [asked]
      split at comes
      · rename_i held
        rw [if_pos held, if_pos held]
        exact whenHeld surroundings there before after fits within comes spotless
          (.inr (.inr ⟨ended, yesRests⟩))
      · rename_i none
        rw [if_neg none, if_neg none]
        exact otherwise surroundings there before after fits within comes spotless
          (.inr (.inr ⟨ended, noRests⟩))

/-- An ambiguity that cannot be settled is reported. -/
theorem settle (continues : stream.Continues other) {ambiguity : Ambiguity}
    {arrivesThere restsThere : Prop}
    (either : first.Carries stream other (Nonterminal.run depth) arrives rests)
    (or : second.Carries stream other (Nonterminal.run depth) arrivesThere restsThere) :
    (Rule.settle ambiguity first second).Carries stream other (Nonterminal.run depth)
      (arrives ∧ arrivesThere) (ambiguity.IsQuiet ∧ restsThere) := by
  intro surroundings there before after fits within comes spotless concerns
  have goesOn := within.continues continues
  have courses := (Rule.run_courses (Nonterminal.run_courses depth)
    (Rule.settle ambiguity first second) surroundings before).of_comes comes
  have forward := courses.position
  have size := within.size
  unfold Rule.run at comes ⊢
  dsimp only at comes ⊢
  cases resolved : before.stream.resolve before.lastKind? ambiguity with
  | none =>
      exfalso
      have reported : ¬ (before.settle surroundings.session ambiguity).2.Spotless := by
        unfold Progress.settle
        rw [resolved, fits.blameless]
        exact fun spotless => Array.push_ne_empty spotless.silent
      split at comes
      · exact reported (((Rule.run_courses (Nonterminal.run_courses depth) first surroundings
          _).of_comes comes).spotless spotless)
      · exact reported (((Rule.run_courses (Nonterminal.run_courses depth) second surroundings
          _).of_comes comes).spotless spotless)
  | some choice =>
      have settled : before.settle surroundings.session ambiguity = (choice, before) := by
        unfold Progress.settle
        rw [resolved]
      rw [settled] at comes ⊢
      have settledThere : (before.onto other).stream.resolve before.lastKind? ambiguity =
          some choice → (before.onto other).settle there.session ambiguity =
          (choice, before.onto other) := by
        intro resolvedThere
        unfold Progress.settle
        rw [show (before.onto other).lastKind? = before.lastKind? from rfl, resolvedThere]
      rcases Nat.lt_or_eq_of_le within.bounded with inside | ended
      · rw [settledThere ((goesOn.resolve (by omega) _ _).trans resolved)]
        have whole : after.stream.position < stream.body.size ∨ arrives ∧ arrivesThere := by
          rcases concerns with within | ⟨_, arrives⟩ | ⟨atEnd, _⟩
          · exact .inl within
          · exact .inr arrives
          · omega
        cases choice with
        | true =>
            exact either surroundings there before after fits within comes spotless
              (whole.imp id fun arrives => .inl ⟨inside, arrives.1⟩)
        | false =>
            exact or surroundings there before after fits within comes spotless
              (whole.imp id fun arrives => .inl ⟨inside, arrives.2⟩)
      · have rests : ambiguity.IsQuiet ∧ restsThere := by
          rcases concerns with within | ⟨inside, _⟩ | ⟨_, rests⟩
          · omega
          · omega
          · exact rests
        have quiet := Ambiguity.IsQuiet.resolve rests.1 goesOn (by omega) before.lastKind?
        have second : choice = false := Option.some.inj (resolved.symm.trans quiet.1)
        subst second
        rw [settledThere quiet.2]
        exact or surroundings there before after fits within comes spotless
          (.inr (.inr ⟨ended, rests.2⟩))

/-- The rounds of a loop, by induction on their number.  The bounds on their numbers differ
between the streams, but neither is reached. -/
theorem rounds
    (carries : rule.Carries stream other (Nonterminal.run depth) arrives rests)
    (takes : ∀ surroundings progress after, progress.Within stream →
      rule.run (Nonterminal.run depth) surroundings progress = .next after → after.Spotless →
        progress.stream.position < after.stream.position)
    {surroundings there : Surroundings} (fits : surroundings.Fits there)
    {before after : Progress} (within : before.Within stream) {rounds roundsThere : Nat}
    (comes : repeatRounds (rule.run (Nonterminal.run depth) surroundings) rounds before =
      .next after)
    (spotless : after.Spotless)
    (concerns : before.Concerns stream (arrives ∧ rests) rests after)
    (enough : stream.body.size < before.stream.position + rounds)
    (more : rounds ≤ roundsThere) :
    repeatRounds (rule.run (Nonterminal.run depth) there) roundsThere (before.onto other) =
      .next (after.onto other) := by
  induction rounds generalizing before roundsThere with
  | zero =>
      have bounded := within.bounded
      omega
  | succ rounds inductionHypothesis =>
      obtain ⟨left, rfl⟩ : ∃ left, roundsThere = left + 1 := ⟨roundsThere - 1, by omega⟩
      have once := Rule.run_courses (Nonterminal.run_courses depth) rule surroundings before
      have same := carries surroundings there before
      have further := takes surroundings before
      unfold repeatRounds at comes ⊢
      cases came : rule.run (Nonterminal.run depth) surroundings before with
      | next middle =>
          rw [came] at comes once same further
          dsimp only at comes
          have behind := Outcome.Courses.repeatRounds
            (Rule.run_courses (Nonterminal.run_courses depth) rule surroundings) rounds middle
          rw [comes] at behind
          have spotlessThere := behind.spotless spotless
          have withinThere := within.of_course once
          have forward := further middle within rfl spotlessThere
          have onward := behind.position
          have bounded := withinThere.bounded
          rw [same middle fits within (.inl rfl) spotlessThere ?_]
          · refine inductionHypothesis withinThere comes ?_ (by omega) (by omega)
            rcases concerns with inside | ⟨_, arrives, rests⟩ | ⟨atEnd, rests⟩
            · exact .inl inside
            · rcases Nat.lt_or_eq_of_le bounded with before | ended
              · exact .inr (.inl ⟨before, arrives, rests⟩)
              · exact .inr (.inr ⟨ended, rests⟩)
            · omega
          · rcases concerns with inside | ⟨inside, arrives, _⟩ | ⟨atEnd, rests⟩
            · exact .inl (by omega)
            · exact .inr (.inl ⟨inside, arrives⟩)
            · exact .inr (.inr ⟨atEnd, rests⟩)
      | leave middle =>
          rw [came] at comes same
          cases comes
          rw [same after fits within (.inr rfl) spotless ?_]
          · rfl
          · exact concerns.imp id (Or.imp (And.imp id And.left) id)
      | failed failure diagnostics =>
          rw [came] at comes
          cases comes

theorem loop (continues : stream.Continues other)
    (carries : rule.Carries stream other (Nonterminal.run depth) arrives rests)
    (takes : ∀ surroundings progress after, progress.Within stream →
      rule.run (Nonterminal.run depth) surroundings progress = .next after → after.Spotless →
        progress.stream.position < after.stream.position) :
    (Rule.loop rule).Carries stream other (Nonterminal.run depth) (arrives ∧ rests) rests := by
  intro surroundings there before after fits within comes spotless concerns
  have done : (Rule.loop rule).run (Nonterminal.run depth) surroundings before =
      .next after := by
    rcases comes with done | left
    · exact done
    · exact absurd left (Outcome.Takes.repeatRounds_ne_leave _ _ _ _)
  rw [done]
  have size := within.size
  have bounded := within.bounded
  have longer := continues.size
  refine carries.rounds takes fits within done spotless concerns ?_ ?_
  · unfold TokenStream.remaining TokenStream.size
    omega
  · show _ ≤ other.body.size + 1 - before.stream.position + 1
    unfold TokenStream.remaining TokenStream.size
    omega

end Rule.Carries
end Offside
