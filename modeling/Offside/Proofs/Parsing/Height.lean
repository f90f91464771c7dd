import Offside.Proofs.Grammar.Rise
import Offside.Proofs.Parsing.Reports
import Offside.Proofs.Tree.Height
import Offside.Text.XidStart

namespace Offside

/-!
# The limit of nesting bounds the height of a tree

What the analysis of the grammar says about heights is true of every run.  A run is seen
from some place at which `start` levels were charged; the levels that were left there are
what the bound is made of.  Children that were there before the run may be higher than
that, so the bound of the run holds above whatever `kept` allows for them.
-/

namespace Progress

/-- A parse that was at some place with `start` levels charged has built no higher since
than a rise says. -/
structure Low (limit start kept : Nat) (rise : Rise) (progress : Progress) : Prop where
  charged : start ≤ progress.depth
  within : progress.depth ≤ limit
  below : progress.builder.Below
    (max kept (rise.bound (limit - start) (progress.depth - start)))

namespace Low

variable {limit start kept : Nat} {rise other : Rise} {progress before after inner : Progress}

theorem mono (low : progress.Low limit start kept rise) (within : rise.within other = true) :
    progress.Low limit start kept other where
  charged := low.charged
  within := low.within
  below := low.below.mono (Rise.max_bound_le within (Nat.le_refl _) (Nat.le_refl _))

/-- What is said depends on the children that are built and on the levels charged. -/
theorem of_same (low : before.Low limit start kept rise) (depth : after.depth = before.depth)
    (children : after.builder.children = before.builder.children) :
    after.Low limit start kept rise where
  charged := depth ▸ low.charged
  within := depth ▸ low.within
  below := by
    rw [depth]
    exact low.below.of_children children

/-- At any time a new account can be opened for what is built from then on. -/
theorem opened (low : progress.Low limit start kept rise) :
    progress.Low limit progress.depth
      (max kept (rise.bound (limit - start) (progress.depth - start))) .zero where
  charged := Nat.le_refl _
  within := low.within
  below := low.below.mono (Nat.le_max_left _ _)

/-- An account that was opened on the way is closed. -/
theorem closed (low : before.Low limit start kept rise)
    (further : after.Low limit before.depth
      (max kept (rise.bound (limit - start) (before.depth - start))) other) :
    after.Low limit start kept (rise.sup other) := by
  have levels : limit - before.depth ≤ limit - start := Nat.sub_le_sub_left low.charged limit
  have charges : after.depth - before.depth ≤ after.depth - start :=
    Nat.sub_le_sub_left low.charged _
  refine ⟨Nat.le_trans low.charged further.charged, further.within, further.below.mono ?_⟩
  refine Nat.max_le.mpr ⟨Rise.max_bound_le (Rise.within_sup_left _ _) (Nat.le_refl _)
    (Nat.sub_le_sub_right further.charged _), ?_⟩
  exact Nat.le_trans (Rise.bound_le (Rise.within_sup_right _ _) levels charges)
    (Nat.le_max_right _ _)

theorem take (low : progress.Low limit start kept rise) :
    progress.take.Low limit start kept (rise.sup .token) := by
  have wider := low.mono (Rise.within_sup_left rise .token)
  refine ⟨wider.charged, wider.within, wider.below.pushToken _ ?_⟩
  have room : 1 ≤ (rise.sup .token).base := Nat.le_max_right _ _
  unfold Rise.bound
  omega

theorem openNode (low : progress.Low limit start kept rise) (kind : NodeKind) :
    (progress.openNode kind).Low limit progress.depth 0 .zero where
  charged := Nat.le_refl _
  within := low.within
  below := Builder.below_new kind

/-- A node stands one step above what was built in it. -/
theorem closeNode (low : progress.Low limit start kept rise)
    (built : inner.Low limit progress.depth 0 other) (part : Option FieldName) :
    (inner.closeNode progress.builder part).Low limit start kept (rise.sup other.up) := by
  have height : inner.builder.finish.height ≤
      max kept ((rise.sup other.up).bound (limit - start) (inner.depth - start)) := by
    have inside := Builder.height_finish_le built.below
    have levels : limit - progress.depth ≤ limit - start := Nat.sub_le_sub_left low.charged _
    have charges : inner.depth - progress.depth ≤ inner.depth - start :=
      Nat.sub_le_sub_left low.charged _
    have above := Rise.bound_le (Rise.within_sup_right rise other.up) levels charges
    rw [Rise.bound_up] at above
    omega
  have around : progress.builder.Below
      (max kept ((rise.sup other.up).bound (limit - start) (inner.depth - start))) :=
    low.below.mono (Rise.max_bound_le (Rise.within_sup_left rise other.up)
      (Nat.le_refl (limit - start)) (Nat.sub_le_sub_right built.charged start))
  refine ⟨Nat.le_trans low.charged built.charged, built.within, ?_⟩
  cases part with
  | none => exact around.push height
  | some part => exact around.pushField part height

theorem wrap (low : progress.Low limit start 0 rise) (kind : NodeKind) :
    (progress.wrap kind).Low limit start 0 rise.up := by
  refine ⟨low.charged, low.within, (Builder.below_new _).push ?_⟩
  have renamed : ({ progress.builder with kind := kind } : Builder).Below
      (max 0 (rise.bound (limit - start) (progress.depth - start))) := low.below.of_children rfl
  have inside := Builder.height_finish_le renamed
  have up := Rise.bound_up rise (limit - start) (progress.depth - start)
  show _ ≤ max 0 (rise.up.bound (limit - start) (progress.depth - start))
  omega

theorem addsFaulty (adds : before.AddsFaulty after) (low : before.Low limit start kept rise) :
    after.Low limit start kept (rise.sup .faulty) := by
  have wider := low.mono (Rise.within_sup_left rise .faulty)
  rcases adds with ⟨depth, same | ⟨faulty, _, flat, _, _, pushed⟩⟩
  · exact wider.of_same depth (congrArg Builder.children same)
  · refine ⟨depth ▸ wider.charged, depth ▸ wider.within, ?_⟩
    rw [pushed, depth]
    refine wider.below.push (Nat.le_trans (Node.height_le_of_isFlat flat) ?_)
    have room : 2 ≤ (rise.sup .faulty).base := Nat.le_max_right _ _
    unfold Rise.bound
    omega

/-! ## Charging levels -/

/-- A link of a chain is charged, if there is a level left. -/
theorem link {session : Session} (same : session.maxDepth = limit)
    (low : progress.Low limit start kept rise) {left : Progress → Prop} :
    (progress.charge session).Yields (·.Low limit start kept rise.linked) left := by
  refine (progress.charge_yields session).mono ?_ fun _ => id
  rintro after ⟨room, rfl⟩
  have charged := low.charged
  refine ⟨Nat.le_succ_of_le charged, same ▸ room, low.below.mono ?_⟩
  have paid := Rise.bound_le_linked rise (limit - start) (progress.depth - start)
  rw [← Nat.sub_add_comm charged] at paid
  show _ ≤ max kept (rise.linked.bound (limit - start) (progress.depth + 1 - start))
  omega

/-- A chain gives its levels back. -/
theorem released (low : after.Low limit start kept rise) (depth : Nat)
    (charged : start ≤ depth) (within : depth ≤ limit) :
    ({ after with depth := depth } : Progress).Low limit start kept rise.released where
  charged := charged
  within := within
  below := low.below.mono <| by
    have back := rise.bound_le_released (Nat.sub_le_sub_right low.within start)
    have fewer := Rise.bound_le (Rise.within_refl rise.released)
      (Nat.le_refl (limit - start)) (Nat.zero_le (depth - start))
    show _ ≤ max kept (rise.released.bound (limit - start) (depth - start))
    omega

/-- One level of nesting is charged, if there is one left. -/
theorem nest {session : Session} (same : session.maxDepth = limit)
    (low : progress.Low limit start kept rise) {left : Progress → Prop} :
    (progress.charge session).Yields
      (·.Low limit (progress.depth + 1)
        (max kept (rise.bound (limit - start) (progress.depth - start))) .zero) left := by
  refine (progress.charge_yields session).mono ?_ fun _ => id
  rintro after ⟨room, rfl⟩
  exact ⟨Nat.le_refl _, same ▸ room, low.below.mono (Nat.le_max_left _ _)⟩

/-- What was built in one level of nesting is paid for by that level. -/
theorem unnest (low : before.Low limit start kept rise)
    (inside : after.Low limit (before.depth + 1)
      (max kept (rise.bound (limit - start) (before.depth - start))) other)
    (fits : other.fits = true) :
    ({ after with depth := before.depth } : Progress).Low limit start kept rise where
  charged := low.charged
  within := low.within
  below := by
    have charged := low.charged
    have later := inside.charged
    have within := inside.within
    have paid : other.bound (limit - (before.depth + 1)) (after.depth - (before.depth + 1)) ≤
        rise.bound (limit - start) (before.depth - start) :=
      Nat.le_trans (other.bound_le_of_fits fits (Nat.sub_le_sub_right within _))
        (Rise.bound_le (Rise.zero_within rise) (by omega) (Nat.zero_le _))
    exact inside.below.mono (Nat.max_le.mpr
      ⟨Nat.le_refl _, Nat.le_trans paid (Nat.le_max_right _ _)⟩)

theorem settle (low : progress.Low limit start kept rise) (session : Session)
    (ambiguity : Ambiguity) : (progress.settle session ambiguity).2.Low limit start kept rise := by
  rcases progress.exists_settle_eq session ambiguity with ⟨_, settled⟩
  rw [settled]
  exact low.of_same rfl rfl

end Low
end Progress

/-! ## Running the grammar -/

/-- Calls of nonterminals build no higher than the nonterminals are said to. -/
def LowCalls (limit : Nat) (call : Surroundings → Nonterminal → Progress → Outcome) : Prop :=
  ∀ surroundings nonterminal progress kept, surroundings.session.maxDepth = limit →
    progress.Low limit progress.depth kept .zero →
    (call surroundings nonterminal progress).Yields
      (·.Low limit progress.depth kept nonterminal.rise)
      (·.Low limit progress.depth kept nonterminal.rise)

/-- Of two ways the former was taken, and the estimate is for both. -/
theorem Outcome.Yields.low_former {limit start kept : Nat} {outcome : Outcome}
    {former latter : Estimate Rise}
    (low : outcome.Yields (·.Low limit start kept former.done)
      (·.Low limit start kept former.left)) :
    outcome.Yields (·.Low limit start kept (former.done.sup latter.done))
      (·.Low limit start kept (former.left.sup latter.left)) :=
  low.mono (fun _ done => done.mono (Rise.within_sup_left _ _))
    fun _ left => left.mono (Rise.within_sup_left _ _)

/-- Of two ways the latter was taken. -/
theorem Outcome.Yields.low_latter {limit start kept : Nat} {outcome : Outcome}
    {former latter : Estimate Rise}
    (low : outcome.Yields (·.Low limit start kept latter.done)
      (·.Low limit start kept latter.left)) :
    outcome.Yields (·.Low limit start kept (former.done.sup latter.done))
      (·.Low limit start kept (former.left.sup latter.left)) :=
  low.mono (fun _ done => done.mono (Rise.within_sup_right _ _))
    fun _ left => left.mono (Rise.within_sup_right _ _)

/-- The estimates are right.  By induction on the rule, with one case for each of its
forms. -/
theorem Rule.run_low {limit : Nat} {call : Surroundings → Nonterminal → Progress → Outcome}
    (calls : LowCalls limit call) (rule : Rule) {surroundings : Surroundings}
    (same : surroundings.session.maxDepth = limit) {start kept : Nat} {rise : Rise}
    {progress : Progress} (keeps : rule.keepsBuilt = true ∨ kept = 0)
    (sound : (rule.rise rise).sound = true) (low : progress.Low limit start kept rise) :
    (rule.run call surroundings progress).Yields
      (·.Low limit start kept (rule.rise rise).done)
      (·.Low limit start kept (rule.rise rise).left) := by
  induction rule generalizing surroundings start kept rise progress with
  | done => exact low
  | seq first second one two =>
      rcases Bool.and_eq_true_iff.mp sound with ⟨soundFirst, soundSecond⟩
      rw [keepsBuilt, Bool.and_eq_true] at keeps
      have began := one same (keeps.imp_left And.left) soundFirst low
      refine .andThen (began.mono (fun _ => id)
        fun _ left => left.mono (Rise.within_sup_left _ _)) fun middle reached => ?_
      exact (two same (keeps.imp_left And.right) soundSecond reached).mono (fun _ => id)
        fun _ left => left.mono (Rise.within_sup_right _ _)
  | take => exact low.take
  | call nonterminal =>
      exact (calls surroundings nonterminal progress _ same low.opened).mono
        (fun _ => low.closed) fun _ => low.closed
  | node part kind rule inductionHypothesis =>
      exact (inductionHypothesis same (.inr rfl) sound (low.openNode kind)).map
        (fun _ built => low.closeNode built part) fun _ built => low.closeNode built part
  | become kind => exact low.of_same rfl rfl
  | nameFirst part => exact low.of_same rfl (Builder.children_attach _ _ _)
  | wrap kind =>
      cases keeps.resolve_left Bool.false_ne_true
      exact low.wrap kind
  | choose condition yes no whenHeld otherwise =>
      rcases Bool.and_eq_true_iff.mp sound with ⟨soundYes, soundNo⟩
      rw [keepsBuilt, Bool.and_eq_true] at keeps
      unfold run
      split
      · exact (whenHeld same (keeps.imp_left And.left) soundYes low).low_former
      · exact (otherwise same (keeps.imp_left And.right) soundNo low).low_latter
  | settle ambiguity first second either or =>
      rcases Bool.and_eq_true_iff.mp sound with ⟨soundFirst, soundSecond⟩
      rw [keepsBuilt, Bool.and_eq_true] at keeps
      have settled := low.settle surroundings.session ambiguity
      unfold run
      dsimp only
      split
      · exact (either same (keeps.imp_left And.left) soundFirst settled).low_former
      · exact (or same (keeps.imp_left And.right) soundSecond settled).low_latter
  | loop rule inductionHypothesis =>
      rcases Bool.and_eq_true_iff.mp sound with ⟨soundRound, steady⟩
      have started := low.mono (Rise.within_sup_left rise (rule.rise rise).done)
      refine (Outcome.Yields.repeatRounds (fun middle reached =>
        (inductionHypothesis same keeps soundRound reached).mono
          (fun _ done => done.mono steady) fun _ => id) _ started).mono ?_ fun _ => id
      rintro after (whenDone | whenLeft)
      · exact whenDone.mono (Rise.within_sup_left _ _)
      · exact whenLeft.mono (Rise.within_sup_right _ _)
  | leave => exact low
  | nested rule inductionHypothesis =>
      simp only [Rule.rise, Bool.and_eq_true] at sound
      rcases sound with ⟨⟨⟨keepsInside, fitsDone⟩, fitsLeft⟩, soundInside⟩
      exact ((low.nest same).andThen fun middle reached =>
          inductionHypothesis same (.inl keepsInside) soundInside reached).map
        (fun _ inside => low.unnest inside fitsDone) fun _ inside => low.unnest inside fitsLeft
  | chain rule inductionHypothesis =>
      exact (inductionHypothesis same keeps sound low).map
        (fun _ done => done.released _ low.charged low.within)
        fun _ left => left.released _ low.charged low.within
  | link => exact low.link same
  | withBraces allowed rule inductionHypothesis =>
      have allowing : ({ surroundings with bracesAllowed := allowed } :
          Surroundings).session.maxDepth = limit := same
      exact inductionHypothesis allowing keeps sound low
  | recover rule inductionHypothesis =>
      refine .recover ((inductionHypothesis same keeps sound low).mono
        (fun _ done => done.mono (Rise.within_sup_left _ _)) fun _ => id) fun _ _ => ?_
      exact (low.addsFaulty (Progress.addsFaulty_addFaulty _).of_restarted).mono
        (Rise.within_sup_right _ _)
  | reject expected =>
      exact low.addsFaulty (Progress.addsFaulty_reportFailure progress _)
  | fail expected => exact True.intro
  | failMissing kind part => exact True.intro

/-- By induction on the number of nonterminals that may be open. -/
theorem Nonterminal.run_low (limit depth : Nat) : LowCalls limit (Nonterminal.run depth) := by
  induction depth with
  | zero => exact fun _ _ _ _ _ _ => True.intro
  | succ depth inductionHypothesis =>
      intro surroundings nonterminal progress kept same low
      have checked := nonterminal.isLow_eq_true
      simp only [isLow, Bool.and_eq_true] at checked
      rcases checked with ⟨⟨⟨keeps, sound⟩, done⟩, left⟩
      exact (Rule.run_low inductionHypothesis nonterminal.rule same (.inl keeps) sound low).mono
        (fun _ low => low.mono done) fun _ low => low.mono left

/-! ## The whole source -/

/-- Outside of all definitions there are tokens and faulty input, and the definitions have
charged for whatever they hold. -/
theorem Progress.kept_low (session : Session) :
    Progress.Kept session (·.Low session.maxDepth 0 0 .faulty) where
  take progress low := low.take.mono (by decide)
  definition progress low := by
    refine yields_definition progress ?_ fun after adds => (low.addsFaulty adds).mono (by decide)
    exact (Nonterminal.run_low session.maxDepth _ _ .definition progress _ rfl low.opened).mono
      (fun _ done => (low.closed done).mono (by decide))
      fun _ left => (low.closed left).mono (by decide)
  faulty before after adds low := (low.addsFaulty adds).mono (by decide)

theorem height_parseStream_le (session : Session) (stream : TokenStream) :
    (parseStream session stream).root.height ≤
      16 * ((session.maxDepth + 1) * (session.maxDepth + 1)) := by
  have kept := Progress.kept_low session
  have started : (Progress.start stream .compilationUnit).Low session.maxDepth 0 0 .faulty :=
    ⟨Nat.le_refl 0, Nat.zero_le _, Builder.below_new _⟩
  have ended := kept.take _ (kept.definitions (stream.size + 1) started)
  have height := Builder.height_finish_le ended.below
  have paid := Rise.faulty.up.bound_le_of_fits rfl ended.within
  rw [Rise.bound_up, Rise.bound_zero] at paid
  rw [Nat.zero_max, Nat.sub_zero, Nat.sub_zero] at height
  exact Nat.le_trans height paid

/-- The limit of nesting bounds the length of every way down a tree, whatever the source
is. -/
theorem parse_height [XidStart] (source : String) (options : ParseOptions) {path : List Element}
    (way : (Element.node (parse source options).root).Path path) :
    path.length ≤ 16 * ((options.maxDepth + 1) * (options.maxDepth + 1)) :=
  Nat.le_trans way.length_le (height_parseStream_le (sessionOf source options) _)

/-- The longest way down `f` ends at the number in brackets. -/
theorem parse_height_brackets :
    ∃ path, (Element.node (parse "def f() = (1)\n" ⟨4, 8⟩).root).Path path ∧
      path.length = 7 ∧ path.length ≤ 16 * ((8 + 1) * (8 + 1)) := by
  rcases Node.exists_path (parse "def f() = (1)\n" ⟨4, 8⟩).root with ⟨path, way, longest⟩
  have height : (parse "def f() = (1)\n" ⟨4, 8⟩).root.height = 7 := by decide +kernel
  exact ⟨path, way, longest.trans height, parse_height "def f() = (1)\n" ⟨4, 8⟩ way⟩

end Offside
