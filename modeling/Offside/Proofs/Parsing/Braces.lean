import Offside.Proofs.Grammar.Braces
import Offside.Proofs.Parsing.Outcomes

namespace Offside

/-!
# What lies open in a parse

Faulty input or a call with an argument in curly brackets that lies open in the node under
construction lies open in it from then on.  Nodes that are put around it enclose nothing, as
long as they are not brackets, and neither do names and changes of kind.  No report is taken
back either.

So whether a parse has come by such a call can be told in the end from its tree.
-/

namespace Progress

/-! ## Reports add up -/

/-- No report is taken back, and at the end of the source nothing moves on. -/
structure Continues (before after : Progress) : Prop where
  reports : before.diagnostics.size ≤ after.diagnostics.size
  ended : before.stream.atEnd = true → after.stream = before.stream

variable {before middle after inner progress : Progress}

namespace Continues

theorem of_same (stream : after.stream = before.stream)
    (reports : before.diagnostics.size ≤ after.diagnostics.size) : before.Continues after :=
  ⟨reports, fun _ => stream⟩

theorem refl (progress : Progress) : progress.Continues progress :=
  .of_same rfl (Nat.le_refl _)

theorem trans (first : before.Continues middle) (second : middle.Continues after) :
    before.Continues after := by
  refine ⟨Nat.le_trans first.reports second.reports, fun atEnd => ?_⟩
  have stays := first.ended atEnd
  exact (second.ended (by rw [stays, atEnd])).trans stays

theorem settle (session : Session) (progress : Progress) (ambiguity : Ambiguity) :
    progress.Continues (progress.settle session ambiguity).2 := by
  unfold Progress.settle
  split
  · exact .refl progress
  · dsimp only
    split
    · exact .refl progress
    · refine .of_same rfl ?_
      show _ ≤ (progress.diagnostics.push _).size
      rw [Array.size_push]
      exact Nat.le_succ _

theorem addFaulty (progress : Progress) : progress.Continues progress.addFaulty := by
  refine ⟨Nat.le_of_eq (congrArg Array.size (diagnostics_addFaulty progress).symm),
    fun atEnd => ?_⟩
  have nothing : (progress.openNode .error).gather 0 = progress.openNode .error := by
    unfold gather
    exact dif_pos atEnd
  unfold Progress.addFaulty
  dsimp only
  rw [nothing]
  rfl

theorem restarted {failure : Failure} {diagnostics : Array Diagnostic}
    (reports : before.diagnostics.size ≤ diagnostics.size) :
    before.Continues (before.restarted failure diagnostics) := by
  refine .of_same (stream_restarted _ _ _) (Nat.le_trans reports ?_)
  have reported := diagnostics_restarted before failure diagnostics
  rw [← Array.length_toList, ← Array.length_toList, reported, List.length_append]
  exact Nat.le_add_right _ _

end Continues

/-- A failure that the lexer has not reported adds a report. -/
theorem size_restarted {failure : Failure} (diagnostics : Array Diagnostic)
    (unreported : failure.reported = false) :
    (before.restarted failure diagnostics).diagnostics.size = diagnostics.size + 1 := by
  rw [← Array.length_toList, diagnostics_restarted, unreported, List.length_append,
    Array.length_toList]
  rfl

end Progress

namespace Outcome

/-- The rule took no report back, and at the end of the source it has gone nowhere.  It left
the loop around it only if it can. -/
def Continues (before : Progress) (rule : Rule) : Outcome → Prop
  | next after => before.Continues after
  | leave after => rule.stays = false ∧ before.Continues after
  | failed failure diagnostics => before.diagnostics.size ≤ diagnostics.size ∧
    (before.stream.atEnd = true → failure.reported = false)

namespace Continues

variable {before middle : Progress} {rule other first second : Rule} {outcome : Outcome}

theorem weaken (continues : outcome.Continues before rule)
    (stays : rule.stays = false → other.stays = false) : outcome.Continues before other := by
  cases outcome with
  | leave after => exact ⟨stays continues.1, continues.2⟩
  | _ => exact continues

theorem of_continues (earlier : before.Continues middle)
    (continues : outcome.Continues middle rule) : outcome.Continues before rule := by
  cases outcome with
  | next after => exact earlier.trans continues
  | leave after => exact ⟨continues.1, earlier.trans continues.2⟩
  | failed failure diagnostics =>
      refine ⟨Nat.le_trans earlier.reports continues.1, fun atEnd => continues.2 ?_⟩
      rw [earlier.ended atEnd, atEnd]

theorem andThen {rest : Progress → Outcome} (once : outcome.Continues before first)
    (further : ∀ middle, (rest middle).Continues middle second) :
    (outcome.andThen rest).Continues before (.seq first second) := by
  cases outcome with
  | next middle =>
      refine of_continues once ((further middle).weaken fun stays => ?_)
      show (first.stays && second.stays) = false
      rw [stays, Bool.and_false]
  | leave after =>
      refine ⟨?_, once.2⟩
      show (first.stays && second.stays) = false
      rw [once.1, Bool.false_and]
  | failed failure diagnostics => exact once

/-- A change behind a rule that touches neither the stream nor the reports. -/
theorem map {change : Progress → Progress} (continues : outcome.Continues before rule)
    (stream : ∀ after, (change after).stream = after.stream)
    (reports : ∀ after, (change after).diagnostics = after.diagnostics) :
    (outcome.map change).Continues before rule := by
  have changes : ∀ after, before.Continues after → before.Continues (change after) :=
    fun after upheld => upheld.trans (.of_same (stream after) (by rw [reports]))
  cases outcome with
  | next after => exact changes after continues
  | leave after => exact ⟨continues.1, changes after continues.2⟩
  | failed failure diagnostics => exact continues

theorem repeatRounds {round : Progress → Outcome}
    (each : ∀ progress, (round progress).Continues progress rule) (rounds : Nat)
    (progress : Progress) : (repeatRounds round rounds progress).Continues progress other := by
  induction rounds generalizing progress with
  | zero => exact .refl progress
  | succ rounds inductionHypothesis =>
      have once := each progress
      unfold Offside.repeatRounds
      cases came : round progress with
      | next after =>
          rw [came] at once
          exact of_continues once (inductionHypothesis after)
      | leave after =>
          rw [came] at once
          exact once.2
      | failed failure diagnostics =>
          rw [came] at once
          exact once

theorem recover (continues : outcome.Continues before rule) :
    (before.recover outcome).Continues before rule := by
  cases outcome with
  | failed failure diagnostics =>
      unfold Progress.recover
      dsimp only
      split
      · exact continues
      · exact (Progress.Continues.restarted continues.1).trans (.addFaulty _)
  | _ => exact continues

theorem charge (session : Session) (progress : Progress) :
    (progress.charge session).Continues progress rule := by
  unfold Progress.charge
  split
  · exact ⟨Nat.le_refl _, fun _ => rfl⟩
  · exact .of_same rfl (Nat.le_refl _)

end Continues
end Outcome

/-- At the end of the source there is no token that marks an error. -/
theorem TokenStream.isError_of_atEnd {stream : TokenStream} (atEnd : stream.atEnd = true) :
    stream.kind.isError = false := by
  rw [show stream.kind = .endOfFile from beq_iff_eq.mp atEnd]
  rfl

/-- By induction on the rule, with one case for each of its forms. -/
theorem Rule.run_continues {call : Surroundings → Nonterminal → Progress → Outcome}
    (calls : ∀ surroundings nonterminal progress,
      (call surroundings nonterminal progress).Continues progress (.call nonterminal))
    (rule : Rule) (surroundings : Surroundings) (progress : Progress) :
    (rule.run call surroundings progress).Continues progress rule := by
  induction rule generalizing surroundings progress with
  | done => exact .refl progress
  | seq first second one two => exact .andThen (one surroundings progress) (two surroundings)
  | take => exact ⟨Nat.le_refl _, fun atEnd => if_pos atEnd⟩
  | call nonterminal => exact calls surroundings nonterminal progress
  | node part kind rule inductionHypothesis =>
      have opened : progress.Continues (progress.openNode kind) := .of_same rfl (Nat.le_refl _)
      have inside := inductionHypothesis surroundings (progress.openNode kind)
      exact ((Outcome.Continues.of_continues opened inside).weaken id).map (fun _ => rfl)
        fun _ => rfl
  | become kind => exact .of_same rfl (Nat.le_refl _)
  | nameFirst part => exact .of_same rfl (Nat.le_refl _)
  | wrap kind => exact .of_same rfl (Nat.le_refl _)
  | choose condition yes no whenHeld otherwise =>
      unfold run
      split
      · refine (whenHeld surroundings progress).weaken fun stays => ?_
        show (yes.stays && no.stays) = false
        rw [stays, Bool.false_and]
      · refine (otherwise surroundings progress).weaken fun stays => ?_
        show (yes.stays && no.stays) = false
        rw [stays, Bool.and_false]
  | settle ambiguity first second either or =>
      have settled := Progress.Continues.settle surroundings.session progress ambiguity
      unfold run
      dsimp only
      split
      · refine .of_continues settled ((either surroundings _).weaken fun stays => ?_)
        show (first.stays && second.stays) = false
        rw [stays, Bool.false_and]
      · refine .of_continues settled ((or surroundings _).weaken fun stays => ?_)
        show (first.stays && second.stays) = false
        rw [stays, Bool.and_false]
  | loop rule inductionHypothesis =>
      exact .repeatRounds (inductionHypothesis surroundings) _ progress
  | leave => exact ⟨rfl, .refl progress⟩
  | nested rule inductionHypothesis =>
      have deeper : (progress.charge surroundings.session).Continues progress .done :=
        .charge surroundings.session progress
      have inside := deeper.andThen (inductionHypothesis surroundings)
      exact (inside.weaken id).map (fun _ => rfl) fun _ => rfl
  | chain rule inductionHypothesis =>
      exact ((inductionHypothesis surroundings progress).weaken id).map (fun _ => rfl)
        fun _ => rfl
  | link => exact .charge surroundings.session progress
  | withBraces allowed rule inductionHypothesis =>
      exact (inductionHypothesis _ progress).weaken id
  | recover rule inductionHypothesis =>
      exact ((inductionHypothesis surroundings progress).weaken id).recover
  | reject expected =>
      exact (Progress.Continues.restarted (Nat.le_refl progress.diagnostics.size)).trans
        (.addFaulty _)
  | fail expected => exact ⟨Nat.le_refl _, TokenStream.isError_of_atEnd⟩
  | failMissing kind part => exact ⟨Nat.le_refl _, TokenStream.isError_of_atEnd⟩

theorem Nonterminal.run_continues (depth : Nat) (surroundings : Surroundings)
    (nonterminal : Nonterminal) (progress : Progress) :
    (Nonterminal.run depth surroundings nonterminal progress).Continues progress
      (.call nonterminal) := by
  induction depth generalizing surroundings nonterminal progress with
  | zero => exact ⟨Nat.le_refl _, fun _ => rfl⟩
  | succ depth inductionHypothesis =>
      refine (nonterminal.rule.run_continues inductionHypothesis surroundings
        progress).weaken fun leaves => ?_
      rw [nonterminal.rule_stays] at leaves
      cases leaves

/-! ## What lies open stays open -/

/-- What lies open stays open.  A kind that is fixed does not change. -/
structure Builder.Upholds (before after : Builder) (fixed : Bool) : Prop where
  kind : after.kind = before.kind ∨ (fixed = false ∧ after.kind.encloses = false)
  exposes : before.Exposes → after.Exposes

namespace Builder.Upholds

variable {before middle after : Builder} {fixed : Bool}

theorem kind_eq (upholds : before.Upholds after true) : after.kind = before.kind :=
  upholds.kind.resolve_right fun changed => Bool.false_ne_true changed.1.symm

theorem refl (builder : Builder) : builder.Upholds builder fixed := ⟨.inl rfl, id⟩

theorem trans (first : before.Upholds middle fixed) (second : middle.Upholds after fixed) :
    before.Upholds after fixed := by
  refine ⟨?_, fun exposes => second.exposes (first.exposes exposes)⟩
  rcases second.kind with same | changed
  · rw [same]
    exact first.kind
  · exact .inr changed

theorem push (builder : Builder) (node : Node) : builder.Upholds (builder.push node) fixed :=
  ⟨.inl (kind_push _ _), fun exposes => exposes.push node⟩

theorem pushField (builder : Builder) (part : FieldName) (node : Node) :
    builder.Upholds (builder.pushField part node) fixed := by
  refine ⟨.inl (kind_pushField _ _ _), fun exposes => ?_⟩
  unfold Exposes
  rw [children_pushField]
  exact exposes.push node

theorem attach (builder : Builder) (part : FieldName) (index : Nat) :
    builder.Upholds (builder.attach part index) fixed := by
  refine ⟨.inl (kind_attach _ _ _), fun exposes => ?_⟩
  unfold Exposes
  rw [children_attach]
  exact exposes

end Builder.Upholds

namespace Progress

variable {before after inner progress : Progress} {fixed : Bool}

theorem upholds_closeNode (inner : Progress) (outer : Builder) (part : Option FieldName) :
    outer.Upholds (inner.closeNode outer part).builder fixed := by
  cases part with
  | none => exact .push outer _
  | some part => exact .pushField outer part _

theorem upholds_wrap (progress : Progress) {kind : NodeKind} (lies : kind.encloses = false) :
    progress.builder.Upholds (progress.wrap kind).builder fixed :=
  ⟨.inl (Builder.kind_push _ _), fun (exposes : { progress.builder with kind }.Exposes) =>
    exposes.finish lies (.new progress.builder.kind)⟩

theorem AddsFaulty.upholds (adds : before.AddsFaulty after) :
    before.builder.Upholds after.builder fixed := by
  rcases adds.builder with same | ⟨faulty, _, _, _, _, pushed⟩
  · rw [same]
    exact .refl _
  · rw [pushed]
    exact .push _ faulty

theorem children_closeNode (inner : Progress) (outer : Builder) (part : Option FieldName) :
    (inner.closeNode outer part).builder.children =
      (outer.push inner.builder.finish).children := by
  cases part with
  | none => rfl
  | some part => exact outer.children_pushField part inner.builder.finish

/-- What lies open inside of a node lies open around it, unless the node encloses it. -/
theorem exposes_closeNode (exposes : inner.builder.Exposes)
    (lies : inner.builder.kind.encloses = false) (outer : Builder) (part : Option FieldName) :
    (inner.closeNode outer part).builder.Exposes := by
  unfold Builder.Exposes
  rw [children_closeNode]
  exact exposes.finish lies outer

/-- Before the end of the source faulty input lies open. -/
theorem exposes_addFaulty (inside : progress.stream.atEnd = false) :
    progress.addFaulty.builder.Exposes := by
  rcases gather_gathers (progress.openNode .error) 0 with ⟨_, gathers, _⟩
  have faulty : ((progress.openNode .error).gather 0).builder.finish.kind = .error :=
    gathers.kind
  rw [addFaulty_eq_closeNode inside]
  refine Builder.exposes_push _ (Node.exposes_of_error faulty) fun hidden => ?_
  rw [faulty] at hidden
  cases hidden

end Progress

/-- What a rule makes of the node under construction, whether it is done or leaves the loop
around it. -/
abbrev Outcome.Upholds (before : Builder) (fixed : Bool) (outcome : Outcome) : Prop :=
  outcome.Yields (fun after => before.Upholds after.builder fixed)
    fun after => before.Upholds after.builder fixed

/-- What each round keeps open stays open.  By induction on the number of rounds. -/
theorem Outcome.upholds_repeatRounds {round : Progress → Outcome} {fixed : Bool}
    (each : ∀ progress, (round progress).Upholds progress.builder fixed) (rounds : Nat)
    (progress : Progress) :
    (repeatRounds round rounds progress).Upholds progress.builder fixed := by
  have again : ∀ middle : Progress, progress.builder.Upholds middle.builder fixed →
      (round middle).Upholds progress.builder fixed := fun middle earlier =>
    (each middle).mono (fun _ done => earlier.trans done) fun _ left => earlier.trans left
  exact (Yields.repeatRounds again rounds (.refl _)).mono (fun _ either => either.elim id id)
    fun _ => id

/-- By induction on the rule, with one case for each of its forms. -/
theorem Rule.run_upholds {call : Surroundings → Nonterminal → Progress → Outcome}
    (calls : ∀ surroundings nonterminal progress,
      (call surroundings nonterminal progress).Upholds progress.builder true)
    {rule : Rule} {fixed : Bool} (upholds : rule.upholds fixed = true)
    (surroundings : Surroundings) (progress : Progress) :
    (rule.run call surroundings progress).Upholds progress.builder fixed := by
  induction rule generalizing surroundings progress with
  | done => exact .refl _
  | seq first second one two =>
      rcases Bool.and_eq_true_iff.mp upholds with ⟨former, latter⟩
      have further : ∀ middle : Progress, progress.builder.Upholds middle.builder fixed →
          (second.run call surroundings middle).Upholds progress.builder fixed :=
        fun middle earlier => (two latter surroundings middle).mono
          (fun _ done => earlier.trans done) fun _ left => earlier.trans left
      exact (one former surroundings progress).andThen further
  | take => exact ⟨.inl rfl, fun exposes => exposes.pushToken _⟩
  | call nonterminal =>
      have loosened : ∀ after : Progress, progress.builder.Upholds after.builder true →
          progress.builder.Upholds after.builder fixed := fun after upheld =>
        ⟨.inl upheld.kind_eq, upheld.exposes⟩
      exact (calls surroundings nonterminal progress).mono loosened loosened
  | node part kind rule inductionHypothesis =>
      unfold run
      dsimp only
      cases rule.run call surroundings (progress.openNode kind) with
      | next inner => exact inner.upholds_closeNode progress.builder part
      | leave inner => exact inner.upholds_closeNode progress.builder part
      | failed failure diagnostics => exact True.intro
  | become kind =>
      rcases Bool.and_eq_true_iff.mp upholds with ⟨free, lies⟩
      refine ⟨.inr ⟨?_, ?_⟩, id⟩
      · simpa using free
      · simpa using lies
  | nameFirst part => exact .attach _ part 0
  | wrap kind => exact progress.upholds_wrap (by simpa [Rule.upholds] using upholds)
  | choose condition yes no whenHeld otherwise =>
      rcases Bool.and_eq_true_iff.mp upholds with ⟨former, latter⟩
      unfold run
      split
      · exact whenHeld former surroundings progress
      · exact otherwise latter surroundings progress
  | settle ambiguity first second either or =>
      rcases Bool.and_eq_true_iff.mp upholds with ⟨former, latter⟩
      rcases progress.exists_run_settle call ambiguity first second surroundings with
        ⟨_, runs | runs⟩ <;> rw [runs]
      · exact either former surroundings _
      · exact or latter surroundings _
  | loop rule inductionHypothesis =>
      exact Outcome.upholds_repeatRounds (inductionHypothesis upholds surroundings) _ progress
  | leave => exact .refl _
  | nested rule inductionHypothesis =>
      have inside : ((progress.charge surroundings.session).andThen
          (rule.run call surroundings)).Upholds progress.builder fixed := by
        refine (progress.charge_yields surroundings.session).andThen ?_
        rintro middle ⟨_, rfl⟩
        exact inductionHypothesis upholds surroundings _
      exact inside.map (fun _ => id) fun _ => id
  | chain rule inductionHypothesis =>
      exact (inductionHypothesis upholds surroundings progress).map (fun _ => id) fun _ => id
  | link =>
      refine (progress.charge_yields surroundings.session).mono ?_ fun _ => id
      rintro after ⟨_, rfl⟩
      exact .refl _
  | withBraces allowed rule inductionHypothesis => exact inductionHypothesis upholds _ progress
  | recover rule inductionHypothesis =>
      exact (inductionHypothesis upholds surroundings progress).recover fun failure diagnostics =>
        (Progress.addsFaulty_addFaulty _).of_restarted.upholds
  | reject expected => exact (progress.addsFaulty_reportFailure _).upholds
  | fail expected => exact True.intro
  | failMissing kind part => exact True.intro

theorem Nonterminal.run_upholds (depth : Nat) (surroundings : Surroundings)
    (nonterminal : Nonterminal) (progress : Progress) :
    (Nonterminal.run depth surroundings nonterminal progress).Upholds progress.builder true := by
  induction depth generalizing surroundings nonterminal progress with
  | zero => exact True.intro
  | succ depth inductionHypothesis =>
      exact Rule.run_upholds inductionHypothesis (nonterminal.rule_upholds true) surroundings
        progress

/-! ## A call with an argument in curly brackets -/

namespace Outcome

/-- A group in curly brackets that may be an argument is among what has been built. -/
abbrev HoldsArgument (outcome : Outcome) : Prop :=
  outcome.Yields (fun after => after.builder.children.toList.any Element.isBraceArgument = true)
    fun _ => False

end Outcome

/-- What is relied upon of the calls of nonterminals in a single run. -/
structure OpenCalls (call : Surroundings → Nonterminal → Progress → Outcome) : Prop where
  continues : ∀ surroundings nonterminal progress,
    (call surroundings nonterminal progress).Continues progress (.call nonterminal)
  upholds : ∀ surroundings nonterminal progress,
    (call surroundings nonterminal progress).Upholds progress.builder true
  argument : ∀ surroundings nonterminal progress, nonterminal.isBraceArgument = true →
    (call surroundings nonterminal progress).HoldsArgument

namespace Rule

variable {call : Surroundings → Nonterminal → Progress → Outcome} (calls : OpenCalls call)
  {rule : Rule}
include calls

theorem run_buildsArgument (builds : rule.buildsArgument = true) (surroundings : Surroundings)
    (progress : Progress) : (rule.run call surroundings progress).HoldsArgument := by
  induction rule generalizing progress with
  | call nonterminal => exact calls.argument surroundings nonterminal progress builds
  | node part kind rule inductionHypothesis =>
      rcases Bool.and_eq_true_iff.mp builds with ⟨both, inside⟩
      rcases Bool.and_eq_true_iff.mp both with ⟨hidden, upholds⟩
      have built := inductionHypothesis inside (progress.openNode kind)
      have upheld := run_upholds calls.upholds upholds surroundings (progress.openNode kind)
      unfold run
      dsimp only
      cases came : rule.run call surroundings (progress.openNode kind) with
      | next inner =>
          rw [came] at built upheld
          have same : inner.builder.finish.kind = kind := upheld.kind_eq
          show (inner.closeNode progress.builder part).builder.children.toList.any _ = true
          rw [Progress.children_closeNode, Builder.children_push_of_hidden _ (by rw [same, hidden]),
            List.any_append]
          exact Bool.or_eq_true_iff.mpr (.inr built)
      | leave inner =>
          rw [came] at built
          exact built.elim
      | failed failure diagnostics => exact True.intro
  | settle ambiguity first second either or =>
      rcases Bool.and_eq_true_iff.mp builds with ⟨former, latter⟩
      unfold run
      dsimp only
      split
      · exact either former _
      · exact or latter _
  | _ => cases builds

theorem run_callsWithBraces (braces : rule.callsWithBraces = true)
    (surroundings : Surroundings) (progress : Progress) :
    (rule.run call surroundings progress).Yields (fun after => after.builder.Exposes)
      fun _ => False := by
  unfold callsWithBraces at braces
  split at braces
  · rename_i part argument
    have first : ((nameFirst part).run call surroundings progress).Yields (fun _ => True)
      fun _ => False := True.intro
    refine first.andThen fun named _ => ?_
    refine Outcome.Yields.andThen (run_buildsArgument calls braces surroundings named)
      fun called holds => ?_
    exact Builder.exposes_push _ (Node.exposes_of_call rfl holds) nofun
  · cases braces

end Rule

/-- A group in curly brackets is a node of its own. -/
theorem Rule.run_braceArgument (depth : Nat) {kind : NodeKind}
    (argument : kind.isBraceArgument = true) {rule : Rule} (upholds : rule.upholds true = true)
    (stays : rule.stays = true) (surroundings : Surroundings) (progress : Progress) :
    ((nested (node none kind rule)).run (Nonterminal.run depth) surroundings
      progress).HoldsArgument := by
  have inside : ∀ middle : Progress, ((node none kind rule).run (Nonterminal.run depth)
      surroundings middle).HoldsArgument := by
    intro middle
    have upheld := run_upholds (Nonterminal.run_upholds depth) upholds surroundings
      (middle.openNode kind)
    have continues := rule.run_continues (Nonterminal.run_continues depth) surroundings
      (middle.openNode kind)
    unfold run
    dsimp only
    cases came : rule.run (Nonterminal.run depth) surroundings (middle.openNode kind) with
    | next inner =>
        rw [came] at upheld
        have same : inner.builder.finish.kind = kind := upheld.kind_eq
        have shown : ¬ inner.builder.finish.kind.isHidden = true := by
          rw [same, NodeKind.isHidden_of_isBraceArgument argument]
          exact Bool.false_ne_true
        show (inner.closeNode middle.builder none).builder.children.toList.any _ = true
        rw [Progress.children_closeNode, Builder.children_push_of_shown _ shown, List.any_append]
        refine Bool.or_eq_true_iff.mpr (.inr (List.any_eq_true.mpr ⟨_, List.mem_singleton_self _,
          ?_⟩))
        show inner.builder.finish.kind.isBraceArgument = true
        rw [same, argument]
    | leave inner =>
        rw [came] at continues
        cases stays.symm.trans continues.1
    | failed failure diagnostics => exact True.intro
  refine Outcome.Yields.map (Outcome.Yields.andThen (progress.charge_yields
    surroundings.session) fun middle _ => inside middle) (fun _ => id) fun _ => id

theorem Nonterminal.run_holdsArgument (depth : Nat) (surroundings : Surroundings)
    (nonterminal : Nonterminal) (progress : Progress)
    (argument : nonterminal.isBraceArgument = true) :
    (Nonterminal.run depth surroundings nonterminal progress).HoldsArgument := by
  cases depth with
  | zero => exact True.intro
  | succ depth =>
      cases nonterminal with
      | block => exact Rule.run_braceArgument depth rfl rfl rfl surroundings progress
      | caseBlock => exact Rule.run_braceArgument depth rfl rfl rfl surroundings progress
      | _ => cases argument

theorem Nonterminal.run_openCalls (depth : Nat) : OpenCalls (Nonterminal.run depth) :=
  ⟨run_continues depth, run_upholds depth, run_holdsArgument depth⟩

end Offside
