import Offside.Proofs.Grammar.Sketch

namespace Offside

/-!
# Sketches of a parse

What the analysis of the grammar says about sketches is true of every run.  The analysis
assumes nothing of the tokens ahead.  Where that is not enough, a proof puts a rule
together by hand, so there is one lemma for each form of rule, about whatever can be said
of the stream and of the sketch of the node under construction.
-/

/-- What can be said of a stream and of the node under construction. -/
abbrev Drawing := TokenStream → Sketch → Prop

namespace Drawing

/-- The sketch is one of some. -/
def among (sketches : List Sketch) : Drawing := fun _ sketch => sketch ∈ sketches

/-- What is said of a place that is never reached. -/
def nowhere : Drawing := fun _ _ => False

end Drawing

open Drawing

/-- A parse has come to a point where something can be said, and whatever it has built on
the way is in shape. -/
structure Progress.Shows (drawing : Drawing) (progress : Progress) : Prop where
  regular : progress.builder.Regular
  shows : drawing progress.stream progress.builder.sketch

/-- Whether something that can be an operand stands at the current token. -/
def TokenStream.AtOperand (stream : TokenStream) : Prop :=
  stream.kind.startsSimpleExpression = true ∨ stream.prefixOperatorAt 0 = true

/-- What is found where an operand stands behind an infix operator. -/
def Sketch.operandGroups : List Sketch := [.single .simple, .single .prefixed]

/-- A nonterminal in front of a stream may come to a group.  Behind an infix operator
nothing but an operand is to be had. -/
structure Nonterminal.Adds (nonterminal : Nonterminal) (stream : TokenStream) (group : Sketch) :
    Prop where
  listed : group ∈ nonterminal.groups
  operand : nonterminal = .operators .rightOperand → stream.AtOperand →
    group ∈ Sketch.operandGroups

/-- Calls of nonterminals come to the groups that the nonterminals may come to. -/
def DrawnCalls (call : Surroundings → Nonterminal → Progress → Outcome) : Prop :=
  ∀ surroundings nonterminal progress, progress.builder.Regular →
    (call surroundings nonterminal progress).Yields
      (·.Shows fun _ sketch => ∃ group, nonterminal.Adds progress.stream group ∧
        sketch = progress.builder.sketch.push group)
      (·.Shows nowhere)

/-- Where a rule is run with what it requires, it ensures what it says when it is done and,
when it leaves the loop around it, what it says for that. -/
def Rule.Draws (requires : Drawing) (rule : Rule) (ensures leaves : Drawing) : Prop :=
  ∀ call, DrawnCalls call → ∀ surroundings progress, progress.Shows requires →
    (rule.run call surroundings progress).Yields (·.Shows ensures) (·.Shows leaves)

namespace Progress.Shows

variable {requires ensures drawing : Drawing} {progress before after inner : Progress}

theorem mono (shows : progress.Shows requires)
    (weaker : ∀ stream sketch, requires stream sketch → ensures stream sketch) :
    progress.Shows ensures := ⟨shows.regular, weaker _ _ shows.shows⟩

/-- What is shown depends on the stream and on the node under construction. -/
theorem of_same (shows : before.Shows drawing) (stream : after.stream = before.stream)
    (builder : after.builder = before.builder) : after.Shows drawing := by
  refine ⟨builder ▸ shows.regular, ?_⟩
  rw [stream, builder]
  exact shows.shows

theorem settle (shows : progress.Shows drawing) (session : Session) (ambiguity : Ambiguity) :
    (progress.settle session ambiguity).2.Shows drawing := by
  rcases progress.exists_settle_eq session ambiguity with ⟨_, settled⟩
  rw [settled]
  exact shows.of_same rfl rfl

theorem charge (shows : progress.Shows drawing) (session : Session) {left : Progress → Prop} :
    (progress.charge session).Yields (·.Shows drawing) left := by
  refine (progress.charge_yields session).mono ?_ fun _ => id
  rintro after ⟨_, rfl⟩
  exact shows.of_same rfl rfl

/-- A node that is in shape is added to the node around it. -/
theorem closeNode {outer : Builder} (regular : outer.Regular) (built : inner.builder.Regular)
    (part : Option FieldName) (fits : inner.builder.sketch.fits = true)
    (shows : ensures inner.stream (outer.sketch.close part inner.builder.sketch)) :
    (inner.closeNode outer part).Shows ensures := by
  have pieces := built.dissolved_finish fits
  cases part with
  | none =>
      refine ⟨regular.push built.indexed.finish pieces, ?_⟩
      show ensures inner.stream (outer.push inner.builder.finish).sketch
      rw [Builder.sketch_push regular.indexed]
      exact shows
  | some part =>
      refine ⟨regular.pushField part built.indexed.finish pieces, ?_⟩
      show ensures inner.stream (outer.pushField part inner.builder.finish).sketch
      rw [Builder.sketch_pushField regular.indexed]
      exact shows

theorem addsFaulty (adds : before.AddsFaulty after) (regular : before.builder.Regular)
    (nothing : ensures after.stream before.builder.sketch)
    (faulty : ensures after.stream (before.builder.sketch.push (.new .error))) :
    after.Shows ensures := by
  rcases adds.builder with same | ⟨node, kind, flat, nameless, _, pushed⟩
  · exact ⟨same ▸ regular, same ▸ nothing⟩
  · refine ⟨pushed ▸ regular.push_faulty kind flat nameless, ?_⟩
    have shown : node.sketch.dissolved = (Sketch.new .error).dissolved := by
      unfold Sketch.dissolved
      rw [show node.sketch.kind = .error from kind]
      rfl
    rw [pushed, Builder.sketch_push regular.indexed]
    unfold Sketch.push at faulty ⊢
    rw [shown]
    exact faulty

end Progress.Shows

/-- What a condition says of the sketch by its answer is true, and so is what it says of
the stream. -/
def Condition.Answers (answer : Bool) (condition : Condition) : Drawing :=
  fun stream sketch => condition.mayAnswer sketch answer = true ∧
    ∀ test, condition = .ahead test → test stream = answer

theorem Condition.answers_holds (condition : Condition) (surroundings : Surroundings)
    (progress : Progress) : condition.Answers (condition.holds surroundings progress)
      progress.stream progress.builder.sketch := by
  refine ⟨?_, fun test same => by rw [same]; rfl⟩
  cases condition with
  | ahead test => rfl
  | bracesAllowed => rfl
  | first test =>
      show progress.builder.sketch.mayAnswer test (progress.firstKind?.any test) = true
      unfold Progress.firstKind?
      rw [← Array.getElem?_toList]
      cases children : progress.builder.children.toList with
      | nil =>
          have starts : progress.builder.sketch.first = none :=
            congrArg Element.firstClass? children
          unfold Sketch.mayAnswer
          rw [starts]
          rfl
      | cons child rest =>
          have starts : progress.builder.sketch.first = some child.childClass :=
            congrArg Element.firstClass? children
          cases child with
          | token leaf =>
              unfold Sketch.mayAnswer
              rw [starts]
              rfl
          | node inner => exact Sketch.mayAnswer_of_node starts test

namespace Rule.Draws

variable {requires requires' middle ensures ensures' leaves leaves' : Drawing}
  {rule first second : Rule}

theorem mono (draws : Draws requires rule ensures leaves)
    (before : ∀ stream sketch, requires' stream sketch → requires stream sketch)
    (whenDone : ∀ stream sketch, ensures stream sketch → ensures' stream sketch)
    (whenLeft : ∀ stream sketch, leaves stream sketch → leaves' stream sketch) :
    Draws requires' rule ensures' leaves' := fun call calls surroundings progress shows =>
  (draws call calls surroundings progress (shows.mono before)).mono
    (fun _ done => done.mono whenDone) fun _ left => left.mono whenLeft

/-- What a rule requires may be asked for in a stronger form. -/
theorem assuming (draws : Draws requires rule ensures leaves)
    (before : ∀ stream sketch, requires' stream sketch → requires stream sketch) :
    Draws requires' rule ensures leaves := draws.mono before (fun _ _ => id) fun _ _ => id

theorem of_never (never : ∀ stream sketch, ¬ requires stream sketch) :
    Draws requires rule ensures leaves := fun _ _ _ _ shows => absurd shows.shows (never _ _)

theorem done : Draws requires .done requires leaves := fun _ _ _ _ shows => shows

theorem leave : Draws requires .leave ensures requires := fun _ _ _ _ shows => shows

theorem seq (one : Draws requires first middle leaves) (two : Draws middle second ensures leaves) :
    Draws requires (.seq first second) ensures leaves :=
  fun call calls surroundings progress shows =>
    (one call calls surroundings progress shows).andThen fun after reached =>
      two call calls surroundings after reached

theorem take (step : ∀ stream sketch, requires stream sketch →
    ensures stream.advance sketch.pushToken) : Draws requires .take ensures leaves := by
  intro call calls surroundings progress shows
  refine ⟨shows.regular.pushToken _, ?_⟩
  have taken : progress.take.builder.sketch = progress.builder.sketch.pushToken := by
    show (progress.builder.pushToken progress.stream.current).sketch = _
    rw [Builder.pushToken_eq, Builder.sketch_append shows.regular.indexed]
    rfl
  rw [taken]
  exact step _ _ shows.shows

theorem call {nonterminal : Nonterminal} (step : ∀ stream sketch group, requires stream sketch →
    nonterminal.Adds stream group → ∀ after, ensures after (sketch.push group)) :
    Draws requires (.call nonterminal) ensures leaves := by
  intro call calls surroundings progress shows
  refine (calls surroundings nonterminal progress shows.regular).mono (fun after done => ?_)
    fun after left => left.shows.elim
  rcases done with ⟨regular, group, adds, same⟩
  exact ⟨regular, same ▸ step _ _ group shows.shows adds _⟩

/-- What is said of the node inside may depend on the node around it. -/
theorem node {part : Option FieldName} {kind : NodeKind} {built left : Sketch → Drawing}
    (inside : ∀ outer, Draws (fun stream sketch => requires stream outer ∧ sketch = .new kind)
      rule (built outer) (left outer))
    (closes : ∀ outer stream inner, built outer stream inner →
      inner.fits = true ∧ ensures stream (outer.close part inner))
    (leaving : ∀ outer stream inner, left outer stream inner →
      inner.fits = true ∧ leaves stream (outer.close part inner)) :
    Draws requires (.node part kind rule) ensures leaves := by
  intro call calls surroundings progress shows
  have ran := inside progress.builder.sketch call calls surroundings (progress.openNode kind)
    ⟨.new kind, shows.shows, rfl⟩
  refine ran.map (fun inner reached => ?_) fun inner reached => ?_
  · have closed := closes _ _ _ reached.shows
    exact .closeNode shows.regular reached.regular part closed.1 closed.2
  · have closed := leaving _ _ _ reached.shows
    exact .closeNode shows.regular reached.regular part closed.1 closed.2

/-- A node is put into one of some others.  What is said of the stream may change inside. -/
theorem node_among {part : Option FieldName} {kind : NodeKind} {before after : TokenStream → Prop}
    {sketches inner innerLeft done left : List Sketch}
    (inside : Draws (fun stream sketch => before stream ∧ sketch = .new kind) rule
      (fun stream sketch => after stream ∧ sketch ∈ inner) (among innerLeft))
    (closes : ∀ outer ∈ sketches, ∀ node ∈ inner,
      node.fits = true ∧ outer.close part node ∈ done)
    (leaving : ∀ outer ∈ sketches, ∀ node ∈ innerLeft,
      node.fits = true ∧ outer.close part node ∈ left) :
    Draws (fun stream sketch => before stream ∧ sketch ∈ sketches) (.node part kind rule)
      (fun stream sketch => after stream ∧ sketch ∈ done) (among left) := by
  have insideAny : ∀ outer, Draws
      (fun stream sketch => (before stream ∧ outer ∈ sketches) ∧ sketch = .new kind) rule
      (fun stream node => outer ∈ sketches ∧ after stream ∧ node ∈ inner)
      (fun _ node => outer ∈ sketches ∧ node ∈ innerLeft) := by
    intro outer
    by_cases member : outer ∈ sketches
    · exact inside.mono (fun _ _ fresh => ⟨fresh.1.1, fresh.2⟩) (fun _ _ => And.intro member)
        fun _ _ => And.intro member
    · exact .of_never fun _ _ fresh => member fresh.1.2
  refine .node insideAny (fun outer stream node built => ?_) fun outer _ node built => ?_
  · rcases built with ⟨member, holds, finished⟩
    rcases closes outer member node finished with ⟨fits, closed⟩
    exact ⟨fits, holds, closed⟩
  · exact leaving outer built.1 node built.2

/-- A node is put into one of some others.  Nothing is said of the stream. -/
theorem node_listed {part : Option FieldName} {kind : NodeKind}
    {sketches inner innerLeft done left : List Sketch}
    (inside : Draws (among [.new kind]) rule (among inner) (among innerLeft))
    (closes : ∀ outer ∈ sketches, ∀ node ∈ inner,
      node.fits = true ∧ outer.close part node ∈ done)
    (leaving : ∀ outer ∈ sketches, ∀ node ∈ innerLeft,
      node.fits = true ∧ outer.close part node ∈ left) :
    Draws (among sketches) (.node part kind rule) (among done) (among left) := by
  have anywhere : Draws (fun _ sketch => True ∧ sketch = .new kind) rule
      (fun _ sketch => True ∧ sketch ∈ inner) (among innerLeft) :=
    inside.mono (fun _ _ fresh => List.mem_singleton.mpr fresh.2)
      (fun _ _ => And.intro True.intro) fun _ _ => id
  exact (node_among anywhere closes leaving).mono (fun _ _ => And.intro True.intro)
    (fun _ _ => And.right) fun _ _ => id

theorem become {kind : NodeKind} (step : ∀ stream sketch, requires stream sketch →
    ensures stream { sketch with kind := kind }) : Draws requires (.become kind) ensures leaves :=
  fun _ _ _ _ shows => ⟨shows.regular.of_kind kind, step _ _ shows.shows⟩

theorem nameFirst {part : FieldName} (step : ∀ stream sketch, requires stream sketch →
    ∃ first, sketch.first = some first ∧ ensures stream (sketch.attach part first)) :
    Draws requires (.nameFirst part) ensures leaves := by
  intro call calls surroundings progress shows
  rcases step _ _ shows.shows with ⟨first, starts, named⟩
  have some : 0 < progress.builder.children.toList.length := by
    cases children : progress.builder.children.toList with
    | nil =>
        unfold Builder.sketch at starts
        rw [children] at starts
        cases starts
    | cons child rest => exact Nat.succ_pos _
  refine ⟨shows.regular.attach some part, ?_⟩
  show ensures progress.stream (progress.builder.attach part 0).sketch
  rw [Builder.sketch_attach, Element.classAt_zero starts]
  exact named

theorem wrap {kind : NodeKind} (step : ∀ stream sketch, requires stream sketch →
    ({ sketch with kind := kind } : Sketch).fits = true ∧ ensures stream (sketch.wrap kind)) :
    Draws requires (.wrap kind) ensures leaves := by
  intro call calls surroundings progress shows
  rcases step _ _ shows.shows with ⟨fits, wrapped⟩
  have renamed : ({ progress.builder with kind := kind } : Builder).Regular :=
    shows.regular.of_kind kind
  show Progress.Shows ensures (Progress.closeNode
    { progress with builder := { progress.builder with kind := kind } }
    (.new progress.builder.kind) none)
  exact .closeNode (.new _) renamed none fits wrapped

theorem choose {condition : Condition}
    (yes : Draws (fun stream sketch => requires stream sketch ∧
      condition.Answers true stream sketch) first ensures leaves)
    (no : Draws (fun stream sketch => requires stream sketch ∧
      condition.Answers false stream sketch) second ensures leaves) :
    Draws requires (.choose condition first second) ensures leaves := by
  intro call calls surroundings progress shows
  have answers := condition.answers_holds surroundings progress
  unfold run
  split
  · rename_i held
    rw [held] at answers
    exact yes call calls surroundings progress ⟨shows.regular, shows.shows, answers⟩
  · rename_i failed
    rw [Bool.not_eq_true] at failed
    rw [failed] at answers
    exact no call calls surroundings progress ⟨shows.regular, shows.shows, answers⟩

theorem settle {ambiguity : Ambiguity} (either : Draws requires first ensures leaves)
    (or : Draws requires second ensures leaves) :
    Draws requires (.settle ambiguity first second) ensures leaves := by
  intro call calls surroundings progress shows
  have settled := shows.settle surroundings.session ambiguity
  unfold run
  dsimp only
  split
  · exact either call calls surroundings _ settled
  · exact or call calls surroundings _ settled

theorem loop (round : Draws requires rule requires leaves)
    (whenDone : ∀ stream sketch, requires stream sketch → ensures stream sketch)
    (whenLeft : ∀ stream sketch, leaves stream sketch → ensures stream sketch) :
    Draws requires (.loop rule) ensures leaves' := by
  intro call calls surroundings progress shows
  refine (Outcome.Yields.repeatRounds (fun middle reached =>
    round call calls surroundings middle reached) _ shows).mono ?_ fun _ => id
  rintro after (done | left)
  · exact done.mono whenDone
  · exact left.mono whenLeft

theorem nested (inside : Draws requires rule ensures leaves) :
    Draws requires (.nested rule) ensures leaves :=
  fun call calls surroundings _ shows =>
    ((shows.charge surroundings.session).andThen fun middle reached =>
        inside call calls surroundings middle reached).map
      (fun _ done => done.of_same rfl rfl) fun _ left => left.of_same rfl rfl

theorem chain (inside : Draws requires rule ensures leaves) :
    Draws requires (.chain rule) ensures leaves :=
  fun call calls surroundings progress shows =>
    (inside call calls surroundings progress shows).map
      (fun _ done => done.of_same rfl rfl) fun _ left => left.of_same rfl rfl

theorem link : Draws requires .link requires leaves :=
  fun _ _ surroundings _ shows => shows.charge surroundings.session

theorem withBraces {allowed : Bool} (inside : Draws requires rule ensures leaves) :
    Draws requires (.withBraces allowed rule) ensures leaves :=
  fun call calls _ _ shows => inside call calls _ _ shows

theorem recover (inside : Draws requires rule ensures leaves)
    (faulty : ∀ stream sketch, requires stream sketch → ∀ after,
      ensures after sketch ∧ ensures after (sketch.push (.new .error))) :
    Draws requires (.recover rule) ensures leaves := by
  intro call calls surroundings progress shows
  refine (inside call calls surroundings progress shows).recover fun failure diagnostics => ?_
  have either := faulty _ _ shows.shows
    (progress.restarted failure diagnostics).addFaulty.stream
  exact .addsFaulty (Progress.addsFaulty_addFaulty _).of_restarted shows.regular either.1 either.2

theorem reject {expected : List String} (faulty : ∀ stream sketch, requires stream sketch →
    ∀ after, ensures after sketch ∧ ensures after (sketch.push (.new .error))) :
    Draws requires (.reject expected) ensures leaves := by
  intro call calls surroundings progress shows
  have either := faulty _ _ shows.shows
    (progress.reportFailure (progress.unexpected expected)).addFaulty.stream
  exact .addsFaulty (Progress.addsFaulty_reportFailure progress _) shows.regular either.1 either.2

theorem fail {expected : List String} : Draws requires (.fail expected) ensures leaves :=
  fun _ _ _ _ _ => True.intro

theorem failMissing {kind : NodeKind} {part : FieldName} :
    Draws requires (.failMissing kind part) ensures leaves := fun _ _ _ _ _ => True.intro

end Rule.Draws

/-! ## The analysis is right -/

namespace Sketch

theorem mem_closeAll {sketches inner : List Sketch} {part : Option FieldName}
    {sketch node : Sketch} (outside : sketch ∈ sketches) (inside : node ∈ inner) :
    sketch.close part node ∈ closeAll sketches part inner :=
  List.mem_eraseDups.mpr (List.mem_flatMap.mpr
    ⟨sketch, outside, List.mem_map.mpr ⟨node, inside, rfl⟩⟩)

theorem mem_withFaulty {sketches : List Sketch} {sketch : Sketch} (member : sketch ∈ sketches) :
    sketch ∈ withFaulty sketches ∧ sketch.push (.new .error) ∈ withFaulty sketches := by
  have faulty : sketch.close none (.new .error) ∈ closeAll sketches none [.new .error] :=
    mem_closeAll member (List.mem_singleton_self _)
  exact ⟨List.mem_append_left _ member, List.mem_append_right _ faulty⟩

end Sketch

namespace Rule

/-- By induction on the rule, with one case for each of its forms. -/
theorem draws_draw (rule : Rule) {sketches : List Sketch}
    (sound : (rule.draw sketches).sound = true) :
    Draws (among sketches) rule (among (rule.draw sketches).done)
      (among (rule.draw sketches).left) := by
  induction rule generalizing sketches with
  | done => exact .done
  | seq first second one two =>
      rcases Bool.and_eq_true_iff.mp sound with ⟨soundFirst, soundSecond⟩
      refine .seq ((one soundFirst).mono (fun _ _ => id) (fun _ _ => id)
        fun _ _ => List.mem_append_left _) ?_
      exact (two soundSecond).mono (fun _ _ => id) (fun _ _ => id)
        fun _ _ => List.mem_append_right _
  | take => exact .take fun _ sketch member => List.mem_map_of_mem member
  | call nonterminal =>
      refine .call fun _ sketch group member adds _ => ?_
      have added : sketch.close none group ∈ Sketch.closeAll sketches none nonterminal.groups :=
        Sketch.mem_closeAll member adds.listed
      exact added
  | node part kind rule inductionHypothesis =>
      simp only [draw, Bool.and_eq_true] at sound
      rcases sound with ⟨⟨soundInside, fitsDone⟩, fitsLeft⟩
      refine .node_listed (inductionHypothesis soundInside) (fun outer member node built => ?_)
        fun outer member node built => ?_
      · exact ⟨List.all_eq_true.mp fitsDone node built, Sketch.mem_closeAll member built⟩
      · exact ⟨List.all_eq_true.mp fitsLeft node built, Sketch.mem_closeAll member built⟩
  | become kind => exact .become fun _ sketch member => List.mem_map_of_mem member
  | nameFirst part =>
      refine .nameFirst fun _ sketch member => ?_
      have starts := List.all_eq_true.mp sound sketch member
      rcases Option.isSome_iff_exists.mp starts with ⟨first, same⟩
      refine ⟨first, same, List.mem_map.mpr ⟨sketch, member, ?_⟩⟩
      rw [same]
      rfl
  | wrap kind =>
      exact .wrap fun _ sketch member =>
        ⟨List.all_eq_true.mp sound sketch member, List.mem_map_of_mem member⟩
  | choose condition yes no whenHeld otherwise =>
      rcases Bool.and_eq_true_iff.mp sound with ⟨soundYes, soundNo⟩
      exact .choose
        ((whenHeld soundYes).mono (fun _ _ asked => List.mem_filter.mpr ⟨asked.1, asked.2.1⟩)
          (fun _ _ => List.mem_append_left _) fun _ _ => List.mem_append_left _)
        ((otherwise soundNo).mono (fun _ _ asked => List.mem_filter.mpr ⟨asked.1, asked.2.1⟩)
          (fun _ _ => List.mem_append_right _) fun _ _ => List.mem_append_right _)
  | settle ambiguity first second either or =>
      rcases Bool.and_eq_true_iff.mp sound with ⟨soundFirst, soundSecond⟩
      exact .settle
        ((either soundFirst).mono (fun _ _ => id) (fun _ _ => List.mem_append_left _)
          fun _ _ => List.mem_append_left _)
        ((or soundSecond).mono (fun _ _ => id) (fun _ _ => List.mem_append_right _)
          fun _ _ => List.mem_append_right _)
  | loop rule inductionHypothesis =>
      rcases Bool.and_eq_true_iff.mp sound with ⟨soundRound, steady⟩
      have again : ∀ sketch,
          sketch ∈ (rule.draw (sketches ++ (rule.draw sketches).done).eraseDups).done →
            sketch ∈ (sketches ++ (rule.draw sketches).done).eraseDups := fun sketch member =>
        List.contains_iff_mem.mp (List.all_eq_true.mp steady sketch member)
      refine (Draws.loop ((inductionHypothesis soundRound).mono (fun _ _ => id)
        (fun _ sketch => again sketch) fun _ _ => id) (fun _ _ => List.mem_append_left _)
        fun _ _ => List.mem_append_right _).assuming fun _ _ member => ?_
      exact List.mem_eraseDups.mpr (List.mem_append_left _ member)
  | leave => exact .leave
  | nested rule inductionHypothesis => exact .nested (inductionHypothesis sound)
  | chain rule inductionHypothesis => exact .chain (inductionHypothesis sound)
  | link => exact .link
  | withBraces allowed rule inductionHypothesis => exact .withBraces (inductionHypothesis sound)
  | recover rule inductionHypothesis =>
      refine .recover ((inductionHypothesis sound).mono (fun _ _ => id)
        (fun _ _ => List.mem_append_left _) fun _ _ => id) fun _ sketch member _ => ?_
      have faulty := Sketch.mem_withFaulty member
      exact ⟨List.mem_append_right _ faulty.1, List.mem_append_right _ faulty.2⟩
  | reject expected => exact .reject fun _ sketch member _ => Sketch.mem_withFaulty member
  | fail expected => exact .fail
  | failMissing kind part => exact .failMissing

/-- What may be added to a node that nothing is known about.  By induction on the rule. -/
theorem draws_added (rule : Rule) (sound : rule.added.sound = true) (base : Sketch) :
    Draws (among [base]) rule (among (rule.added.done.map base.push))
      (among (rule.added.left.map base.push)) := by
  induction rule with
  | node part kind rule inductionHypothesis =>
      cases part with
      | some part => cases sound
      | none =>
          simp only [added, Bool.and_eq_true] at sound
          rcases sound with ⟨⟨soundInside, fitsDone⟩, fitsLeft⟩
          refine .node_listed (draws_draw rule soundInside) (fun outer member node built => ?_)
            fun outer member node built => ?_
          · rw [List.mem_singleton.mp member]
            exact ⟨List.all_eq_true.mp fitsDone node built, List.mem_map_of_mem built⟩
          · rw [List.mem_singleton.mp member]
            exact ⟨List.all_eq_true.mp fitsLeft node built, List.mem_map_of_mem built⟩
  | call nonterminal =>
      refine .call fun _ sketch group member adds _ => ?_
      rw [List.mem_singleton.mp member]
      exact List.mem_map_of_mem adds.listed
  | choose condition yes no whenHeld otherwise =>
      rcases Bool.and_eq_true_iff.mp sound with ⟨soundYes, soundNo⟩
      simp only [added, List.map_append]
      exact .choose
        ((whenHeld soundYes).mono (fun _ _ => And.left) (fun _ _ => List.mem_append_left _)
          fun _ _ => List.mem_append_left _)
        ((otherwise soundNo).mono (fun _ _ => And.left) (fun _ _ => List.mem_append_right _)
          fun _ _ => List.mem_append_right _)
  | nested rule inductionHypothesis => exact .nested (inductionHypothesis sound)
  | chain rule inductionHypothesis => exact .chain (inductionHypothesis sound)
  | fail expected => exact .fail
  | _ => cases sound

end Rule
end Offside
