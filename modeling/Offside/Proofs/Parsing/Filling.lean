import Offside.Proofs.Grammar.Filling
import Offside.Proofs.Parsing.Outcomes
import Offside.Proofs.Tree.Shape

namespace Offside

/-!
# No node is empty

Whatever a source looks like, every node of its tree has something in it, and its span is
that of its children together.  Nodes are finished only by the rules of the grammar, which
fill them, and by gathering faulty input, which makes no empty node either.
-/

namespace Builder

/-- Something was put into the node under construction. -/
def Filled (builder : Builder) : Prop := builder.children.toList ≠ []

/-- No node below the node under construction is empty. -/
def Spanned (builder : Builder) : Prop :=
  ∀ node ∈ Element.preorder builder.children.toList, node.Spanned

/-- What a rule makes of the node under construction.  A kind that is fixed stays, and
something is put in when `fills` holds. -/
structure Comes (before after : Builder) (fixed : Bool) (fills : Prop) : Prop where
  spanned : after.Spanned
  kind : fixed = true → after.kind = before.kind
  filled : before.Filled ∨ fills → after.Filled

variable {before middle after builder inner : Builder} {fixed : Bool} {fills fills' : Prop}

theorem spanned_new (kind : NodeKind) : (Builder.new kind).Spanned := by
  unfold Spanned
  rw [show Element.preorder (Builder.new kind).children.toList = [] from
    Node.preorder_children []]
  exact List.forall_mem_nil _

namespace Comes

theorem refl (spanned : builder.Spanned) (nothing : fills → False) :
    builder.Comes builder fixed fills :=
  ⟨spanned, fun _ => rfl, fun filled => filled.resolve_right nothing⟩

theorem mono (comes : before.Comes after fixed fills) (weaker : fills' → fills) :
    before.Comes after fixed fills' :=
  ⟨comes.spanned, comes.kind, fun filled => comes.filled (filled.imp_right weaker)⟩

theorem trans (first : before.Comes middle fixed fills)
    (second : middle.Comes after fixed fills') : before.Comes after fixed (fills ∨ fills') := by
  refine ⟨second.spanned, fun same => (second.kind same).trans (first.kind same), ?_⟩
  rintro (earlier | here | further)
  · exact second.filled (.inl (first.filled (.inl earlier)))
  · exact second.filled (.inl (first.filled (.inr here)))
  · exact second.filled (.inr further)

end Comes

/-- Children are added, and none of the nodes among them and below them is empty. -/
theorem comes_append {children : List Element} (spanned : before.Spanned)
    (same : after.children.toList = before.children.toList ++ children)
    (kind : after.kind = before.kind)
    (more : ∀ node ∈ Element.preorder children, node.Spanned) :
    before.Comes after fixed (children ≠ []) := by
  refine ⟨?_, fun _ => kind, ?_⟩
  · unfold Spanned
    rw [same, Element.preorder_append]
    exact List.forall_mem_append.mpr ⟨spanned, more⟩
  · unfold Filled
    rw [same]
    rintro (earlier | further)
    · exact List.append_ne_nil_of_left_ne_nil earlier _
    · exact List.append_ne_nil_of_right_ne_nil _ further

theorem comes_pushToken (spanned : before.Spanned) (token : Token) :
    before.Comes (before.pushToken token) fixed True := by
  have added : before.Comes (before.pushToken token) fixed ([Element.token token] ≠ []) := by
    refine comes_append spanned Array.toList_push rfl ?_
    rw [Element.preorder_token]
    exact List.forall_mem_nil _
  exact added.mono fun _ => List.cons_ne_nil _ _

/-- A finished node is added.  It may be empty only if it is dissolved. -/
theorem comes_push (spanned : before.Spanned) {node : Node}
    (below : ∀ other ∈ Element.preorder node.children, other.Spanned)
    (here : node.kind.isHidden = true ∨ node.Spanned) :
    before.Comes (before.push node) fixed (node.children ≠ []) := by
  by_cases hidden : node.kind.isHidden = true
  · exact comes_append spanned (children_push_of_hidden before hidden) (kind_push _ _) below
  · refine (comes_append spanned (children_push_of_shown before hidden) (kind_push _ _)
      ?_).mono fun _ => List.cons_ne_nil _ _
    rw [Element.preorder_node]
    exact List.forall_mem_cons.mpr ⟨here.resolve_left hidden, below⟩

/-- A name changes neither the children nor the kind. -/
theorem comes_attach (spanned : before.Spanned) (part : FieldName) (index : Nat) :
    before.Comes (before.attach part index) fixed False := by
  have children := before.children_attach part index
  refine ⟨?_, fun _ => before.kind_attach part index, fun filled => ?_⟩
  · unfold Spanned
    rw [children]
    exact spanned
  · unfold Filled
    rw [children]
    exact filled.resolve_right id

end Builder

namespace Progress

variable {before after progress inner : Progress} {fixed : Bool} {outer : Builder}

open Builder

theorem comes_closeNode (spanned : outer.Spanned) (part : Option FieldName)
    (below : inner.builder.Spanned)
    (here : inner.builder.kind.isHidden = true ∨ inner.builder.Filled) :
    outer.Comes (inner.closeNode outer part).builder fixed inner.builder.Filled := by
  have pushed : outer.Comes (outer.push inner.builder.finish) fixed inner.builder.Filled :=
    comes_push spanned below (here.imp_right spanned_finish)
  cases part with
  | none => exact pushed
  | some part =>
      have children := outer.children_pushField part inner.builder.finish
      refine ⟨?_, fun same => ?_, fun filled => ?_⟩
      · have sound := pushed.spanned
        unfold Builder.Spanned at sound ⊢
        rw [← children] at sound
        exact sound
      · exact outer.kind_pushField part inner.builder.finish
      · have something := pushed.filled filled
        unfold Filled at something ⊢
        rw [← children] at something
        exact something

theorem comes_take (spanned : progress.builder.Spanned) :
    progress.builder.Comes progress.take.builder fixed True :=
  comes_pushToken spanned progress.stream.current

theorem comes_wrap (spanned : progress.builder.Spanned) (kind : NodeKind)
    (filled : progress.builder.Filled) {fills : Prop} :
    progress.builder.Comes (progress.wrap kind).builder fixed fills := by
  have closed : (Builder.new progress.builder.kind).Comes (progress.wrap kind).builder true
      progress.builder.Filled :=
    comes_push (spanned_new _) spanned (.inr (spanned_finish filled))
  exact ⟨closed.spanned, fun _ => closed.kind rfl, fun _ => closed.filled (.inr filled)⟩

/-- Faulty input makes no empty node. -/
theorem AddsFaulty.comes (adds : before.AddsFaulty after) (spanned : before.builder.Spanned) :
    before.builder.Comes after.builder fixed False := by
  rcases adds.builder with same | ⟨faulty, kind, flat, nameless, here, pushed⟩
  · rw [same]
    exact .refl spanned id
  · rw [pushed]
    refine (comes_push spanned ?_ (.inr here)).mono False.elim
    rw [show faulty.children = faulty.tokens.map .token from flat, Element.preorder_map_token]
    exact List.forall_mem_nil _

end Progress

/-- A question about the tokens ahead that was answered with yes. -/
theorem Condition.test_of_holds {condition : Condition} {surroundings : Surroundings}
    {progress : Progress} (held : condition.holds surroundings progress = true) :
    ∀ test, condition.test? = some test → test progress.stream = true := by
  intro test same
  cases condition with
  | ahead _ =>
      cases same
      exact held
  | first _ => cases same
  | bracesAllowed => cases same

/-- A question that was answered with no is not the one whose answer is known to be yes. -/
theorem Condition.test?_ne_of_not_holds {condition : Condition} {surroundings : Surroundings}
    {progress : Progress} (failed : ¬ condition.holds surroundings progress = true)
    {known : Option (TokenStream → Bool)}
    (answered : ∀ test, known = some test → test progress.stream = true) :
    ¬ (known.isSome = true ∧ condition.test? = known) := by
  rintro ⟨isKnown, same⟩
  rcases Option.isSome_iff_exists.mp isKnown with ⟨test, isTest⟩
  cases condition with
  | ahead _ =>
      cases same.trans isTest
      exact failed (answered test isTest)
  | first _ => cases same.trans isTest
  | bracesAllowed => cases same.trans isTest

/-! ## Running the grammar -/

/-- Calls of nonterminals make no empty node, and those that take a token put it in. -/
def FullCalls (call : Surroundings → Nonterminal → Progress → Outcome) : Prop :=
  ∀ surroundings nonterminal progress, progress.builder.Spanned →
    (call surroundings nonterminal progress).Yields
      (fun after => progress.builder.Comes after.builder true (nonterminal.takes = true))
      fun _ => False

/-- What a full rule comes to when it is done, and when it leaves the loop around it. -/
def Outcome.Fills (before : Builder) (rule : Rule) (known : Option (TokenStream → Bool))
    (fixed : Bool) (outcome : Outcome) : Prop :=
  outcome.Yields (fun after => before.Comes after.builder fixed (rule.Fills known false))
    fun after => rule.stays = false ∧ before.Comes after.builder fixed (rule.Fills known true)

namespace Outcome.Fills

variable {before : Builder} {rule other first second : Rule} {outcome : Outcome}
  {known known' : Option (TokenStream → Bool)} {fixed : Bool} {progress : Progress}

/-- Nothing more is said of a rule that fills less and stays less. -/
theorem weaken (filled : outcome.Fills before rule known fixed)
    (fills : ∀ leaving, other.Fills known' leaving → rule.Fills known leaving)
    (stays : rule.stays = false → other.stays = false) :
    outcome.Fills before other known' fixed :=
  filled.mono (fun _ done => done.mono (fills false)) fun _ left =>
    ⟨stays left.1, left.2.mono (fills true)⟩

/-- A change behind a rule that does not touch the node under construction. -/
theorem map {change : Progress → Progress} (filled : outcome.Fills before rule known fixed)
    (same : ∀ after, (change after).builder = after.builder) :
    (outcome.map change).Fills before rule known fixed :=
  Yields.map filled (fun after done => by rw [same]; exact done)
    fun after left => by rw [same]; exact left

theorem andThen {rest : Progress → Outcome} (once : outcome.Fills before first known fixed)
    (further : ∀ middle, before.Comes middle.builder fixed (first.Fills known false) →
      (rest middle).Fills middle.builder second none fixed) :
    (outcome.andThen rest).Fills before (.seq first second) known fixed := by
  cases outcome with
  | next middle =>
      refine (further middle once).mono (fun _ done => once.trans done) fun _ left => ?_
      refine ⟨?_, (once.trans left.2).mono And.right⟩
      show (first.stays && second.stays) = false
      rw [left.1, Bool.and_false]
  | leave after =>
      refine ⟨?_, once.2.mono And.left⟩
      show (first.stays && second.stays) = false
      rw [once.1, Bool.false_and]
  | failed failure diagnostics => exact True.intro

/-- A loop makes at least one round.  The rounds after it take nothing away. -/
theorem repeatRounds {round : Progress → Outcome}
    (once : (round progress).Fills progress.builder rule known fixed)
    (again : ∀ middle, middle.builder.Spanned →
      (progress.builder.Filled → middle.builder.Filled) →
      (round middle).Fills middle.builder rule none fixed) (rounds : Nat) :
    (repeatRounds round (rounds + 1) progress).Fills progress.builder (.loop rule) known
      fixed := by
  have always : ∀ leaving, (Rule.loop rule).Fills known false → rule.Fills known leaving := by
    rintro leaving (none | ⟨done, left⟩)
    · cases none
    · cases leaving
      · exact done
      · exact left
  unfold Offside.repeatRounds
  cases came : round progress with
  | next middle =>
      rw [came] at once
      have first := Builder.Comes.mono once (always false)
      have rest : (Offside.repeatRounds round rounds middle).Yields
          (fun after =>
            progress.builder.Comes after.builder fixed ((Rule.loop rule).Fills known false) ∨
            progress.builder.Comes after.builder fixed ((Rule.loop rule).Fills known false))
          fun _ => False := by
        refine Yields.repeatRounds (fun after comes => ?_) rounds first
        refine (again after comes.spanned fun filled => comes.filled (.inl filled)).mono
          (fun _ done => ?_) fun _ left => ?_
        · exact (comes.trans done).mono .inl
        · exact (comes.trans left.2).mono .inl
      exact rest.mono (fun _ either => either.elim id id) fun _ => False.elim
  | leave after =>
      rw [came] at once
      exact once.2.mono (always true)
  | failed failure diagnostics => exact True.intro

/-- A node is finished around what was filled in, whose kind has not changed if it has to be
dissolved. -/
theorem closeNode {outer : Builder} {kind : NodeKind}
    (inside : outcome.Fills (.new kind) rule known kind.isHidden)
    (always : kind.isHidden = true ∨ (rule.Fills known false ∧ rule.Fills known true))
    (spanned : outer.Spanned) (part : Option FieldName) :
    (outcome.map (·.closeNode outer part)).Fills outer (.node part kind rule) known fixed := by
  have closes : ∀ {fills : Prop} (inner : Progress),
      (Builder.new kind).Comes inner.builder kind.isHidden fills →
      (kind.isHidden = true ∨ fills) →
      outer.Comes (inner.closeNode outer part).builder fixed fills := by
    intro fills inner comes always
    refine (Progress.comes_closeNode spanned part comes.spanned ?_).mono fun puts =>
      comes.filled (.inr puts)
    rcases always with hidden | puts
    · exact .inl (by rw [comes.kind hidden]; exact hidden)
    · exact .inr (comes.filled (.inr puts))
  refine Yields.map inside (fun inner comes => ?_) fun inner left => ?_
  · exact closes inner comes (always.imp_right And.left)
  · exact ⟨left.1, closes inner left.2 (always.imp_right And.right)⟩

end Outcome.Fills

/-- By induction on the rule, with one case for each of its forms. -/
theorem Rule.run_full {call : Surroundings → Nonterminal → Progress → Outcome}
    (calls : FullCalls call) (rule : Rule) (surroundings : Surroundings) {progress : Progress}
    {known : Option (TokenStream → Bool)} {filled : Prop} {fixed : Bool}
    (full : rule.Full known filled fixed) (spanned : progress.builder.Spanned)
    (holds : filled → progress.builder.Filled)
    (answered : ∀ test, known = some test → test progress.stream = true) :
    (rule.run call surroundings progress).Fills progress.builder rule known fixed := by
  induction rule generalizing surroundings progress known filled fixed with
  | done => exact .refl spanned Bool.false_ne_true
  | seq first second one two =>
      refine (one surroundings full.1 spanned holds answered).andThen fun middle comes => ?_
      refine two surroundings full.2 comes.spanned (fun filled => ?_) nofun
      exact comes.filled (filled.imp_left holds)
  | take => exact Progress.comes_take spanned
  | call nonterminal =>
      refine (calls surroundings nonterminal progress spanned).mono (fun after comes => ?_)
        fun _ => False.elim
      refine ⟨comes.spanned, fun _ => comes.kind rfl, fun filled => comes.filled ?_⟩
      exact filled.imp_right fun takes => takes.resolve_left Bool.false_ne_true
  | node part kind rule inductionHypothesis =>
      have inside : (rule.run call surroundings (progress.openNode kind)).Fills
          (.new kind) rule known kind.isHidden :=
        inductionHypothesis surroundings full.1 (Builder.spanned_new kind) False.elim answered
      exact inside.closeNode full.2 spanned part
  | become kind =>
      refine ⟨spanned, fun same => ?_, fun filled => ?_⟩
      · rw [show fixed = false from full] at same
        cases same
      · exact filled.resolve_right Bool.false_ne_true
  | nameFirst part =>
      exact (Builder.comes_attach spanned part 0).mono fun fills =>
        absurd fills Bool.false_ne_true
  | wrap kind => exact Progress.comes_wrap spanned kind (holds full)
  | choose condition yes no whenHeld otherwise =>
      unfold run
      split
      · rename_i held
        exact (whenHeld surroundings full.1 spanned holds (Condition.test_of_holds held)).weaken
          (fun _ => And.left) fun stays => Bool.and_eq_false_iff.mpr (.inl stays)
      · rename_i failed
        have unknown := Condition.test?_ne_of_not_holds failed answered
        exact (otherwise surroundings full.2 spanned holds nofun).weaken
          (fun _ fills => fills.2.resolve_left unknown) fun stays =>
            Bool.and_eq_false_iff.mpr (.inr stays)
  | settle ambiguity first second either or =>
      rcases progress.exists_run_settle call ambiguity first second surroundings with
        ⟨_, runs | runs⟩ <;> rw [runs]
      · exact Outcome.Fills.weaken (either surroundings full.1 spanned holds answered)
          (fun _ => And.left) fun stays => Bool.and_eq_false_iff.mpr (.inl stays)
      · exact Outcome.Fills.weaken (or surroundings full.2 spanned holds answered)
          (fun _ => And.right) fun stays => Bool.and_eq_false_iff.mpr (.inr stays)
  | loop rule inductionHypothesis =>
      have fullAlways : rule.Full none filled fixed := full
      have fullOnce : rule.Full known filled fixed := fullAlways.mono (.inl rfl) id
      refine .repeatRounds (inductionHypothesis surroundings fullOnce spanned holds answered)
        (fun middle sound stays => ?_) _
      exact inductionHypothesis surroundings fullAlways sound (stays ∘ holds) nofun
  | leave => exact ⟨rfl, .refl spanned Bool.true_eq_false.mp⟩
  | nested rule inductionHypothesis =>
      unfold run Progress.charge
      dsimp only
      split
      · exact True.intro
      · have inside : (rule.run call surroundings
            { progress with depth := progress.depth + 1 }).Fills progress.builder rule known
              fixed := inductionHypothesis surroundings full spanned holds answered
        exact inside.map fun _ => rfl
  | chain rule inductionHypothesis =>
      exact (inductionHypothesis surroundings full spanned holds answered).map fun _ => rfl
  | link =>
      refine (progress.charge_yields surroundings.session).mono ?_ fun _ => id
      rintro after ⟨_, rfl⟩
      exact .refl spanned Bool.false_ne_true
  | withBraces allowed rule inductionHypothesis =>
      exact inductionHypothesis { surroundings with bracesAllowed := allowed } full spanned
        holds answered
  | recover rule inductionHypothesis =>
      have inside := inductionHypothesis surroundings full spanned holds answered
      refine (inside.mono (fun _ done => ?_) fun _ left => ?_).recover fun failure diagnostics => ?_
      · exact done.mono fun fills => absurd fills.1 Bool.false_ne_true
      · exact ⟨left.1, left.2.mono And.right⟩
      · have adds := (Progress.addsFaulty_addFaulty
          (progress.restarted failure diagnostics)).of_restarted
        exact (adds.comes spanned).mono fun fills => absurd fills.1 Bool.false_ne_true
  | reject expected =>
      have adds := progress.addsFaulty_reportFailure (progress.unexpected expected)
      exact (adds.comes spanned).mono Bool.false_ne_true
  | fail expected => exact True.intro
  | failMissing kind part => exact True.intro

namespace Nonterminal

/-- By induction on the number of nonterminals that may be open. -/
theorem run_full (depth : Nat) : FullCalls (run depth) := by
  induction depth with
  | zero => exact fun _ _ _ _ => True.intro
  | succ depth inductionHypothesis =>
      intro surroundings nonterminal progress spanned
      refine (Rule.run_full inductionHypothesis nonterminal.rule surroundings
        nonterminal.rule_full spanned False.elim nofun).mono (fun _ done => ?_) fun _ left => ?_
      · exact done.mono nonterminal.rule_fills
      · exact absurd (left.1.symm.trans nonterminal.rule_stays) Bool.false_ne_true

end Nonterminal

/-! ## The whole source -/

theorem Progress.kept_spanned (session : Session) :
    Progress.Kept session (·.builder.Spanned) where
  take progress spanned := by
    have taken : progress.builder.Comes progress.take.builder true True :=
      Progress.comes_take spanned
    exact taken.spanned
  definition progress spanned := by
    refine yields_definition progress ?_ fun after adds => ?_
    · exact (Nonterminal.run_full _ _ .definition progress spanned).mono
        (fun _ done => done.spanned) fun _ => False.elim
    · have added : progress.builder.Comes after.builder true False := adds.comes spanned
      exact added.spanned
  faulty before after adds spanned := by
    have added : before.builder.Comes after.builder true False := adds.comes spanned
    exact added.spanned

/-- No node of a tree is empty, and each of them has the span of its children. -/
theorem spanned_parseStream (session : Session) (stream : TokenStream) :
    ∀ node ∈ (parseStream session stream).root.preorder, node.Spanned := by
  have kept := Progress.kept_spanned session
  have started : (Progress.start stream .compilationUnit).builder.Spanned :=
    Builder.spanned_new _
  have ended := kept.definitions (stream.size + 1) started
  unfold parseStream
  dsimp only
  generalize (Progress.start stream .compilationUnit).definitions session
    (stream.size + 1) = progress at ended
  have taken : progress.builder.Comes progress.take.builder true True :=
    Progress.comes_take ended
  have root := Builder.spanned_finish (taken.filled (.inr True.intro))
  rw [Node.forall_preorder_iff, ← Element.forall_preorder_iff]
  exact ⟨root, taken.spanned⟩

end Offside
