import Offside.Proofs.Grammar.Naming
import Offside.Proofs.Parsing.Filling
import Offside.Proofs.Parsing.Reports
import Offside.Text.XidStart

namespace Offside

/-!
# Trees are tidy

Whatever a source looks like, the names in its tree can be relied upon.  A run of the grammar
keeps the node under construction tidy, and so does gathering faulty input, which gives no
names at all.
-/

/-- What a rule yields and what else it yields it yields together. -/
theorem Outcome.Yields.and {outcome : Outcome} {done left done' left' : Progress → Prop}
    (yields : outcome.Yields done left) (too : outcome.Yields done' left') :
    outcome.Yields (fun after => done after ∧ done' after)
      fun after => left after ∧ left' after := by
  cases outcome with
  | next after => exact ⟨yields, too⟩
  | leave after => exact ⟨yields, too⟩
  | failed failure diagnostics => exact True.intro

namespace Progress

variable {before after progress inner : Progress} {outer : Builder} {front back : Front}

theorem tidy_closeNode (tidy : outer.Tidy front) (built : inner.builder.Tidy back)
    {part : Option FieldName}
    (fits : outer.Filled ∨ ∀ kind, back.outside.admits kind = true → front.admits kind = true)
    (names : ∀ given, part = some given → ∀ kind, back.outside.admits kind = true →
      front = .clause ∧ given = .body ∧ kind.isSeparator = true) :
    (inner.closeNode outer part).builder.Tidy front := by
  cases part with
  | none => exact tidy.push built.finish fits
  | some given => exact tidy.pushField built.finish fits (names given rfl)

/-- In a node of its own kind nothing but a node has to be expected in front. -/
theorem tidy_closeNode_inside (tidy : outer.Tidy front) {kind : NodeKind}
    (built : inner.builder.Tidy (.inside kind)) (part : Option FieldName) :
    (inner.closeNode outer part).builder.Tidy front := by
  have nothing : ∀ other, (Front.inside kind).outside.admits other ≠ true := by
    rw [Front.outside_inside]
    exact nofun
  exact tidy_closeNode tidy built (.inr fun other admits => absurd admits (nothing other))
    fun _ _ other admits => absurd admits (nothing other)

/-- A run of items may bring a separator to the front, where one is accepted. -/
theorem tidy_closeNode_separators (tidy : outer.Tidy front)
    (built : inner.builder.Tidy .separators) {part : Option FieldName}
    (accepts : outer.Filled ∨ front ≠ .nodes)
    (name : part = none ∨ (front = .clause ∧ part = some .body)) :
    (inner.closeNode outer part).builder.Tidy front := by
  refine tidy_closeNode tidy built ?_ fun given same kind separates => ?_
  · exact accepts.imp_right fun accepts _ separates =>
      Front.admits_separators accepts separates
  · rcases name with none | ⟨clause, body⟩
    · cases none.symm.trans same
    · exact ⟨clause, Option.some.inj (same.symm.trans body), separates⟩

/-- Where a node stands first, it may be given a name. -/
theorem tidy_nameFirst (tidy : outer.Tidy .nodes) (filled : outer.Filled)
    (part : FieldName) : (outer.attach part 0).Tidy .nodes := by
  refine tidy.attach ?_
  cases children : outer.children.toList with
  | nil => exact absurd children filled
  | cons child rest =>
      cases child with
      | node node => exact .inl ⟨node, rfl⟩
      | token token => exact absurd (tidy.first token (by rw [children]; rfl)) nofun

theorem tidy_wrap (tidy : progress.builder.Tidy .nodes) {kind : NodeKind}
    (sound : kind ≠ .error) : (progress.wrap kind).builder.Tidy .nodes := by
  have inside : ({ progress.builder with kind := kind } : Builder).Tidy .nodes :=
    tidy.of_kind ⟨sound, nofun, nofun⟩
  have outside : (Builder.new progress.builder.kind).Tidy .nodes := .new tidy.kind
  exact outside.push inside.finish (.inr fun _ => id)

/-- Faulty input is tidy, for it gives no names. -/
theorem AddsFaulty.tidy (adds : before.AddsFaulty after) (tidy : before.builder.Tidy front) :
    after.builder.Tidy front := by
  rcases adds.builder with same | ⟨faulty, kind, flat, nameless, _, pushed⟩
  · rw [same]
    exact tidy
  · have here : faulty.Tidy :=
      { visible := by rw [kind]; rfl
        distinct := by rw [nameless]; exact List.nodup_nil
        named := by rw [nameless]; exact List.forall_mem_nil _
        flat := fun _ => flat }
    have below : ∀ node ∈ Element.preorder faulty.children, node.Tidy := by
      rw [show faulty.children = faulty.tokens.map .token from flat,
        Element.preorder_map_token]
      exact List.forall_mem_nil _
    rw [pushed]
    exact tidy.push (here.loose below .nodes) (.inr nofun)

end Progress

/-! ## Running the grammar -/

/-- Calls of nonterminals keep the node under construction tidy.  A run of items may put a
separator in front of it. -/
def TidyCalls (call : Surroundings → Nonterminal → Progress → Outcome) : Prop :=
  ∀ surroundings nonterminal progress front, progress.builder.Spanned →
    progress.builder.Tidy front →
    nonterminal.takes = true ∨ progress.builder.Filled ∨ front ≠ .nodes →
      (call surroundings nonterminal progress).Yields (·.builder.Tidy front)
        (·.builder.Tidy front)

/-- A loop keeps the node under construction tidy if its rounds do.  Every round finds what the
first one has found. -/
theorem Outcome.Yields.repeatRounds_tidy {round : Progress → Outcome} {progress : Progress}
    {filled : Prop} {front : Front} (fixed : Bool) (fills : Prop)
    (each : ∀ progress : Progress, progress.builder.Spanned → progress.builder.Tidy front →
      (filled → progress.builder.Filled) →
        (round progress).Yields (fun after => after.builder.Tidy front ∧
          progress.builder.Comes after.builder fixed fills) (·.builder.Tidy front))
    (rounds : Nat) (spanned : progress.builder.Spanned) (tidy : progress.builder.Tidy front)
    (holds : filled → progress.builder.Filled) :
    (Offside.repeatRounds round rounds progress).Yields (·.builder.Tidy front)
      (·.builder.Tidy front) := by
  have steady : ∀ progress : Progress, (progress.builder.Tidy front ∧
      progress.builder.Spanned ∧ (filled → progress.builder.Filled)) →
      (round progress).Yields (fun after => after.builder.Tidy front ∧
        after.builder.Spanned ∧ (filled → after.builder.Filled)) (·.builder.Tidy front) := by
    rintro progress ⟨tidy, spanned, holds⟩
    refine (each progress spanned tidy holds).mono (fun after both => ?_) fun _ => id
    exact ⟨both.1, both.2.spanned, fun something => both.2.filled (.inl (holds something))⟩
  refine (Outcome.Yields.repeatRounds steady rounds ⟨tidy, spanned, holds⟩).mono ?_
    fun _ => id
  rintro after (done | left)
  · exact done.1
  · exact left

/-- By induction on the rule, with one case for each of its forms. -/
theorem Rule.run_tidy {call : Surroundings → Nonterminal → Progress → Outcome}
    (fullCalls : FullCalls call) (calls : TidyCalls call) (rule : Rule)
    (surroundings : Surroundings) {progress : Progress}
    {known : Option (TokenStream → Bool)} {filled : Prop} {fixed : Bool} {front : Front}
    (full : rule.Full known filled fixed) (tidies : rule.Tidies known filled front)
    (spanned : progress.builder.Spanned) (tidy : progress.builder.Tidy front)
    (holds : filled → progress.builder.Filled)
    (answered : ∀ test, known = some test → test progress.stream = true) :
    (rule.run call surroundings progress).Yields (·.builder.Tidy front)
      (·.builder.Tidy front) := by
  induction rule generalizing surroundings progress known filled fixed front with
  | done => exact tidy
  | seq first second one two =>
      have once := (one surroundings full.1 tidies.1 spanned tidy holds answered).and
        (first.run_full fullCalls surroundings full.1 spanned holds answered)
      refine (once.mono (fun _ => id) fun _ => And.left).andThen fun middle reached => ?_
      refine two surroundings full.2 tidies.2 reached.2.spanned reached.1 (fun filled => ?_)
        nofun
      exact reached.2.filled (filled.imp_left holds)
  | take =>
      exact tidy.pushToken (tidies.imp holds fun allows => allows.admits answered)
  | call nonterminal =>
      exact calls surroundings nonterminal progress front spanned tidy
        (tidies.imp_right (Or.imp_left holds))
  | node part kind rule inductionHypothesis =>
      rcases tidies with ⟨sound, begins⟩
      have inside : ∀ begun : Front, begun.Suits kind → rule.Tidies known False begun →
          (rule.run call surroundings (progress.openNode kind)).Yields
            (·.builder.Tidy begun) (·.builder.Tidy begun) := fun begun suits tidies =>
        inductionHypothesis surroundings full.1 tidies (Builder.spanned_new kind)
          (.new suits) False.elim answered
      rcases begins with node | ⟨_, separators, accepts, name⟩
      · have closes := fun (inner : Progress) (built : inner.builder.Tidy (.inside kind)) =>
          Progress.tidy_closeNode_inside tidy built part
        exact (inside _ (Front.suits_inside sound) node).map closes closes
      · have closes := fun (inner : Progress) (built : inner.builder.Tidy .separators) =>
          Progress.tidy_closeNode_separators tidy built (accepts.imp_left holds) name
        exact (inside .separators ⟨sound, nofun, nofun⟩ separators).map closes closes
  | become kind => exact tidy.of_kind ⟨tidies.2.1, fun _ => tidies.2.2, fun clause => by
      cases tidies.1.symm.trans clause⟩
  | nameFirst part =>
      rcases tidies with ⟨something, rfl⟩
      exact Progress.tidy_nameFirst tidy (holds something) part
  | wrap kind =>
      rcases tidies with ⟨rfl, sound⟩
      exact Progress.tidy_wrap tidy sound
  | choose condition yes no whenHeld otherwise =>
      unfold run
      split
      · rename_i held
        exact whenHeld surroundings full.1 tidies.1 spanned tidy holds
          (Condition.test_of_holds held)
      · exact otherwise surroundings full.2 tidies.2 spanned tidy holds nofun
  | settle ambiguity first second either or =>
      rcases progress.exists_run_settle call ambiguity first second surroundings with
        ⟨_, runs | runs⟩ <;> rw [runs]
      · exact either surroundings full.1 tidies.1 spanned tidy holds answered
      · exact or surroundings full.2 tidies.2 spanned tidy holds answered
  | loop rule inductionHypothesis =>
      have fullAlways : rule.Full none filled fixed := full
      have tidiesAlways : rule.Tidies none filled front := tidies
      refine Outcome.Yields.repeatRounds_tidy fixed (rule.Fills none false)
        (fun progress spanned tidy holds => ?_) _ spanned tidy holds
      exact ((inductionHypothesis surroundings fullAlways tidiesAlways spanned tidy holds
        nofun).and (rule.run_full fullCalls surroundings fullAlways spanned holds nofun)).mono
          (fun _ => id) fun _ => And.left
  | leave => exact tidy
  | nested rule inductionHypothesis =>
      refine ((progress.charge_yields surroundings.session).andThen ?_).map (fun _ => id)
        fun _ => id
      rintro middle ⟨_, rfl⟩
      exact inductionHypothesis surroundings full tidies spanned tidy holds answered
  | chain rule inductionHypothesis =>
      exact (inductionHypothesis surroundings full tidies spanned tidy holds answered).map
        (fun _ => id) fun _ => id
  | link =>
      refine (progress.charge_yields surroundings.session).mono ?_ fun _ => id
      rintro after ⟨_, rfl⟩
      exact tidy
  | withBraces allowed rule inductionHypothesis =>
      exact inductionHypothesis _ full tidies spanned tidy holds answered
  | recover rule inductionHypothesis =>
      refine (inductionHypothesis surroundings full tidies spanned tidy holds
        answered).recover fun failure diagnostics => ?_
      exact (Progress.addsFaulty_addFaulty _).of_restarted.tidy tidy
  | reject expected =>
      exact (progress.addsFaulty_reportFailure (progress.unexpected expected)).tidy tidy
  | fail expected => exact True.intro
  | failMissing kind part => exact True.intro

namespace Nonterminal

/-- By induction on the number of nonterminals that may be open. -/
theorem run_tidy (depth : Nat) : TidyCalls (run depth) := by
  induction depth with
  | zero => exact fun _ _ _ _ _ _ _ => True.intro
  | succ depth inductionHypothesis =>
      intro surroundings nonterminal progress front spanned tidy fits
      exact Rule.run_tidy (run_full depth) inductionHypothesis nonterminal.rule surroundings
        (nonterminal.rule_full.mono (.inl rfl) False.elim) (nonterminal.rule_tidies fits)
        spanned tidy id nofun

end Nonterminal

/-! ## The whole source -/

theorem Progress.kept_tidy (session : Session) : Progress.Kept session fun progress =>
    progress.builder.Spanned ∧ progress.builder.Tidy .anything where
  take progress holds :=
    ⟨(Progress.kept_spanned session).take progress holds.1, holds.2.pushToken (.inr rfl)⟩
  definition progress holds := by
    refine yields_definition progress ?_ fun after adds => ?_
    · refine ((Nonterminal.run_full _ _ .definition progress holds.1).and
        (Nonterminal.run_tidy _ _ .definition progress .anything holds.1 holds.2
          (.inl rfl))).mono (fun _ both => ⟨both.1.spanned, both.2⟩) fun _ both => ?_
      exact both.1.elim
    · exact ⟨(Progress.kept_spanned session).faulty _ _ adds holds.1, adds.tidy holds.2⟩
  faulty before after adds holds :=
    ⟨(Progress.kept_spanned session).faulty _ _ adds holds.1, adds.tidy holds.2⟩

/-- Every node of a tree is tidy. -/
theorem tidy_parseStream (session : Session) (stream : TokenStream) :
    ∀ node ∈ (parseStream session stream).root.preorder, node.Tidy := by
  have kept := Progress.kept_tidy session
  have started : (Progress.start stream .compilationUnit).builder.Tidy .anything :=
    .new ⟨nofun, fun _ => rfl, nofun⟩
  have ended := kept.definitions (stream.size + 1) ⟨Builder.spanned_new _, started⟩
  unfold parseStream
  dsimp only
  generalize (Progress.start stream .compilationUnit).definitions session
    (stream.size + 1) = progress at ended
  have taken := (kept.take progress ended).2
  have shown : ¬ progress.take.builder.kind.isHidden = true := by
    rw [taken.kind.2.1 rfl]
    exact Bool.false_ne_true
  have whole := taken.finish.below
  rw [show progress.take.builder.finish.dissolved = [.node progress.take.builder.finish] from
    if_neg shown, Element.preorder_node] at whole
  rw [Node.forall_preorder_iff, ← Element.forall_preorder_iff]
  exact List.forall_mem_cons.mp whole

/-- Whatever the source looks like, at each node of its tree no two children have the same
name, all names refer to children that are there, and the span is that of the children
together.  Nothing that should have been dissolved is left, and faulty input is not empty and
is not grouped any further. -/
theorem parse_wellFormed [XidStart] (source : String) (options : ParseOptions) :
    ∀ node ∈ (parse source options).root.preorder, node.WellFormed := fun node member =>
  (tidy_parseStream (sessionOf source options) _ node member).wellFormed
    (spanned_parseStream (sessionOf source options) _ node member)

/-- Faulty input that is a part of a definition. -/
theorem parse_wellFormed_faulty :
    ∃ node ∈ (parse "def f() = \x7b 1 ) 2 \x7d\n" ⟨4, 16⟩).root.preorder,
      (node.kind == .error) = true ∧ node.WellFormed := by
  have found : ((parse "def f() = \x7b 1 ) 2 \x7d\n" ⟨4, 16⟩).root.preorder.find?
      fun node => node.kind == .error).isSome = true := by
    decide +kernel
  rcases Option.isSome_iff_exists.mp found with ⟨node, same⟩
  have member := List.mem_of_find?_eq_some same
  have wanted := List.find?_some same
  exact ⟨node, member, wanted, parse_wellFormed "def f() = \x7b 1 ) 2 \x7d\n" ⟨4, 16⟩ node member⟩

/-- A name leads to a node, by which it can be asked for.  Only the body of a case clause may
lead to a token instead: where a separator stands in front of the first item, it has got the
name of the body, and nothing is found when the body is asked for as a node. -/
theorem parse_names [XidStart] (source : String) (options : ParseOptions) :
    ∀ node ∈ (parse source options).root.preorder, ∀ entry ∈ node.fields,
      (∃ inner, node.children[entry.2]? = some (.node inner) ∧
        node.fieldNode? entry.1 = some inner) ∨
      (node.kind = .caseClause ∧ entry.1 = .body ∧ node.fieldNode? .body = none ∧
        ∃ token, node.children[entry.2]? = some (.token token) ∧
          token.kind.isSeparator = true) := by
  intro node member entry given
  have tidy := tidy_parseStream (sessionOf source options) _ node member
  have leads : node.fieldNode? entry.1 = node.children[entry.2]?.bind Element.node? := by
    rw [Node.fieldNode?, Node.field?_of_mem tidy.distinct given]
  rcases tidy.named entry given with ⟨inner, found⟩ | ⟨clause, body, token, found, separates⟩
  · exact .inl ⟨inner, found, by rw [leads, found]; rfl⟩
  · refine .inr ⟨clause, body, ?_, token, found, separates⟩
    rw [← body, leads, found]
    rfl

/-- A separator stands in front of the only item of a clause. -/
theorem parse_names_separator :
    ∃ node ∈ (parse "def f() = match x \x7b case 0 => ; y \x7d\n" ⟨4, 16⟩).root.preorder,
      ∃ entry ∈ node.fields, node.kind = .caseClause ∧ entry.1 = .body ∧
        node.fieldNode? .body = none := by
  have found : ((parse "def f() = match x \x7b case 0 => ; y \x7d\n"
      ⟨4, 16⟩).root.preorder.any fun node => node.fields.any fun entry =>
        (node.fieldNode? entry.1).isNone) = true := by
    decide +kernel
  rcases List.any_eq_true.mp found with ⟨node, member, some⟩
  rcases List.any_eq_true.mp some with ⟨entry, given, nothing⟩
  rcases parse_names "def f() = match x \x7b case 0 => ; y \x7d\n" ⟨4, 16⟩ node member entry
    given with ⟨inner, _, leads⟩ | ⟨clause, body, missing, _⟩
  · rw [leads] at nothing
    cases nothing
  · exact ⟨node, member, entry, given, clause, body, missing⟩

end Offside
