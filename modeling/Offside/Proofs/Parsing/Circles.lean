import Offside.Proofs.Parsing.Outcomes

namespace Offside

/-!
# Every circle of the grammar charges a level

Inside a level of nesting a rule may open any nonterminal, because the level is charged.
Outside of that it opens only nonterminals of a lower rank than its own.  So the number of
nonterminals that are open at once is bounded by the number of levels.  A parse is run with
that bound, and it is never felt: a nonterminal is read by its rule, and the nonterminals in
the rule are read in the same way.
-/

/-- How many nonterminals can be opened one inside another here before a level is charged. -/
def Nonterminal.rank : Nonterminal → Nat
  | annotatedType | alternatives _ => 2
  | parameterType | simpleType | primaryPattern _ | expression => 1
  | _ => 0

theorem Nonterminal.rank_lt (nonterminal : Nonterminal) : nonterminal.rank < perLevel := by
  unfold rank
  split <;> decide

namespace Rule

/-- Whether a rule opens nothing but nonterminals below a rank before it charges a level. -/
def opensBelow (rank : Nat) : Rule → Bool
  | seq first second | choose _ first second | settle _ first second =>
    first.opensBelow rank && second.opensBelow rank
  | call nonterminal => nonterminal.rank < rank
  | node _ _ rule | loop rule | chain rule | withBraces _ rule | recover rule =>
    rule.opensBelow rank
  | _ => true

theorem opensBelow_perLevel (rule : Rule) : rule.opensBelow Nonterminal.perLevel = true := by
  induction rule with
  | seq first second one two => exact Bool.and_eq_true_iff.mpr ⟨one, two⟩
  | choose condition yes no whenHeld otherwise =>
      exact Bool.and_eq_true_iff.mpr ⟨whenHeld, otherwise⟩
  | settle ambiguity first second either or => exact Bool.and_eq_true_iff.mpr ⟨either, or⟩
  | call nonterminal => exact decide_eq_true nonterminal.rank_lt
  | node part kind rule inductionHypothesis => exact inductionHypothesis
  | loop rule inductionHypothesis => exact inductionHypothesis
  | chain rule inductionHypothesis => exact inductionHypothesis
  | withBraces allowed rule inductionHypothesis => exact inductionHypothesis
  | recover rule inductionHypothesis => exact inductionHypothesis
  | _ => rfl

end Rule

theorem Nonterminal.opensBelow_rank : ∀ nonterminal : Nonterminal,
    nonterminal.rule.opensBelow nonterminal.rank = true := by
  decide +kernel

/-! ## Outcomes that coincide -/

/-- A parse has charged at least the levels that were charged at some place, and no more
levels than there are. -/
structure Progress.Charged (limit start : Nat) (progress : Progress) : Prop where
  started : start ≤ progress.depth
  within : progress.depth ≤ limit

namespace Progress.Charged

variable {limit start : Nat} {progress : Progress}

theorem of_depth_eq {before after : Progress} (charged : before.Charged limit start)
    (same : after.depth = before.depth) : after.Charged limit start :=
  ⟨same ▸ charged.started, same ▸ charged.within⟩

theorem settle (charged : progress.Charged limit start) (session : Session)
    (ambiguity : Ambiguity) : (progress.settle session ambiguity).2.Charged limit start := by
  rcases progress.exists_settle_eq session ambiguity with ⟨_, settled⟩
  rw [settled]
  exact charged.of_depth_eq rfl

end Progress.Charged

/-- Two outcomes are the same, and no level was given back that had been charged before. -/
def Outcome.Coincides (limit start : Nat) (outcome other : Outcome) : Prop :=
  outcome = other ∧ outcome.Yields (·.Charged limit start) (·.Charged limit start)

namespace Outcome.Coincides

variable {limit start later : Nat} {outcome other : Outcome}

theorem mono (coincides : outcome.Coincides limit later other) (earlier : start ≤ later) :
    outcome.Coincides limit start other := by
  have wider : ∀ progress : Progress, progress.Charged limit later →
      progress.Charged limit start := fun progress charged =>
    ⟨Nat.le_trans earlier charged.started, charged.within⟩
  exact ⟨coincides.1, coincides.2.mono wider wider⟩

theorem andThen {rest restThere : Progress → Outcome} (first : outcome.Coincides limit start other)
    (second : ∀ progress, progress.Charged limit start →
      (rest progress).Coincides limit start (restThere progress)) :
    (outcome.andThen rest).Coincides limit start (other.andThen restThere) := by
  rcases first with ⟨rfl, charged⟩
  refine ⟨?_, charged.andThen fun progress reached => (second progress reached).2⟩
  cases outcome with
  | next progress => exact (second progress charged).1
  | leave progress => rfl
  | failed failure diagnostics => rfl

theorem map {change : Progress → Progress} (coincides : outcome.Coincides limit later other)
    (keeps : ∀ progress, progress.Charged limit later → (change progress).Charged limit start) :
    (outcome.map change).Coincides limit start (other.map change) :=
  ⟨congrArg (Outcome.map change) coincides.1, coincides.2.map keeps keeps⟩

theorem recover {before : Progress} (coincides : outcome.Coincides limit start other)
    (charged : before.Charged limit start) :
    (before.recover outcome).Coincides limit start (before.recover other) := by
  refine ⟨congrArg before.recover coincides.1,
    coincides.2.recover fun failure diagnostics => charged.of_depth_eq ?_⟩
  exact (Progress.addsFaulty_addFaulty _).of_restarted.depth

/-- By induction on the number of rounds. -/
theorem repeatRounds {round roundThere : Progress → Outcome} {progress : Progress}
    (each : ∀ progress, progress.Charged limit start →
      (round progress).Coincides limit start (roundThere progress)) (rounds : Nat)
    (charged : progress.Charged limit start) :
    (repeatRounds round rounds progress).Coincides limit start
      (repeatRounds roundThere rounds progress) := by
  induction rounds generalizing progress with
  | zero => exact ⟨rfl, charged⟩
  | succ rounds inductionHypothesis =>
      have once := each progress charged
      unfold Offside.repeatRounds
      rw [← once.1]
      cases comes : round progress with
      | next after =>
          rw [comes] at once
          exact inductionHypothesis once.2
      | leave after =>
          rw [comes] at once
          exact ⟨rfl, once.2⟩
      | failed failure diagnostics => exact ⟨rfl, True.intro⟩

end Outcome.Coincides

theorem Progress.charge_coincides {session : Session} {limit start : Nat} {progress : Progress}
    (same : session.maxDepth = limit) (charged : start ≤ progress.depth) :
    (progress.charge session).Coincides limit (start + 1) (progress.charge session) := by
  refine ⟨rfl, (progress.charge_yields session).mono ?_ fun _ => id⟩
  rintro after ⟨room, rfl⟩
  exact ⟨Nat.succ_le_succ charged, same ▸ room⟩

/-! ## Running the grammar -/

/-- Two ways to read nonterminals coincide for those below a rank, and for all of them
where one more level is charged. -/
def CoincidingCalls (limit start rank : Nat)
    (call callThere : Surroundings → Nonterminal → Progress → Outcome) : Prop :=
  ∀ surroundings nonterminal progress, surroundings.session.maxDepth = limit →
    progress.Charged limit start → nonterminal.rank < rank ∨ start < progress.depth →
      (call surroundings nonterminal progress).Coincides limit progress.depth
        (callThere surroundings nonterminal progress)

/-- By induction on the rule.  A level that is nested inside starts anew with all ranks. -/
theorem Rule.run_coincides {limit start rank : Nat}
    {call callThere : Surroundings → Nonterminal → Progress → Outcome}
    (calls : CoincidingCalls limit start rank call callThere) (rule : Rule)
    {surroundings : Surroundings} (same : surroundings.session.maxDepth = limit)
    {progress : Progress} (charged : progress.Charged limit start)
    (below : rule.opensBelow rank = true) :
    (rule.run call surroundings progress).Coincides limit start
      (rule.run callThere surroundings progress) := by
  induction rule generalizing surroundings start rank progress with
  | done => exact ⟨rfl, charged⟩
  | seq first second one two =>
      rcases Bool.and_eq_true_iff.mp below with ⟨belowFirst, belowSecond⟩
      exact (one calls same charged belowFirst).andThen fun middle reached =>
        two calls same reached belowSecond
  | take => exact ⟨rfl, charged.of_depth_eq rfl⟩
  | call nonterminal =>
      exact (calls surroundings nonterminal progress same charged
        (.inl (of_decide_eq_true below))).mono charged.started
  | node part kind rule inductionHypothesis =>
      have opened : (progress.openNode kind).Charged limit start := charged.of_depth_eq rfl
      exact (inductionHypothesis calls same opened below).map
        fun inner reached => reached.of_depth_eq rfl
  | become kind => exact ⟨rfl, charged.of_depth_eq rfl⟩
  | nameFirst part => exact ⟨rfl, charged.of_depth_eq rfl⟩
  | wrap kind => exact ⟨rfl, charged.of_depth_eq rfl⟩
  | choose condition yes no whenHeld otherwise =>
      rcases Bool.and_eq_true_iff.mp below with ⟨belowYes, belowNo⟩
      unfold run
      split
      · exact whenHeld calls same charged belowYes
      · exact otherwise calls same charged belowNo
  | settle ambiguity first second either or =>
      rcases Bool.and_eq_true_iff.mp below with ⟨belowFirst, belowSecond⟩
      have settled := charged.settle surroundings.session ambiguity
      unfold run
      dsimp only
      split
      · exact either calls same settled belowFirst
      · exact or calls same settled belowSecond
  | loop rule inductionHypothesis =>
      exact .repeatRounds (fun middle reached => inductionHypothesis calls same reached below)
        _ charged
  | leave => exact ⟨rfl, charged⟩
  | nested rule inductionHypothesis =>
      have deeper : CoincidingCalls limit (start + 1) Nonterminal.perLevel call callThere :=
        fun surroundings nonterminal progress same charged _ =>
          calls surroundings nonterminal progress same
            ⟨Nat.le_of_succ_le charged.started, charged.within⟩ (.inr charged.started)
      exact ((Progress.charge_coincides same charged.started).andThen fun middle reached =>
        inductionHypothesis deeper same reached rule.opensBelow_perLevel).map
          fun inner reached => charged.of_depth_eq rfl
  | chain rule inductionHypothesis =>
      exact (inductionHypothesis calls same charged below).map
        fun inner reached => charged.of_depth_eq rfl
  | link => exact (Progress.charge_coincides same charged.started).mono (Nat.le_succ start)
  | withBraces allowed rule inductionHypothesis =>
      have allowing : ({ surroundings with bracesAllowed := allowed } :
          Surroundings).session.maxDepth = limit := same
      exact inductionHypothesis calls allowing charged below
  | recover rule inductionHypothesis =>
      exact (inductionHypothesis calls same charged below).recover charged
  | reject expected =>
      exact ⟨rfl, charged.of_depth_eq (Progress.addsFaulty_reportFailure progress _).depth⟩
  | fail expected => exact ⟨rfl, True.intro⟩
  | failMissing kind part => exact ⟨rfl, True.intro⟩

namespace Nonterminal

/-- Beyond what the levels that are left allow for, the number of nonterminals that may be
open makes no difference.  By induction on that number. -/
theorem run_coincides {limit depth depthThere : Nat} (surroundings : Surroundings)
    (nonterminal : Nonterminal) (progress : Progress)
    (same : surroundings.session.maxDepth = limit) (within : progress.depth ≤ limit)
    (enough : perLevel * (limit - progress.depth) + nonterminal.rank < depth)
    (enoughThere : perLevel * (limit - progress.depth) + nonterminal.rank < depthThere) :
    (run depth surroundings nonterminal progress).Coincides limit progress.depth
      (run depthThere surroundings nonterminal progress) := by
  induction depth generalizing depthThere surroundings nonterminal progress with
  | zero => omega
  | succ depth inductionHypothesis =>
      cases depthThere with
      | zero => omega
      | succ depthThere =>
          refine Rule.run_coincides (fun inside other later same charged room => ?_)
            nonterminal.rule same ⟨Nat.le_refl _, within⟩ nonterminal.opensBelow_rank
          have started := charged.started
          have allowed := charged.within
          have bounded := other.rank_lt
          unfold perLevel at *
          exact inductionHypothesis inside other later same allowed (by omega) (by omega)

/-- More nonterminals than a parse allows for are never open. -/
theorem run_eq_derive {depth : Nat} {surroundings : Surroundings} (nonterminal : Nonterminal)
    {progress : Progress} (within : progress.depth ≤ surroundings.session.maxDepth)
    (enough : perLevel * (surroundings.session.maxDepth + 1) ≤ depth) :
    run depth surroundings nonterminal progress = derive surroundings nonterminal progress := by
  have bounded := nonterminal.rank_lt
  unfold perLevel at enough bounded
  have room : perLevel * (surroundings.session.maxDepth - progress.depth) + nonterminal.rank <
      perLevel * (surroundings.session.maxDepth + 1) := by
    unfold perLevel
    omega
  have roomThere : perLevel * (surroundings.session.maxDepth - progress.depth) +
      nonterminal.rank < depth := by
    unfold perLevel
    omega
  exact (run_coincides surroundings nonterminal progress rfl within roomThere room).1

/-- A nonterminal is read by its rule, and the nonterminals in the rule in the same way. -/
theorem derive_eq {surroundings : Surroundings} (nonterminal : Nonterminal) {progress : Progress}
    (within : progress.depth ≤ surroundings.session.maxDepth) :
    derive surroundings nonterminal progress =
      nonterminal.rule.run derive surroundings progress := by
  rw [← run_eq_derive nonterminal within (Nat.le_succ _)]
  refine (Rule.run_coincides (fun inside other later same charged _ => ?_) nonterminal.rule rfl
    ⟨Nat.le_refl _, within⟩ nonterminal.opensBelow_rank).1
  have bounded := other.rank_lt
  have room : perLevel * (surroundings.session.maxDepth - later.depth) + other.rank <
      perLevel * (surroundings.session.maxDepth + 1) := by
    unfold perLevel at *
    omega
  rw [derive, same]
  exact run_coincides inside other later same charged.within room room

end Nonterminal
end Offside
