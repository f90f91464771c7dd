import Offside.Proofs.Parsing.Outcomes

namespace Offside

/-!
# Parsing in place

A rule that is given up keeps nothing but its reports.  So whoever runs it goes on from where
it stood before, with the nesting that was charged then and with the same answer to the
question about curly brackets.  A parser that works in place has no such copy of itself.  It
stays wherever the rule was given up, and the rules have to take care themselves of what they
have charged and of what they have allowed.

Here the rules are run in place, by a parser that they change, and that is shown to come to
the same.  It does because whatever is recovered from charges no links but those of its own
chains, and because every rule that allows or forbids curly brackets takes that back.
-/

/-- A parser at work: how far it has come, and whether a group in curly brackets may be read
as an argument. -/
structure Parser extends Progress where
  bracesAllowed : Bool

/-- What comes of a rule that is run in place.  Also a rule that was given up leaves the parser
somewhere. -/
inductive Result
  | next (parser : Parser)
  | leave (parser : Parser)
  | failed (failure : Failure) (parser : Parser)

namespace Result

def andThen (result : Result) (rest : Parser → Result) : Result :=
  match result with
  | next parser => rest parser
  | other => other

/-- Change the parser of a rule that was not given up. -/
def map (change : Parser → Parser) : Result → Result
  | next parser => next (change parser)
  | leave parser => leave (change parser)
  | failed failure parser => failed failure parser

/-- Change the parser, whatever has come of the rule. -/
def always (change : Parser → Parser) : Result → Result
  | next parser => next (change parser)
  | leave parser => leave (change parser)
  | failed failure parser => failed failure (change parser)

/-- The parser, whatever has come of the rule. -/
def parser : Result → Parser
  | next parser | leave parser | failed _ parser => parser

/-- What can be seen of the parser when nobody goes on from where a rule was given up. -/
def outcome : Result → Outcome
  | next parser => .next parser.toProgress
  | leave parser => .leave parser.toProgress
  | failed failure parser => .failed failure parser.diagnostics

end Result

namespace Parser

def update (parser : Parser) (change : Progress → Progress) : Parser :=
  { parser with toProgress := change parser.toProgress }

/-- Charge one level of nesting, if there is one left. -/
def charge (session : Session) (parser : Parser) : Result :=
  if session.maxDepth ≤ parser.depth then
    .failed (parser.tooDeep session.maxDepth) parser
  else
    .next { parser with depth := parser.depth + 1 }

/-- Go back to where a part began, from where it was given up. -/
def rewind (before stuck : Parser) : Parser :=
  { stuck with
    stream := stuck.stream.moveTo before.stream.position
    builder := before.builder }

/-- Gather a part that was given up as faulty input.  Only going too deep is passed on. -/
def recover (before : Parser) : Result → Result
  | .failed failure stuck =>
    if failure.fault.isFatal then .failed failure stuck
    else
      .next ((before.rewind stuck).update fun progress =>
        (progress.reportFailure failure).addFaulty)
  | done => done

/-- Make rounds until the loop is left, at most as many as given. -/
def repeatRounds (round : Parser → Result) : Nat → Parser → Result
  | 0, parser => .next parser
  | rounds + 1, parser =>
    match round parser with
    | .next parser => repeatRounds round rounds parser
    | .leave parser => .next parser
    | .failed failure parser => .failed failure parser

end Parser

/-- Run a rule in place.  What a rule has charged is released by the rule around it that
charges levels of its own, or that stands around a chain, whatever has come of the rule. -/
def Rule.work (session : Session) (call : Nonterminal → Parser → Result) :
    Rule → Parser → Result
  | done, parser => .next parser
  | seq first second, parser => (work session call first parser).andThen (work session call second)
  | take, parser => .next (parser.update Progress.take)
  | .call nonterminal, parser => call nonterminal parser
  | node part kind rule, parser =>
    (work session call rule (parser.update fun progress => progress.openNode kind)).map
      fun inner => inner.update fun progress => progress.closeNode parser.builder part
  | become kind, parser => .next { parser with builder := { parser.builder with kind := kind } }
  | nameFirst part, parser => .next { parser with builder := parser.builder.attach part 0 }
  | wrap kind, parser => .next (parser.update fun progress => progress.wrap kind)
  | choose condition yes no, parser =>
    if condition.holds ⟨session, parser.bracesAllowed⟩ parser.toProgress then
      work session call yes parser
    else work session call no parser
  | settle ambiguity first second, parser =>
    let settled := parser.toProgress.settle session ambiguity
    let ready := { parser with toProgress := settled.2 }
    if settled.1 then work session call first ready else work session call second ready
  | loop rule, parser =>
    Parser.repeatRounds (work session call rule) (parser.stream.remaining + 1) parser
  | leave, parser => .leave parser
  | nested rule, parser =>
    (parser.charge session).andThen fun charged =>
      (work session call rule charged).always fun after => { after with depth := parser.depth }
  | chain rule, parser =>
    (work session call rule parser).always fun after => { after with depth := parser.depth }
  | link, parser => parser.charge session
  | withBraces allowed rule, parser =>
    (work session call rule { parser with bracesAllowed := allowed }).always fun after =>
      { after with bracesAllowed := parser.bracesAllowed }
  | recover rule, parser => parser.recover (work session call rule parser)
  | reject expected, parser =>
    .next (parser.update fun progress =>
      (progress.reportFailure (progress.unexpected expected)).addFaulty)
  | fail expected, parser => .failed (parser.unexpected expected) parser
  | failMissing kind part, parser => .failed (parser.missing kind part) parser

/-- Run the rule of a nonterminal in place, with at most `depth` nonterminals open. -/
def Nonterminal.work (session : Session) : Nat → Nonterminal → Parser → Result
  | 0, _, parser => .failed (parser.tooDeep session.maxDepth) parser
  | depth + 1, nonterminal, parser => nonterminal.rule.work session (work session depth) parser

/-! ## What running a rule leaves as it was -/

namespace Parser

/-- A parser has the tokens, the answer about curly brackets and the reports that it had
before, perhaps with further reports.  Where everything that has been charged is released
again, `released`, it also has as many levels left. -/
structure Keeps (before after : Parser) (released : Bool) : Prop where
  stream : after.stream = before.stream.moveTo after.stream.position
  bracesAllowed : after.bracesAllowed = before.bracesAllowed
  reports : before.diagnostics.toList <+: after.diagnostics.toList
  depth : released = true → after.depth = before.depth

variable {before middle after parser : Parser} {released weaker : Bool}

namespace Keeps

theorem of_same (stream : after.stream = before.stream)
    (bracesAllowed : after.bracesAllowed = before.bracesAllowed)
    (reports : before.diagnostics.toList <+: after.diagnostics.toList)
    (depth : released = true → after.depth = before.depth) : before.Keeps after released where
  stream := by rw [stream, TokenStream.moveTo_self]
  bracesAllowed := bracesAllowed
  reports := reports
  depth := depth

theorem refl (parser : Parser) : parser.Keeps parser released :=
  .of_same rfl rfl List.prefix_rfl fun _ => rfl

theorem trans (first : before.Keeps middle released) (second : middle.Keeps after released) :
    before.Keeps after released where
  stream := by
    have moved := second.stream
    rw [first.stream, TokenStream.moveTo_moveTo] at moved
    exact moved
  bracesAllowed := second.bracesAllowed.trans first.bracesAllowed
  reports := first.reports.trans second.reports
  depth := fun all => (second.depth all).trans (first.depth all)

theorem mono (keeps : before.Keeps after released) (less : weaker = true → released = true) :
    before.Keeps after weaker :=
  ⟨keeps.stream, keeps.bracesAllowed, keeps.reports, fun all => keeps.depth (less all)⟩

/-- Of two parts both have to release what they charge. -/
theorem left {other : Bool} (keeps : before.Keeps after released) :
    before.Keeps after (released && other) :=
  keeps.mono fun both => (Bool.and_eq_true_iff.mp both).1

theorem right {other : Bool} (keeps : before.Keeps after released) :
    before.Keeps after (other && released) :=
  keeps.mono fun both => (Bool.and_eq_true_iff.mp both).2

/-- The node under construction does not matter. -/
theorem build (parser : Parser) (builder : Builder) :
    parser.Keeps { parser with builder := builder } released :=
  .of_same rfl rfl List.prefix_rfl fun _ => rfl

theorem take (parser : Parser) : parser.Keeps (parser.update Progress.take) released where
  stream := (Progress.Course.take parser.toProgress).stream
  bracesAllowed := rfl
  reports := List.prefix_rfl
  depth := fun _ => rfl

/-- Setting the levels back releases whatever has been charged. -/
theorem release (keeps : before.Keeps after weaker) :
    before.Keeps { after with depth := before.depth } released :=
  ⟨keeps.stream, keeps.bracesAllowed, keeps.reports, fun _ => rfl⟩

theorem settle (session : Session) (parser : Parser) (ambiguity : Ambiguity) :
    parser.Keeps { parser with toProgress := (parser.toProgress.settle session ambiguity).2 }
      released := by
  unfold Progress.settle
  split
  · exact .refl parser
  · dsimp only
    split
    · exact .refl parser
    · refine .of_same rfl rfl ?_ fun _ => rfl
      show _ <+: (Array.push _ _).toList
      rw [Array.toList_push]
      exact List.prefix_append _ _

/-- Gathering faulty input takes tokens, and a report may be made in front of it. -/
theorem addFaulty (parser : Parser) (failure : Failure) :
    parser.Keeps
      (parser.update fun progress => (progress.reportFailure failure).addFaulty) released := by
  have restarted : parser.toProgress.reportFailure failure =
      parser.toProgress.restarted failure parser.diagnostics := rfl
  refine ⟨?_, rfl, ?_, fun _ => ?_⟩
  · have moved := (Progress.Course.addFaulty (parser.toProgress.reportFailure failure)).stream
    rw [restarted, Progress.stream_restarted] at moved
    exact moved
  · show _ <+: (parser.toProgress.reportFailure failure).addFaulty.diagnostics.toList
    rw [Progress.diagnostics_addFaulty, restarted, Progress.diagnostics_restarted]
    exact List.prefix_append _ _
  · exact (Progress.addsFaulty_reportFailure parser.toProgress failure).depth

end Keeps
end Parser

namespace Result

/-- What holds of the parser, whatever has come of the rule. -/
def All (result : Result) (holds : Parser → Prop) : Prop := holds result.parser

variable {result : Result} {holds holds' : Parser → Prop}

namespace All

theorem mono (all : result.All holds) (weaker : ∀ parser, holds parser → holds' parser) :
    result.All holds' :=
  weaker result.parser all

theorem andThen {rest : Parser → Result} (first : result.All holds)
    (second : ∀ middle, holds middle → (rest middle).All holds) :
    (result.andThen rest).All holds := by
  cases result with
  | next parser => exact second parser first
  | leave parser => exact first
  | failed failure parser => exact first

/-- A change that touches only a parser whose rule was not given up. -/
theorem map {change : Parser → Parser} (all : result.All holds)
    (changed : ∀ parser, holds parser → holds' (change parser))
    (stuck : ∀ parser, holds parser → holds' parser) : (result.map change).All holds' := by
  cases result with
  | next parser => exact changed parser all
  | leave parser => exact changed parser all
  | failed failure parser => exact stuck parser all

theorem always {change : Parser → Parser} (all : result.All holds)
    (changed : ∀ parser, holds parser → holds' (change parser)) :
    (result.always change).All holds' := by
  cases result with
  | next parser => exact changed parser all
  | leave parser => exact changed parser all
  | failed failure parser => exact changed parser all

end All
end Result

/-- Whether everything that a rule charges is released again by the rule itself. -/
def Rule.releases : Rule → Bool
  | link => false
  | seq first second => first.releases && second.releases
  | choose _ yes no => yes.releases && no.releases
  | settle _ first second => first.releases && second.releases
  | node _ _ rule | loop rule | withBraces _ rule | recover rule => rule.releases
  | _ => true

namespace Parser

variable {parser : Parser} {released : Bool}

theorem charge_eq (session : Session) (parser : Parser) :
    parser.charge session = .failed (parser.tooDeep session.maxDepth) parser ∨
      parser.charge session = .next { parser with depth := parser.depth + 1 } := by
  unfold charge
  split
  · exact .inl rfl
  · exact .inr rfl

/-- Charging a level changes nothing else. -/
theorem Keeps.charge (parser : Parser) :
    parser.Keeps { parser with depth := parser.depth + 1 } false :=
  .of_same rfl rfl List.prefix_rfl nofun

/-- By induction on the number of rounds. -/
theorem repeatRounds_keeps {round : Parser → Result}
    (each : ∀ parser, (round parser).All fun after => parser.Keeps after released)
    (rounds : Nat) (parser : Parser) :
    (repeatRounds round rounds parser).All fun after => parser.Keeps after released := by
  induction rounds generalizing parser with
  | zero => exact .refl parser
  | succ rounds inductionHypothesis =>
      have once := each parser
      unfold repeatRounds
      cases came : round parser with
      | next middle =>
          rw [came] at once
          exact (inductionHypothesis middle).mono fun _ => once.trans
      | leave after =>
          rw [came] at once
          exact once
      | failed failure after =>
          rw [came] at once
          exact once

theorem Keeps.stream_rewind {stuck : Parser} (keeps : parser.Keeps stuck released) :
    (parser.rewind stuck).stream = parser.stream := by
  show stuck.stream.moveTo parser.stream.position = parser.stream
  rw [keeps.stream, TokenStream.moveTo_moveTo, TokenStream.moveTo_self]

/-- Of what was given up the reports stay. -/
theorem recover_keeps {result : Result}
    (all : result.All fun after => parser.Keeps after released) :
    (parser.recover result).All fun after => parser.Keeps after released := by
  cases result with
  | next after => exact all
  | leave after => exact all
  | failed failure stuck =>
      unfold recover
      dsimp only
      split
      · exact all
      · have back : parser.Keeps (parser.rewind stuck) released :=
          .of_same (Keeps.stream_rewind all) all.bracesAllowed all.reports all.depth
        exact back.trans (.addFaulty _ failure)

end Parser

/-- Whatever comes of a rule, the parser has its tokens, its answer about curly brackets and
its reports, and its levels if the rule releases them.  By induction on the rule, with one
case for each of its forms. -/
theorem Rule.work_keeps (session : Session) {call : Nonterminal → Parser → Result}
    (calls : ∀ nonterminal parser,
      (call nonterminal parser).All fun after => parser.Keeps after true)
    (rule : Rule) (parser : Parser) :
    (rule.work session call parser).All fun after => parser.Keeps after rule.releases := by
  induction rule generalizing parser with
  | done => exact .refl parser
  | seq first second one two =>
      refine ((one parser).mono fun _ keeps => keeps.left).andThen fun middle keeps => ?_
      exact (two middle).mono fun _ further => keeps.trans further.right
  | take => exact .take parser
  | call nonterminal => exact calls nonterminal parser
  | node part kind rule inductionHypothesis =>
      have inside := (inductionHypothesis
        (parser.update fun progress => progress.openNode kind)).mono fun _ keeps =>
          (Parser.Keeps.build parser (.new kind)).trans keeps
      exact inside.map (fun inner keeps => keeps.trans (.build inner _)) fun _ => id
  | become kind => exact .build parser _
  | nameFirst part => exact .build parser _
  | wrap kind => exact .build parser _
  | choose condition yes no whenHeld otherwise =>
      unfold work
      split
      · exact (whenHeld parser).mono fun _ keeps => keeps.left
      · exact (otherwise parser).mono fun _ keeps => keeps.right
  | settle ambiguity first second either or =>
      unfold work
      dsimp only
      split
      · exact (either _).mono fun _ keeps => (Parser.Keeps.settle session parser _).trans keeps.left
      · exact (or _).mono fun _ keeps => (Parser.Keeps.settle session parser _).trans keeps.right
  | loop rule inductionHypothesis => exact Parser.repeatRounds_keeps inductionHypothesis _ parser
  | leave => exact .refl parser
  | nested rule inductionHypothesis =>
      unfold work
      rcases parser.charge_eq session with stuck | charged
      · rw [stuck]
        exact .refl parser
      · rw [charged]
        exact (inductionHypothesis { parser with depth := parser.depth + 1 }).always
          fun _ keeps => ((Parser.Keeps.charge parser).trans (keeps.mono nofun)).release
  | chain rule inductionHypothesis =>
      exact (inductionHypothesis parser).always fun _ keeps => keeps.release
  | link =>
      unfold work
      rcases parser.charge_eq session with stuck | charged
      · rw [stuck]
        exact .refl parser
      · rw [charged]
        exact .charge parser
  | withBraces allowed rule inductionHypothesis =>
      exact (inductionHypothesis { parser with bracesAllowed := allowed }).always
        fun _ keeps => ⟨keeps.stream, rfl, keeps.reports, keeps.depth⟩
  | recover rule inductionHypothesis => exact Parser.recover_keeps (inductionHypothesis parser)
  | reject expected => exact .addFaulty parser _
  | fail expected => exact .refl parser
  | failMissing kind part => exact .refl parser

/-- Every rule of the grammar releases what it charges. -/
theorem Nonterminal.rule_releases : ∀ nonterminal : Nonterminal,
    nonterminal.rule.releases = true := by
  decide +kernel

/-- Whatever comes of a nonterminal, the parser is left as it was, apart from its place and
the node under construction.  By induction on the number of nonterminals that may be open. -/
theorem Nonterminal.work_keeps (session : Session) (limit : Nat) (nonterminal : Nonterminal)
    (parser : Parser) :
    (nonterminal.work session limit parser).All fun after => parser.Keeps after true := by
  induction limit generalizing nonterminal parser with
  | zero => exact .refl parser
  | succ limit inductionHypothesis =>
      have keeps := nonterminal.rule.work_keeps session inductionHypothesis parser
      rw [nonterminal.rule_releases] at keeps
      exact keeps

/-! ## The same outcome -/

namespace Result

variable {result : Result} {parser : Parser}

theorem outcome_andThen {rest : Parser → Result} {further : Progress → Outcome}
    (same : ∀ middle, result = .next middle →
      (rest middle).outcome = further middle.toProgress) :
    (result.andThen rest).outcome = result.outcome.andThen further := by
  cases result with
  | next middle => exact same middle rfl
  | leave after => rfl
  | failed failure stuck => rfl

theorem outcome_map {change : Parser → Parser} {changed : Progress → Progress}
    (same : ∀ after, (change after).toProgress = changed after.toProgress) :
    (result.map change).outcome = result.outcome.map changed := by
  cases result with
  | next after => exact congrArg Outcome.next (same after)
  | leave after => exact congrArg Outcome.leave (same after)
  | failed failure stuck => rfl

/-- A change that touches no report does not show where a rule was given up. -/
theorem outcome_always {change : Parser → Parser} {changed : Progress → Progress}
    (same : ∀ after, (change after).toProgress = changed after.toProgress)
    (reports : ∀ after, (change after).diagnostics = after.diagnostics) :
    (result.always change).outcome = result.outcome.map changed := by
  cases result with
  | next after => exact congrArg Outcome.next (same after)
  | leave after => exact congrArg Outcome.leave (same after)
  | failed failure stuck => exact congrArg (Outcome.failed failure) (reports stuck)

/-- Going back comes to the same as never having gone, if all levels have been released. -/
theorem outcome_recover (keeps : result.All fun after => parser.Keeps after true) :
    (parser.recover result).outcome = parser.toProgress.recover result.outcome := by
  cases result with
  | next after => rfl
  | leave after => rfl
  | failed failure stuck =>
      have back : (parser.rewind stuck).toProgress =
          { parser.toProgress with diagnostics := stuck.diagnostics } := by
        have stream : stuck.stream.moveTo parser.stream.position = parser.stream :=
          Parser.Keeps.stream_rewind keeps
        unfold Parser.rewind
        rw [stream, show stuck.depth = parser.depth from keeps.depth rfl]
      by_cases fatal : failure.fault.isFatal = true
      · simp only [Parser.recover, Progress.recover, outcome, if_pos fatal]
      · simp only [Parser.recover, Progress.recover, outcome, if_neg fatal]
        rw [← back]
        rfl

theorem outcome_charge (session : Session) (parser : Parser) :
    (parser.charge session).outcome = parser.toProgress.charge session := by
  unfold Parser.charge Progress.charge
  split <;> rfl

end Result

/-- The parts of a rule that are recovered from. -/
def Rule.recovered : Rule → List Rule
  | recover rule => rule :: rule.recovered
  | seq first second => first.recovered ++ second.recovered
  | choose _ yes no => yes.recovered ++ no.recovered
  | settle _ first second => first.recovered ++ second.recovered
  | node _ _ rule | loop rule | nested rule | chain rule | withBraces _ rule => rule.recovered
  | _ => []

/-- A round is made with the same answer about curly brackets as the one before it.  By
induction on the number of rounds. -/
theorem Parser.outcome_repeatRounds {round : Parser → Result} {once : Progress → Outcome}
    {allowed : Bool}
    (same : ∀ parser, parser.bracesAllowed = allowed →
      (round parser).outcome = once parser.toProgress)
    (keeps : ∀ parser, (round parser).All fun after =>
      after.bracesAllowed = parser.bracesAllowed)
    (rounds : Nat) (parser : Parser) (starts : parser.bracesAllowed = allowed) :
    (repeatRounds round rounds parser).outcome =
      Offside.repeatRounds once rounds parser.toProgress := by
  induction rounds generalizing parser with
  | zero => rfl
  | succ rounds inductionHypothesis =>
      have here := same parser starts
      have kept := keeps parser
      unfold repeatRounds Offside.repeatRounds
      rw [← here]
      cases came : round parser with
      | next middle =>
          rw [came] at kept
          exact inductionHypothesis middle (Eq.trans kept starts)
      | leave after => rfl
      | failed failure stuck => rfl

/-- Run in place, a rule comes to the same as when it is run from copies, if what it recovers
from has released its levels by then.  By induction on the rule. -/
theorem Rule.outcome_work {session : Session} {call : Nonterminal → Parser → Result}
    {derive : Surroundings → Nonterminal → Progress → Outcome}
    (keeps : ∀ nonterminal parser,
      (call nonterminal parser).All fun after => parser.Keeps after true)
    (same : ∀ nonterminal parser, (call nonterminal parser).outcome =
      derive ⟨session, parser.bracesAllowed⟩ nonterminal parser.toProgress)
    (rule : Rule) (releases : ∀ part ∈ rule.recovered, part.releases = true)
    (parser : Parser) :
    (rule.work session call parser).outcome =
      rule.run derive ⟨session, parser.bracesAllowed⟩ parser.toProgress := by
  induction rule generalizing parser with
  | seq first second one two =>
      rcases List.forall_mem_append.mp releases with ⟨releasesFirst, releasesSecond⟩
      have kept := first.work_keeps session keeps parser
      unfold work run
      rw [← one releasesFirst parser]
      refine Result.outcome_andThen fun middle came => ?_
      rw [came] at kept
      have allowed : middle.bracesAllowed = parser.bracesAllowed := kept.bracesAllowed
      rw [two releasesSecond middle, allowed]
  | call nonterminal => exact same nonterminal parser
  | node part kind rule inductionHypothesis =>
      have inside := inductionHypothesis releases
        (parser.update fun progress => progress.openNode kind)
      unfold work run
      dsimp only
      refine Eq.trans ?_ (congrArg (Outcome.map _) inside)
      exact Result.outcome_map fun inner => rfl
  | choose condition yes no whenHeld otherwise =>
      rcases List.forall_mem_append.mp releases with ⟨releasesYes, releasesNo⟩
      unfold work run
      split
      · exact whenHeld releasesYes parser
      · exact otherwise releasesNo parser
  | settle ambiguity first second either or =>
      rcases List.forall_mem_append.mp releases with ⟨releasesFirst, releasesSecond⟩
      unfold work run
      dsimp only
      split
      · exact either releasesFirst _
      · exact or releasesSecond _
  | loop rule inductionHypothesis =>
      have round (other : Parser) (starts : other.bracesAllowed = parser.bracesAllowed) :
          (rule.work session call other).outcome =
            rule.run derive ⟨session, parser.bracesAllowed⟩ other.toProgress := by
        rw [inductionHypothesis releases other, starts]
      refine Parser.outcome_repeatRounds round (fun other => ?_) _ parser rfl
      exact (rule.work_keeps session keeps other).mono fun _ kept => kept.bracesAllowed
  | nested rule inductionHypothesis =>
      unfold work run
      dsimp only
      rw [← Result.outcome_charge session parser]
      rcases parser.charge_eq session with stuck | charged
      · rw [stuck]
        rfl
      · rw [charged]
        have inside := inductionHypothesis releases { parser with depth := parser.depth + 1 }
        refine Eq.trans ?_ (congrArg (Outcome.map _) inside)
        exact Result.outcome_always (fun after => rfl) fun after => rfl
  | chain rule inductionHypothesis =>
      have inside := inductionHypothesis releases parser
      unfold work run
      dsimp only
      refine Eq.trans ?_ (congrArg (Outcome.map _) inside)
      exact Result.outcome_always (fun after => rfl) fun after => rfl
  | link => exact Result.outcome_charge session parser
  | withBraces allowed rule inductionHypothesis =>
      have inside := inductionHypothesis releases { parser with bracesAllowed := allowed }
      unfold work run
      refine Eq.trans ?_ inside
      cases rule.work session call { parser with bracesAllowed := allowed } <;> rfl
  | recover rule inductionHypothesis =>
      rcases List.forall_mem_cons.mp releases with ⟨here, further⟩
      have kept := rule.work_keeps session keeps parser
      rw [here] at kept
      unfold work run
      rw [Result.outcome_recover kept, inductionHypothesis further parser]
  | _ => rfl

/-! ## The productions that are recovered from -/

/-- What is recovered from: a definition on the outermost level, the items of a run and the
clauses of a block. -/
inductive Rule.Recovered : Rule → Prop
  | definition : Recovered (.call .definition)
  | item (place : ItemsPlace) : Recovered (item place)
  | caseClause : Recovered caseClause
  | relClause : Recovered relClause

theorem Rule.Recovered.releases {production : Rule} (recovered : production.Recovered) :
    production.releases = true := by
  cases recovered with
  | definition => rfl
  | item place => cases place <;> rfl
  | caseClause => rfl
  | relClause => rfl

/-- A production that is recovered from recovers from nothing by itself. -/
theorem Rule.Recovered.recovered_eq {production : Rule} (recovered : production.Recovered) :
    production.recovered = [] := by
  cases recovered with
  | definition => rfl
  | item place => cases place <;> rfl
  | caseClause => rfl
  | relClause => rfl

theorem Nonterminal.rule_recovered (nonterminal : Nonterminal) :
    ∀ part ∈ nonterminal.rule.recovered, part.Recovered := by
  cases nonterminal with
  | items place =>
      cases place with
      | bare => exact nofun
      | block => exact List.forall_mem_singleton.mpr (.item .block)
      | enumBody => exact List.forall_mem_singleton.mpr (.item .enumBody)
      | caseBody => exact List.forall_mem_singleton.mpr (.item .caseBody)
  | caseBlock => exact List.forall_mem_singleton.mpr .caseClause
  | operators place =>
      cases place <;> exact List.forall_mem_singleton.mpr .relClause
  | pattern place => cases place <;> exact nofun
  | alternatives place => cases place <;> exact nofun
  | primaryPattern place => cases place <;> exact nofun
  | _ => exact nofun

/-- Run in place, a nonterminal comes to the same.  By induction on the number of nonterminals
that may be open. -/
theorem Nonterminal.outcome_work (session : Session) (limit : Nat) (nonterminal : Nonterminal)
    (parser : Parser) :
    (nonterminal.work session limit parser).outcome =
      nonterminal.run limit ⟨session, parser.bracesAllowed⟩ parser.toProgress := by
  induction limit generalizing nonterminal parser with
  | zero => rfl
  | succ limit inductionHypothesis =>
      exact nonterminal.rule.outcome_work (Nonterminal.work_keeps session limit)
        inductionHypothesis (fun part member => (nonterminal.rule_recovered part member).releases)
        parser

end Offside
