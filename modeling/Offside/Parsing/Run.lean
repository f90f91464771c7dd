import Offside.Grammar
import Offside.Parsing.Recovery

namespace Offside

/-!
# Running the grammar

What each form of rule does to the progress of a parse.  A rule is run by
recursion on its form; where it calls a nonterminal it asks for the run of that
nonterminal, which is handed to it.

A loop makes at most one round for each token that is left, and one more to find
that nothing continues it.  Every loop of the grammar takes a token in each of its
rounds, so the bound is never felt.

Circles of nonterminals are cut off by the nesting guard: between two levels of
nesting only a few nonterminals can follow each other, so the allowed depth also
bounds the number of nonterminals that are open at once.
-/

/-- The circumstances of a rule. -/
structure Surroundings where
  session : Session
  /-- Whether a group in curly brackets may be read as an argument. -/
  bracesAllowed : Bool

def Condition.holds (surroundings : Surroundings) (progress : Progress) : Condition → Bool
  | ahead test => test progress.stream
  | first test => progress.firstKind?.any test
  | bracesAllowed => surroundings.bracesAllowed

namespace Progress

/-- Settle an ambiguity.  When looking ahead does not settle it, the lexer has
usually reported a missing bracket; otherwise the ambiguity itself is reported. -/
def settle (session : Session) (progress : Progress) (ambiguity : Ambiguity) :
    Bool × Progress :=
  match progress.stream.resolve progress.lastKind? ambiguity with
  | some choice => (choice, progress)
  | none =>
    (ambiguity.prefersFirst,
      if session.lexerComplained then progress
      else progress.report (.unresolvedAmbiguity ambiguity) progress.stream.current.span)

/-- Charge one level of nesting, if there is one left. -/
def charge (session : Session) (progress : Progress) : Outcome :=
  if session.maxDepth ≤ progress.depth then
    .failed (progress.tooDeep session.maxDepth) progress.diagnostics
  else
    .next { progress with depth := progress.depth + 1 }

/-- What comes of a recovered part, given its progress at the start.  Only going
too deep is passed on. -/
def recover (before : Progress) : Outcome → Outcome
  | .failed failure diagnostics =>
    if failure.fault.isFatal then .failed failure diagnostics
    else
      .next
        (({ before with diagnostics := diagnostics } : Progress).reportFailure
          failure).addFaulty
  | done => done

end Progress

/-- Make rounds until the loop is left, at most as many as given. -/
def repeatRounds (round : Progress → Outcome) : Nat → Progress → Outcome
  | 0, progress => .next progress
  | rounds + 1, progress =>
    match round progress with
    | .next progress => repeatRounds round rounds progress
    | .leave progress => .next progress
    | .failed failure diagnostics => .failed failure diagnostics

def Rule.run (call : Surroundings → Nonterminal → Progress → Outcome) :
    Rule → Surroundings → Progress → Outcome
  | done, _, progress => .next progress
  | seq first second, surroundings, progress =>
    (run call first surroundings progress).andThen (run call second surroundings)
  | take, _, progress => .next progress.take
  | .call nonterminal, surroundings, progress => call surroundings nonterminal progress
  | node part kind rule, surroundings, progress =>
    let outer := progress.builder
    (run call rule surroundings (progress.openNode kind)).map
      fun inner => inner.closeNode outer part
  | become kind, _, progress =>
    .next { progress with builder := { progress.builder with kind := kind } }
  | nameFirst part, _, progress =>
    .next { progress with builder := progress.builder.attach part 0 }
  | wrap kind, _, progress => .next (progress.wrap kind)
  | choose condition yes no, surroundings, progress =>
    if condition.holds surroundings progress then run call yes surroundings progress
    else run call no surroundings progress
  | settle ambiguity first second, surroundings, progress =>
    let settled := progress.settle surroundings.session ambiguity
    if settled.1 then run call first surroundings settled.2
    else run call second surroundings settled.2
  | loop rule, surroundings, progress =>
    repeatRounds (run call rule surroundings) (progress.stream.remaining + 1) progress
  | leave, _, progress => .leave progress
  | nested rule, surroundings, progress =>
    let depth := progress.depth
    ((progress.charge surroundings.session).andThen (run call rule surroundings)).map
      fun inner => { inner with depth := depth }
  | chain rule, surroundings, progress =>
    let depth := progress.depth
    (run call rule surroundings progress).map fun inner => { inner with depth := depth }
  | link, surroundings, progress => progress.charge surroundings.session
  | withBraces allowed rule, surroundings, progress =>
    run call rule { surroundings with bracesAllowed := allowed } progress
  | recover rule, surroundings, progress =>
    progress.recover (run call rule surroundings progress)
  | reject expected, _, progress =>
    .next (progress.reportFailure (progress.unexpected expected)).addFaulty
  | fail expected, _, progress => .failed (progress.unexpected expected) progress.diagnostics
  | failMissing kind part, _, progress =>
    .failed (progress.missing kind part) progress.diagnostics

end Offside
