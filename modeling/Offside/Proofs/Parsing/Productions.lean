import Offside.Proofs.Parsing.Complete
import Offside.Proofs.Parsing.Filling
import Offside.Proofs.Parsing.InPlace
import Offside.Proofs.Parsing.Shape
import Offside.Text.XidStart

namespace Offside

/-!
# What a production accounts for

What the grammar recovers from comes to one node.  The parser has then moved on over just the
tokens of that node, and there is at least one of them, so no loop over items or clauses turns
without getting anywhere.  If a production is given up, the tokens that it had taken are taken
again, as faulty input, and then it is the node of faulty input that holds them.

Either way the parser is left as it was otherwise: with its levels of nesting, with its answer
about curly brackets, with the same tokens in front of it and with all reports that had been
made.  That is so even where going too deep ends the parse.
-/

namespace Progress

/-- One node was added, and the tokens of it are what the parse has moved over. -/
structure AddsNode (before after : Progress) (node : Node) : Prop where
  builder : after.builder =
    { before.builder with children := before.builder.children.push (.node node) }
  nonempty : node.tokens ≠ []
  tokens : before.stream.left = node.tokens ++ after.stream.left
  position : after.stream.position = before.stream.position + node.tokens.length

/-- A node was added that is not dissolved, and neither it nor any node below it is empty. -/
def Makes (before after : Progress) : Prop :=
  ∃ node : Node, ¬ node.kind.isHidden = true ∧ (∀ below ∈ node.preorder, below.Spanned) ∧
    after.builder = before.builder.push node

variable {before after : Progress} {node : Node} {held : List Stretch}

/-- The only node that was added holds whatever the parse has moved over. -/
theorem AddsNode.of_moves (moves : before.Moves after held)
    (shown : ¬ node.kind.isHidden = true) (pushed : after.builder = before.builder.push node)
    (nonempty : node.tokens ≠ []) : before.AddsNode after node := by
  have same : Stretch.allTokens held = node.tokens := by
    have builder := moves.builder
    rw [pushed, Builder.stretches_push] at builder
    rw [node.tokens_eq, List.append_cancel_left builder]
  refine ⟨pushed.trans (before.builder.push_of_shown shown), nonempty, ?_, ?_⟩
  · rw [← same]
    exact moves.tokens
  · rw [← same]
    exact moves.position

/-- A node is added to the node under construction, in front of the tokens that are left. -/
theorem AddsNode.since {middle : Progress} (adds : middle.AddsNode after node)
    (stream : middle.stream = before.stream) (builder : middle.builder = before.builder) :
    before.AddsNode after node where
  builder := builder ▸ adds.builder
  nonempty := adds.nonempty
  tokens := stream ▸ adds.tokens
  position := stream ▸ adds.position

theorem Makes.addsNode (makes : before.Makes after) (moves : before.Moves after held) :
    ∃ node, before.AddsNode after node := by
  rcases makes with ⟨node, shown, spanned, pushed⟩
  refine ⟨node, .of_moves moves shown pushed fun nothing => ?_⟩
  have some := (node.union_tokens spanned).1
  rw [nothing] at some
  exact some rfl

/-- A node is finished that has something in it and is not dissolved. -/
theorem Makes.closeNode {progress inner : Progress}
    (shown : ¬ inner.builder.kind.isHidden = true) (spanned : inner.builder.Spanned)
    (filled : inner.builder.Filled) :
    progress.Makes (inner.closeNode progress.builder none) := by
  refine ⟨inner.builder.finish, shown, ?_, rfl⟩
  rw [Builder.Spanned, Node.preorder_children] at spanned
  rw [Node.preorder_eq]
  exact List.forall_mem_cons.mpr ⟨Builder.spanned_finish filled, spanned⟩

/-- Before the end of the source, faulty input is a node of its own. -/
theorem exists_addsNode_addFaulty {progress : Progress} (inside : progress.stream.atEnd = false) :
    ∃ node, node.kind = .error ∧ progress.AddsNode progress.addFaulty node := by
  rcases addFaulty_moves inside with ⟨tokens, nonempty, moves, _⟩
  rcases (addsFaulty_addFaulty progress).builder with same | ⟨node, kind, _, _, _, pushed⟩
  · have builder := moves.builder
    rw [same, List.self_eq_append_right] at builder
    cases builder
  · have shown : ¬ node.kind.isHidden = true := by
      rw [kind]
      exact Bool.false_ne_true
    have held : [Stretch.faulty node.tokens] = [.faulty tokens] := by
      have builder := moves.builder
      rw [pushed, Builder.stretches_push, Node.stretches_of_error kind] at builder
      exact List.append_cancel_left builder
    cases held
    exact ⟨node, kind, .of_moves moves shown pushed nonempty⟩

end Progress

/-! ## Rules that come to one node -/

/-- The nonterminals that come to a node of their own, whatever they are. -/
def Nonterminal.makesNode : Nonterminal → Bool
  | definition | expression => true
  | _ => false

/-- Whether a rule comes to one node.  Its kind may be settled only while it is built. -/
def Rule.makesNode : Rule → Bool
  | node part kind rule =>
    let built := (node part kind rule).added
    built.sound && built.left.isEmpty && built.done.all fun sketch => !sketch.kind.isHidden
  | call nonterminal => nonterminal.makesNode
  | choose _ yes no => yes.makesNode && no.makesNode
  | settle _ first second => first.makesNode && second.makesNode
  | nested rule => rule.makesNode
  | fail _ => true
  | _ => false

theorem Nonterminal.rule_makesNode {nonterminal : Nonterminal}
    (makes : nonterminal.makesNode = true) : nonterminal.rule.makesNode = true := by
  cases nonterminal with
  | definition =>
      have drawn := definition_drawn
      simp only [isDrawn, Bool.and_eq_true] at drawn
      show (Rule.nested (.node none .functionDefinition _)).makesNode = true
      unfold Rule.makesNode Rule.makesNode
      simp only [Bool.and_eq_true]
      exact ⟨drawn.1.1, drawn.2⟩
  | expression => decide +kernel
  | _ => cases makes

theorem Rule.Recovered.makesNode {production : Rule} (recovered : production.Recovered) :
    production.makesNode = true := by
  cases recovered with
  | definition => rfl
  | item place => cases place <;> decide +kernel
  | caseClause => decide +kernel
  | relClause => decide +kernel

open Rule in
theorem Rule.Recovered.full {production : Rule} (recovered : production.Recovered) :
    production.Full none False true := by
  cases recovered with
  | definition => simp [Full]
  | item place =>
      cases place <;>
        simp [Rule.item, enumCases, Full, Fills, Nonterminal.takes, NodeKind.isHidden]
  | caseClause => simp [Rule.caseClause, Rule.guard, Full, Fills, NodeKind.isHidden]
  | relClause =>
      simp [Rule.relClause, relFact, relBody, listUntil, commaListOne, atom, identifier, spliced,
        splice, literal, Full, Fills, NodeKind.isHidden]

theorem Rule.Recovered.neutral {production : Rule} (recovered : production.Recovered) :
    production.Neutral := by
  cases recovered with
  | definition => exact .call _
  | item place => exact item_neutral place
  | caseClause => exact caseClause_neutral
  | relClause => exact relClause_neutral

theorem Rule.Recovered.buildsConstructs {production : Rule} (recovered : production.Recovered) :
    production.buildsConstructs = true := by
  cases recovered with
  | definition => rfl
  | item place => cases place <;> rfl
  | caseClause => rfl
  | relClause => rfl

/-- By induction on the rule, through the forms that hand on what they are given to build.  A
node has something in it because its rule is full, and the analysis knows its last kind. -/
theorem Rule.run_makesNode {call : Surroundings → Nonterminal → Progress → Outcome}
    (full : FullCalls call) (drawn : DrawnCalls call)
    (nodes : ∀ surroundings nonterminal progress, nonterminal.makesNode = true →
      (call surroundings nonterminal progress).Yields progress.Makes fun _ => False)
    (rule : Rule) (surroundings : Surroundings) {progress : Progress}
    {known : Option (TokenStream → Bool)} {filled : Prop} {fixed : Bool}
    (sound : rule.Full known filled fixed) (makes : rule.makesNode = true)
    (answered : ∀ test, known = some test → test progress.stream = true) :
    (rule.run call surroundings progress).Yields progress.Makes fun _ => False := by
  induction rule generalizing progress known filled fixed with
  | call nonterminal => exact nodes surroundings nonterminal progress makes
  | node part kind rule inductionHypothesis =>
      cases part with
      | some part => cases makes
      | none =>
          simp only [makesNode, added, Bool.and_eq_true, List.isEmpty_iff,
            List.all_eq_true] at makes
          rcases makes with ⟨⟨⟨⟨drawable, _⟩, _⟩, stays⟩, shown⟩
          have built := rule.draws_draw drawable call drawn surroundings
            (progress.openNode kind) ⟨.new kind, List.mem_singleton_self _⟩
          have fills : (rule.run call surroundings (progress.openNode kind)).Fills
              (.new kind) rule known kind.isHidden :=
            rule.run_full full surroundings sound.1 (Builder.spanned_new kind) False.elim answered
          unfold run
          dsimp only
          cases came : rule.run call surroundings (progress.openNode kind) with
          | next inner =>
              rw [came] at built fills
              have visible : (!inner.builder.kind.isHidden) = true := shown _ built.shows
              rw [Bool.not_eq_true', ← Bool.not_eq_true] at visible
              have something : inner.builder.Filled := by
                rcases sound.2 with hidden | ⟨done, _⟩
                · exact absurd (fills.kind hidden ▸ hidden) visible
                · exact fills.filled (.inr done)
              exact .closeNode visible fills.spanned something
          | leave inner =>
              rw [came] at built
              have listed := built.shows
              rw [stays] at listed
              cases listed
          | failed failure diagnostics => exact True.intro
  | choose condition yes no whenHeld otherwise =>
      rcases Bool.and_eq_true_iff.mp makes with ⟨makesYes, makesNo⟩
      unfold run
      split
      · rename_i held
        exact whenHeld sound.1 makesYes (Condition.test_of_holds held)
      · exact otherwise sound.2 makesNo fun test known => by cases known
  | settle ambiguity first second either or =>
      rcases Bool.and_eq_true_iff.mp makes with ⟨makesFirst, makesSecond⟩
      rcases progress.exists_run_settle call ambiguity first second surroundings with
        ⟨_, runs | runs⟩ <;> rw [runs]
      · exact either sound.1 makesFirst answered
      · exact or sound.2 makesSecond answered
  | nested rule inductionHypothesis =>
      have charged : (progress.charge surroundings.session).Yields _ fun _ => False :=
        progress.charge_yields surroundings.session
      refine (charged.andThen fun _ same => ?_).map (fun _ => id) fun _ => id
      rcases same with ⟨-, rfl⟩
      exact inductionHypothesis sound makes answered
  | fail expected => exact True.intro
  | _ => cases makes

/-- By induction on the number of nonterminals that may be open. -/
theorem Nonterminal.run_makesNode (limit : Nat) (surroundings : Surroundings)
    (nonterminal : Nonterminal) (progress : Progress) (makes : nonterminal.makesNode = true) :
    (nonterminal.run limit surroundings progress).Yields progress.Makes fun _ => False := by
  induction limit generalizing nonterminal surroundings progress with
  | zero => exact True.intro
  | succ limit inductionHypothesis =>
      exact nonterminal.rule.run_makesNode (run_full limit) (run_drawn limit)
        inductionHypothesis surroundings nonterminal.rule_full (rule_makesNode makes) nofun

/-- Where a production ends well, it has added a node with the tokens that it has taken. -/
theorem Rule.Recovered.run_addsNode {production : Rule} (recovered : production.Recovered)
    (limit : Nat) (surroundings : Surroundings) (progress : Progress) :
    (production.run (Nonterminal.run limit) surroundings progress).Yields
      (fun after => ∃ node, progress.AddsNode after node) fun _ => False := by
  have makes : (production.run (Nonterminal.run limit) surroundings progress).Yields
      progress.Makes fun _ => False :=
    production.run_makesNode (Nonterminal.run_full limit) (Nonterminal.run_drawn limit)
      (Nonterminal.run_makesNode limit) surroundings recovered.full recovered.makesNode nofun
  have meets := recovered.neutral [] recovered.buildsConstructs (Nonterminal.run limit)
    (Nonterminal.run_neutral limit) surroundings progress [] ⟨rfl, True.intro⟩
  cases came : production.run (Nonterminal.run limit) surroundings progress with
  | next after =>
      rw [came] at makes meets
      rcases meets with ⟨held, _, step, _⟩
      exact makes.addsNode step.toMoves
  | leave after =>
      rw [came] at makes
      exact makes
  | failed failure diagnostics => exact True.intro

/-! ## Productions at work -/

/-- What comes of a production that is run in place.  Either it has added a node, with the
tokens that the parser has moved over and of which there is at least one, or it was given up.
In any case the parser is as it was, apart from its place, its node and further reports. -/
def Result.Accounts (before : Parser) : Result → Prop
  | .next after => before.Keeps after true ∧
      ∃ node, before.toProgress.AddsNode after.toProgress node
  | .leave _ => False
  | .failed _ stuck => before.Keeps stuck true

/-- What is recovered from accounts for its tokens even where it was given up, because they
are gathered as faulty input then. -/
theorem Result.Accounts.recover {parser : Parser} {result : Result}
    (accounts : result.Accounts parser) (inside : parser.stream.atEnd = false) :
    (parser.recover result).Accounts parser := by
  cases result with
  | next after => exact accounts
  | leave after => exact accounts
  | failed failure stuck =>
      have keeps : (failed failure stuck).All fun after => parser.Keeps after true := accounts
      have mended := Parser.recover_keeps keeps
      by_cases fatal : failure.fault.isFatal = true
      · simp only [Parser.recover, if_pos fatal]
        exact accounts
      · simp only [Parser.recover, if_neg fatal] at mended ⊢
        refine ⟨mended, ?_⟩
        have stream : ((parser.rewind stuck).reportFailure failure).stream = parser.stream :=
          (Progress.stream_restarted (parser.rewind stuck).toProgress failure _).trans
            (Parser.Keeps.stream_rewind accounts)
        have builder : ((parser.rewind stuck).reportFailure failure).builder = parser.builder :=
          Progress.builder_restarted (parser.rewind stuck).toProgress failure _
        rcases Progress.exists_addsNode_addFaulty (stream.symm ▸ inside) with ⟨node, _, adds⟩
        exact ⟨node, adds.since stream builder⟩

/-- Nothing but going too deep is passed on. -/
theorem Parser.isFatal_of_recover {parser stuck : Parser} {result : Result} {failure : Failure}
    (given : parser.recover result = .failed failure stuck) : failure.fault.isFatal = true := by
  cases result with
  | next after => cases given
  | leave after => cases given
  | failed failure stuck =>
      by_cases fatal : failure.fault.isFatal = true
      · simp only [recover, if_pos fatal] at given
        cases given
        exact fatal
      · simp only [recover, if_neg fatal] at given
        cases given

namespace Rule.Recovered

variable {production : Rule} (recovered : production.Recovered) (session : Session)
  (limit : Nat) {parser : Parser}

include recovered

theorem outcome_work (parser : Parser) :
    (production.work session (Nonterminal.work session limit) parser).outcome =
      production.run (Nonterminal.run limit) ⟨session, parser.bracesAllowed⟩
        parser.toProgress := by
  refine production.outcome_work (Nonterminal.work_keeps session limit)
    (Nonterminal.outcome_work session limit) ?_ parser
  rw [recovered.recovered_eq]
  exact List.forall_mem_nil _

theorem outcome_recover (parser : Parser) :
    ((recover production).work session (Nonterminal.work session limit) parser).outcome =
      (recover production).run (Nonterminal.run limit) ⟨session, parser.bracesAllowed⟩
        parser.toProgress := by
  refine (recover production).outcome_work (Nonterminal.work_keeps session limit)
    (Nonterminal.outcome_work session limit) ?_ parser
  unfold Rule.recovered
  rw [recovered.recovered_eq]
  exact List.forall_mem_singleton.mpr recovered.releases

theorem work_accounts (parser : Parser) :
    (production.work session (Nonterminal.work session limit) parser).Accounts parser := by
  have keeps := production.work_keeps session (Nonterminal.work_keeps session limit) parser
  rw [recovered.releases] at keeps
  have adds := recovered.run_addsNode limit ⟨session, parser.bracesAllowed⟩ parser.toProgress
  rw [← recovered.outcome_work] at adds
  cases came : production.work session (Nonterminal.work session limit) parser with
  | next after =>
      rw [came] at keeps adds
      exact ⟨keeps, adds⟩
  | leave after =>
      rw [came] at adds
      exact adds
  | failed failure stuck =>
      rw [came] at keeps
      exact keeps

/-- Before the end of the source, whatever is recovered from accounts for its tokens and leaves
the parser as it was.  Recovering from it comes to a node in any case, unless going too deep
ends the parse.  Both are what the grammar means by them when it is run from copies. -/
theorem production_accounts (inside : parser.stream.atEnd = false) :
    (production.work session (Nonterminal.work session limit) parser).Accounts parser ∧
      ((recover production).work session (Nonterminal.work session limit) parser).Accounts
        parser ∧
      (∀ failure stuck,
        (recover production).work session (Nonterminal.work session limit) parser =
          .failed failure stuck → failure.fault.isFatal = true) ∧
      (production.work session (Nonterminal.work session limit) parser).outcome =
        production.run (Nonterminal.run limit) ⟨session, parser.bracesAllowed⟩
          parser.toProgress ∧
      ((recover production).work session (Nonterminal.work session limit) parser).outcome =
        (recover production).run (Nonterminal.run limit) ⟨session, parser.bracesAllowed⟩
          parser.toProgress := by
  have accounts := recovered.work_accounts session limit parser
  refine ⟨accounts, accounts.recover inside, fun failure stuck given => ?_,
    recovered.outcome_work session limit parser, recovered.outcome_recover session limit parser⟩
  exact Parser.isFatal_of_recover given

end Rule.Recovered

/-- A clause that breaks off behind its first token is given up in front of the second one.
Recovering from that goes back, and up to the bracket that closes the block. -/
theorem Rule.production_accounts_clause :
    let clauses : Parser :=
      ⟨.start ((TokenStream.ofList (lex "#\x7b Path :- \x7d" 4).tokens).moveTo 1) .relBlock, false⟩
    let call := Nonterminal.work ⟨4, false⟩ 4
    (∃ failure stuck, relClause.work ⟨4, false⟩ call clauses = .failed failure stuck ∧
      stuck.stream.position = 2 ∧ clauses.Keeps stuck true) ∧
    ∃ after node, (recover relClause).work ⟨4, false⟩ call clauses = .next after ∧
      clauses.Keeps after true ∧ clauses.toProgress.AddsNode after.toProgress node ∧
      node.tokens.length = 2 := by
  intro clauses call
  have inside : clauses.stream.atEnd = false := by decide +kernel
  rcases Rule.Recovered.relClause.production_accounts ⟨4, false⟩ 4 inside with
    ⟨accounts, mended, -⟩
  constructor
  · have undone : (relClause.work ⟨4, false⟩ call clauses).outcome.done?.isNone = true := by
      decide +kernel
    have stands : (relClause.work ⟨4, false⟩ call clauses).parser.stream.position = 2 := by
      decide +kernel
    cases came : relClause.work ⟨4, false⟩ call clauses with
    | next after =>
        rw [came] at undone
        cases undone
    | leave after =>
        rw [came] at accounts
        exact accounts.elim
    | failed failure stuck =>
        rw [came] at stands accounts
        exact ⟨failure, stuck, rfl, stands, accounts⟩
  · have done : ((recover relClause).work ⟨4, false⟩ call clauses).outcome.done?.any
        (fun after => after.stream.position == 3) = true := by
      decide +kernel
    cases came : (recover relClause).work ⟨4, false⟩ call clauses with
    | next after =>
        rw [came] at done mended
        rcases mended with ⟨keeps, node, adds⟩
        have position : after.stream.position = 1 + node.tokens.length := adds.position
        have reached : after.stream.position = 3 := beq_iff_eq.mp done
        exact ⟨after, node, rfl, keeps, adds, by omega⟩
    | leave after =>
        rw [came] at done
        cases done
    | failed failure stuck =>
        rw [came] at done
        cases done

end Offside
