import Offside.Proofs.Grammar.Operands
import Offside.Proofs.Parsing.Reports
import Offside.Text.XidStart

namespace Offside

/-!
# Every tree is in shape

Whatever a source looks like, every node of its tree has the parts that it needs, and every
operand binds as tightly as it should.  Nodes are finished only by the rules of the
grammar, which leave them in shape, and by gathering faulty input, of which nothing is
asked.  A rule that is given up takes its unfinished nodes with it.
-/

open Drawing

/-! ## Running the grammar -/

namespace Nonterminal

/-- A nonterminal whose rule the analysis can deal with. -/
theorem draws_of_isDrawn {nonterminal : Nonterminal} (drawn : nonterminal.isDrawn = true)
    (base : Sketch) :
    Rule.Draws (among [base]) nonterminal.rule (among (nonterminal.groups.map base.push))
      nowhere := by
  simp only [isDrawn, Bool.and_eq_true, List.all_eq_true, List.contains_iff_mem,
    List.isEmpty_iff] at drawn
  rcases drawn with ⟨⟨sound, stays⟩, listed⟩
  refine (Rule.draws_added nonterminal.rule sound base).mono (fun _ _ => id)
    (fun _ sketch done => ?_) fun _ sketch left => ?_
  · rcases List.mem_map.mp done with ⟨group, member, same⟩
    exact List.mem_map.mpr ⟨group.dissolved, listed group member,
      (base.push_dissolved group).trans same⟩
  · rw [stays] at left
    cases left

/-- What operators make of an expression, in whatever place. -/
theorem draws_operators (place : ExpressionPlace) (base : Sketch) :
    Rule.Draws (among [base]) (operators place).rule
      (among ((operators place).groups.map base.push)) nowhere := by
  have start : Rule.Draws (among [.new .blockItems]) (Rule.expressionStart place)
      (among Rule.expressions) (among []) :=
    Rule.draws_within _ (by cases place <;> decide +kernel)
  exact (Rule.operators_draws (fun _ => True)
    (start.assuming fun _ _ fresh => List.mem_singleton.mpr fresh.2)
    (Rule.expressionStep_draws place) (by decide +kernel) base).assuming
      fun _ _ => And.intro True.intro

/-- Where an operand stands behind an infix operator, nothing else is found. -/
theorem draws_rightOperand (base : Sketch) :
    Rule.Draws (fun stream sketch => stream.AtOperand ∧ sketch ∈ [base])
      (operators .rightOperand).rule (among (Sketch.operandGroups.map base.push)) nowhere :=
  Rule.operators_draws _ Rule.expressionStart_draws_operand
    (Rule.draws_within _ (by decide +kernel)) (by decide +kernel) base

/-- What each nonterminal adds in front of some stream. -/
theorem draws_rule (nonterminal : Nonterminal) (front : TokenStream) (base : Sketch) :
    Rule.Draws (fun stream sketch => stream = front ∧ sketch ∈ [base]) nonterminal.rule
      (fun _ sketch => ∃ group, nonterminal.Adds front group ∧ sketch = base.push group)
      nowhere := by
  by_cases operand : nonterminal = .operators .rightOperand ∧ front.AtOperand
  · rcases operand with ⟨rfl, atOperand⟩
    have known : ∀ group ∈ Sketch.operandGroups,
        group ∈ (operators .rightOperand).groups := by decide
    refine (draws_rightOperand base).mono (fun _ _ started => ⟨started.1 ▸ atOperand, started.2⟩)
      (fun _ _ done => ?_) fun _ _ => id
    rcases List.mem_map.mp done with ⟨group, member, same⟩
    exact ⟨group, ⟨known group member, fun _ _ => member⟩, same.symm⟩
  · have listed : Rule.Draws (among [base]) nonterminal.rule
        (among (nonterminal.groups.map base.push)) nowhere := by
      by_cases other : ∃ place, nonterminal = .operators place
      · rcases other with ⟨place, rfl⟩
        exact draws_operators place base
      · exact draws_of_isDrawn (nonterminal.isDrawn_eq_true fun place same =>
          other ⟨place, same⟩) base
    refine listed.mono (fun _ _ => And.right) (fun _ _ done => ?_) fun _ _ => id
    rcases List.mem_map.mp done with ⟨group, member, same⟩
    exact ⟨group, ⟨member, fun right atOperand => absurd ⟨right, atOperand⟩ operand⟩, same.symm⟩

/-- By induction on the number of nonterminals that may be open. -/
theorem run_drawn (depth : Nat) : DrawnCalls (run depth) := by
  induction depth with
  | zero => exact fun _ _ _ _ => True.intro
  | succ depth inductionHypothesis =>
      intro surroundings nonterminal progress regular
      exact nonterminal.draws_rule progress.stream progress.builder.sketch (run depth)
        inductionHypothesis surroundings progress ⟨regular, rfl, List.mem_singleton_self _⟩

end Nonterminal

/-! ## The whole source -/

/-- The outermost node is not touched by what is added to it. -/
def Drawing.outermost : Drawing := fun _ sketch => sketch.kind = .compilationUnit

theorem Progress.kept_outermost (session : Session) :
    Progress.Kept session (·.Shows outermost) where
  take progress shows := by
    refine ⟨shows.regular.pushToken _, ?_⟩
    exact shows.shows
  definition progress shows := by
    refine yields_definition progress ?_ fun after adds => ?_
    · refine (Nonterminal.run_drawn _ _ .definition progress shows.regular).mono
        (fun _ done => done.mono fun _ sketch added => ?_) fun _ left => left.shows.elim
      rcases added with ⟨group, _, same⟩
      rw [outermost, same, Sketch.kind_push]
      exact shows.shows
    · exact .addsFaulty adds shows.regular shows.shows ((Sketch.kind_push _ _).trans shows.shows)
  faulty before after adds shows :=
    .addsFaulty adds shows.regular shows.shows ((Sketch.kind_push _ _).trans shows.shows)

/-- Every node of a tree is in shape, and so is the tree itself. -/
theorem fits_parseStream (session : Session) (stream : TokenStream) :
    ∀ node ∈ (parseStream session stream).root.preorder, node.Fits := by
  have kept := Progress.kept_outermost session
  have started : (Progress.start stream .compilationUnit).Shows outermost := ⟨.new _, rfl⟩
  have ended := kept.take _ (kept.definitions (stream.size + 1) started)
  have fits : (parseStream session stream).root.sketch.fits = true := by
    unfold Sketch.fits
    rw [show (parseStream session stream).root.sketch.kind = .compilationUnit from ended.shows]
    rfl
  rw [Node.preorder_eq]
  refine List.forall_mem_cons.mpr ⟨⟨ended.regular.indexed, fits⟩, ?_⟩
  have below := ended.regular.below
  rw [Node.preorder_children] at below
  exact below

/-- In every tree the operands of operators bind as tightly as they should.  Infix operators
associate to the left, whatever they are, and nothing but a simple expression is called,
asked for a field or put behind a prefix operator, unless a colon says otherwise. -/
theorem parse_precedence [XidStart] (source : String) (options : ParseOptions) :
    ∀ node ∈ (parse source options).root.preorder, node.respectsPrecedence = true :=
  fun node member => (fits_parseStream (sessionOf source options) _ node member).respectsPrecedence

/-- A chain of operators is called through a colon, which makes it an operand again. -/
theorem parse_precedence_colon :
    ∃ node ∈ (parse "def f() = a + -b * c.d: { e }\n" ⟨4, 16⟩).root.preorder,
      (node.kind == .callExpression && node.partIn .function [.infixed]) = true ∧
        node.respectsPrecedence = true := by
  have found : ((parse "def f() = a + -b * c.d: { e }\n" ⟨4, 16⟩).root.preorder.find?
      fun node => node.kind == .callExpression && node.partIn .function [.infixed]).isSome =
        true := by
    decide +kernel
  rcases Option.isSome_iff_exists.mp found with ⟨node, same⟩
  have member := List.mem_of_find?_eq_some same
  have wanted := List.find?_some same
  exact ⟨node, member, wanted,
    parse_precedence "def f() = a + -b * c.d: { e }\n" ⟨4, 16⟩ node member⟩

/-- In every tree each node has the parts without which it would make no sense, even if the
source is faulty.  Each of these parts is a node. -/
theorem parse_parts [XidStart] (source : String) (options : ParseOptions) :
    ∀ node ∈ (parse source options).root.preorder, node.HasParts :=
  fun node member => (fits_parseStream (sessionOf source options) _ node member).hasParts

/-- Behind a faulty definition there is a conditional with all its parts. -/
theorem parse_parts_conditional :
    ∃ node ∈ (parse "def f( = a\ndef g() = if (x) y\n" ⟨4, 16⟩).root.preorder,
      (node.kind == .ifExpression) = true ∧ node.HasParts := by
  have found : ((parse "def f( = a\ndef g() = if (x) y\n" ⟨4, 16⟩).root.preorder.find?
      fun node => node.kind == .ifExpression).isSome = true := by
    decide +kernel
  rcases Option.isSome_iff_exists.mp found with ⟨node, same⟩
  have member := List.mem_of_find?_eq_some same
  have wanted := List.find?_some same
  exact ⟨node, member, wanted,
    parse_parts "def f( = a\ndef g() = if (x) y\n" ⟨4, 16⟩ node member⟩

end Offside
