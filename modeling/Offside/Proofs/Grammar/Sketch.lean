import Offside.Grammar
import Offside.Proofs.Parsing.Outcomes
import Offside.Proofs.Tree.Shape

namespace Offside

/-!
# What the rules of the grammar may build

From the sketches that the node under construction may have before a rule, those that it
may have afterwards can be computed.  Nothing is assumed of the tokens ahead, so both
branches of a choice are followed unless the question is about the first node built.

A nonterminal adds children to a node that it knows nothing about.  What it may add is
written down for each nonterminal as the sketches of a group, and found to be so.
-/

namespace Sketch

/-- A group of one node. -/
def single (child : ChildClass) : Sketch := ⟨.blockItems, some child, some child, []⟩

/-- A group that starts with a token, and may hold a node behind it. -/
def behindToken (operand : Option ChildClass) : Sketch := ⟨.blockItems, some .token, operand, []⟩

/-- Whether a question about the first child, if it is a node, may be answered like this. -/
def mayAnswer (sketch : Sketch) (test : NodeKind → Bool) (answer : Bool) : Bool :=
  match sketch.first with
  | none | some .token => !answer
  | some first => NodeKind.all.any fun kind => kind.childClass == first && test kind == answer

/-- The true answer is among those that are possible. -/
theorem mayAnswer_of_node {sketch : Sketch} {first : NodeKind}
    (starts : sketch.first = some first.childClass) (test : NodeKind → Bool) :
    sketch.mayAnswer test (test first) = true := by
  have possible : (NodeKind.all.any fun kind =>
      kind.childClass == first.childClass && test kind == test first) = true :=
    List.any_eq_true.mpr ⟨first, first.mem_all, by rw [beq_self_eq_true, beq_self_eq_true]; rfl⟩
  unfold mayAnswer
  rw [starts]
  cases known : first.childClass with
  | token => exact absurd known first.childClass_ne_token
  | _ => rw [known] at possible; exact possible

/-- Each of some nodes is added to each of some others. -/
def closeAll (outer : List Sketch) (part : Option FieldName) (inner : List Sketch) :
    List Sketch :=
  (outer.flatMap fun sketch => inner.map fun node => sketch.close part node).eraseDups

/-- Everything that was built so far is put into a node of some kind. -/
def wrap (sketch : Sketch) (kind : NodeKind) : Sketch :=
  (new sketch.kind).push { sketch with kind := kind }

/-- Faulty input may have been added. -/
def withFaulty (sketches : List Sketch) : List Sketch :=
  sketches ++ closeAll sketches none [new .error]

end Sketch

namespace Condition

def mayAnswer (condition : Condition) (sketch : Sketch) (answer : Bool) : Bool :=
  match condition with
  | first test => sketch.mayAnswer test answer
  | _ => true

end Condition

/-- The groups of children that a nonterminal may come to. -/
def Nonterminal.groups : Nonterminal → List Sketch
  | type | parameterType | simpleType | annotatedType | pattern _ | alternatives _
  | primaryPattern _ => [.single .simple, .single .other]
  | block | caseBlock => [.single .closed]
  | body => [.single .closed, .single .other]
  | items .bare => [.single .other]
  | items _ => [.new .blockItems, .single .other, .behindToken none, .behindToken (some .other)]
  | operators _ => [.single .simple, .single .prefixed, .single .infixed, .single .postfixed,
    .single .closed]
  | simpleExpression => [.single .simple]
  | _ => [.single .other]

namespace Rule

/-- The sketches that the node under construction may have after the rule. -/
def draw : Rule → List Sketch → Estimate (List Sketch)
  | seq first second, sketches =>
    let one := first.draw sketches
    let two := second.draw one.done
    ⟨two.done, one.left ++ two.left, one.sound && two.sound⟩
  | take, sketches => ⟨sketches.map Sketch.pushToken, [], true⟩
  | call nonterminal, sketches => ⟨Sketch.closeAll sketches none nonterminal.groups, [], true⟩
  | node part kind rule, sketches =>
    let inside := rule.draw [.new kind]
    ⟨Sketch.closeAll sketches part inside.done, Sketch.closeAll sketches part inside.left,
      inside.sound && inside.done.all Sketch.fits && inside.left.all Sketch.fits⟩
  | become kind, sketches => ⟨sketches.map fun sketch => { sketch with kind := kind }, [], true⟩
  | nameFirst part, sketches =>
    ⟨sketches.map fun sketch =>
        (sketch.first.map fun first => sketch.attach part first).getD sketch, [],
       sketches.all fun sketch => sketch.first.isSome⟩
  | wrap kind, sketches =>
    ⟨sketches.map fun sketch => sketch.wrap kind, [],
      sketches.all fun sketch => ({ sketch with kind := kind } : Sketch).fits⟩
  | choose condition yes no, sketches =>
    let held := yes.draw (sketches.filter fun sketch => condition.mayAnswer sketch true)
    let failed := no.draw (sketches.filter fun sketch => condition.mayAnswer sketch false)
    ⟨held.done ++ failed.done, held.left ++ failed.left, held.sound && failed.sound⟩
  | settle _ first second, sketches =>
    let either := first.draw sketches
    let or := second.draw sketches
    ⟨either.done ++ or.done, either.left ++ or.left, either.sound && or.sound⟩
  | loop rule, sketches =>
    let anyRound := (sketches ++ (rule.draw sketches).done).eraseDups
    let round := rule.draw anyRound
    ⟨anyRound ++ round.left, [],
      round.sound && round.done.all fun sketch => anyRound.contains sketch⟩
  | leave, sketches => ⟨[], sketches, true⟩
  | nested rule, sketches | chain rule, sketches | withBraces _ rule, sketches =>
    rule.draw sketches
  | recover rule, sketches =>
    let inside := rule.draw sketches
    ⟨inside.done ++ Sketch.withFaulty sketches, inside.left, inside.sound⟩
  | reject _, sketches => ⟨Sketch.withFaulty sketches, [], true⟩
  | fail _, _ | failMissing _ _, _ => ⟨[], [], true⟩
  | done, sketches | link, sketches => ⟨sketches, [], true⟩

/-- What a rule may add to a node that nothing is known about.  Only a few forms of rule
are made for that. -/
def added : Rule → Estimate (List Sketch)
  | node none kind rule =>
    let inside := rule.draw [.new kind]
    ⟨inside.done, inside.left,
      inside.sound && inside.done.all Sketch.fits && inside.left.all Sketch.fits⟩
  | call nonterminal => ⟨nonterminal.groups, [], true⟩
  | choose _ yes no =>
    ⟨yes.added.done ++ no.added.done, yes.added.left ++ no.added.left,
      yes.added.sound && no.added.sound⟩
  | nested rule | chain rule => rule.added
  | fail _ => ⟨[], [], true⟩
  | _ => ⟨[], [], false⟩

end Rule

/-- Whether a nonterminal comes to no other groups than those written down for it. -/
def Nonterminal.isDrawn (nonterminal : Nonterminal) : Bool :=
  let added := nonterminal.rule.added
  added.sound && added.left.isEmpty &&
    added.done.all fun sketch => nonterminal.groups.contains sketch.dissolved

/-- A definition may come to nodes of many kinds, none of which is dissolved. -/
theorem Nonterminal.definition_drawn : definition.isDrawn = true ∧
    (definition.rule.added.done.all fun sketch => !sketch.kind.isHidden) = true := by
  decide +kernel

/-- The operands of infix operators take looking ahead, which is left to a proof. -/
theorem Nonterminal.isDrawn_eq_true (nonterminal : Nonterminal)
    (other : ∀ place, nonterminal ≠ .operators place) : nonterminal.isDrawn = true := by
  cases nonterminal with
  | pattern place => cases place <;> decide +kernel
  | alternatives place => cases place <;> decide +kernel
  | primaryPattern place => cases place <;> decide +kernel
  | items place => cases place <;> decide +kernel
  | operators place => exact absurd rfl (other place)
  | definition => exact definition_drawn.1
  | _ => decide +kernel

end Offside
