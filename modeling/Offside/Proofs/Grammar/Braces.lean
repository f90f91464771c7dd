import Offside.Proofs.Grammar.Taking
import Offside.Proofs.Tree.Sketch

namespace Offside

/-!
# Calls with an argument in curly brackets

In the subject of a `match` a group in curly brackets is not an argument, because it may be
the body.  In brackets of its own there is no such doubt.  So there are two sorts of calls
with an argument in curly brackets: those in some brackets, and those that lie open.
-/

namespace NodeKind

/-- Whether a node of the kind is a group in brackets, or indented, that sets apart what is
in it from the expression around it. -/
def encloses : NodeKind → Bool
  | block | indentedBlock | caseBlock | arguments | parenthesizedExpression | tupleExpression
  | bindings | enumerators | parameters | recordPattern => true
  | _ => false

/-- Whether a node of the kind is a group in curly brackets that may be an argument. -/
def isBraceArgument : NodeKind → Bool
  | block | caseBlock => true
  | _ => false

theorem isHidden_of_isBraceArgument {kind : NodeKind} (argument : kind.isBraceArgument = true) :
    kind.isHidden = false := by
  cases kind <;> first | rfl | cases argument

end NodeKind

def Element.isBraceArgument : Element → Bool
  | .node inner => inner.kind.isBraceArgument
  | .token _ => false

mutual

/-- Whether faulty input or a call with an argument in curly brackets lies open in the node,
that is, not in some brackets. -/
def Node.exposes : Node → Bool
  | .mk kind _ children _ =>
    !kind.encloses && (kind == .error ||
      (kind == .callExpression && children.any Element.isBraceArgument) ||
      Element.expose children)

/-- Whether any of some children lets see faulty input or a call with an argument in curly
brackets. -/
def Element.expose : List Element → Bool
  | [] => false
  | .node inner :: rest => inner.exposes || Element.expose rest
  | .token _ :: rest => Element.expose rest

end

theorem Element.expose_append (front back : List Element) :
    expose (front ++ back) = (expose front || expose back) := by
  induction front with
  | nil => rw [expose, Bool.false_or, List.nil_append]
  | cons child front inductionHypothesis =>
      cases child with
      | node inner =>
          rw [List.cons_append, expose, expose, inductionHypothesis, Bool.or_assoc]
      | token leaf => rw [List.cons_append, expose, expose, inductionHypothesis]

namespace Node

variable {node : Node}

theorem exposes_of_children (lies : node.kind.encloses = false)
    (exposed : Element.expose node.children = true) : node.exposes = true := by
  cases node with
  | mk kind span children fields =>
      rw [exposes, show kind.encloses = false from lies,
        show Element.expose children = true from exposed]
      simp

theorem exposes_of_error (faulty : node.kind = .error) : node.exposes = true := by
  cases node with
  | mk kind span children fields =>
      cases show kind = .error from faulty
      rw [exposes]
      rfl

theorem exposes_of_call (isCall : node.kind = .callExpression)
    (argument : node.children.any Element.isBraceArgument = true) : node.exposes = true := by
  cases node with
  | mk kind span children fields =>
      cases show kind = .callExpression from isCall
      rw [exposes, show children.any Element.isBraceArgument = true from argument]
      rfl

end Node

namespace Builder

/-- Faulty input or a call with an argument in curly brackets lies open in what was built. -/
def Exposes (builder : Builder) : Prop := Element.expose builder.children.toList = true

variable {builder inner outer : Builder}

theorem children_push (builder : Builder) (node : Node) :
    (builder.push node).children.toList = builder.children.toList ++ node.dissolved := by
  rw [push_eq, (attachAll_keeps _ _ _).1, children_append]

theorem Exposes.pushToken (exposes : builder.Exposes) (token : Token) :
    (builder.pushToken token).Exposes := by
  unfold Exposes
  rw [pushToken_eq, children_append, Element.expose_append,
    show Element.expose builder.children.toList = true from exposes, Bool.true_or]

theorem Exposes.push (exposes : builder.Exposes) (node : Node) :
    (builder.push node).Exposes := by
  unfold Exposes
  rw [children_push, Element.expose_append,
    show Element.expose builder.children.toList = true from exposes, Bool.true_or]

/-- What lies open in a node lies open around it, whether the node is dissolved or not. -/
theorem exposes_push {node : Node} (outer : Builder) (exposes : node.exposes = true)
    (inside : node.kind.isHidden = true → Element.expose node.children = true) :
    (outer.push node).Exposes := by
  unfold Exposes
  rw [children_push, Element.expose_append]
  unfold Node.dissolved
  split
  · rename_i hidden
    rw [inside hidden, Bool.or_true]
  · rw [Element.expose, exposes, Bool.true_or, Bool.or_true]

theorem Exposes.finish (exposes : inner.Exposes) (lies : inner.kind.encloses = false)
    (outer : Builder) : (outer.push inner.finish).Exposes :=
  exposes_push outer (Node.exposes_of_children lies exposes) fun _ => exposes

end Builder

/-!
## Where arguments in curly brackets are asked for

Whether a group in curly brackets may be an argument is asked in one place of the grammar,
behind a simple expression, and where the answer is yes there follows a call.  Brackets that
set apart what is in them settle the question for it, with a few exceptions: the bodies of
classes and the like, and structural types, leave it as it is around them.

The analyses here read this off the rules.
-/

/-- Whether the nonterminal is a group in curly brackets that may be an argument. -/
def Nonterminal.isBraceArgument : Nonterminal → Bool
  | block | caseBlock => true
  | _ => false

namespace Rule

/-- Whether the rule never asks if a group in curly brackets may be an argument here. -/
def indifferent : Rule → Bool
  | call _ | choose .bracesAllowed _ _ => false
  | seq first second | choose _ first second | settle _ first second =>
    first.indifferent && second.indifferent
  | node _ _ rule | loop rule | nested rule | chain rule | recover rule => rule.indifferent
  | _ => true

/-- Whether the rule leaves what lies open where it is.  A kind that is fixed does not
change, and no other kind changes to one that encloses. -/
def upholds (fixed : Bool) : Rule → Bool
  | become kind => !fixed && !kind.encloses
  | wrap kind => !kind.encloses
  | seq first second | choose _ first second | settle _ first second =>
    first.upholds fixed && second.upholds fixed
  | loop rule | nested rule | chain rule | withBraces _ rule | recover rule =>
    rule.upholds fixed
  | _ => true

/-- Whether the rule is done only with a group in curly brackets that may be an argument. -/
def buildsArgument : Rule → Bool
  | call nonterminal => nonterminal.isBraceArgument
  | node _ kind rule => kind.isHidden && rule.upholds true && rule.buildsArgument
  | settle _ first second => first.buildsArgument && second.buildsArgument
  | _ => false

/-- Whether the rule makes a call with an argument in curly brackets out of what has been
built. -/
def callsWithBraces : Rule → Bool
  | seq (nameFirst _) (seq rule (seq (wrap .callExpression) done)) => rule.buildsArgument
  | _ => false

/-- Whether the rule asks if a group in curly brackets may be an argument only in front of a
call with such an argument, and not in brackets that set it apart. -/
def guarded : Rule → Bool
  | choose .bracesAllowed yes _ => yes.callsWithBraces
  | seq first second | choose _ first second | settle _ first second =>
    first.guarded && second.guarded
  | node _ kind rule =>
    rule.indifferent || (!kind.encloses && rule.upholds false && rule.guarded)
  | loop rule | nested rule | chain rule | recover rule => rule.guarded
  | _ => true

end Rule

namespace Nonterminal

theorem rule_upholds : ∀ (nonterminal : Nonterminal) (fixed : Bool),
    nonterminal.rule.upholds fixed = true := by
  decide +kernel

theorem rule_guarded : ∀ nonterminal : Nonterminal, nonterminal.rule.guarded = true := by
  decide +kernel

end Nonterminal

end Offside
