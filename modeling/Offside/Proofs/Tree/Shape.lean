import Offside.Proofs.Tree.Sketch

namespace Offside

/-!
# The shape of a tree

Two things can be relied upon at every node of a tree, however faulty the source was: the
node has the parts without which it would make no sense, and its operands bind as tightly
as they should.  Both can be seen from the sketch of the node.

A tree is built from below.  A builder is regular when everything that it holds is in
shape; the node under construction has to be so only when it is finished.
-/

namespace NodeKind

/-- The parts that a node of a kind is never without. -/
def requiredParts : NodeKind → List FieldName
  | moduleDefinition | classDefinition | typeDefinition | functionDeclaration
  | annotationMark => [.name]
  | functionDefinition | instanceDefinition => [.name, .body]
  | letDefinition => [.pattern, .value]
  | ifExpression => [.condition, .consequence]
  | matchExpression => [.value, .body]
  | whileExpression => [.condition, .body]
  | foreachExpression | foreachYieldExpression => [.enumerators, .body]
  | assignmentExpression | effectType => [.left, .right]
  | infixExpression | infixType | infixPattern => [.left, .operator, .right]
  | functionType => [.parameterTypes, .returnType]
  | genericType => [.type, .typeArguments]
  | callExpression => [.function, .arguments]
  | genericFunction => [.function, .typeArguments]
  | fieldExpression => [.value, .field]
  | lambdaExpression => [.parameters]
  | guard => [.condition]
  | caseClause => [.pattern]
  | typedPattern => [.pattern, .type]
  | capturePattern => [.name, .pattern]
  | enumPattern => [.type]
  | _ => []

/-- Whether the operands of an expression bind as tightly as they should.  A part of the
expression or its first operand is asked for its class.

Chains of infix operators grow to the left.  Behind the last operator there is an operand
that no operator has been applied to, unless it is the argument of a call with a colon. -/
def bindsTightly (kind : NodeKind) (partIn : FieldName → List ChildClass → Bool)
    (operandIn : List ChildClass → Bool) : Bool :=
  match kind with
  | infixExpression =>
    partIn .left [.simple, .prefixed, .infixed] &&
      partIn .right [.simple, .prefixed, .colonArgument]
  | prefixExpression => operandIn [.simple]
  | postfixExpression => operandIn [.simple, .prefixed, .infixed]
  | fieldExpression => partIn .value [.simple]
  | assignmentExpression => partIn .left [.simple, .prefixed]
  | ascriptionExpression => operandIn [.simple, .prefixed, .infixed, .postfixed]
  | callExpression =>
    partIn .function [.simple] ||
      (partIn .arguments [.colonArgument] &&
        partIn .function [.simple, .prefixed, .infixed, .postfixed])
  | _ => true

end NodeKind

namespace Node

/-- Whether the node has a part with one of some classes. -/
def partIn (node : Node) (part : FieldName) (classes : List ChildClass) : Bool :=
  (node.fieldNode? part).any fun child => classes.contains child.kind.childClass

/-- Whether the first node below is of one of some classes. -/
def operandIn (node : Node) (classes : List ChildClass) : Bool :=
  node.nodeChildren.head?.any fun child => classes.contains child.kind.childClass

def respectsPrecedence (node : Node) : Bool := node.kind.bindsTightly node.partIn node.operandIn

/-- Every part that the node cannot do without is there and is a node.  What declares a
function has no body. -/
structure HasParts (node : Node) : Prop where
  required : ∀ part ∈ node.kind.requiredParts, (node.fieldNode? part).isSome = true
  declaration : node.kind = .functionDeclaration → node.field? .body = none

end Node

/-! ## Seen from the sketch -/

namespace Sketch

def partIn (sketch : Sketch) (part : FieldName) (classes : List ChildClass) : Bool :=
  (sketch.named? part).any fun child => child != .token && classes.contains child

def operandIn (sketch : Sketch) (classes : List ChildClass) : Bool :=
  sketch.operand.any fun child => classes.contains child

/-- Whether a node with this sketch is in shape. -/
def fits (sketch : Sketch) : Bool :=
  (sketch.kind.requiredParts.all fun part => (sketch.named? part).any (· != .token)) &&
    (sketch.kind != .functionDeclaration || (sketch.named? .body).isNone) &&
    sketch.kind.bindsTightly sketch.partIn sketch.operandIn

end Sketch

namespace Node

variable {node : Node}

theorem named?_sketch (indexed : node.Indexed) (part : FieldName) :
    node.sketch.named? part = (node.field? part).map Element.childClass := by
  unfold Sketch.named? sketch Sketch.ofParts field?
  rw [List.find?_map]
  change Option.map Prod.snd (Option.map _ (node.fields.find? fun entry => entry.1 == part)) = _
  cases found : node.fields.find? fun entry => entry.1 == part with
  | none => rfl
  | some entry =>
      have inside := indexed entry (List.mem_of_find?_eq_some found)
      show some (Element.classAt node.children entry.2) =
        (node.children[entry.2]?).map Element.childClass
      unfold Element.classAt
      rw [List.getElem?_eq_getElem inside]
      rfl

theorem isSome_fieldNode? (indexed : node.Indexed) (part : FieldName) :
    (node.fieldNode? part).isSome = (node.sketch.named? part).any (· != .token) := by
  rw [named?_sketch indexed, fieldNode?]
  cases node.field? part with
  | none => rfl
  | some child =>
      cases child with
      | token leaf => rfl
      | node inner => exact (bne_iff_ne.mpr inner.kind.childClass_ne_token).symm

theorem partIn_sketch (indexed : node.Indexed) : node.sketch.partIn = node.partIn := by
  funext part classes
  unfold Sketch.partIn partIn
  rw [named?_sketch indexed, fieldNode?]
  cases node.field? part with
  | none => rfl
  | some child =>
      cases child with
      | token leaf => rfl
      | node inner =>
          show (inner.kind.childClass != .token && _) = _
          rw [bne_iff_ne.mpr inner.kind.childClass_ne_token]
          rfl

theorem operandIn_sketch (node : Node) : node.sketch.operandIn = node.operandIn := by
  funext classes
  exact Option.any_map

/-- A node is in shape. -/
structure Fits (node : Node) : Prop where
  indexed : node.Indexed
  sketch : node.sketch.fits = true

theorem Fits.respectsPrecedence (fits : node.Fits) : node.respectsPrecedence = true := by
  have shape := fits.sketch
  unfold Sketch.fits at shape
  rw [Bool.and_eq_true, partIn_sketch fits.indexed, operandIn_sketch] at shape
  exact shape.2

theorem Fits.hasParts (fits : node.Fits) : node.HasParts := by
  have shape := fits.sketch
  unfold Sketch.fits at shape
  rw [Bool.and_eq_true, Bool.and_eq_true, List.all_eq_true] at shape
  refine ⟨fun part member => ?_, fun declaration => ?_⟩
  · rw [isSome_fieldNode? fits.indexed]
    exact shape.1.1 part member
  · have bodiless := shape.1.2
    rw [show node.sketch.kind = .functionDeclaration from declaration,
      named?_sketch fits.indexed] at bodiless
    simpa using bodiless

/-- Of most kinds nothing is asked. -/
theorem Fits.of_error (indexed : node.Indexed) (faulty : node.kind = .error) : node.Fits := by
  refine ⟨indexed, ?_⟩
  unfold Sketch.fits
  rw [show node.sketch.kind = .error from faulty]
  rfl

end Node

/-! ## Regular builders -/

namespace Element

theorem preorder_append (front back : List Element) :
    preorder (front ++ back) = preorder front ++ preorder back := by
  rw [Node.preorder_children, Node.preorder_children, Node.preorder_children,
    List.filterMap_append, List.flatMap_append]

theorem preorder_token (leaf : Token) : preorder [.token leaf] = [] :=
  Node.preorder_children _

theorem preorder_node (node : Node) :
    preorder [.node node] = node :: preorder node.children := by
  rw [Node.preorder_children, Node.preorder_children]
  exact (List.append_nil _).trans (Node.preorder_eq node)

theorem preorder_map_token (leaves : List Token) : preorder (leaves.map .token) = [] := by
  rw [Node.preorder_children, List.filterMap_map]
  simp [Element.node?, Function.comp_def]

end Element

namespace Builder

/-- Everything below the node under construction is in shape. -/
structure Regular (builder : Builder) : Prop where
  indexed : builder.Indexed
  below : ∀ node ∈ Element.preorder builder.children.toList, node.Fits

namespace Regular

variable {builder inner : Builder}

theorem new (kind : NodeKind) : (Builder.new kind).Regular where
  indexed := indexed_new kind
  below := by
    rw [show Element.preorder (Builder.new kind).children.toList = [] from
      Node.preorder_children []]
    exact List.forall_mem_nil _

theorem of_kind (regular : builder.Regular) (kind : NodeKind) :
    ({ builder with kind := kind } : Builder).Regular := ⟨regular.indexed, regular.below⟩

theorem below_append (regular : builder.Regular) {children : List Element}
    (more : ∀ node ∈ Element.preorder children, node.Fits) :
    ∀ node ∈ Element.preorder (builder.append children).children.toList, node.Fits := by
  rw [children_append, Element.preorder_append]
  exact List.forall_mem_append.mpr ⟨regular.below, more⟩

theorem pushToken (regular : builder.Regular) (token : Token) :
    (builder.pushToken token).Regular := by
  rw [pushToken_eq]
  refine ⟨regular.indexed.append _, regular.below_append ?_⟩
  rw [Element.preorder_token]
  exact List.forall_mem_nil _

theorem attach (regular : builder.Regular) {index : Nat}
    (inside : index < builder.children.toList.length) (part : FieldName) :
    (builder.attach part index).Regular := by
  refine ⟨regular.indexed.attach inside part, ?_⟩
  rw [children_attach]
  exact regular.below

/-- A node is added of which all that can be seen afterwards is in shape. -/
theorem push (regular : builder.Regular) {node : Node} (indexed : node.Indexed)
    (pieces : ∀ inner ∈ Element.preorder node.dissolved, inner.Fits) :
    (builder.push node).Regular := by
  refine ⟨regular.indexed.push indexed, ?_⟩
  rw [push_eq, (attachAll_keeps _ _ _).1]
  exact regular.below_append pieces

theorem pushField (regular : builder.Regular) (part : FieldName) {node : Node}
    (indexed : node.Indexed) (pieces : ∀ inner ∈ Element.preorder node.dissolved, inner.Fits) :
    (builder.pushField part node).Regular := by
  refine ⟨regular.indexed.pushField part indexed, ?_⟩
  rw [children_pushField, push_eq, (attachAll_keeps _ _ _).1]
  exact regular.below_append pieces

/-- A finished node is in shape if its sketch is, and its children are so anyway. -/
theorem dissolved_finish (regular : builder.Regular) (fits : builder.sketch.fits = true) :
    ∀ node ∈ Element.preorder builder.finish.dissolved, node.Fits := by
  unfold Node.dissolved
  split
  · exact regular.below
  · rw [Element.preorder_node]
    exact List.forall_mem_cons.mpr ⟨⟨regular.indexed, fits⟩, regular.below⟩

/-- A node of faulty input holds nothing but tokens. -/
theorem push_faulty (regular : builder.Regular) {faulty : Node} (kind : faulty.kind = .error)
    (flat : faulty.IsFlat) (nameless : faulty.fields = []) : (builder.push faulty).Regular := by
  have indexed : faulty.Indexed := by
    unfold Node.Indexed
    rw [nameless]
    exact List.forall_mem_nil _
  refine regular.push indexed ?_
  unfold Node.dissolved
  rw [if_neg (by rw [kind]; exact Bool.false_ne_true), Element.preorder_node,
    show faulty.children = faulty.tokens.map .token from flat, Element.preorder_map_token]
  exact List.forall_mem_singleton.mpr (.of_error indexed kind)

end Regular
end Builder
end Offside
