import Offside.Proofs.Tree.Places

namespace Offside

/-!
# Sketches of trees

A sketch of a node keeps of each child only its class, and only where it matters: for the
first child, for the first child that is a node, and for the children with a name.  That
is enough to see whether the node has the parts it needs, and whether its operands bind
as tightly as they should.

Whatever a builder does to its node shows in the sketch, and the sketch alone decides what
shows.  So the finitely many sketches that a rule of the grammar can come to may be found
by computation.
-/

/-- What a child of a node is, as far as it matters for the parts of the node. -/
inductive ChildClass
  | token
  /-- A simple expression, or a leaf that could be one. -/
  | simple
  | prefixed
  | infixed
  | postfixed
  /-- The argument behind the colon of a call. -/
  | colonArgument
  /-- An expression that nothing continues. -/
  | closed
  | other
deriving DecidableEq

/-- The class of the nodes of a kind. -/
def NodeKind.childClass : NodeKind → ChildClass
  | identifier | operatorIdentifier | wildcard | integerLiteral | floatingPointLiteral
  | booleanLiteral | characterLiteral | nullLiteral | string | unit | parenthesizedExpression
  | tupleExpression | instanceExpression | lazyExpression | fieldExpression | callExpression
  | genericFunction | interpolatedString | interpolatedStringExpression => .simple
  | prefixExpression => .prefixed
  | infixExpression => .infixed
  | postfixExpression => .postfixed
  | colonArgument => .colonArgument
  | ifExpression | matchExpression | doExpression | regionExpression | queryExpression
  | tryExpression | whileExpression | forExpression | returnExpression | throwExpression
  | caseBlock | block | relBlock | indentedBlock | lambdaExpression | assignmentExpression
  | ascriptionExpression => .closed
  | _ => .other

theorem NodeKind.childClass_ne_token (kind : NodeKind) : kind.childClass ≠ .token := by
  cases kind <;> exact ChildClass.noConfusion

namespace Element

def childClass : Element → ChildClass
  | .node inner => inner.kind.childClass
  | .token _ => .token

/-- The class of the child at a position.  A child that is missing is as good as a token. -/
def classAt (children : List Element) (index : Nat) : ChildClass :=
  (children[index]?.map childClass).getD .token

def firstClass? (children : List Element) : Option ChildClass :=
  children.head?.map childClass

/-- The class of the first child that is a node. -/
def operandClass? (children : List Element) : Option ChildClass :=
  (children.filterMap node?).head?.map fun inner => inner.kind.childClass

theorem classAt_append_left {front : List Element} {index : Nat} (inside : index < front.length)
    (back : List Element) : classAt (front ++ back) index = classAt front index := by
  unfold classAt
  rw [List.getElem?_append_left inside]

theorem classAt_append_right (front back : List Element) (index : Nat) :
    classAt (front ++ back) (front.length + index) = classAt back index := by
  unfold classAt
  rw [List.getElem?_append_right (Nat.le_add_right _ _), Nat.add_sub_cancel_left]

theorem classAt_zero {children : List Element} {first : ChildClass}
    (starts : firstClass? children = some first) : classAt children 0 = first := by
  cases children with
  | nil => cases starts
  | cons child rest => exact Option.some.inj starts

theorem firstClass?_append (front back : List Element) :
    firstClass? (front ++ back) = (firstClass? front).or (firstClass? back) := by
  cases front with
  | nil => rfl
  | cons child rest => rfl

theorem operandClass?_append (front back : List Element) :
    operandClass? (front ++ back) = (operandClass? front).or (operandClass? back) := by
  unfold operandClass?
  rw [List.filterMap_append]
  cases front.filterMap node? with
  | nil => rfl
  | cons inner rest => rfl

end Element

/-! ## Sketches -/

/-- What is kept of a node, finished or under construction. -/
structure Sketch where
  kind : NodeKind
  /-- The class of the first child. -/
  first : Option ChildClass
  /-- The class of the first child that is a node. -/
  operand : Option ChildClass
  /-- The named children, in the order in which they were named. -/
  parts : List (FieldName × ChildClass)
deriving DecidableEq

namespace Sketch

def new (kind : NodeKind) : Sketch := ⟨kind, none, none, []⟩

def ofParts (kind : NodeKind) (children : List Element) (fields : List (FieldName × Nat)) :
    Sketch where
  kind := kind
  first := Element.firstClass? children
  operand := Element.operandClass? children
  parts := fields.map fun entry => (entry.1, Element.classAt children entry.2)

/-- With more children, of which the first one and the first node are of some class. -/
def append (sketch : Sketch) (first operand : Option ChildClass) : Sketch :=
  { sketch with first := sketch.first.or first, operand := sketch.operand.or operand }

/-- With a name for a child of some class, unless an earlier child has it. -/
def attach (sketch : Sketch) (part : FieldName) (child : ChildClass) : Sketch :=
  if sketch.parts.any fun entry => entry.1 == part then sketch
  else { sketch with parts := sketch.parts ++ [(part, child)] }

def attachAll (sketch : Sketch) (parts : List (FieldName × ChildClass)) : Sketch :=
  parts.foldl (fun sketch entry => sketch.attach entry.1 entry.2) sketch

def pushToken (sketch : Sketch) : Sketch := sketch.append (some .token) none

/-- What a node comes to when it is added, as a group of children. -/
def dissolved (inner : Sketch) : Sketch :=
  if inner.kind.isHidden then { inner with kind := .blockItems }
  else ⟨.blockItems, some inner.kind.childClass, some inner.kind.childClass, []⟩

def push (sketch inner : Sketch) : Sketch :=
  (sketch.append inner.dissolved.first inner.dissolved.operand).attachAll inner.dissolved.parts

def pushField (sketch : Sketch) (part : FieldName) (inner : Sketch) : Sketch :=
  match inner.dissolved.first with
  | none => sketch.push inner
  | some child => (sketch.attach part child).push inner

/-- Add a finished node, by a name if there is one. -/
def close (sketch : Sketch) (part : Option FieldName) (inner : Sketch) : Sketch :=
  match part with
  | none => sketch.push inner
  | some part => sketch.pushField part inner

/-- The class of the child with a name. -/
def named? (sketch : Sketch) (part : FieldName) : Option ChildClass :=
  (sketch.parts.find? fun entry => entry.1 == part).map Prod.snd

@[simp]
theorem kind_attach (sketch : Sketch) (part : FieldName) (child : ChildClass) :
    (sketch.attach part child).kind = sketch.kind := by
  unfold attach
  split <;> rfl

@[simp]
theorem kind_attachAll (sketch : Sketch) (parts : List (FieldName × ChildClass)) :
    (sketch.attachAll parts).kind = sketch.kind := by
  unfold attachAll
  induction parts generalizing sketch with
  | nil => rfl
  | cons entry parts inductionHypothesis =>
      rw [List.foldl_cons, inductionHypothesis, kind_attach]

@[simp]
theorem kind_push (sketch inner : Sketch) : (sketch.push inner).kind = sketch.kind :=
  kind_attachAll _ _

theorem append_attach (sketch : Sketch) (part : FieldName) (child : ChildClass)
    (first operand : Option ChildClass) :
    (sketch.attach part child).append first operand =
      (sketch.append first operand).attach part child := by
  unfold attach append
  dsimp only
  split <;> rfl

theorem push_dissolved (sketch inner : Sketch) :
    sketch.push inner.dissolved = sketch.push inner := by
  have twice : inner.dissolved.dissolved = inner.dissolved := by
    unfold dissolved
    split <;> rfl
  unfold push
  rw [twice]

end Sketch

/-! ## Sketching builders and nodes -/

/-- Every name of a node refers to a child that is there. -/
def Node.Indexed (node : Node) : Prop := ∀ entry ∈ node.fields, entry.2 < node.children.length

namespace Node

def sketch (node : Node) : Sketch := .ofParts node.kind node.children node.fields

/-- The children that a node comes to when it is added. -/
def dissolved (node : Node) : List Element :=
  if node.kind.isHidden then node.children else [.node node]

/-- The names that a node brings along when it is added. -/
def dissolvedNames (node : Node) : List (FieldName × Nat) :=
  if node.kind.isHidden then node.fields else []

theorem dissolved_sketch (node : Node) :
    node.sketch.dissolved = .ofParts .blockItems node.dissolved node.dissolvedNames := by
  unfold Sketch.dissolved dissolved dissolvedNames
  rw [show node.sketch.kind = node.kind from rfl]
  split <;> rfl

theorem Indexed.dissolved {node : Node} (indexed : node.Indexed) :
    ∀ entry ∈ node.dissolvedNames, entry.2 < node.dissolved.length := by
  unfold Node.dissolved dissolvedNames
  split
  · exact indexed
  · exact List.forall_mem_nil _

end Node

namespace Builder

/-- Every name in a builder refers to a child that is there. -/
def Indexed (builder : Builder) : Prop :=
  ∀ entry ∈ builder.fields.toList, entry.2 < builder.children.toList.length

def sketch (builder : Builder) : Sketch :=
  .ofParts builder.kind builder.children.toList builder.fields.toList

/-- The builder with more children. -/
def append (builder : Builder) (children : List Element) : Builder :=
  { builder with children := builder.children ++ children }

variable {builder : Builder}

theorem children_append (builder : Builder) (children : List Element) :
    (builder.append children).children.toList = builder.children.toList ++ children :=
  Array.toList_appendList

theorem indexed_new (kind : NodeKind) : (new kind).Indexed := List.forall_mem_nil _

theorem Indexed.finish (indexed : builder.Indexed) : builder.finish.Indexed := indexed

/-! ### More children -/

theorem Indexed.append (indexed : builder.Indexed) (children : List Element) :
    (builder.append children).Indexed := by
  intro entry member
  have inside := indexed entry member
  rw [children_append, List.length_append]
  omega

theorem sketch_append (indexed : builder.Indexed) (children : List Element) :
    (builder.append children).sketch = builder.sketch.append (Element.firstClass? children)
      (Element.operandClass? children) := by
  have parts : (builder.append children).sketch.parts = builder.sketch.parts := by
    refine List.map_congr_left fun entry member => ?_
    rw [children_append, Element.classAt_append_left (indexed entry member)]
  have children := children_append builder children
  unfold Sketch.append sketch Sketch.ofParts at *
  dsimp only at *
  rw [parts, children, Element.firstClass?_append, Element.operandClass?_append]
  rfl

theorem pushToken_eq (builder : Builder) (token : Token) :
    builder.pushToken token = builder.append [.token token] := by
  simp [pushToken, append]

/-! ### More names -/

theorem Indexed.attach (indexed : builder.Indexed) {index : Nat}
    (inside : index < builder.children.toList.length) (part : FieldName) :
    (builder.attach part index).Indexed := by
  unfold Builder.attach
  split
  · exact indexed
  · intro entry member
    rcases List.mem_append.mp (Array.toList_push ▸ member) with earlier | last
    · exact indexed entry earlier
    · rw [List.mem_singleton.mp last]
      exact inside

theorem Indexed.attachAll (indexed : builder.Indexed) {offset : Nat}
    {fields : List (FieldName × Nat)}
    (inside : ∀ entry ∈ fields, offset + entry.2 < builder.children.toList.length) :
    (builder.attachAll offset fields).Indexed := by
  unfold Builder.attachAll
  induction fields generalizing builder with
  | nil => exact indexed
  | cons entry fields inductionHypothesis =>
      rw [List.forall_mem_cons] at inside
      refine inductionHypothesis (indexed.attach inside.1 entry.1) ?_
      rw [children_attach]
      exact inside.2

theorem hasField_eq (builder : Builder) (part : FieldName) :
    builder.hasField part = builder.sketch.parts.any fun entry => entry.1 == part := by
  unfold hasField sketch Sketch.ofParts
  rw [List.any_map, ← Array.any_toList]
  rfl

theorem sketch_attach (builder : Builder) (part : FieldName) (index : Nat) :
    (builder.attach part index).sketch =
      builder.sketch.attach part (Element.classAt builder.children.toList index) := by
  unfold attach Sketch.attach
  rw [← hasField_eq]
  split
  · rfl
  · unfold sketch Sketch.ofParts
    dsimp only
    rw [Array.toList_push, List.map_append]
    rfl

theorem sketch_attachAll (builder : Builder) (offset : Nat) (fields : List (FieldName × Nat)) :
    (builder.attachAll offset fields).sketch =
      builder.sketch.attachAll (fields.map fun entry =>
        (entry.1, Element.classAt builder.children.toList (offset + entry.2))) := by
  unfold attachAll Sketch.attachAll
  induction fields generalizing builder with
  | nil => rfl
  | cons entry fields inductionHypothesis =>
      rw [List.foldl_cons, inductionHypothesis, children_attach, sketch_attach, List.map_cons,
        List.foldl_cons]

/-! ### Adding nodes -/

theorem append_attach (builder : Builder) (part : FieldName) (index : Nat)
    (children : List Element) :
    (builder.attach part index).append children = (builder.append children).attach part index := by
  unfold attach append hasField
  dsimp only
  split <;> rfl

theorem append_attachAll (builder : Builder) (offset : Nat) (fields : List (FieldName × Nat))
    (children : List Element) :
    (builder.attachAll offset fields).append children =
      (builder.append children).attachAll offset fields := by
  unfold attachAll
  induction fields generalizing builder with
  | nil => rfl
  | cons entry fields inductionHypothesis =>
      rw [List.foldl_cons, List.foldl_cons, inductionHypothesis, append_attach]

/-- First the children are added, and then the names. -/
theorem push_eq (builder : Builder) (node : Node) :
    builder.push node =
      (builder.append node.dissolved).attachAll builder.children.toList.length
        node.dissolvedNames := by
  unfold push Node.dissolved Node.dissolvedNames
  split
  · rw [← append_attachAll, Array.length_toList]
    rfl
  · simp [append, attachAll]

theorem sketch_push (indexed : builder.Indexed) (node : Node) :
    (builder.push node).sketch = builder.sketch.push node.sketch := by
  unfold Sketch.push
  rw [push_eq, sketch_attachAll, children_append, sketch_append indexed, node.dissolved_sketch]
  unfold Sketch.ofParts
  simp only [Element.classAt_append_right]

theorem Indexed.push (indexed : builder.Indexed) {node : Node} (inner : node.Indexed) :
    (builder.push node).Indexed := by
  rw [push_eq]
  refine (indexed.append _).attachAll fun entry member => ?_
  rw [children_append, List.length_append]
  exact Nat.add_lt_add_left (inner.dissolved entry member) _

/-! ### Adding nodes by name -/

theorem pushField_eq (builder : Builder) (part : FieldName) (node : Node) :
    builder.pushField part node =
      (if node.dissolved = [] then builder
        else builder.attach part builder.children.toList.length).push node := by
  have empty : (node.kind.isHidden && node.children.isEmpty) = true ↔ node.dissolved = [] := by
    unfold Node.dissolved
    split <;> simp [*]
  unfold pushField
  dsimp only
  rw [Array.length_toList]
  by_cases nothing : node.dissolved = []
  · rw [if_pos nothing, if_pos (empty.mpr nothing)]
  · rw [if_neg nothing, if_neg (mt empty.mp nothing)]

theorem sketch_pushField (indexed : builder.Indexed) (part : FieldName) (node : Node) :
    (builder.pushField part node).sketch = builder.sketch.pushField part node.sketch := by
  unfold Sketch.pushField
  rw [pushField_eq, node.dissolved_sketch]
  cases pieces : node.dissolved with
  | nil =>
      rw [if_pos rfl, sketch_push indexed]
      rfl
  | cons child rest =>
      have there : Element.classAt (builder.children.toList ++ child :: rest)
          builder.children.toList.length = child.childClass :=
        Element.classAt_append_right _ _ 0
      rw [if_neg (List.cons_ne_nil _ _), push_eq, append_attach, children_attach,
        sketch_attachAll, children_attach, sketch_attach, children_append, pieces,
        sketch_append indexed, there]
      show _ = (builder.sketch.attach part child.childClass).push node.sketch
      unfold Sketch.push
      rw [node.dissolved_sketch, Sketch.append_attach, pieces]
      unfold Sketch.ofParts
      simp only [Element.classAt_append_right]

theorem Indexed.pushField (indexed : builder.Indexed) (part : FieldName) {node : Node}
    (inner : node.Indexed) : (builder.pushField part node).Indexed := by
  rw [pushField_eq]
  split
  · exact indexed.push inner
  · rename_i some
    have more : 0 < node.dissolved.length := List.length_pos_iff.mpr some
    rw [push_eq, append_attach, children_attach]
    refine ((indexed.append _).attach ?_ part).attachAll fun entry member => ?_
    · rw [children_append, List.length_append]
      omega
    · rw [children_attach, children_append, List.length_append]
      exact Nat.add_lt_add_left (inner.dissolved entry member) _

end Builder
end Offside
