import Offside.Tree.Node

namespace Offside

/-!
# Building nodes

A builder collects the children of one node.  Two rules make finished trees
regular.  A child of a hidden kind is dissolved: its children and names become
children and names of the node under construction.  And a name refers to one
child only: the first child that is given a name keeps it.
-/

/-- A node under construction. -/
structure Builder where
  kind : NodeKind
  children : Array Element
  fields : Array (FieldName × Nat)

namespace Builder

def new (kind : NodeKind) : Builder := ⟨kind, #[], #[]⟩

def isEmpty (builder : Builder) : Bool := builder.children.isEmpty

def hasField (builder : Builder) (part : FieldName) : Bool :=
  builder.fields.any fun entry => entry.1 == part

/-- Give the child at a position a name, unless an earlier child has it. -/
def attach (builder : Builder) (part : FieldName) (index : Nat) : Builder :=
  if builder.hasField part then builder
  else { builder with fields := builder.fields.push (part, index) }

def attachAll (builder : Builder) (offset : Nat) (fields : List (FieldName × Nat)) : Builder :=
  fields.foldl (fun builder entry => builder.attach entry.1 (offset + entry.2)) builder

def pushToken (builder : Builder) (token : Token) : Builder :=
  { builder with children := builder.children.push (.token token) }

/-- Add a node, or the children and names of a hidden node. -/
def push (builder : Builder) (node : Node) : Builder :=
  if node.kind.isHidden then
    let named := builder.attachAll builder.children.size node.fields
    { named with children := named.children ++ node.children }
  else
    { builder with children := builder.children.push (.node node) }

/-- Add a node under a name.  For a hidden node the name goes to the first of
its children, if there is one, and is given before the names it brings along. -/
def pushField (builder : Builder) (part : FieldName) (node : Node) : Builder :=
  let named :=
    if node.kind.isHidden && node.children.isEmpty then builder
    else builder.attach part builder.children.size
  named.push node

def pushFieldToken (builder : Builder) (part : FieldName) (token : Token) : Builder :=
  (builder.pushToken token).attach part builder.children.size

/-- The span of some children together; without children it is empty at zero. -/
def spanOf : List Element → Span
  | [] => .empty 0
  | child :: rest => (rest.map Element.span).foldl Span.merge child.span

def finish (builder : Builder) : Node :=
  let children := builder.children.toList
  .mk builder.kind (spanOf children) children builder.fields.toList

end Builder

def Node.leaf (kind : NodeKind) (token : Token) : Node :=
  ((Builder.new kind).pushToken token).finish

end Offside
