import Offside.Tree.Builder

namespace Offside

/-!
# Trees with other tokens

A tree may be told again with other tokens in the places of its own, and with other spans.
Its nodes keep their kinds, their names and the order of their children.

A builder looks at the kinds and names of nodes only, and at how many children there are.
So whatever is built from some tokens is built from others in the same way.
-/

variable (place : Span → Span) (change : Token → Token)

mutual

/-- A tree with every span and every token changed. -/
def Node.map : Node → Node
  | .mk kind span children fields => .mk kind (place span) (Element.maps children) fields

/-- Some children with every span and every token changed. -/
def Element.maps : List Element → List Element
  | [] => []
  | .node inner :: rest => .node inner.map :: Element.maps rest
  | .token leaf :: rest => .token (change leaf) :: Element.maps rest

end

/-- A child with every span and every token changed. -/
def Element.map : Element → Element
  | .node inner => .node (inner.map place change)
  | .token leaf => .token (change leaf)

@[simp]
theorem Element.node?_map (child : Element) :
    (child.map place change).node? = child.node?.map (Node.map place change) := by
  cases child <;> rfl

theorem Element.maps_eq_map (children : List Element) :
    maps place change children = children.map (Element.map place change) := by
  induction children with
  | nil => rw [maps, List.map_nil]
  | cons child rest inductionHypothesis =>
      cases child with
      | node inner => rw [maps, List.map_cons, inductionHypothesis]; rfl
      | token leaf => rw [maps, List.map_cons, inductionHypothesis]; rfl

namespace Node

variable (node : Node)

@[simp]
theorem kind_map : (node.map place change).kind = node.kind := by
  cases node
  rw [Node.map]
  rfl

@[simp]
theorem span_map : (node.map place change).span = place node.span := by
  cases node
  rw [Node.map]
  rfl

@[simp]
theorem fields_map : (node.map place change).fields = node.fields := by
  cases node
  rw [Node.map]
  rfl

@[simp]
theorem children_map :
    (node.map place change).children = node.children.map (Element.map place change) := by
  cases node
  rw [Node.map, Element.maps_eq_map]
  rfl

end Node

mutual

/-- The nested list of the nodes shows neither spans nor tokens. -/
theorem Node.sexp_map (node : Node) : (node.map place change).sexp = node.sexp := by
  cases node with
  | mk kind span children fields =>
      rw [Node.map, Node.sexp, Node.sexp, Element.sexps_maps]

theorem Element.sexps_maps (fields : List (FieldName × Nat)) (index : Nat)
    (children : List Element) :
    Element.sexps fields index (Element.maps place change children) =
      Element.sexps fields index children := by
  cases children with
  | nil => rw [Element.maps]
  | cons child rest =>
      cases child with
      | node inner =>
          rw [Element.maps, Element.sexps, Element.sexps, inner.sexp_map,
            Element.sexps_maps]
      | token leaf =>
          rw [Element.maps, Element.sexps, Element.sexps, Element.sexps_maps]

end

namespace Builder

/-- A node under construction with every span and every token changed. -/
def map (builder : Builder) : Builder :=
  { builder with children := builder.children.map (Element.map place change) }

variable (builder : Builder)

@[simp]
theorem kind_map : (builder.map place change).kind = builder.kind := rfl

@[simp]
theorem children_map :
    (builder.map place change).children = builder.children.map (Element.map place change) := rfl

@[simp]
theorem map_new (kind : NodeKind) : (new kind).map place change = new kind := by
  unfold map new
  rw [Array.map_empty]

@[simp]
theorem isEmpty_map : (builder.map place change).isEmpty = builder.isEmpty := by
  simp [isEmpty, Array.isEmpty]

@[simp]
theorem map_pushToken (token : Token) :
    (builder.pushToken token).map place change =
      (builder.map place change).pushToken (change token) := by
  simp [pushToken, map, Element.map]

@[simp]
theorem map_attach (part : FieldName) (index : Nat) :
    (builder.attach part index).map place change =
      (builder.map place change).attach part index := by
  unfold attach
  rw [apply_ite (Builder.map place change)]
  rfl

@[simp]
theorem map_attachAll (offset : Nat) (fields : List (FieldName × Nat)) :
    (builder.attachAll offset fields).map place change =
      (builder.map place change).attachAll offset fields := by
  unfold attachAll
  induction fields generalizing builder with
  | nil => rfl
  | cons entry fields inductionHypothesis =>
      rw [List.foldl_cons, List.foldl_cons, inductionHypothesis, map_attach]

@[simp]
theorem map_push (node : Node) :
    (builder.push node).map place change =
      (builder.map place change).push (node.map place change) := by
  unfold push
  rw [node.kind_map, node.fields_map, node.children_map, children_map, Array.size_map,
    ← map_attachAll, apply_ite (Builder.map place change)]
  split
  · unfold map
    congr 1
    exact Array.ext' (by simp)
  · unfold map
    rw [Array.map_push]
    rfl

@[simp]
theorem map_pushField (part : FieldName) (node : Node) :
    (builder.pushField part node).map place change =
      (builder.map place change).pushField part (node.map place change) := by
  unfold pushField
  rw [node.kind_map, node.children_map, children_map, Array.size_map, List.isEmpty_map, map_push,
    apply_ite (Builder.map place change), map_attach]

/-- Finishing a node takes the spans of its children together. -/
theorem map_finish
    (spans : ∀ children,
      spanOf (children.map (Element.map place change)) = place (spanOf children)) :
    builder.finish.map place change = (builder.map place change).finish := by
  unfold finish
  dsimp only
  rw [Node.map, Element.maps_eq_map, children_map, Array.toList_map, spans]
  rfl

end Builder

/-!
## Outlines of trees

The outline of a tree is the tree without its places in the source: every span is empty
at zero and no token has trivia in front of it.  What is left are the kinds of nodes and
tokens, the order of the children and their names.  Two sources that differ only in
where their tokens stand have trees with the same outline.

A builder never looks at a span, so an outline can be built from outlines.
-/

/-- A token without its place. -/
def Token.outline (token : Token) : Token := .bare token.kind (.empty 0)

mutual

/-- A tree without the places of its nodes and tokens. -/
def Node.outline : Node → Node
  | .mk kind _ children fields => .mk kind (.empty 0) (Element.outlines children) fields

/-- Some children without their places. -/
def Element.outlines : List Element → List Element
  | [] => []
  | .node inner :: rest => .node inner.outline :: Element.outlines rest
  | .token leaf :: rest => .token leaf.outline :: Element.outlines rest

end

/-- A child without its place. -/
def Element.outline : Element → Element
  | .node inner => .node inner.outline
  | .token leaf => .token leaf.outline

mutual

theorem Node.outline_eq_map (node : Node) :
    node.outline = node.map (fun _ => .empty 0) Token.outline := by
  cases node with
  | mk kind span children fields =>
      rw [Node.outline, Node.map, Element.outlines_eq_maps]

theorem Element.outlines_eq_maps (children : List Element) :
    Element.outlines children = Element.maps (fun _ => .empty 0) Token.outline children := by
  cases children with
  | nil => rw [Element.outlines, Element.maps]
  | cons child rest =>
      cases child with
      | node inner =>
          rw [Element.outlines, Element.maps, inner.outline_eq_map, Element.outlines_eq_maps]
      | token leaf => rw [Element.outlines, Element.maps, Element.outlines_eq_maps]

end

theorem Element.outline_eq_map :
    Element.outline = Element.map (fun _ => .empty 0) Token.outline := by
  funext child
  cases child with
  | node inner => exact congrArg Element.node inner.outline_eq_map
  | token leaf => rfl

theorem Element.outlines_eq_map (children : List Element) :
    outlines children = children.map outline := by
  rw [outlines_eq_maps, maps_eq_map, outline_eq_map]

namespace Node

variable (node : Node)

@[simp]
theorem kind_outline : node.outline.kind = node.kind := by
  rw [outline_eq_map, kind_map]

@[simp]
theorem children_outline : node.outline.children = node.children.map Element.outline := by
  rw [outline_eq_map, children_map, Element.outline_eq_map]

/-- The nested list of the nodes does not show where they stand. -/
theorem sexp_outline : node.outline.sexp = node.sexp := by
  rw [outline_eq_map, sexp_map]

end Node

namespace Builder

/-- A node under construction without the places of its children. -/
def outline (builder : Builder) : Builder :=
  { builder with children := builder.children.map Element.outline }

variable (builder : Builder)

theorem outline_eq_map : builder.outline = builder.map (fun _ => .empty 0) Token.outline := by
  unfold outline map
  rw [Element.outline_eq_map]

@[simp]
theorem isEmpty_outline : builder.outline.isEmpty = builder.isEmpty := by
  rw [outline_eq_map, isEmpty_map]

@[simp]
theorem outline_pushToken (token : Token) :
    (builder.pushToken token).outline = builder.outline.pushToken token.outline := by
  rw [outline_eq_map, outline_eq_map, map_pushToken]

@[simp]
theorem outline_attach (part : FieldName) (index : Nat) :
    (builder.attach part index).outline = builder.outline.attach part index := by
  rw [outline_eq_map, outline_eq_map, map_attach]

@[simp]
theorem outline_push (node : Node) :
    (builder.push node).outline = builder.outline.push node.outline := by
  rw [outline_eq_map, outline_eq_map, node.outline_eq_map, map_push]

@[simp]
theorem outline_pushField (part : FieldName) (node : Node) :
    (builder.pushField part node).outline = builder.outline.pushField part node.outline := by
  rw [outline_eq_map, outline_eq_map, node.outline_eq_map, map_pushField]

/-- The outline of a finished node depends on the outline of its builder alone. -/
theorem outline_finish :
    builder.finish.outline = .mk builder.outline.kind (.empty 0)
      builder.outline.children.toList builder.outline.fields.toList := by
  unfold finish
  rw [Node.outline, Element.outlines_eq_map]
  unfold outline
  rw [Array.toList_map]

end Builder

end Offside
