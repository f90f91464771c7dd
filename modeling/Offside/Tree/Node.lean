import Offside.Token
import Offside.Tree.Field
import Offside.Tree.Kind

namespace Offside

/-!
# Syntax trees

A node of the tree has a kind, a list of children and a table that gives some of
the children names.  The children are nodes and tokens in the order of the
source, the tokens inserted by the layout rules included, so the tree holds the
whole token sequence.  The span of a node is the span of its children together.
-/

mutual

/-- A node of the syntax tree. -/
inductive Node
  | mk (kind : NodeKind) (span : Span) (children : List Element)
      (fields : List (FieldName × Nat))

/-- A child of a node. -/
inductive Element
  | node (node : Node)
  | token (token : Token)

end

namespace Element

def node? : Element → Option Node
  | .node inner => some inner
  | .token _ => none

end Element

namespace Node

/-! ## Parts of a node -/

def kind : Node → NodeKind
  | mk kind _ _ _ => kind

def span : Node → Span
  | mk _ span _ _ => span

def children : Node → List Element
  | mk _ _ children _ => children

/-- The names of children, each with the position of the child it refers to, in
the order in which they were given. -/
def fields : Node → List (FieldName × Nat)
  | mk _ _ _ fields => fields

def withKind (node : Node) (kind : NodeKind) : Node :=
  mk kind node.span node.children node.fields

def nodeChildren (node : Node) : List Node :=
  node.children.filterMap Element.node?

def field? (node : Node) (part : FieldName) : Option Element :=
  (node.fields.find? fun entry => entry.1 == part).bind fun entry => node.children[entry.2]?

def fieldNode? (node : Node) (part : FieldName) : Option Node :=
  (node.field? part).bind Element.node?

def fieldNameOf? (node : Node) (index : Nat) : Option FieldName :=
  (node.fields.find? fun entry => entry.2 == index).map Prod.fst

def text (node : Node) (source : String) : String := node.span.text source

end Node

def Element.span : Element → Span
  | .node inner => inner.span
  | .token leaf => leaf.span

/-! ## Size, tokens and text of a tree -/

mutual

def Node.size : Node → Nat
  | .mk _ _ children _ => 1 + Element.sizes children

def Element.sizes : List Element → Nat
  | [] => 0
  | .node inner :: rest => inner.size + Element.sizes rest
  | .token _ :: rest => Element.sizes rest

end

mutual

def Node.tokens : Node → List Token
  | .mk _ _ children _ => Element.tokens children

def Element.tokens : List Element → List Token
  | [] => []
  | .node inner :: rest => inner.tokens ++ Element.tokens rest
  | .token leaf :: rest => leaf :: Element.tokens rest

end

mutual

/-- The nodes of a tree, every node in front of the nodes below it. -/
def Node.preorder : Node → List Node
  | .mk kind span children fields =>
    .mk kind span children fields :: Element.preorder children

/-- The nodes of some children, every node in front of the nodes below it. -/
def Element.preorder : List Element → List Node
  | [] => []
  | .node inner :: rest => inner.preorder ++ Element.preorder rest
  | .token _ :: rest => Element.preorder rest

end

mutual

/-- The nodes of a tree as a nested list of kinds.  A node that its parent refers
to by name carries the name in front. -/
def Node.sexp : Node → String
  | .mk kind _ children fields =>
    "(" ++ kind.name ++ String.join (Element.sexps fields 0 children) ++ ")"

def Element.sexps (fields : List (FieldName × Nat)) (index : Nat) : List Element → List String
  | [] => []
  | .node inner :: rest =>
    let label :=
      match fields.find? fun entry => entry.2 == index with
      | some (part, _) => part.label ++ ": "
      | none => ""
    (" " ++ label ++ inner.sexp) :: Element.sexps fields (index + 1) rest
  | .token _ :: rest => Element.sexps fields (index + 1) rest

end

/-! ## Walking a tree -/

namespace Node

/-- The number of nodes waiting on a stack, nodes below them included. -/
def pendingSize (stack : List Node) : Nat :=
  stack.foldr (fun node pending => node.size + pending) 0

@[simp]
theorem pendingSize_nil : pendingSize [] = 0 := rfl

@[simp]
theorem pendingSize_cons (node : Node) (stack : List Node) :
    pendingSize (node :: stack) = node.size + pendingSize stack := rfl

theorem sizes_eq_pendingSize (children : List Element) :
    Element.sizes children = pendingSize (children.filterMap Element.node?) := by
  induction children with
  | nil => rfl
  | cons child rest inductionHypothesis =>
      cases child with
      | node inner => simp [Element.sizes, Element.node?, inductionHypothesis]
      | token leaf =>
          rw [List.filterMap_cons_none rfl]
          exact inductionHypothesis

theorem pendingSize_append (upper lower : List Node) :
    pendingSize (upper ++ lower) = pendingSize upper + pendingSize lower := by
  induction upper with
  | nil => simp
  | cons node upper inductionHypothesis => simp [inductionHypothesis, Nat.add_assoc]

theorem size_eq (node : Node) : node.size = 1 + pendingSize node.nodeChildren := by
  cases node with
  | mk kind span children fields =>
      simp [size, nodeChildren, Node.children, sizes_eq_pendingSize]

/-- Visit the nodes on a stack and the nodes below them.  A visited node leaves
its children on the stack, the first one on top. -/
def visit : List Node → List Node
  | [] => []
  | node :: stack => node :: visit (node.nodeChildren ++ stack)
termination_by stack => pendingSize stack
decreasing_by
  rw [pendingSize_append, pendingSize_cons, size_eq node]
  omega

/-- The nodes of a tree in the order in which a walk comes upon them. -/
def walk (node : Node) : List Node := visit [node]

/-- Whether some node of the tree wraps faulty input. -/
def hasError (node : Node) : Bool := node.walk.any fun inner => inner.kind == .error

def find? (node : Node) (kind : NodeKind) : Option Node :=
  node.walk.find? fun inner => inner.kind == kind

end Node
end Offside
