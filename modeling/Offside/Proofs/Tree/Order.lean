import Offside.Proofs.Text.Rows
import Offside.Proofs.Tree.Places

namespace Offside

/-!
# The order of a tree

A tree is in order when the children of every node stand in a row that covers the node.
The children of a node are covered by their own children, and so on down to the tokens.
So a tree without empty nodes is in order just if its tokens stand in a row, and each of
its nodes then reaches from the first of its tokens to the last one.

Whether the tokens stand in a row or not, a node ends where the furthest of its tokens does.
-/

/-- The node has children, and its span is theirs together. -/
structure Node.Spanned (node : Node) : Prop where
  nonempty : node.children ≠ []
  span : node.span = Builder.spanOf node.children

/-- The children of the node stand in a row that covers it. -/
def Node.InOrder (node : Node) : Prop := Span.Row (node.children.map Element.span) node.span

theorem Builder.spanned_finish {builder : Builder} (filled : builder.children.toList ≠ []) :
    builder.finish.Spanned := ⟨filled, rfl⟩

namespace Element

/-- The spans of the tokens of an element. -/
def leafSpans : Element → List Span
  | .node inner => inner.tokens.map Token.span
  | .token leaf => [leaf.span]

theorem map_span_tokens (children : List Element) :
    (tokens children).map Token.span = children.flatMap leafSpans := by
  induction children with
  | nil => rw [tokens_nil]; rfl
  | cons child rest inductionHypothesis =>
      rw [List.flatMap_cons, ← inductionHypothesis]
      cases child with
      | node inner => rw [tokens_cons_node, List.map_append]; rfl
      | token leaf => rw [tokens_cons_token]; rfl

/-- Something holds of all nodes of an element. -/
def All (holds : Node → Prop) : Element → Prop
  | .node inner => ∀ below ∈ inner.preorder, holds below
  | .token _ => True

theorem forall_preorder_iff (holds : Node → Prop) (children : List Element) :
    (∀ below ∈ preorder children, holds below) ↔ ∀ child ∈ children, child.All holds := by
  induction children with
  | nil => simp [preorder]
  | cons child rest inductionHypothesis =>
      rw [List.forall_mem_cons, ← inductionHypothesis]
      cases child with
      | node inner => rw [preorder, List.forall_mem_append]; rfl
      | token leaf => rw [preorder]; exact (and_iff_right True.intro).symm

end Element

namespace Node

theorem forall_preorder_iff (holds : Node → Prop) (node : Node) :
    (∀ below ∈ node.preorder, holds below) ↔
      holds node ∧ ∀ child ∈ node.children, child.All holds := by
  rw [← Element.forall_preorder_iff]
  cases node with
  | mk kind span children fields =>
      rw [preorder, List.forall_mem_cons]
      rfl

theorem map_span_tokens (node : Node) :
    node.tokens.map Token.span = node.children.flatMap Element.leafSpans := by
  rw [tokens_eq_children, Element.map_span_tokens]

end Node

mutual

/-- What stands below a node of a tree stands in the tree. -/
theorem Node.preorder_subset {root node : Node} (member : node ∈ root.preorder) :
    ∀ below ∈ node.preorder, below ∈ root.preorder := by
  cases root with
  | mk kind span children fields =>
      rw [Node.preorder, List.mem_cons] at member
      rcases member with here | further
      · rw [here]
        exact fun _ => id
      · rw [Node.preorder]
        exact fun below inside =>
          List.mem_cons_of_mem _ (Element.preorder_subset further below inside)

theorem Element.preorder_subset {children : List Element} {node : Node}
    (member : node ∈ Element.preorder children) :
    ∀ below ∈ node.preorder, below ∈ Element.preorder children := by
  match children with
  | [] =>
      rw [Element.preorder] at member
      cases member
  | .node inner :: rest =>
      rw [Element.preorder, List.mem_append] at member
      rw [Element.preorder]
      intro below inside
      rcases member with here | further
      · exact List.mem_append_left _ (Node.preorder_subset here below inside)
      · exact List.mem_append_right _ (Element.preorder_subset further below inside)
  | .token leaf :: rest =>
      rw [Element.preorder] at member ⊢
      exact Element.preorder_subset member

end

/-- The tokens of a node are tokens of the tree. -/
theorem Node.tokens_subset {root node : Node} (member : node ∈ root.preorder) :
    ∀ token ∈ node.tokens, token ∈ root.tokens := by
  rw [← Node.map_snd_places 0, List.mem_map] at member
  rcases member with ⟨⟨place, _⟩, placed, rfl⟩
  rcases Node.tokens_of_mem_places placed with ⟨front, back, split, _⟩
  intro token inside
  rw [split]
  exact List.mem_append_left _ (List.mem_append_right _ inside)

/-! ## From the nodes to the tokens -/

mutual

/-- In a tree in order the tokens stand in a row that covers it. -/
theorem Node.row_tokens (node : Node) (inOrder : ∀ below ∈ node.preorder, below.InOrder) :
    Span.Row (node.tokens.map Token.span) node.span := by
  rw [Node.forall_preorder_iff] at inOrder
  rw [Node.map_span_tokens]
  cases node with
  | mk kind span children fields =>
      exact (Span.Row.flatMap (Element.rows_leafSpans children inOrder.2)).mpr inOrder.1

theorem Element.rows_leafSpans (children : List Element)
    (inOrder : ∀ child ∈ children, child.All Node.InOrder) :
    ∀ child ∈ children, Span.Row child.leafSpans child.span := by
  cases children with
  | nil => exact List.forall_mem_nil _
  | cons child rest =>
      rw [List.forall_mem_cons] at inOrder
      refine List.forall_mem_cons.mpr ⟨?_, Element.rows_leafSpans rest inOrder.2⟩
      cases child with
      | node inner => exact Node.row_tokens inner inOrder.1
      | token leaf => exact .singleton _

end

/-! ## From the tokens to the nodes -/

/-- Proper children in a row make a node in order. -/
theorem Node.Spanned.inOrder {node : Node} (spanned : node.Spanned)
    (row : (node.children.map Element.span).IsChain Span.Before)
    (proper : ∀ child ∈ node.children, child.span.Proper) : node.InOrder := by
  rcases spanned with ⟨nonempty, span⟩
  unfold InOrder
  rw [span]
  generalize node.children = children at *
  cases children with
  | nil => exact absurd rfl nonempty
  | cons child rest => exact Span.row_merge row (List.forall_mem_map.mpr proper)

mutual

/-- Where the tokens stand in a row, all nodes are in order. -/
theorem Node.inOrder_of_row (node : Node) (spanned : ∀ below ∈ node.preorder, below.Spanned)
    (row : (node.tokens.map Token.span).IsChain Span.Before)
    (proper : ∀ span ∈ node.tokens.map Token.span, span.Proper) :
    ∀ below ∈ node.preorder, below.InOrder := by
  rw [Node.forall_preorder_iff] at spanned ⊢
  rw [Node.map_span_tokens] at row proper
  cases node with
  | mk kind span children fields =>
      have below := Element.inOrder_of_row children spanned.2 row proper
      have rows := Element.rows_leafSpans children below
      refine ⟨spanned.1.inOrder ((Span.Row.isChain_flatMap rows).mp row) ?_, below⟩
      intro child member
      refine (rows child member).proper fun leaf piece => proper leaf ?_
      exact List.mem_flatMap.mpr ⟨child, member, piece⟩

theorem Element.inOrder_of_row (children : List Element)
    (spanned : ∀ child ∈ children, child.All Node.Spanned)
    (row : (children.flatMap Element.leafSpans).IsChain Span.Before)
    (proper : ∀ span ∈ children.flatMap Element.leafSpans, span.Proper) :
    ∀ child ∈ children, child.All Node.InOrder := by
  cases children with
  | nil => exact List.forall_mem_nil _
  | cons child rest =>
      rw [List.forall_mem_cons] at spanned
      rw [List.flatMap_cons] at row proper
      rw [List.forall_mem_append] at proper
      refine List.forall_mem_cons.mpr
        ⟨?_, Element.inOrder_of_row rest spanned.2 row.right_of_append proper.2⟩
      cases child with
      | node inner =>
          exact Node.inOrder_of_row inner spanned.1 row.left_of_append proper.1
      | token leaf => exact True.intro

end

/-- A tree without empty nodes is in order just if its tokens stand in a row. -/
theorem Node.inOrder_iff (node : Node) (spanned : ∀ below ∈ node.preorder, below.Spanned)
    (proper : ∀ token ∈ node.tokens, token.span.Proper) :
    (∀ below ∈ node.preorder, below.InOrder) ↔
      (node.tokens.map Token.span).IsChain Span.Before :=
  ⟨fun inOrder => (node.row_tokens inOrder).inOrder,
    fun row => node.inOrder_of_row spanned row (List.forall_mem_map.mpr proper)⟩

/-! ## Where a tree begins and ends -/

theorem Node.Spanned.union {node : Node} (spanned : node.Spanned) :
    Span.Union (node.children.map Element.span) node.span := by
  rcases spanned with ⟨nonempty, span⟩
  rw [span]
  generalize node.children = children at nonempty
  cases children with
  | nil => exact absurd rfl nonempty
  | cons child rest => exact Span.union_merge child.span (rest.map Element.span)

mutual

/-- A tree is its tokens together. -/
theorem Node.union_tokens (node : Node) (spanned : ∀ below ∈ node.preorder, below.Spanned) :
    node.tokens.map Token.span ≠ [] ∧ Span.Union (node.tokens.map Token.span) node.span := by
  rw [Node.forall_preorder_iff] at spanned
  have union := spanned.1.union
  have nonempty := spanned.1.nonempty
  rw [Node.map_span_tokens]
  cases node with
  | mk kind span children fields =>
      have each := Element.union_leafSpans children spanned.2
      refine ⟨?_, union.flatMap each⟩
      cases children with
      | nil => exact absurd rfl nonempty
      | cons child rest =>
          exact List.append_ne_nil_of_left_ne_nil (each child List.mem_cons_self).1 _

theorem Element.union_leafSpans (children : List Element)
    (spanned : ∀ child ∈ children, child.All Node.Spanned) :
    ∀ child ∈ children, child.leafSpans ≠ [] ∧ Span.Union child.leafSpans child.span := by
  cases children with
  | nil => exact List.forall_mem_nil _
  | cons child rest =>
      rw [List.forall_mem_cons] at spanned
      refine List.forall_mem_cons.mpr ⟨?_, Element.union_leafSpans rest spanned.2⟩
      cases child with
      | node inner => exact Node.union_tokens inner spanned.1
      | token leaf => exact ⟨List.cons_ne_nil _ _, Span.union_merge leaf.span []⟩

end

/-- A tree ends where the furthest of its tokens does. -/
theorem Node.reach_tokens (node : Node) (spanned : ∀ below ∈ node.preorder, below.Spanned) :
    Span.Reach (node.tokens.map Token.span) node.span.stop := by
  rcases node.union_tokens spanned with ⟨some, union⟩
  exact union.reach some

/-- A tree whose first token stands in front of all others begins where that token does. -/
theorem Node.start_eq {node : Node} (spanned : ∀ below ∈ node.preorder, below.Spanned)
    {token : Token} {rest : List Token} (tokens : node.tokens = token :: rest)
    (first : ∀ other ∈ rest, token.span.start ≤ other.span.start) :
    node.span.start = token.span.start := by
  rcases node.union_tokens spanned with ⟨some, union⟩
  rcases union.starts some with ⟨_, member, start⟩
  rcases List.mem_map.mp member with ⟨other, inside, rfl⟩
  rw [tokens] at inside union
  have upper := (union.within token.span List.mem_cons_self).1
  rcases List.mem_cons.mp inside with rfl | further
  · exact start.symm
  · have lower := first other further
    omega

end Offside
