import Offside.Proofs.Tree.Stretches

namespace Offside

/-!
# Walks

A walk hands out the nodes of a tree one at a time, whenever it is asked for the next one.
In between it keeps a stack of the nodes that are still to come, each with everything below
it.  The node on top is handed out and its children take its place.  They are pushed from the
last to the first, since the one that is pushed last comes next.

What a walk comes to is told here without the stack.  A node is identified by its address,
the way that leads down to it from the root.  Two nodes of a tree may be alike, but they have
different addresses.  In the order of the addresses every node stands in front of the nodes
below it and behind all that is to its left.
-/

/-- A walk that is under way.  The top of its stack is the end of the array. -/
structure Walk where
  stack : Array Node

namespace Walk

/-- A walk over a tree that has not been asked for a node yet. -/
def of (node : Node) : Walk := ⟨#[node]⟩

/-- The next node, if there is one left, and the walk behind it. -/
def next (walk : Walk) : Option Node × Walk :=
  match walk.stack.back? with
  | none => (none, walk)
  | some node => (some node, ⟨walk.stack.pop ++ node.nodeChildren.reverse⟩)

/-- What a walk answers to each of the calls for the next node, counted from zero. -/
def answer (walk : Walk) : Nat → Option Node
  | 0 => walk.next.1
  | call + 1 => walk.next.2.answer call

/-- The nodes that are still to come. -/
def pending (walk : Walk) : List Node := Node.visit walk.stack.toList.reverse

theorem pending_of (node : Node) : (of node).pending = node.walk := rfl

theorem pending_empty : (⟨#[]⟩ : Walk).pending = [] := by
  unfold pending Node.visit
  rfl

/-- Pushing the children in reverse puts them on the stack in the order of the tree. -/
theorem pending_push (lower : Array Node) (node : Node) :
    (⟨lower.push node⟩ : Walk).pending =
      node :: (⟨lower ++ node.nodeChildren.reverse⟩ : Walk).pending := by
  have inOrder : (lower ++ node.nodeChildren.reverse).toList.reverse =
      node.nodeChildren ++ lower.toList.reverse := by
    rw [Array.toList_appendList, List.reverse_append, List.reverse_reverse]
  rw [pending, Array.toList_push, List.reverse_concat, Node.visit, pending, inOrder]

/-- A call takes the first of the nodes that are still to come, and no more. -/
theorem next_pending (walk : Walk) :
    walk.next.1 = walk.pending.head? ∧ walk.next.2.pending = walk.pending.tail := by
  rcases walk with ⟨stack⟩
  cases top : stack.back? with
  | none =>
      obtain rfl := Array.back?_eq_none_iff.mp top
      have ended : (⟨#[]⟩ : Walk).next = (none, ⟨#[]⟩) := rfl
      rw [ended, pending_empty]
      exact ⟨rfl, rfl⟩
  | some node =>
      obtain ⟨lower, rfl⟩ := Array.back?_eq_some_iff.mp top
      have taken : (⟨lower.push node⟩ : Walk).next =
          (some node, ⟨lower ++ node.nodeChildren.reverse⟩) := by
        rw [next, top, Array.pop_push]
      rw [taken, pending_push]
      exact ⟨rfl, rfl⟩

/-- By induction on the number of the call.  What the stack stands for is all that the next
calls depend on. -/
theorem answer_eq (walk : Walk) (call : Nat) : walk.answer call = walk.pending[call]? := by
  induction call generalizing walk with
  | zero => exact walk.next_pending.1.trans List.head?_eq_getElem?
  | succ call inductionHypothesis =>
      rw [answer, inductionHypothesis, walk.next_pending.2, List.getElem?_tail]

end Walk

namespace Node

theorem length_visit (stack : List Node) : (visit stack).length = pendingSize stack := by
  fun_induction visit stack with
  | case1 => rfl
  | case2 node stack inductionHypothesis =>
      rw [List.length_cons, inductionHypothesis, pendingSize_append, pendingSize_cons,
        size_eq node]
      omega

theorem length_walk (node : Node) : node.walk.length = node.size := by
  rw [walk, length_visit, pendingSize_cons, pendingSize_nil, Nat.add_zero]

/-- A walk comes to the root and then to what walks over its children come to. -/
theorem walk_eq (node : Node) : node.walk = node :: node.nodeChildren.flatMap walk := by
  rw [walk_eq_preorder, preorder_eq, funext walk_eq_preorder]

/-! ## Addresses -/

/-- The node at an address.  Each number in it tells which of the child nodes comes next on
the way down, so the root has the empty address. -/
def at? (node : Node) : List Nat → Option Node
  | [] => some node
  | index :: further => node.nodeChildren[index]?.bind fun child => child.at? further

/-- Some nodes are the nodes of a tree, each of them once and in order: they stand at
ascending addresses, and no address of the tree is left out. -/
def EachOnce (root : Node) (nodes : List Node) : Prop :=
  ∃ addresses : List (List Nat), addresses.Pairwise (List.Lex (· < ·)) ∧
    addresses.map root.at? = nodes.map some ∧
      ∀ address, (root.at? address).isSome → address ∈ addresses

end Node

mutual

/-- The nodes of a tree, each with its address. -/
def Node.addressed : Node → List (List Nat × Node)
  | .mk kind span children fields =>
    ([], .mk kind span children fields) :: Element.addressed 0 children

/-- The nodes below some children, each with its address.  In front of the children stand
`index` child nodes. -/
def Element.addressed (index : Nat) : List Element → List (List Nat × Node)
  | [] => []
  | .node inner :: rest =>
    inner.addressed.map (fun entry => (index :: entry.1, entry.2)) ++
      Element.addressed (index + 1) rest
  | .token _ :: rest => Element.addressed index rest

end

mutual

/-- The nodes with an address are the nodes of the tree. -/
theorem Node.map_snd_addressed (node : Node) : node.addressed.map Prod.snd = node.preorder := by
  cases node with
  | mk kind span children fields =>
      rw [Node.addressed, Node.preorder, List.map_cons, Element.map_snd_addressed]

theorem Element.map_snd_addressed (index : Nat) (children : List Element) :
    (Element.addressed index children).map Prod.snd = Element.preorder children := by
  match children with
  | [] => rw [Element.addressed, Element.preorder]; rfl
  | .node inner :: rest =>
      rw [Element.addressed, Element.preorder, List.map_append, List.map_map,
        ← Node.map_snd_addressed inner, Element.map_snd_addressed]
      rfl
  | .token leaf :: rest =>
      rw [Element.addressed, Element.preorder, Element.map_snd_addressed]

end

theorem Node.addressed_eq (node : Node) :
    node.addressed = ([], node) :: Element.addressed 0 node.children := by
  cases node
  rw [Node.addressed]
  rfl

namespace Element

/-- The first number of an address tells the child, the rest is the address below it. -/
theorem mem_addressed_iff {index : Nat} {children : List Element} {address : List Nat}
    {inner : Node} : (address, inner) ∈ addressed index children ↔
      ∃ place child further, (children.filterMap node?)[place]? = some child ∧
        address = (index + place) :: further ∧ (further, inner) ∈ child.addressed := by
  induction children generalizing index with
  | nil =>
      rw [addressed]
      simp
  | cons child rest inductionHypothesis =>
      cases child with
      | token leaf =>
          rw [addressed, inductionHypothesis, List.filterMap_cons_none rfl]
      | node first =>
          rw [addressed, List.mem_append, inductionHypothesis, List.mem_map,
            List.filterMap_cons_some (show node? (.node first) = some first from rfl)]
          constructor
          · rintro (⟨entry, member, same⟩ | ⟨place, child, further, found, same, member⟩)
            · cases same
              exact ⟨0, first, entry.1, rfl, rfl, member⟩
            · exact ⟨place + 1, child, further, found, by rw [same]; congr 1; omega, member⟩
          · rintro ⟨_ | place, child, further, found, same, member⟩
            · cases found
              exact .inl ⟨(further, inner), member, by rw [same]; rfl⟩
            · exact .inr ⟨place, child, further, found, by rw [same]; congr 1; omega, member⟩

end Element

namespace Node

/-- By induction on the address, for the way down follows it. -/
theorem mem_addressed_iff {node inner : Node} {address : List Nat} :
    (address, inner) ∈ node.addressed ↔ node.at? address = some inner := by
  induction address generalizing node with
  | nil =>
      rw [addressed_eq, List.mem_cons, Element.mem_addressed_iff, at?]
      constructor
      · rintro (root | ⟨place, child, further, _, impossible, _⟩)
        · cases root
          rfl
        · cases impossible
      · intro root
        cases root
        exact .inl rfl
  | cons index further inductionHypothesis =>
      rw [addressed_eq, List.mem_cons, Element.mem_addressed_iff, at?, Option.bind_eq_some_iff]
      simp only [← inductionHypothesis]
      constructor
      · rintro (root | ⟨place, child, behind, found, same, member⟩)
        · cases root
        · rw [Nat.zero_add] at same
          cases same
          exact ⟨child, found, member⟩
      · rintro ⟨child, found, member⟩
        exact .inr ⟨index, child, further, found, by rw [Nat.zero_add], member⟩

end Node

mutual

/-- Addresses ascend in the order of the recursion. -/
theorem Node.ascending_addressed (node : Node) :
    (node.addressed.map Prod.fst).Pairwise (List.Lex (· < ·)) := by
  cases node with
  | mk kind span children fields =>
      rw [Node.addressed, List.map_cons, List.pairwise_cons]
      refine ⟨fun address member => ?_, Element.ascending_addressed 0 children⟩
      obtain ⟨entry, inside, same⟩ := List.mem_map.mp member
      obtain ⟨place, child, further, _, starts, _⟩ := Element.mem_addressed_iff.mp inside
      rw [← same, starts]
      exact .nil

theorem Element.ascending_addressed (index : Nat) (children : List Element) :
    ((Element.addressed index children).map Prod.fst).Pairwise (List.Lex (· < ·)) := by
  match children with
  | [] =>
      rw [Element.addressed]
      exact .nil
  | .token leaf :: rest =>
      rw [Element.addressed]
      exact Element.ascending_addressed index rest
  | .node inner :: rest =>
      rw [Element.addressed, List.map_append, List.map_map, List.pairwise_append]
      refine ⟨?_, Element.ascending_addressed (index + 1) rest, ?_⟩
      · have below := Node.ascending_addressed inner
        rw [List.pairwise_map] at below ⊢
        exact below.imp fun ascends => .cons ascends
      · intro address here other behind
        obtain ⟨entry, _, same⟩ := List.mem_map.mp here
        obtain ⟨later, member, sameLater⟩ := List.mem_map.mp behind
        obtain ⟨place, child, further, _, starts, _⟩ := Element.mem_addressed_iff.mp member
        rw [← same, ← sameLater, starts]
        exact .rel (by omega)

end

namespace Node

theorem eachOnce_walk (node : Node) : node.EachOnce node.walk := by
  refine ⟨node.addressed.map Prod.fst, node.ascending_addressed, ?_, fun address found => ?_⟩
  · rw [walk_eq_preorder, ← map_snd_addressed, List.map_map, List.map_map]
    exact List.map_congr_left fun entry member => mem_addressed_iff.mp member
  · obtain ⟨inner, reached⟩ := Option.isSome_iff_exists.mp found
    exact List.mem_map.mpr ⟨(address, inner), mem_addressed_iff.mpr reached, rfl⟩

theorem mem_walk_iff {node inner : Node} :
    inner ∈ node.walk ↔ ∃ address, node.at? address = some inner := by
  rw [walk_eq_preorder, ← map_snd_addressed, List.mem_map]
  constructor
  · rintro ⟨⟨address, below⟩, member, same⟩
    exact ⟨address, mem_addressed_iff.mp (same ▸ member)⟩
  · rintro ⟨address, reached⟩
    exact ⟨(address, inner), mem_addressed_iff.mpr reached, rfl⟩

/-- The walk with a stack is the walk by recursion.  It ends after as many nodes as the tree
has, and what it has handed out by then is the root and what the walks over its children hand
out, each node of the tree once.  So it comes upon faulty input exactly when a node of the
tree, at whatever address, wraps some. -/
theorem walk_recursive (node : Node) :
    (∀ call, (Walk.of node).answer call = node.walk[call]?) ∧
      (∀ call, (Walk.of node).answer call = none ↔ node.size ≤ call) ∧
      node.walk = node :: node.nodeChildren.flatMap walk ∧
      node.EachOnce node.walk ∧
      (node.hasError = true ↔
        ∃ address inner, node.at? address = some inner ∧ inner.kind = .error) := by
  have answers : ∀ call, (Walk.of node).answer call = node.walk[call]? := fun call => by
    rw [Walk.answer_eq, Walk.pending_of]
  refine ⟨answers, fun call => ?_, walk_eq node, eachOnce_walk node, ?_⟩
  · rw [answers, List.getElem?_eq_none_iff, length_walk]
  · rw [hasError, List.any_eq_true]
    simp only [mem_walk_iff, beq_iff_eq]
    constructor
    · rintro ⟨inner, ⟨address, reached⟩, faulty⟩
      exact ⟨address, inner, reached, faulty⟩
    · rintro ⟨address, inner, reached, faulty⟩
      exact ⟨inner, ⟨address, reached⟩, faulty⟩

/-- What is below the first child comes in front of the second one.  The two leaves are alike,
and each of them is handed out. -/
example :
    let leaf : Node := .mk .identifier ⟨0, 0⟩ [] []
    let tree : Node := .mk .genericType ⟨0, 0⟩
      [.node (.mk .typeArguments ⟨0, 0⟩ [.node leaf] []), .node leaf] []
    (List.range 5).map (fun call => ((Walk.of tree).answer call).map kind) =
      [some .genericType, some .typeArguments, some .identifier, some .identifier, none] := by
  decide +kernel

end Node
end Offside
