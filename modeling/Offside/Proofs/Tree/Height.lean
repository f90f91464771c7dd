import Offside.Proofs.Tree.Places

namespace Offside

/-!
# The height of a tree

The height of a tree is the length of its longest way down, counted in nodes and tokens.
Whatever works its way through a tree by recursion needs as much of the stack as that.

A builder puts its children one level below the node under construction, and a hidden
node that is dissolved raises nothing.
-/

mutual

/-- The number of nodes and tokens on the longest way down from a node. -/
def Node.height : Node → Nat
  | .mk _ _ children _ => 1 + Element.heights children

/-- The greatest height of some children, and nothing if there are none. -/
def Element.heights : List Element → Nat
  | [] => 0
  | .node inner :: rest => max inner.height (Element.heights rest)
  | .token _ :: rest => max 1 (Element.heights rest)

end

namespace Element

def height : Element → Nat
  | .node inner => inner.height
  | .token _ => 1

theorem heights_cons (child : Element) (rest : List Element) :
    heights (child :: rest) = max child.height (heights rest) := by
  cases child with
  | node inner => rw [heights]; rfl
  | token leaf => rw [heights]; rfl

theorem heights_le_iff {children : List Element} {bound : Nat} :
    heights children ≤ bound ↔ ∀ child ∈ children, child.height ≤ bound := by
  induction children with
  | nil =>
      rw [heights]
      exact ⟨fun _ => List.forall_mem_nil _, fun _ => Nat.zero_le _⟩
  | cons child rest inductionHypothesis =>
      rw [heights_cons, Nat.max_le, inductionHypothesis, List.forall_mem_cons]

theorem height_le_heights {child : Element} {children : List Element} (member : child ∈ children) :
    child.height ≤ heights children :=
  heights_le_iff.mp (Nat.le_refl _) child member

/-- Some child is as high as all of them together. -/
theorem exists_height_eq {children : List Element} (some : children ≠ []) :
    ∃ child ∈ children, child.height = heights children := by
  induction children with
  | nil => exact absurd rfl some
  | cons child rest inductionHypothesis =>
      rw [heights_cons]
      rcases Nat.le_total (heights rest) child.height with higher | lower
      · exact ⟨child, List.mem_cons_self, (Nat.max_eq_left higher).symm⟩
      · by_cases none : rest = []
        · rw [none, heights, Nat.max_zero]
          exact ⟨child, List.mem_cons_self, rfl⟩
        · rcases inductionHypothesis none with ⟨highest, member, same⟩
          exact ⟨highest, List.mem_cons_of_mem _ member,
            same.trans (Nat.max_eq_right lower).symm⟩

end Element

theorem Node.height_eq (node : Node) : node.height = 1 + Element.heights node.children := by
  cases node with
  | mk kind span children fields => rw [height]; rfl

/-! ## Ways down -/

/-- A way down a tree, from an element to a token or to a node without children. -/
inductive Element.Path : Element → List Element → Prop
  | token (leaf : Token) : Path (.token leaf) [.token leaf]
  | childless (node : Node) (none : node.children = []) : Path (.node node) [.node node]
  | down (node : Node) {child : Element} {path : List Element} (member : child ∈ node.children)
      (further : Path child path) : Path (.node node) (.node node :: path)

theorem Element.Path.length_le {element : Element} {path : List Element}
    (way : element.Path path) : path.length ≤ element.height := by
  induction way with
  | token leaf => exact Nat.le_refl 1
  | childless node none =>
      show 1 ≤ node.height
      rw [node.height_eq]
      exact Nat.le_add_right 1 _
  | down node member further inductionHypothesis =>
      have inside := height_le_heights member
      show _ + 1 ≤ node.height
      rw [node.height_eq]
      omega

mutual

theorem Node.exists_path (node : Node) :
    ∃ path, (Element.node node).Path path ∧ path.length = node.height := by
  cases node with
  | mk kind span children fields =>
      have inside := Element.exists_path children
      rw [Node.height_eq]
      by_cases none : children = []
      · refine ⟨_, .childless _ none, ?_⟩
        rw [show Node.children (.mk kind span children fields) = [] from none, Element.heights]
        rfl
      · rcases Element.exists_height_eq none with ⟨child, member, highest⟩
        rcases inside child member with ⟨path, way, length⟩
        refine ⟨_, .down _ member way, ?_⟩
        show path.length + 1 = 1 + Element.heights children
        rw [length, highest, Nat.add_comm]

/-- The height of an element is the length of some way down from it. -/
theorem Element.exists_path (children : List Element) : ∀ child ∈ children,
    ∃ path, child.Path path ∧ path.length = child.height := by
  cases children with
  | nil => exact List.forall_mem_nil _
  | cons child rest =>
      refine List.forall_mem_cons.mpr ⟨?_, Element.exists_path rest⟩
      cases child with
      | node inner => exact Node.exists_path inner
      | token leaf => exact ⟨_, .token leaf, rfl⟩

end

/-! ## Building -/

namespace Builder

/-- No child is higher than a bound. -/
def Below (bound : Nat) (builder : Builder) : Prop :=
  ∀ child ∈ builder.children.toList, child.height ≤ bound

variable {bound higher : Nat} {builder : Builder}

theorem Below.mono (below : builder.Below bound) (le : bound ≤ higher) : builder.Below higher :=
  fun child member => Nat.le_trans (below child member) le

theorem below_new (kind : NodeKind) : (new kind).Below bound := List.forall_mem_nil _

theorem Below.of_children {other : Builder} (below : builder.Below bound)
    (same : other.children = builder.children) : other.Below bound := by
  unfold Below
  rw [same]
  exact below

theorem Below.pushToken (below : builder.Below bound) (token : Token) (room : 1 ≤ bound) :
    (builder.pushToken token).Below bound := by
  intro child member
  rcases List.mem_append.mp (Array.toList_push ▸ member) with earlier | last
  · exact below child earlier
  · rw [List.mem_singleton.mp last]
    exact room

theorem height_finish_le (below : builder.Below bound) : builder.finish.height ≤ bound + 1 := by
  rw [Node.height_eq, Nat.add_comm]
  exact Nat.succ_le_succ (Element.heights_le_iff.mpr below)

/-- A node that is added raises what it is added to by its own height, if it is not
dissolved. -/
theorem Below.push (below : builder.Below bound) {node : Node} (fits : node.height ≤ bound) :
    (builder.push node).Below bound := by
  intro child member
  by_cases hidden : node.kind.isHidden = true
  · rw [children_push_of_hidden builder hidden] at member
    rcases List.mem_append.mp member with earlier | inside
    · exact below child earlier
    · have inner := Element.height_le_heights inside
      rw [Node.height_eq] at fits
      omega
  · rw [children_push_of_shown builder hidden] at member
    rcases List.mem_append.mp member with earlier | last
    · exact below child earlier
    · rw [List.mem_singleton.mp last]
      exact fits

theorem Below.pushField (below : builder.Below bound) (part : FieldName) {node : Node}
    (fits : node.height ≤ bound) : (builder.pushField part node).Below bound :=
  (below.push fits).of_children (children_pushField builder part node)

end Builder

/-- Faulty input is a node with tokens below it. -/
theorem Node.height_le_of_isFlat {node : Node} (flat : node.IsFlat) : node.height ≤ 2 := by
  rw [height_eq, show node.children = node.tokens.map .token from flat]
  have leaves : Element.heights (node.tokens.map .token) ≤ 1 := by
    refine Element.heights_le_iff.mpr fun child member => ?_
    rcases List.mem_map.mp member with ⟨leaf, _, same⟩
    rw [← same]
    exact Nat.le_refl 1
  omega

end Offside
