import Offside.Tree.Builder

namespace Offside

/-!
# What a tree holds

Seen from outside, a tree is a row of stretches: single tokens that some rule of
the grammar took, and nodes of faulty input, each of which keeps its tokens
together.  How the nodes in between group them makes no difference to the row.

The row knows both things that are asked of a whole tree.  Its tokens are the
tokens of the tree, and it has a faulty stretch exactly when the tree has a node
of faulty input.  Builders only ever add to the end of their row, and dissolving
a hidden node or wrapping everything built so far into a new node leaves it alone.
-/

/-- A stretch of what a tree holds. -/
inductive Stretch
  /-- A token that a rule took. -/
  | sound (token : Token)
  /-- The tokens of a node of faulty input. -/
  | faulty (tokens : List Token)

namespace Stretch

/-- The tokens of a stretch. -/
def tokens : Stretch → List Token
  | sound token => [token]
  | faulty tokens => tokens

/-- Whether a stretch is faulty input. -/
def isFaulty : Stretch → Bool
  | sound _ => false
  | faulty _ => true

/-- The tokens of a row of stretches. -/
def allTokens (stretches : List Stretch) : List Token := stretches.flatMap tokens

/-- Whether a row of stretches has faulty input in it. -/
def anyFaulty (stretches : List Stretch) : Bool := stretches.any isFaulty

@[simp]
theorem allTokens_nil : allTokens [] = [] := rfl

@[simp]
theorem allTokens_cons (stretch : Stretch) (stretches : List Stretch) :
    allTokens (stretch :: stretches) = stretch.tokens ++ allTokens stretches := rfl

@[simp]
theorem allTokens_append (front back : List Stretch) :
    allTokens (front ++ back) = allTokens front ++ allTokens back :=
  List.flatMap_append

@[simp]
theorem anyFaulty_nil : anyFaulty [] = false := rfl

@[simp]
theorem anyFaulty_cons (stretch : Stretch) (stretches : List Stretch) :
    anyFaulty (stretch :: stretches) = (stretch.isFaulty || anyFaulty stretches) := rfl

@[simp]
theorem anyFaulty_append (front back : List Stretch) :
    anyFaulty (front ++ back) = (anyFaulty front || anyFaulty back) :=
  List.any_append

end Stretch

mutual

/-- The row of stretches that a tree holds. -/
def Node.stretches : Node → List Stretch
  | .mk kind _ children _ =>
    if kind = .error then [.faulty (Element.tokens children)] else Element.stretches children

/-- The row of stretches that some children hold. -/
def Element.stretches : List Element → List Stretch
  | [] => []
  | .node inner :: rest => inner.stretches ++ Element.stretches rest
  | .token leaf :: rest => .sound leaf :: Element.stretches rest

end

@[simp]
theorem Element.stretches_nil : Element.stretches [] = [] := by
  unfold Element.stretches
  rfl

@[simp]
theorem Element.stretches_cons_node (inner : Node) (rest : List Element) :
    Element.stretches (.node inner :: rest) = inner.stretches ++ Element.stretches rest := by
  rw [Element.stretches]

@[simp]
theorem Element.stretches_cons_token (leaf : Token) (rest : List Element) :
    Element.stretches (.token leaf :: rest) = .sound leaf :: Element.stretches rest := by
  rw [Element.stretches]

theorem Node.stretches_of_ne_error {node : Node} (kept : node.kind ≠ .error) :
    node.stretches = Element.stretches node.children := by
  cases node with
  | mk kind span children fields =>
      unfold Node.stretches
      exact if_neg kept

theorem Node.stretches_of_error {node : Node} (faulty : node.kind = .error) :
    node.stretches = [.faulty node.tokens] := by
  cases node with
  | mk kind span children fields =>
      unfold Node.stretches Node.tokens
      exact if_pos faulty

theorem Element.stretches_append (front back : List Element) :
    Element.stretches (front ++ back) = Element.stretches front ++ Element.stretches back := by
  induction front with
  | nil => simp
  | cons child rest inductionHypothesis =>
      cases child with
      | node inner =>
          simp only [List.cons_append, Element.stretches_cons_node, inductionHypothesis,
            List.append_assoc]
      | token leaf =>
          simp only [List.cons_append, Element.stretches_cons_token, inductionHypothesis]

/-! ## The tokens of a tree -/

mutual

/-- The tokens of a tree are those of its stretches. -/
theorem Node.tokens_eq (node : Node) : node.tokens = Stretch.allTokens node.stretches := by
  cases node with
  | mk kind span children fields =>
      unfold Node.tokens Node.stretches
      split
      · simp [Stretch.tokens]
      · exact Element.tokens_eq children

theorem Element.tokens_eq (children : List Element) :
    Element.tokens children = Stretch.allTokens (Element.stretches children) := by
  match children with
  | [] => unfold Element.tokens; simp
  | .node inner :: rest =>
      rw [Element.tokens, Element.stretches_cons_node, Stretch.allTokens_append,
        Node.tokens_eq inner, Element.tokens_eq rest]
  | .token leaf :: rest =>
      rw [Element.tokens, Element.stretches_cons_token, Stretch.allTokens_cons,
        Element.tokens_eq rest]
      rfl

end

/-! ## Faulty input in a tree -/

namespace Node

theorem preorder_children (children : List Element) :
    Element.preorder children = (children.filterMap Element.node?).flatMap preorder := by
  induction children with
  | nil => unfold Element.preorder; rfl
  | cons child rest inductionHypothesis =>
      cases child with
      | node inner =>
          rw [Element.preorder, inductionHypothesis]
          rfl
      | token leaf =>
          rw [Element.preorder, inductionHypothesis, List.filterMap_cons_none rfl]

theorem preorder_eq (node : Node) :
    node.preorder = node :: node.nodeChildren.flatMap preorder := by
  cases node with
  | mk kind span children fields =>
      rw [preorder, preorder_children]
      rfl

/-- The stack of a walk holds the roots of what is still to be visited. -/
theorem visit_eq (stack : List Node) : visit stack = stack.flatMap preorder := by
  fun_induction visit stack with
  | case1 => rfl
  | case2 node stack inductionHypothesis =>
      rw [inductionHypothesis, List.flatMap_append, List.flatMap_cons, preorder_eq node,
        List.cons_append]

/-- A walk with a stack visits the nodes in the order of the recursion. -/
theorem walk_eq_preorder (node : Node) : node.walk = node.preorder := by
  unfold walk
  rw [visit_eq, List.flatMap_singleton]

end Node

mutual

/-- Some node of a tree wraps faulty input exactly when some stretch is faulty.
Below a node of faulty input further ones make no difference. -/
theorem Node.exists_error_iff (node : Node) :
    (∃ inner ∈ node.preorder, inner.kind = .error) ↔
      Stretch.anyFaulty node.stretches = true := by
  cases node with
  | mk kind span children fields =>
      unfold Node.stretches
      by_cases faulty : kind = .error
      · rw [if_pos faulty]
        refine ⟨fun _ => rfl, fun _ => ⟨.mk kind span children fields, ?_, faulty⟩⟩
        rw [Node.preorder_eq]
        exact List.mem_cons_self
      · rw [if_neg faulty, ← Element.exists_error_iff children, Node.preorder]
        constructor
        · rintro ⟨inner, member, error⟩
          rcases List.mem_cons.mp member with root | below
          · subst root
            exact absurd error faulty
          · exact ⟨inner, below, error⟩
        · rintro ⟨inner, below, error⟩
          exact ⟨inner, List.mem_cons_of_mem _ below, error⟩

theorem Element.exists_error_iff (children : List Element) :
    (∃ inner ∈ Element.preorder children, inner.kind = .error) ↔
      Stretch.anyFaulty (Element.stretches children) = true := by
  match children with
  | [] => unfold Element.preorder; simp
  | .node inner :: rest =>
      rw [Element.preorder, Element.stretches_cons_node, Stretch.anyFaulty_append,
        Bool.or_eq_true, ← Node.exists_error_iff inner, ← Element.exists_error_iff rest]
      simp only [List.mem_append, or_and_right, exists_or]
  | .token leaf :: rest =>
      rw [Element.preorder, Element.stretches_cons_token, Stretch.anyFaulty_cons,
        Stretch.isFaulty, Bool.false_or]
      exact Element.exists_error_iff rest

end

/-- A tree has a node of faulty input exactly when it holds a faulty stretch. -/
theorem Node.hasError_eq (node : Node) :
    node.hasError = Stretch.anyFaulty node.stretches := by
  apply Bool.eq_iff_iff.mpr
  rw [← Node.exists_error_iff, Node.hasError, Node.walk_eq_preorder]
  simp only [List.any_eq_true, beq_iff_eq]

/-! ## What builders hold -/

namespace Builder

/-- The row of stretches under construction. -/
def stretches (builder : Builder) : List Stretch :=
  Element.stretches builder.children.toList

@[simp]
theorem stretches_new (kind : NodeKind) : (new kind).stretches = [] :=
  Element.stretches_nil

@[simp]
theorem stretches_pushToken (builder : Builder) (token : Token) :
    (builder.pushToken token).stretches = builder.stretches ++ [.sound token] := by
  simp [stretches, pushToken, Element.stretches_append]

@[simp]
theorem children_attach (builder : Builder) (part : FieldName) (index : Nat) :
    (builder.attach part index).children = builder.children := by
  unfold attach
  split <;> rfl

@[simp]
theorem kind_attach (builder : Builder) (part : FieldName) (index : Nat) :
    (builder.attach part index).kind = builder.kind := by
  unfold attach
  split <;> rfl

@[simp]
theorem stretches_attach (builder : Builder) (part : FieldName) (index : Nat) :
    (builder.attach part index).stretches = builder.stretches := by
  rw [stretches, children_attach, stretches]

/-- Giving names changes neither the kind nor the children of a builder. -/
theorem attachAll_keeps (builder : Builder) (offset : Nat) (fields : List (FieldName × Nat)) :
    (builder.attachAll offset fields).children = builder.children ∧
      (builder.attachAll offset fields).kind = builder.kind := by
  unfold attachAll
  induction fields generalizing builder with
  | nil => exact ⟨rfl, rfl⟩
  | cons entry fields inductionHypothesis =>
      rw [List.foldl_cons]
      have kept := inductionHypothesis (builder.attach entry.1 (offset + entry.2))
      rw [children_attach, kind_attach] at kept
      exact kept

theorem hidden_ne_error {kind : NodeKind} (hidden : kind.isHidden = true) : kind ≠ .error := by
  rintro rfl
  cases hidden

/-- A node adds its stretches, whether it is dissolved or not. -/
@[simp]
theorem stretches_push (builder : Builder) (node : Node) :
    (builder.push node).stretches = builder.stretches ++ node.stretches := by
  unfold push
  by_cases hidden : node.kind.isHidden = true
  · rw [if_pos hidden, Node.stretches_of_ne_error (hidden_ne_error hidden)]
    simp only [stretches, (attachAll_keeps builder _ node.fields).1, Array.toList_appendList,
      Element.stretches_append]
  · rw [if_neg hidden]
    simp [stretches, Element.stretches_append]

@[simp]
theorem kind_push (builder : Builder) (node : Node) : (builder.push node).kind = builder.kind := by
  unfold push
  split
  · exact (attachAll_keeps builder _ node.fields).2
  · rfl

@[simp]
theorem stretches_pushField (builder : Builder) (part : FieldName) (node : Node) :
    (builder.pushField part node).stretches = builder.stretches ++ node.stretches := by
  unfold pushField
  dsimp only
  rw [stretches_push]
  split
  · rfl
  · rw [stretches_attach]

@[simp]
theorem kind_pushField (builder : Builder) (part : FieldName) (node : Node) :
    (builder.pushField part node).kind = builder.kind := by
  unfold pushField
  dsimp only
  rw [kind_push]
  split
  · rfl
  · exact kind_attach builder part _

/-- A finished node holds what its builder held, unless it wraps faulty input. -/
theorem stretches_finish {builder : Builder} (kept : builder.kind ≠ .error) :
    builder.finish.stretches = builder.stretches :=
  Node.stretches_of_ne_error kept

/-- A finished node of faulty input keeps its tokens together. -/
theorem stretches_finish_of_error {builder : Builder} (faulty : builder.kind = .error) :
    builder.finish.stretches = [.faulty (Stretch.allTokens builder.stretches)] := by
  have wrapped : builder.finish.kind = .error := faulty
  rw [Node.stretches_of_error wrapped, stretches, ← Element.tokens_eq]
  unfold finish Node.tokens
  rfl

end Builder
end Offside
