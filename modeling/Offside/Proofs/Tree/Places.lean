import Offside.Proofs.Tree.Stretches

namespace Offside

/-!
# Where the nodes of a tree stand

A tree holds its tokens in a row, so each of its nodes covers a stretch of that row.
The place of a node is the number of tokens in front of it.  Whoever puts a tree
together knows the place of a node from what has been built so far, and whoever looks
at the finished tree can say by it which tokens of the source a node has taken.
-/

mutual

/-- The nodes of a tree, each with its place.  In front of the tree stand `start` tokens. -/
def Node.places (start : Nat) : Node → List (Nat × Node)
  | .mk kind span children fields =>
    (start, .mk kind span children fields) :: Element.places start children

/-- The nodes below some children, each with its place. -/
def Element.places (start : Nat) : List Element → List (Nat × Node)
  | [] => []
  | .node inner :: rest =>
    inner.places start ++ Element.places (start + inner.tokens.length) rest
  | .token _ :: rest => Element.places (start + 1) rest

end

namespace Element

@[simp]
theorem places_nil (start : Nat) : places start [] = [] := by
  unfold places
  rfl

@[simp]
theorem places_cons_node (start : Nat) (inner : Node) (rest : List Element) :
    places start (.node inner :: rest) =
      inner.places start ++ places (start + inner.tokens.length) rest := by
  rw [places]

@[simp]
theorem places_cons_token (start : Nat) (leaf : Token) (rest : List Element) :
    places start (.token leaf :: rest) = places (start + 1) rest := by
  rw [places]

@[simp]
theorem tokens_nil : tokens [] = [] := by
  unfold tokens
  rfl

@[simp]
theorem tokens_cons_node (inner : Node) (rest : List Element) :
    tokens (.node inner :: rest) = inner.tokens ++ tokens rest := by
  rw [tokens]

@[simp]
theorem tokens_cons_token (leaf : Token) (rest : List Element) :
    tokens (.token leaf :: rest) = leaf :: tokens rest := by
  rw [tokens]

theorem tokens_append (front back : List Element) :
    tokens (front ++ back) = tokens front ++ tokens back := by
  rw [tokens_eq, stretches_append, Stretch.allTokens_append, ← tokens_eq, ← tokens_eq]

theorem places_append (start : Nat) (front back : List Element) :
    places start (front ++ back) =
      places start front ++ places (start + (tokens front).length) back := by
  induction front generalizing start with
  | nil => simp
  | cons child rest inductionHypothesis =>
      cases child with
      | node inner =>
          rw [List.cons_append, places_cons_node, places_cons_node, inductionHypothesis,
            tokens_cons_node, List.length_append, List.append_assoc, Nat.add_assoc]
      | token leaf =>
          rw [List.cons_append, places_cons_token, places_cons_token, inductionHypothesis,
            tokens_cons_token, List.length_cons, Nat.add_assoc, Nat.add_comm 1]

/-- Tokens alone make no node. -/
theorem places_map_token (start : Nat) (leaves : List Token) :
    places start (leaves.map .token) = [] := by
  induction leaves generalizing start with
  | nil => exact places_nil start
  | cons leaf leaves inductionHypothesis =>
      rw [List.map_cons, places_cons_token, inductionHypothesis]

theorem tokens_map_token (leaves : List Token) : tokens (leaves.map .token) = leaves := by
  induction leaves with
  | nil => exact tokens_nil
  | cons leaf leaves inductionHypothesis =>
      rw [List.map_cons, tokens_cons_token, inductionHypothesis]

end Element

theorem Node.places_eq (start : Nat) (node : Node) :
    node.places start = (start, node) :: Element.places start node.children := by
  cases node
  rw [Node.places]
  rfl

theorem Node.tokens_eq_children (node : Node) : node.tokens = Element.tokens node.children := by
  cases node
  rw [Node.tokens]
  rfl

mutual

/-- The nodes with a place are the nodes of the tree. -/
theorem Node.map_snd_places (start : Nat) (node : Node) :
    (node.places start).map Prod.snd = node.preorder := by
  cases node with
  | mk kind span children fields =>
      rw [Node.places, Node.preorder, List.map_cons, Element.map_snd_places]

theorem Element.map_snd_places (start : Nat) (children : List Element) :
    (Element.places start children).map Prod.snd = Element.preorder children := by
  match children with
  | [] => rw [Element.places_nil, Element.preorder]; rfl
  | .node inner :: rest =>
      rw [Element.places_cons_node, Element.preorder, List.map_append, Node.map_snd_places,
        Element.map_snd_places]
  | .token leaf :: rest =>
      rw [Element.places_cons_token, Element.preorder, Element.map_snd_places]

end

mutual

/-- A node holds the tokens that stand behind its place. -/
theorem Node.tokens_of_mem_places {start place : Nat} {node inner : Node}
    (member : (place, inner) ∈ node.places start) :
    ∃ front back, node.tokens = front ++ inner.tokens ++ back ∧ place = start + front.length := by
  cases node with
  | mk kind span children fields =>
      rw [Node.places, List.mem_cons] at member
      rcases member with here | below
      · cases here
        exact ⟨[], [], by simp, rfl⟩
      · rw [Node.tokens]
        exact Element.tokens_of_mem_places below

theorem Element.tokens_of_mem_places {start place : Nat} {children : List Element} {inner : Node}
    (member : (place, inner) ∈ Element.places start children) :
    ∃ front back, Element.tokens children = front ++ inner.tokens ++ back ∧
      place = start + front.length := by
  match children with
  | [] =>
      rw [Element.places_nil] at member
      cases member
  | .node child :: rest =>
      rw [Element.places_cons_node, List.mem_append] at member
      rw [Element.tokens_cons_node]
      rcases member with inChild | behind
      · rcases Node.tokens_of_mem_places inChild with ⟨front, back, split, place⟩
        exact ⟨front, back ++ Element.tokens rest, by rw [split]; simp, place⟩
      · rcases Element.tokens_of_mem_places behind with ⟨front, back, split, place⟩
        refine ⟨child.tokens ++ front, back, by rw [split]; simp, ?_⟩
        rw [place, List.length_append, Nat.add_assoc]
  | .token leaf :: rest =>
      rw [Element.places_cons_token] at member
      rcases Element.tokens_of_mem_places member with ⟨front, back, split, place⟩
      refine ⟨leaf :: front, back, by rw [Element.tokens_cons_token, split]; simp, ?_⟩
      rw [place, List.length_cons]
      omega

end

/-! ## Nodes of faulty input -/

/-- The nodes of faulty input in a tree, each with its place. -/
def Node.faults (start : Nat) (node : Node) : List (Nat × Node) :=
  (node.places start).filter fun place => place.2.kind == .error

/-- The nodes of faulty input below some children, each with its place. -/
def Element.faults (start : Nat) (children : List Element) : List (Nat × Node) :=
  (Element.places start children).filter fun place => place.2.kind == .error

/-- The faulty stretches of a row, each with its place. -/
def Stretch.faults (start : Nat) : List Stretch → List (Nat × List Token)
  | [] => []
  | sound _ :: rest => faults (start + 1) rest
  | faulty tokens :: rest => (start, tokens) :: faults (start + tokens.length) rest

/-- All that a node has below it are tokens. -/
def Node.IsFlat (node : Node) : Prop := node.children = node.tokens.map .token

namespace Element

@[simp]
theorem faults_nil (start : Nat) : faults start [] = [] := by
  unfold faults
  rw [places_nil, List.filter_nil]

@[simp]
theorem faults_cons_node (start : Nat) (inner : Node) (rest : List Element) :
    faults start (.node inner :: rest) =
      inner.faults start ++ faults (start + inner.tokens.length) rest := by
  unfold faults Node.faults
  rw [places_cons_node, List.filter_append]

@[simp]
theorem faults_cons_token (start : Nat) (leaf : Token) (rest : List Element) :
    faults start (.token leaf :: rest) = faults (start + 1) rest := by
  unfold faults
  rw [places_cons_token]

theorem faults_append (start : Nat) (front back : List Element) :
    faults start (front ++ back) =
      faults start front ++ faults (start + (tokens front).length) back := by
  unfold faults
  rw [places_append, List.filter_append]

end Element

theorem Stretch.faults_append (start : Nat) (front back : List Stretch) :
    faults start (front ++ back) =
      faults start front ++ faults (start + (allTokens front).length) back := by
  induction front generalizing start with
  | nil => rfl
  | cons stretch front inductionHypothesis =>
      have further := inductionHypothesis (start + stretch.tokens.length)
      rw [Nat.add_assoc, ← List.length_append] at further
      cases stretch with
      | sound token => exact further
      | faulty tokens => exact congrArg ((start, tokens) :: ·) further

namespace Node

theorem faults_of_ne_error {node : Node} (start : Nat) (kept : node.kind ≠ .error) :
    node.faults start = Element.faults start node.children := by
  have sound : (node.kind == .error) = false := beq_eq_false_iff_ne.mpr kept
  unfold faults
  rw [places_eq, List.filter_cons_of_neg (by rw [sound]; exact Bool.false_ne_true)]
  rfl

/-- A flat node of faulty input is the only one in itself. -/
theorem faults_of_error {node : Node} (start : Nat) (faulty : node.kind = .error)
    (flat : node.IsFlat) : node.faults start = [(start, node)] := by
  unfold IsFlat at flat
  unfold faults
  rw [places_eq, flat, Element.places_map_token,
    List.filter_cons_of_pos (by exact beq_iff_eq.mpr faulty), List.filter_nil]

theorem mem_faults_of_error {node : Node} (start : Nat) (faulty : node.kind = .error) :
    (start, node) ∈ node.faults start := by
  unfold faults
  rw [places_eq, List.mem_filter]
  exact ⟨List.mem_cons_self, beq_iff_eq.mpr faulty⟩

theorem mem_faults_iff {start place : Nat} {node inner : Node} :
    (place, inner) ∈ node.faults start ↔
      (place, inner) ∈ node.places start ∧ inner.kind = .error := by
  unfold faults
  rw [List.mem_filter, beq_iff_eq]

end Node

mutual

/-- Where nodes of faulty input are flat, they are the faulty stretches of the tree. -/
theorem Node.map_faults {start : Nat} {node : Node}
    (flat : ∀ place ∈ node.faults start, place.2.IsFlat) :
    (node.faults start).map (fun place => (place.1, place.2.tokens)) =
      Stretch.faults start node.stretches := by
  by_cases faulty : node.kind = .error
  · have flatHere := flat _ (Node.mem_faults_of_error start faulty)
    rw [Node.faults_of_error start faulty flatHere, Node.stretches_of_error faulty]
    rfl
  · rw [Node.faults_of_ne_error start faulty] at flat ⊢
    rw [Node.stretches_of_ne_error faulty]
    cases node with
    | mk kind span children fields => exact Element.map_faults flat

theorem Element.map_faults {start : Nat} {children : List Element}
    (flat : ∀ place ∈ Element.faults start children, place.2.IsFlat) :
    (Element.faults start children).map (fun place => (place.1, place.2.tokens)) =
      Stretch.faults start (Element.stretches children) := by
  match children with
  | [] => rw [Element.faults_nil, Element.stretches_nil]; rfl
  | .node inner :: rest =>
      rw [Element.faults_cons_node] at flat ⊢
      have inside := Node.map_faults fun place member =>
        flat place (List.mem_append_left _ member)
      have behind := Element.map_faults fun place member =>
        flat place (List.mem_append_right _ member)
      rw [Element.stretches_cons_node, List.map_append, inside, behind, Stretch.faults_append,
        Node.tokens_eq]
  | .token leaf :: rest =>
      rw [Element.faults_cons_token] at flat ⊢
      rw [Element.stretches_cons_token]
      exact Element.map_faults flat

end

/-! ## Nodes of faulty input under construction -/

namespace Builder

/-- The tokens of the node under construction. -/
def tokens (builder : Builder) : List Token := Element.tokens builder.children.toList

/-- The nodes of faulty input under construction, each with its place. -/
def faults (start : Nat) (builder : Builder) : List (Nat × Node) :=
  Element.faults start builder.children.toList

variable (start : Nat) (builder : Builder)

theorem tokens_pushToken (token : Token) :
    (builder.pushToken token).tokens = builder.tokens ++ [token] := by
  simp [tokens, pushToken, Element.tokens_append]

theorem faults_pushToken (token : Token) :
    (builder.pushToken token).faults start = builder.faults start := by
  simp [faults, pushToken, Element.faults_append]

theorem children_push_of_hidden {node : Node} (hidden : node.kind.isHidden = true) :
    (builder.push node).children.toList = builder.children.toList ++ node.children := by
  unfold push
  rw [if_pos hidden]
  simp only [(attachAll_keeps builder _ node.fields).1, Array.toList_appendList]

theorem push_of_shown {node : Node} (shown : ¬ node.kind.isHidden = true) :
    builder.push node = { builder with children := builder.children.push (.node node) } :=
  if_neg shown

theorem children_push_of_shown {node : Node} (shown : ¬ node.kind.isHidden = true) :
    (builder.push node).children.toList = builder.children.toList ++ [.node node] := by
  rw [builder.push_of_shown shown, Array.toList_push]

theorem tokens_push (node : Node) : (builder.push node).tokens = builder.tokens ++ node.tokens := by
  unfold tokens
  by_cases hidden : node.kind.isHidden = true
  · rw [children_push_of_hidden builder hidden, Element.tokens_append, node.tokens_eq_children]
  · rw [children_push_of_shown builder hidden, Element.tokens_append, Element.tokens_cons_node,
      Element.tokens_nil, List.append_nil]

theorem faults_push (node : Node) : (builder.push node).faults start =
    builder.faults start ++ node.faults (start + builder.tokens.length) := by
  unfold faults tokens
  by_cases hidden : node.kind.isHidden = true
  · rw [children_push_of_hidden builder hidden, Element.faults_append,
      Node.faults_of_ne_error _ (hidden_ne_error hidden)]
  · rw [children_push_of_shown builder hidden, Element.faults_append, Element.faults_cons_node,
      Element.faults_nil, List.append_nil]

theorem children_pushField (part : FieldName) (node : Node) :
    (builder.pushField part node).children = (builder.push node).children := by
  unfold pushField
  dsimp only
  split
  · rfl
  · unfold push
    split
    · simp only [(attachAll_keeps _ _ node.fields).1, children_attach]
    · simp only [children_attach]

theorem tokens_finish : builder.finish.tokens = builder.tokens := by
  unfold finish Node.tokens tokens
  rfl

theorem faults_finish (kept : builder.kind ≠ .error) :
    builder.finish.faults start = builder.faults start :=
  Node.faults_of_ne_error start kept

end Builder
end Offside
