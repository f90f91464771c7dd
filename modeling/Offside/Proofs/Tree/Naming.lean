import Mathlib.Data.List.Nodup
import Offside.Proofs.Tree.Order
import Offside.Proofs.Tree.Shape

namespace Offside

/-!
# Names in a tree

A node is tidy when the names of its children can be relied upon.  No name is given twice,
and each name leads to a node.  A group that is given a name is dissolved, and the name goes
to the first of its children, so what stands first in a group has to be a node.

There is one exception.  The body of a case clause is a group of items, and a group of items
may begin with a separator.  Then the name leads to that separator.

While a node is built it is known what may stand first in it.  That is all that has to be
known of the groups in order to know that the nodes around them are tidy.
-/

/-- Which tokens may stand first in a node under construction. -/
inductive Front
  /-- Any token.  Whoever names the node gives the name to the node itself. -/
  | anything
  /-- Any token, in a case clause. -/
  | clause
  /-- Separators, in a run of items. -/
  | separators
  /-- No token.  A node stands first. -/
  | nodes
deriving DecidableEq

namespace Front

def admits : Front → TokenKind → Bool
  | anything, _ | clause, _ => true
  | separators, kind => kind.isSeparator
  | nodes, _ => false

/-- Whether the node under construction may have a kind when it is finished. -/
def Suits (front : Front) (kind : NodeKind) : Prop :=
  kind ≠ .error ∧ (front = .anything → kind.isHidden = false) ∧
    (front = .clause → kind = .caseClause)

/-- What can be seen in front of a node once it is finished.  A node that is not dissolved
stands there itself. -/
def outside : Front → Front
  | separators => separators
  | _ => nodes

end Front

namespace Element

/-- A name leads to a node, and the body of a case clause to a node or a separator. -/
def Named (inClause : Prop) (children : List Element) (entry : FieldName × Nat) : Prop :=
  (∃ inner, children[entry.2]? = some (.node inner)) ∨
    (inClause ∧ entry.1 = .body ∧
      ∃ token, children[entry.2]? = some (.token token) ∧ token.kind.isSeparator = true)

variable {inClause other : Prop} {children : List Element} {entry : FieldName × Nat}

theorem Named.mono (named : Named inClause children entry) (weaker : inClause → other) :
    Named other children entry := named.imp_right (And.imp_left weaker)

theorem Named.append (named : Named inClause children entry) (more : List Element) :
    Named inClause (children ++ more) entry := by
  have keeps : ∀ child, children[entry.2]? = some child →
      (children ++ more)[entry.2]? = some child := by
    intro child found
    rw [List.getElem?_append_left (List.getElem?_eq_some_iff.mp found).1]
    exact found
  rcases named with ⟨inner, found⟩ | ⟨clause, body, token, found, separates⟩
  · exact .inl ⟨inner, keeps _ found⟩
  · exact .inr ⟨clause, body, token, keeps _ found, separates⟩

theorem Named.shift (named : Named inClause children entry) (front : List Element) :
    Named inClause (front ++ children) (entry.1, front.length + entry.2) := by
  unfold Named
  rw [List.getElem?_append_right (Nat.le_add_right _ _), Nat.add_sub_cancel_left]
  exact named

end Element

namespace Node

/-- The names of the node can be relied upon, and nothing is left to be dissolved.  Faulty
input is not grouped any further. -/
structure Tidy (node : Node) : Prop where
  visible : node.kind.isHidden = false
  distinct : (node.fields.map Prod.fst).Nodup
  named : ∀ entry ∈ node.fields, Element.Named (node.kind = .caseClause) node.children entry
  flat : node.kind = .error → node.IsFlat

/-- What is meant by a sound node, whatever it has been built from. -/
structure WellFormed (node : Node) : Prop where
  distinct : (node.fields.map Prod.fst).Nodup
  indexed : ∀ entry ∈ node.fields, entry.2 < node.children.length
  span : Span.Union (node.children.map Element.span) node.span
  visible : node.kind.isHidden = false
  faulty : node.kind = .error → node.children ≠ [] ∧
    ∀ child ∈ node.children, ∃ token, child = .token token

variable {node : Node}

theorem Tidy.wellFormed (tidy : node.Tidy) (spanned : node.Spanned) : node.WellFormed where
  distinct := tidy.distinct
  indexed entry member := by
    rcases tidy.named entry member with ⟨inner, found⟩ | ⟨_, _, token, found, _⟩
    · exact (List.getElem?_eq_some_iff.mp found).1
    · exact (List.getElem?_eq_some_iff.mp found).1
  span := spanned.union
  visible := tidy.visible
  faulty faulty := by
    refine ⟨spanned.nonempty, fun child member => ?_⟩
    rw [show node.children = node.tokens.map .token from tidy.flat faulty] at member
    rcases List.mem_map.mp member with ⟨token, _, same⟩
    exact ⟨token, same.symm⟩

/-- Where no name is given twice, a name leads to the child that it was given to. -/
theorem field?_of_mem (distinct : (node.fields.map Prod.fst).Nodup)
    {entry : FieldName × Nat} (member : entry ∈ node.fields) :
    node.field? entry.1 = node.children[entry.2]? := by
  have found : node.fields.find? (fun other => other.1 == entry.1) = some entry := by
    cases search : node.fields.find? fun other => other.1 == entry.1 with
    | none => exact absurd (beq_self_eq_true entry.1) (List.find?_eq_none.mp search entry member)
    | some other =>
        have same := List.find?_some search
        rw [beq_iff_eq] at same
        exact congrArg some
          (List.inj_on_of_nodup_map distinct (List.mem_of_find?_eq_some search) member same)
  unfold field?
  rw [found]
  rfl

/-- What is left of the node when it is added to another one is tidy, as far as can be said
without knowing where it is added. -/
structure Loose (node : Node) (front : Front) : Prop where
  named : ∀ entry ∈ node.dissolvedNames, Element.Named False node.dissolved entry
  first : ∀ token, node.dissolved.head? = some (.token token) →
    front.admits token.kind = true
  below : ∀ inner ∈ Element.preorder node.dissolved, inner.Tidy

/-- A node that is not dissolved is added as it is. -/
theorem Tidy.loose (tidy : node.Tidy)
    (below : ∀ inner ∈ Element.preorder node.children, inner.Tidy) (front : Front) :
    node.Loose front := by
  have shown : ¬ node.kind.isHidden = true := by
    rw [tidy.visible]
    exact Bool.false_ne_true
  have pieces : node.dissolved = [.node node] := if_neg shown
  refine ⟨?_, ?_, ?_⟩
  · rw [show node.dissolvedNames = [] from if_neg shown]
    exact List.forall_mem_nil _
  · rw [pieces]
    exact nofun
  · rw [pieces, Element.preorder_node]
    exact List.forall_mem_cons.mpr ⟨tidy, below⟩

end Node

namespace Builder

/-- The node under construction is tidy so far, and so is everything below it. -/
structure Tidy (builder : Builder) (front : Front) : Prop where
  kind : front.Suits builder.kind
  distinct : (builder.fields.toList.map Prod.fst).Nodup
  named : ∀ entry ∈ builder.fields.toList,
    Element.Named (front = .clause) builder.children.toList entry
  first : ∀ token, builder.children.toList.head? = some (.token token) →
    front.admits token.kind = true
  below : ∀ node ∈ Element.preorder builder.children.toList, node.Tidy

/-- A name that has been given already is not given again. -/
theorem distinct_attach {builder : Builder}
    (distinct : (builder.fields.toList.map Prod.fst).Nodup) (part : FieldName) (index : Nat) :
    ((builder.attach part index).fields.toList.map Prod.fst).Nodup := by
  unfold attach
  split
  · exact distinct
  · rename_i fresh
    have absent : part ∉ builder.fields.toList.map Prod.fst := by
      intro member
      rcases List.mem_map.mp member with ⟨entry, inside, same⟩
      refine fresh (Array.any_eq_true'.mpr ⟨entry, Array.mem_toList_iff.mp inside, ?_⟩)
      exact beq_iff_eq.mpr same
    have more : (builder.fields.toList.map Prod.fst ++ [part]).Nodup := by
      rw [← List.concat_eq_append]
      exact List.Nodup.concat absent distinct
    rw [Array.toList_push, List.map_append]
    exact more

namespace Tidy

variable {builder inner outer : Builder} {front : Front}

theorem new {kind : NodeKind} (suits : front.Suits kind) : (Builder.new kind).Tidy front where
  kind := suits
  distinct := List.nodup_nil
  named := List.forall_mem_nil _
  first := nofun
  below := by
    rw [show Element.preorder (Builder.new kind).children.toList = [] from
      Node.preorder_children []]
    exact List.forall_mem_nil _

theorem of_kind (tidy : builder.Tidy front) {kind : NodeKind} (suits : front.Suits kind) :
    ({ builder with kind := kind } : Builder).Tidy front := { tidy with kind := suits }

/-! ## More children -/

theorem append (tidy : builder.Tidy front) {pieces : List Element}
    (first : ∀ token, pieces.head? = some (.token token) →
      builder.children.toList ≠ [] ∨ front.admits token.kind = true)
    (below : ∀ node ∈ Element.preorder pieces, node.Tidy) :
    (builder.append pieces).Tidy front where
  kind := tidy.kind
  distinct := tidy.distinct
  named entry member := by
    rw [children_append]
    exact (tidy.named entry member).append pieces
  first token starts := by
    rw [children_append] at starts
    cases children : builder.children.toList with
    | nil =>
        rw [children, List.nil_append] at starts
        exact (first token starts).resolve_left fun filled => filled children
    | cons child rest =>
        rw [children] at starts
        exact tidy.first token (by rw [children]; exact starts)
  below := by
    rw [children_append, Element.preorder_append]
    exact List.forall_mem_append.mpr ⟨tidy.below, below⟩

theorem pushToken (tidy : builder.Tidy front) {token : Token}
    (first : builder.children.toList ≠ [] ∨ front.admits token.kind = true) :
    (builder.pushToken token).Tidy front := by
  rw [pushToken_eq]
  refine tidy.append (fun other same => ?_) ?_
  · cases Element.token.inj (Option.some.inj same)
    exact first
  · rw [Element.preorder_token]
    exact List.forall_mem_nil _

/-! ## More names -/

theorem attach (tidy : builder.Tidy front) {part : FieldName} {index : Nat}
    (named : Element.Named (front = .clause) builder.children.toList (part, index)) :
    (builder.attach part index).Tidy front := by
  have distinct := distinct_attach tidy.distinct part index
  unfold Builder.attach at distinct ⊢
  split
  · exact tidy
  · rename_i fresh
    rw [if_neg fresh] at distinct
    refine { tidy with distinct := distinct, named := ?_ }
    rw [Array.toList_push]
    exact List.forall_mem_append.mpr ⟨tidy.named, List.forall_mem_singleton.mpr named⟩

theorem attachAll (tidy : builder.Tidy front) {offset : Nat} {names : List (FieldName × Nat)}
    (named : ∀ entry ∈ names, Element.Named (front = .clause) builder.children.toList
      (entry.1, offset + entry.2)) :
    (builder.attachAll offset names).Tidy front := by
  unfold Builder.attachAll
  induction names generalizing builder with
  | nil => exact tidy
  | cons entry names inductionHypothesis =>
      rw [List.forall_mem_cons] at named
      refine inductionHypothesis (tidy.attach named.1) ?_
      rw [children_attach]
      exact named.2

/-! ## Adding nodes -/

/-- What is left of a finished node is tidy. -/
theorem finish (tidy : inner.Tidy front) : inner.finish.Loose front.outside := by
  rcases tidy.kind with ⟨sound, shown, clause⟩
  by_cases hidden : inner.kind.isHidden = true
  · have group : front ≠ .anything := by
      intro same
      rw [shown same] at hidden
      cases hidden
    have noClause : front ≠ .clause := by
      intro same
      rw [clause same] at hidden
      cases hidden
    have pieces : inner.finish.dissolved = inner.children.toList := if_pos hidden
    refine ⟨?_, ?_, ?_⟩
    · rw [show inner.finish.dissolvedNames = inner.fields.toList from if_pos hidden, pieces]
      exact fun entry member => (tidy.named entry member).mono noClause
    · rw [pieces]
      intro token starts
      cases front with
      | anything => exact absurd rfl group
      | clause => exact absurd rfl noClause
      | separators => exact tidy.first token starts
      | nodes => exact tidy.first token starts
    · rw [pieces]
      exact tidy.below
  · have whole : inner.finish.Tidy :=
      { visible := Bool.not_eq_true _ ▸ hidden
        distinct := tidy.distinct
        named := fun entry member => (tidy.named entry member).mono clause
        flat := fun faulty => absurd faulty sound }
    exact whole.loose tidy.below _

/-- A finished node is added behind other children or where it may stand first. -/
theorem push (tidy : outer.Tidy front) {node : Node} {back : Front} (loose : node.Loose back)
    (fits : outer.children.toList ≠ [] ∨
      ∀ kind, back.admits kind = true → front.admits kind = true) :
    (outer.push node).Tidy front := by
  rw [push_eq]
  refine (tidy.append (fun token starts => ?_) loose.below).attachAll fun entry member => ?_
  · exact fits.imp_right fun admits => admits _ (loose.first token starts)
  · rw [children_append]
    exact ((loose.named entry member).mono False.elim).shift _

/-- A name is given to what is left of a node.  If that is a separator, it has to be the
body of a case clause. -/
theorem pushField (tidy : outer.Tidy front) {node : Node} {back : Front}
    (loose : node.Loose back) {part : FieldName}
    (fits : outer.children.toList ≠ [] ∨
      ∀ kind, back.admits kind = true → front.admits kind = true)
    (names : ∀ kind, back.admits kind = true →
      front = .clause ∧ part = .body ∧ kind.isSeparator = true) :
    (outer.pushField part node).Tidy front := by
  rw [pushField_eq]
  split
  · exact tidy.push loose fits
  · rename_i some
    have added : (outer.append node.dissolved).Tidy front :=
      tidy.append (fun token starts => fits.imp_right fun admits =>
        admits _ (loose.first token starts)) loose.below
    have named : Element.Named (front = .clause) (outer.append node.dissolved).children.toList
        (part, outer.children.toList.length) := by
      have first : Element.Named (front = .clause) node.dissolved (part, 0) := by
        cases pieces : node.dissolved with
        | nil => exact absurd pieces some
        | cons child rest =>
            cases child with
            | node inner => exact .inl ⟨inner, rfl⟩
            | token token =>
                have admitted := loose.first token (by rw [pieces]; rfl)
                rcases names _ admitted with ⟨clause, body, separates⟩
                exact .inr ⟨clause, body, token, rfl, separates⟩
      rw [children_append]
      exact first.shift _
    rw [push_eq, append_attach, children_attach]
    refine (added.attach named).attachAll fun entry member => ?_
    rw [children_attach, children_append]
    exact ((loose.named entry member).mono False.elim).shift _

end Tidy
end Builder
end Offside
