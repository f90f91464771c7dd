import Mathlib.Data.List.Perm.Basic
import Mathlib.Data.String.Basic
import Offside.Export
import Offside.Proofs.Tree.Naming

namespace Offside

/-!
# Export loses only trivia

A tree can be read back from its export up to two things: the trivia in front of its tokens
is not exported, and the names of a node are put in the order of their spelling.  Everything
else shows.  The vocabularies of kinds and names have no two members of one spelling, so a
kind or a name is known by it, and a token by the name of its kind together with its text.
A node has other keys than a token.  And since a builder gives no name twice, the names of a
node are the keys of an object, of which none is lost.
-/

/-!
## Nodes that builders make

A node only comes about by calls on a builder, and so do the nodes below it.  Whatever the
calls are, no name is given twice in a node: a builder leaves a name with the child that had
it first, also where a hidden node brings names along.
-/

namespace Builder

/-- A builder that some calls have led to.  The nodes that were added to it had builders of
their own. -/
inductive Made : Builder → Prop
  | new (kind : NodeKind) : Made (.new kind)
  | become {builder : Builder} (made : Made builder) (kind : NodeKind) :
      Made { builder with kind := kind }
  | pushToken {builder : Builder} (made : Made builder) (token : Token) :
      Made (builder.pushToken token)
  | push {builder inner : Builder} (made : Made builder) (inside : Made inner) :
      Made (builder.push inner.finish)
  | pushField {builder inner : Builder} (made : Made builder) (part : FieldName)
      (inside : Made inner) : Made (builder.pushField part inner.finish)
  | pushFieldToken {builder : Builder} (made : Made builder) (part : FieldName)
      (token : Token) : Made (builder.pushFieldToken part token)

end Builder

namespace Node

/-- A node that was finished by some builder. -/
def Assembled (node : Node) : Prop := ∃ builder : Builder, builder.Made ∧ builder.finish = node

/-- No name is given twice in the node. -/
def Distinct (node : Node) : Prop := (node.fields.map Prod.fst).Nodup

/-- A node under another name might have been built under it. -/
theorem Assembled.withKind {node : Node} (assembled : node.Assembled) (kind : NodeKind) :
    (node.withKind kind).Assembled := by
  rcases assembled with ⟨builder, made, rfl⟩
  exact ⟨{ builder with kind := kind }, made.become kind, rfl⟩

theorem preorder_dissolved_subset (node : Node) :
    ∀ below ∈ Element.preorder node.dissolved, below ∈ node.preorder := by
  intro below member
  unfold dissolved at member
  split at member
  · rw [preorder_eq]
    rw [preorder_children] at member
    exact List.mem_cons_of_mem _ member
  · rw [Element.preorder_node, preorder_children, ← nodeChildren, ← preorder_eq] at member
    exact member

end Node

namespace Builder

/-- No name is given twice, neither in the node under construction nor below it. -/
structure Distinct (builder : Builder) : Prop where
  here : (builder.fields.toList.map Prod.fst).Nodup
  below : ∀ node ∈ Element.preorder builder.children.toList, node.Distinct

namespace Distinct

variable {builder inner : Builder}

theorem new (kind : NodeKind) : (Builder.new kind).Distinct where
  here := List.nodup_nil
  below := by
    rw [show Element.preorder (Builder.new kind).children.toList = [] from
      Node.preorder_children []]
    exact List.forall_mem_nil _

theorem append (distinct : builder.Distinct) {pieces : List Element}
    (below : ∀ node ∈ Element.preorder pieces, node.Distinct) :
    (builder.append pieces).Distinct where
  here := distinct.here
  below := by
    rw [children_append, Element.preorder_append]
    exact List.forall_mem_append.mpr ⟨distinct.below, below⟩

theorem attach (distinct : builder.Distinct) (part : FieldName) (index : Nat) :
    (builder.attach part index).Distinct where
  here := distinct_attach distinct.here part index
  below := by
    rw [children_attach]
    exact distinct.below

theorem attachAll (distinct : builder.Distinct) (offset : Nat)
    (names : List (FieldName × Nat)) : (builder.attachAll offset names).Distinct :=
  List.foldlRecOn names _ distinct fun _ distinct _ _ => distinct.attach _ _

theorem finish (distinct : builder.Distinct) :
    ∀ node ∈ builder.finish.preorder, node.Distinct := by
  rw [Node.forall_preorder_iff, ← Element.forall_preorder_iff]
  exact ⟨distinct.here, distinct.below⟩

theorem push (distinct : builder.Distinct) (inside : inner.Distinct) :
    (builder.push inner.finish).Distinct := by
  rw [push_eq]
  refine (distinct.append fun node member => ?_).attachAll _ _
  exact inside.finish node (inner.finish.preorder_dissolved_subset node member)

theorem pushField (distinct : builder.Distinct) (part : FieldName) (inside : inner.Distinct) :
    (builder.pushField part inner.finish).Distinct := by
  rw [pushField_eq]
  split
  · exact distinct.push inside
  · exact (distinct.attach part _).push inside

theorem pushToken (distinct : builder.Distinct) (token : Token) :
    (builder.pushToken token).Distinct := by
  rw [pushToken_eq]
  refine distinct.append ?_
  rw [Element.preorder_token]
  exact List.forall_mem_nil _

end Distinct

/-- By induction on the calls. -/
theorem Made.distinct {builder : Builder} (made : builder.Made) : builder.Distinct := by
  induction made with
  | new kind => exact .new kind
  | become made kind inductionHypothesis =>
      exact ⟨inductionHypothesis.here, inductionHypothesis.below⟩
  | pushToken made token inductionHypothesis => exact inductionHypothesis.pushToken token
  | push made inside outer inner => exact outer.push inner
  | pushField made part inside outer inner => exact outer.pushField part inner
  | pushFieldToken made part token inductionHypothesis =>
      exact (inductionHypothesis.pushToken token).attach part _

end Builder

/-- No node of an assembled tree gives a name twice. -/
theorem Node.Assembled.distinct {node : Node} (assembled : node.Assembled) :
    ∀ below ∈ node.preorder, below.Distinct := by
  rcases assembled with ⟨builder, made, rfl⟩
  exact made.distinct.finish

/-! ## Objects -/

namespace Json

variable {entries others : List (String × Json)}

theorem notAfter_iff (left right : String × Json) :
    (!decide (right.1 < left.1)) = true ↔ left.1 ≤ right.1 := by
  rw [Bool.not_eq_true', decide_eq_false_iff_not, not_lt]

/-- The order in which the entries of an object are put. -/
theorem sorted_mergeSort (entries : List (String × Json)) :
    (entries.mergeSort fun left right => !decide (right.1 < left.1)).Pairwise
      fun left right => left.1 ≤ right.1 := by
  refine (List.pairwise_mergeSort ?_ ?_ entries).imp fun {left right} =>
    (notAfter_iff left right).mp
  · intro first second third early late
    rw [notAfter_iff] at early late ⊢
    exact le_trans early late
  · intro first second
    rw [Bool.or_eq_true, notAfter_iff, notAfter_iff]
    exact le_total first.1 second.1

theorem ofEntries_of_sorted (sorted : (entries.map Prod.fst).Pairwise (· ≤ ·)) :
    ofEntries entries = .object entries := by
  unfold ofEntries
  rw [List.mergeSort_of_pairwise
    ((List.pairwise_map.mp sorted).imp fun {left right} => (notAfter_iff left right).mpr)]

/-- An object has the entries that it was made of. -/
theorem perm_of_ofEntries_eq (same : ofEntries entries = ofEntries others) :
    entries.Perm others := by
  have sorted := Json.object.inj same
  exact (List.mergeSort_perm entries _).symm.trans (sorted ▸ List.mergeSort_perm others _)

/-- Where no key occurs twice, the order in which the entries are given does not matter. -/
theorem ofEntries_eq_of_perm (perm : entries.Perm others)
    (distinct : (entries.map Prod.fst).Nodup) : ofEntries entries = ofEntries others := by
  refine congrArg Json.object (List.Perm.eq_of_pairwise (fun left right first second => ?_)
    (sorted_mergeSort entries) (sorted_mergeSort others) ?_)
  · intro before behind
    have inside := (List.mergeSort_perm entries _).mem_iff.mp first
    have there := perm.mem_iff.mpr ((List.mergeSort_perm others _).mem_iff.mp second)
    exact List.inj_on_of_nodup_map distinct inside there (le_antisymm before behind)
  · exact (List.mergeSort_perm entries _).trans (perm.trans (List.mergeSort_perm others _).symm)

end Json

/-! ## Spellings -/

theorem spellings_nodup :
    (NodeKind.all.map NodeKind.name).Nodup ∧ (FieldName.all.map FieldName.label).Nodup ∧
      (Keyword.all.map Keyword.spelling).Nodup ∧
      (Punctuation.all.map Punctuation.spelling).Nodup := by
  decide +kernel

theorem NodeKind.name_injective : Function.Injective NodeKind.name :=
  fun kind other => List.inj_on_of_nodup_map spellings_nodup.1 (mem_all kind) (mem_all other)

theorem FieldName.label_injective : Function.Injective FieldName.label :=
  fun part other => List.inj_on_of_nodup_map spellings_nodup.2.1 (mem_all part) (mem_all other)

theorem Keyword.spelling_injective : Function.Injective Keyword.spelling :=
  fun word other =>
    List.inj_on_of_nodup_map spellings_nodup.2.2.1 (mem_all word) (mem_all other)

theorem Punctuation.spelling_injective : Function.Injective Punctuation.spelling :=
  fun mark other =>
    List.inj_on_of_nodup_map spellings_nodup.2.2.2 (mem_all mark) (mem_all other)

theorem QuoteForm.spelling_injective : Function.Injective QuoteForm.spelling := by
  intro quote other same
  cases quote <;> cases other <;> first | rfl | exact absurd same (by decide)

/-- A kind of token is known by its name and its text. -/
theorem TokenKind.eq_of_name_text {kind other : TokenKind} (name : kind.name = other.name)
    (text : kind.text = other.text) : kind = other := by
  -- The names tell all constructors apart; what is left has one constructor on both sides.
  cases kind <;> cases other <;> simp only [TokenKind.name, String.reduceEq] at name
  case keyword.keyword => exact congrArg _ (Keyword.spelling_injective text)
  case punctuation.punctuation => exact congrArg _ (Punctuation.spelling_injective text)
  case stringStart.stringStart => exact congrArg _ (QuoteForm.spelling_injective text)
  case stringEnd.stringEnd => exact congrArg _ (QuoteForm.spelling_injective text)
  case indent.indent | outdent.outdent | autoSemicolon.autoSemicolon | endOfFile.endOfFile => rfl
  all_goals exact congrArg _ text

/-! ## What an export shows -/

mutual

/-- Two trees that differ at most in the trivia of their tokens and in the order in which
names were given. -/
inductive Node.Matches : Node → Node → Prop
  | mk {kind : NodeKind} {span : Span} {children others : List Element}
      {fields names : List (FieldName × Nat)} (below : Element.AllMatch children others)
      (named : ∀ entry, entry ∈ fields ↔ entry ∈ names) :
      Node.Matches (.mk kind span children fields) (.mk kind span others names)

inductive Element.AllMatch : List Element → List Element → Prop
  | nil : Element.AllMatch [] []
  | node {inner other : Node} {rest others : List Element} (alike : inner.Matches other)
      (behind : Element.AllMatch rest others) :
      Element.AllMatch (.node inner :: rest) (.node other :: others)
  | token {leaf other : Token} {rest others : List Element} (kind : leaf.kind = other.kind)
      (span : leaf.span = other.span) (behind : Element.AllMatch rest others) :
      Element.AllMatch (.token leaf :: rest) (.token other :: others)

end

theorem Span.toJson_inj {span other : Span} : span.toJson = other.toJson ↔ span = other := by
  cases span
  cases other
  simp only [toJson, Json.array.injEq, List.cons.injEq, Json.number.injEq, Span.mk.injEq, and_true]

theorem Token.toJson_eq (token : Token) :
    token.toJson = .object
      [("span", token.span.toJson), ("text", .string token.text),
        ("token", .string token.kind.name)] :=
  Json.ofEntries_of_sorted (show ["span", "text", "token"].Pairwise (· ≤ ·) by decide)

/-- A token is known up to its trivia. -/
theorem Token.toJson_inj {token other : Token} :
    token.toJson = other.toJson ↔ token.kind = other.kind ∧ token.span = other.span := by
  rw [toJson_eq, toJson_eq]
  constructor
  · intro same
    simp only [Json.object.injEq, List.cons.injEq, Prod.mk.injEq, Json.string.injEq, true_and,
      and_true, Span.toJson_inj] at same
    exact ⟨TokenKind.eq_of_name_text same.2.2 same.2.1, same.1⟩
  · rintro ⟨kind, span⟩
    rw [Token.text, Token.text, kind, span]

theorem Node.toJson_eq (kind : NodeKind) (span : Span) (children : List Element)
    (fields : List (FieldName × Nat)) :
    (Node.mk kind span children fields).toJson = .object
      [("children", .array (Element.listToJson children)), ("fields", fieldsToJson fields),
        ("kind", .string kind.name), ("span", span.toJson)] := by
  unfold Node.toJson
  exact Json.ofEntries_of_sorted
    (show ["children", "fields", "kind", "span"].Pairwise (· ≤ ·) by decide)

/-- A node is not mistaken for a token: it has other keys. -/
theorem Node.toJson_ne_token (node : Node) (token : Token) : node.toJson ≠ token.toJson := by
  cases node
  rw [Node.toJson_eq, Token.toJson_eq]
  intro same
  have count := congrArg List.length (Json.object.inj same)
  exact absurd count (show ¬ 4 = 3 by decide)

theorem entry_injective : Function.Injective fun entry : FieldName × Nat =>
    (entry.1.label, Json.number entry.2) := by
  intro entry other same
  obtain ⟨label, number⟩ := Prod.mk.inj same
  exact Prod.ext (FieldName.label_injective label) (Json.number.inj number)

/-- The names of a node are known from its export, though not their order. -/
theorem mem_iff_of_fieldsToJson {fields names : List (FieldName × Nat)}
    (same : fieldsToJson fields = fieldsToJson names) (entry : FieldName × Nat) :
    entry ∈ fields ↔ entry ∈ names :=
  ((List.map_perm_map_iff entry_injective).mp (Json.perm_of_ofEntries_eq same)).mem_iff

theorem nodup_labels {fields : List (FieldName × Nat)}
    (distinct : (fields.map Prod.fst).Nodup) :
    (fields.map fun entry => entry.1.label).Nodup := by
  have labels := distinct.map FieldName.label_injective
  rwa [List.map_map] at labels

theorem fieldsToJson_eq {fields names : List (FieldName × Nat)}
    (distinct : (fields.map Prod.fst).Nodup) (others : (names.map Prod.fst).Nodup)
    (same : ∀ entry, entry ∈ fields ↔ entry ∈ names) :
    fieldsToJson fields = fieldsToJson names := by
  have perm : fields.Perm names :=
    (List.perm_ext_iff_of_nodup (distinct.of_map _) (others.of_map _)).mpr same
  refine Json.ofEntries_eq_of_perm (perm.map _) ?_
  rw [List.map_map]
  exact nodup_labels distinct

mutual

/-- Trees of one export match.  By recursion on the first of them. -/
theorem Node.matches_of_toJson : (node other : Node) → node.toJson = other.toJson →
    node.Matches other
  | .mk kind span children fields, .mk _ _ others names, same => by
    rw [Node.toJson_eq, Node.toJson_eq] at same
    simp only [Json.object.injEq, List.cons.injEq, Prod.mk.injEq, Json.array.injEq,
      Json.string.injEq, true_and, and_true, Span.toJson_inj] at same
    obtain ⟨below, named, kinds, rfl⟩ := same
    obtain rfl := NodeKind.name_injective kinds
    exact .mk (Element.allMatch_of_listToJson children others below)
      (mem_iff_of_fieldsToJson named)

theorem Element.allMatch_of_listToJson : (children others : List Element) →
    Element.listToJson children = Element.listToJson others → Element.AllMatch children others
  | [], [], _ => .nil
  | [], .node _ :: _, same => nomatch same
  | [], .token _ :: _, same => nomatch same
  | .node _ :: _, [], same => nomatch same
  | .token _ :: _, [], same => nomatch same
  | .node inner :: rest, .node other :: others, same => by
    obtain ⟨first, behind⟩ := List.cons.inj same
    exact .node (Node.matches_of_toJson inner other first)
      (Element.allMatch_of_listToJson rest others behind)
  | .token _ :: rest, .token _ :: others, same => by
    obtain ⟨first, behind⟩ := List.cons.inj same
    obtain ⟨kind, span⟩ := Token.toJson_inj.mp first
    exact .token kind span (Element.allMatch_of_listToJson rest others behind)
  | .node inner :: _, .token leaf :: _, same =>
    absurd (List.cons.inj same).1 (inner.toJson_ne_token leaf)
  | .token leaf :: _, .node other :: _, same =>
    absurd (List.cons.inj same).1.symm (other.toJson_ne_token leaf)

end

mutual

/-- Matching trees in which no name is given twice have one export. -/
theorem Node.Matches.toJson_eq : {node other : Node} → node.Matches other →
    (∀ below ∈ node.preorder, below.Distinct) → (∀ below ∈ other.preorder, below.Distinct) →
    node.toJson = other.toJson
  | .mk _ _ children fields, .mk _ _ _ names, .mk below named, distinct, others => by
    obtain ⟨here, deeper⟩ := (Node.forall_preorder_iff _ _).mp distinct
    obtain ⟨there, beyond⟩ := (Node.forall_preorder_iff _ _).mp others
    have same : fieldsToJson fields = fieldsToJson names := fieldsToJson_eq here there named
    rw [Node.toJson_eq, Node.toJson_eq, below.listToJson_eq deeper beyond, same]

theorem Element.AllMatch.listToJson_eq : {children others : List Element} →
    Element.AllMatch children others → (∀ child ∈ children, child.All Node.Distinct) →
    (∀ child ∈ others, child.All Node.Distinct) →
    Element.listToJson children = Element.listToJson others
  | _, _, .nil, _, _ => rfl
  | _, _, .node alike behind, distinct, others => by
    rw [List.forall_mem_cons] at distinct others
    unfold Element.listToJson
    rw [alike.toJson_eq distinct.1 others.1, behind.listToJson_eq distinct.2 others.2]
  | _, _, .token kind span behind, distinct, others => by
    rw [List.forall_mem_cons] at distinct others
    unfold Element.listToJson
    rw [Token.toJson_inj.mpr ⟨kind, span⟩, behind.listToJson_eq distinct.2 others.2]

end

/-- Two trees that builders made have one export exactly if they match: it tells kinds, spans,
children and their order, and which child has which name.  What it leaves open is the trivia
and the order of the names.  No two names of a node fall together under one key. -/
theorem toJson_eq_iff_matches {node other : Node} (first : node.Assembled)
    (second : other.Assembled) :
    (node.toJson = other.toJson ↔ node.Matches other) ∧
      ∀ below ∈ node.preorder, (below.fields.map fun entry => entry.1.label).Nodup where
  left := ⟨Node.matches_of_toJson node other,
    fun alike => alike.toJson_eq first.distinct second.distinct⟩
  right below member := nodup_labels (first.distinct below member)

open Builder in
/-- A token with two names, given in either order, and once with a blank in front of it. -/
theorem toJson_eq_iff_matches_twice_named :
    let token : Token := .bare (.identifier "a") ⟨1, 2⟩
    let behindBlank : Token := { token with leading := [⟨.whitespace, ⟨0, 1⟩⟩] }
    let node := ((Builder.new .classDefinition).pushField .name
      ((Builder.new .casePattern).pushFieldToken .body token).finish).finish
    let other := ((Builder.new .classDefinition).pushField .body
      ((Builder.new .casePattern).pushFieldToken .name behindBlank).finish).finish
    node.Assembled ∧ other.Assembled ∧ node.fields = [(.name, 0), (.body, 0)] ∧
      other.fields = [(.body, 0), (.name, 0)] ∧ node.toJson = other.toJson ∧
      ∀ below ∈ node.preorder, (below.fields.map fun entry => entry.1.label).Nodup := by
  intro token behindBlank node other
  have first : node.Assembled :=
    ⟨_, (Made.new _).pushField .name ((Made.new _).pushFieldToken .body token), rfl⟩
  have second : other.Assembled :=
    ⟨_, (Made.new _).pushField .body ((Made.new _).pushFieldToken .name behindBlank), rfl⟩
  have shape : node =
      .mk .classDefinition ⟨1, 2⟩ [.token token] [(.name, 0), (.body, 0)] := by
    with_unfolding_all rfl
  have form : other =
      .mk .classDefinition ⟨1, 2⟩ [.token behindBlank] [(.body, 0), (.name, 0)] := by
    with_unfolding_all rfl
  have alike : node.Matches other := by
    rw [shape, form]
    exact .mk (.token rfl rfl .nil) fun _ => (List.Perm.swap _ _ []).mem_iff
  have known := toJson_eq_iff_matches first second
  exact ⟨first, second, congrArg Node.fields shape, congrArg Node.fields form,
    known.1.mpr alike, known.2⟩

end Offside
