import Offside.Proofs.Tree.Sketch

namespace Offside

/-!
# Hidden nodes leave no trace

A hidden node is dissolved when it is added, so it does not matter whether its parts were
collected in a builder of their own or added to the node around it at once.  The first name
wins inside the hidden node and once more in the node around it, which comes to the same,
and hidden nodes may lie in each other to any depth.

Every call on a builder adds some children and gives some names, whatever the builder holds.
So a row of calls is known by its children and names, and a hidden node is known by them as
well, except for the names that did not win.
-/

/-- A call on a builder.  A node that is added is either there already, or it is what some
calls make of a fresh builder. -/
inductive Builder.Call
  | token (token : Token)
  | node (node : Node)
  | field (part : FieldName) (node : Node)
  | fieldToken (part : FieldName) (token : Token)
  | group (kind : NodeKind) (calls : List Builder.Call)
  | fieldGroup (part : FieldName) (kind : NodeKind) (calls : List Builder.Call)

namespace Builder

mutual

/-- Make a call. -/
def perform (builder : Builder) : Call → Builder
  | .token token => builder.pushToken token
  | .node node => builder.push node
  | .field part node => builder.pushField part node
  | .fieldToken part token => builder.pushFieldToken part token
  | .group kind calls => builder.push ((new kind).performAll calls).finish
  | .fieldGroup part kind calls => builder.pushField part ((new kind).performAll calls).finish
termination_by structural call => call

/-- Make some calls in a row. -/
def performAll (builder : Builder) : List Call → Builder
  | [] => builder
  | call :: calls => (builder.perform call).performAll calls
termination_by structural calls => calls

end

mutual

/-- Make a call, but for a hidden node make the calls for the node itself.  If they come to
any child, the first one gets the name of the node before. -/
def performInline (builder : Builder) : Call → Builder
  | .token token => builder.pushToken token
  | .node node => builder.push node
  | .field part node => builder.pushField part node
  | .fieldToken part token => builder.pushFieldToken part token
  | .group kind calls =>
    if kind.isHidden then builder.performAllInline calls
    else builder.push ((new kind).performAllInline calls).finish
  | .fieldGroup part kind calls =>
    if kind.isHidden then
      if ((new kind).performAllInline calls).isEmpty then builder.performAllInline calls
      else (builder.attach part builder.children.size).performAllInline calls
    else builder.pushField part ((new kind).performAllInline calls).finish

def performAllInline (builder : Builder) : List Call → Builder
  | [] => builder
  | call :: calls => (builder.performInline call).performAllInline calls

end

variable {builder inner : Builder}

/-! ## Names that count from a later child -/

def shift (count : Nat) (names : List (FieldName × Nat)) : List (FieldName × Nat) :=
  names.map fun entry => (entry.1, count + entry.2)

theorem attachAll_append (offset : Nat) (names others : List (FieldName × Nat)) :
    builder.attachAll offset (names ++ others) =
      (builder.attachAll offset names).attachAll offset others :=
  List.foldl_append

theorem attachAll_shift (offset count : Nat) (names : List (FieldName × Nat)) :
    builder.attachAll offset (shift count names) = builder.attachAll (offset + count) names := by
  unfold attachAll shift
  rw [List.foldl_map]
  simp only [Nat.add_assoc]

/-! ## The first name wins -/

theorem attach_of_hasField {part : FieldName} (given : builder.hasField part = true)
    (index : Nat) : builder.attach part index = builder := if_pos given

theorem hasField_attach (part other : FieldName) (index : Nat) :
    (builder.attach part index).hasField other = (builder.hasField other || part == other) := by
  unfold attach
  split
  · rename_i given
    cases same : part == other with
    | false => rw [Bool.or_false]
    | true => rw [← beq_iff_eq.mp same, given, Bool.true_or]
  · unfold hasField
    rw [Array.any_push]

/-- A name that is given is there afterwards, and a name that was there stays. -/
theorem hasField_attachAll (offset : Nat) (names : List (FieldName × Nat)) (part : FieldName) :
    (builder.attachAll offset names).hasField part =
      (builder.hasField part || names.any fun entry => entry.1 == part) := by
  induction names generalizing builder with
  | nil => exact (Bool.or_false _).symm
  | cons entry names inductionHypothesis =>
      show ((builder.attach entry.1 (offset + entry.2)).attachAll offset names).hasField part = _
      rw [inductionHypothesis, hasField_attach, List.any_cons, Bool.or_assoc]

/-- Names that have lost in one builder would have lost in another one as well, if the names
that have won there come first. -/
theorem attachAll_fields (offset : Nat) (names : List (FieldName × Nat)) :
    builder.attachAll offset (inner.attachAll 0 names).fields.toList =
      builder.attachAll offset (inner.fields.toList ++ names) := by
  induction names generalizing inner with
  | nil =>
      rw [List.append_nil]
      rfl
  | cons entry names inductionHypothesis =>
      show builder.attachAll offset ((inner.attach entry.1 (0 + entry.2)).attachAll 0
        names).fields.toList = _
      rw [inductionHypothesis]
      cases given : inner.hasField entry.1 with
      | true =>
          have lost : (builder.attachAll offset inner.fields.toList).hasField entry.1 = true := by
            unfold hasField at given
            rw [hasField_attachAll, Array.any_toList, given, Bool.or_true]
          rw [attach_of_hasField given, attachAll_append, attachAll_append]
          show _ = ((builder.attachAll offset inner.fields.toList).attach entry.1
            (offset + entry.2)).attachAll offset names
          rw [attach_of_hasField lost]
      | false =>
          have won : (inner.attach entry.1 (0 + entry.2)).fields.toList =
              inner.fields.toList ++ [entry] := by
            unfold attach
            rw [given, if_neg Bool.false_ne_true, Array.toList_push, Nat.zero_add]
          rw [won, List.append_assoc, List.singleton_append]

/-! ## What a call adds -/

/-- With more children, and with names that count from the first of them. -/
def join (builder : Builder) (children : List Element) (names : List (FieldName × Nat)) :
    Builder :=
  (builder.append children).attachAll builder.children.toList.length names

theorem children_attachAll (offset : Nat) (names : List (FieldName × Nat)) :
    (builder.attachAll offset names).children = builder.children :=
  (attachAll_keeps builder offset names).1

theorem children_join (children : List Element) (names : List (FieldName × Nat)) :
    (builder.join children names).children.toList = builder.children.toList ++ children := by
  unfold join
  rw [children_attachAll, children_append]

theorem append_append (children others : List Element) :
    (builder.append children).append others = builder.append (children ++ others) := by
  unfold append
  refine congrArg (Builder.mk builder.kind · builder.fields) (Array.toList_inj.mp ?_)
  rw [Array.toList_appendList, Array.toList_appendList, Array.toList_appendList,
    List.append_assoc]

theorem join_nil (builder : Builder) : builder.join [] [] = builder := by
  unfold join append attachAll
  simp

theorem join_join (children others : List Element) (names more : List (FieldName × Nat)) :
    (builder.join children names).join others more =
      builder.join (children ++ others) (names ++ shift children.length more) := by
  have length : (builder.join children names).children.toList.length =
      builder.children.toList.length + children.length := by
    rw [children_join, List.length_append]
  show ((builder.join children names).append others).attachAll _ more = _
  rw [length]
  unfold join
  rw [append_attachAll, append_append, attachAll_append, attachAll_shift]

theorem push_eq_join (node : Node) :
    builder.push node = builder.join node.dissolved node.dissolvedNames := push_eq builder node

/-- A name that is given before the children are added goes in front of their own. -/
theorem attach_join (part : FieldName) (children : List Element)
    (names : List (FieldName × Nat)) :
    (builder.attach part builder.children.size).join children names =
      builder.join children ((part, 0) :: names) := by
  unfold join
  rw [append_attach, children_attach, Array.length_toList]
  rfl

/-- A call adds some children and names, to whatever builder. -/
theorem perform_joins (call : Call) : ∃ children names, ∀ builder : Builder,
    builder.perform call = builder.join children names := by
  have pushes : ∀ node : Node, ∃ children names, ∀ builder : Builder,
      builder.push node = builder.join children names :=
    fun node => ⟨_, _, fun _ => push_eq_join node⟩
  have names : ∀ part, ∀ node : Node, ∃ children names, ∀ builder : Builder,
      builder.pushField part node = builder.join children names := by
    intro part node
    by_cases nothing : node.dissolved = []
    · refine ⟨node.dissolved, node.dissolvedNames, fun builder => ?_⟩
      rw [pushField_eq, if_pos nothing]
      exact push_eq_join node
    · refine ⟨node.dissolved, (part, 0) :: node.dissolvedNames, fun builder => ?_⟩
      rw [pushField_eq, if_neg nothing, push_eq_join, Array.length_toList]
      exact attach_join part _ _
  cases call with
  | token token => exact ⟨[.token token], [], fun builder => pushToken_eq builder token⟩
  | node node => exact pushes node
  | field part node => exact names part node
  | fieldToken part token =>
      refine ⟨[.token token], [(part, 0)], fun builder => ?_⟩
      show (builder.pushToken token).attach part builder.children.size = _
      rw [pushToken_eq, ← Array.length_toList]
      rfl
  | group kind calls => exact pushes _
  | fieldGroup part kind calls => exact names part _

/-- By induction on the row of calls: what is added later is counted from where the earlier
children end. -/
theorem performAll_joins (calls : List Call) : ∃ children names, ∀ builder : Builder,
    builder.performAll calls = builder.join children names := by
  induction calls with
  | nil => exact ⟨[], [], fun builder => (join_nil builder).symm⟩
  | cons call calls inductionHypothesis =>
      rcases perform_joins call with ⟨children, names, performs⟩
      rcases inductionHypothesis with ⟨others, more, performsMore⟩
      refine ⟨children ++ others, names ++ shift children.length more, fun builder => ?_⟩
      show (builder.perform call).performAll calls = _
      rw [performs, performsMore]
      exact join_join children others names more

/-! ## Hidden nodes -/

/-- What a hidden node of some children and names comes to. -/
theorem push_finish_join {kind : NodeKind} (hidden : kind.isHidden = true)
    (children : List Element) (names : List (FieldName × Nat)) :
    builder.push ((new kind).join children names).finish = builder.join children names := by
  have same : ((new kind).join children names).kind = kind := (attachAll_keeps _ _ _).2
  have dissolves : ((new kind).join children names).finish.kind.isHidden = true := by
    rw [show ((new kind).join children names).finish.kind = kind from same]
    exact hidden
  have pieces : ((new kind).join children names).finish.dissolved = children := by
    rw [Node.dissolved, if_pos dissolves]
    exact children_join children names
  have named : ((new kind).join children names).finish.dissolvedNames =
      (((new kind).append children).attachAll 0 names).fields.toList := if_pos dissolves
  rw [push_eq_join, pieces, named]
  exact attachAll_fields _ names

/-- Calls that are made for a hidden node might as well be made for the node around it. -/
theorem push_hidden {kind : NodeKind} (hidden : kind.isHidden = true) (calls : List Call)
    (builder : Builder) :
    builder.push ((new kind).performAll calls).finish = builder.performAll calls := by
  rcases performAll_joins calls with ⟨children, names, performs⟩
  rw [performs, performs]
  exact push_finish_join hidden children names

theorem dissolved_eq_nil {kind : NodeKind} (hidden : kind.isHidden = true) (calls : List Call) :
    ((new kind).performAll calls).finish.dissolved = [] ↔
      ((new kind).performAll calls).isEmpty = true := by
  rcases performAll_joins calls with ⟨children, names, performs⟩
  have same : ((new kind).performAll calls).kind = kind := by
    rw [performs]
    exact (attachAll_keeps _ _ _).2
  have dissolves : ((new kind).performAll calls).finish.kind.isHidden = true := by
    rw [show ((new kind).performAll calls).finish.kind = kind from same]
    exact hidden
  rw [Node.dissolved, if_pos dissolves]
  exact (Array.toList_eq_nil_iff.trans Array.isEmpty_iff.symm)

theorem pushField_hidden {kind : NodeKind} (hidden : kind.isHidden = true) (part : FieldName)
    (calls : List Call) (builder : Builder) :
    builder.pushField part ((new kind).performAll calls).finish =
      (if ((new kind).performAll calls).isEmpty then builder
        else builder.attach part builder.children.size).performAll calls := by
  rw [pushField_eq, push_hidden hidden, Array.length_toList]
  simp only [dissolved_eq_nil hidden]

mutual

theorem perform_eq_inline (call : Call) (builder : Builder) :
    builder.perform call = builder.performInline call := by
  cases call with
  | token token => rfl
  | node node => rfl
  | field part node => rfl
  | fieldToken part token => rfl
  | group kind calls =>
      rw [perform, performInline, ← performAll_eq_inline calls, ← performAll_eq_inline calls]
      split
      · rename_i hidden
        exact push_hidden hidden calls builder
      · rfl
  | fieldGroup part kind calls =>
      rw [perform, performInline, ← performAll_eq_inline calls, ← performAll_eq_inline calls,
        ← performAll_eq_inline calls]
      split
      · rename_i hidden
        rw [pushField_hidden hidden]
        split <;> rfl
      · rfl

theorem performAll_eq_inline (calls : List Call) (builder : Builder) :
    builder.performAll calls = builder.performAllInline calls := by
  cases calls with
  | nil => rfl
  | cons call calls =>
      rw [performAll, performAllInline, perform_eq_inline call, performAll_eq_inline calls]

end

end Builder

/-! ## Inlining -/

open Builder

/-- Inlining is transparent: a hidden node that was built by some calls adds what the calls
would have added themselves, and its name goes to the first child that they come to.  So all
hidden nodes that calls are made for, in whatever depth, may be left out. -/
theorem inlining_transparent {kind : NodeKind} (hidden : kind.isHidden = true)
    (calls : List Call) (part : FieldName) (builder : Builder) :
    builder.push ((new kind).performAll calls).finish = builder.performAll calls ∧
      builder.pushField part ((new kind).performAll calls).finish =
        (if ((new kind).performAll calls).isEmpty then builder
          else builder.attach part builder.children.size).performAll calls ∧
      ∀ nested : List Call, builder.performAll nested = builder.performAllInline nested :=
  ⟨push_hidden hidden calls builder, pushField_hidden hidden part calls builder,
    fun nested => performAll_eq_inline nested builder⟩

/-- The name of the group goes to the token in the group inside it, before that token gets a
name of its own.  The empty group and the name that was given before change nothing. -/
theorem inlining_transparent_nested :
    let token : Token := .bare (.identifier "a") ⟨6, 7⟩
    let calls : List Call := [.fieldGroup .name .casePattern [],
      .group .blockItems [.fieldToken .pattern token, .fieldToken .body token],
      .field .pattern (.leaf .identifier token)]
    let builder := (Builder.new .classDefinition).performAll [.fieldToken .body token]
    NodeKind.isHidden .classConstructor = true ∧
      (builder.pushField .name ((new .classConstructor).performAll calls).finish).fields =
        #[(.body, 0), (.name, 1), (.pattern, 1)] ∧
      builder.push ((new .classConstructor).performAll calls).finish =
        builder.performAll calls ∧
      builder.pushField .name ((new .classConstructor).performAll calls).finish =
        (builder.attach .name builder.children.size).performAll calls ∧
      builder.performAll calls = builder.performAllInline calls := by
  intro token calls builder
  have transparent := @inlining_transparent .classConstructor rfl calls .name builder
  have some : ¬ ((new .classConstructor).performAll calls).isEmpty = true := by decide +kernel
  rw [if_neg some] at transparent
  exact ⟨rfl, by decide +kernel, transparent.1, transparent.2.1, transparent.2.2 calls⟩

end Offside
