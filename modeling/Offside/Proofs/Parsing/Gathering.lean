import Offside.Proofs.Parsing.Recovery

namespace Offside

/-!
# How far faulty input goes

Faulty input is gathered up to a recovery point outside of all groups that were opened
on the way, and never beyond one.  So the tokens that make a node of faulty input can
be told from the tokens of the source alone: gathering goes on past every point at
which a group is still open, and it stops at the first recovery point at which none
is, or at the end of the source.
-/

namespace Progress

/-- How many groups are open behind some tokens, counting from `depth` in front of them. -/
def openBehind (depth : Nat) (kinds : List TokenKind) : Nat := kinds.foldl depthBehind depth

end Progress

open Progress (openBehind)

namespace TokenStream

/-- The tokens of the stream are gathered from a position on, with `depth` groups open
in front of them.  The first of them may be a recovery point if `free` says so. -/
structure GatheredFrom (stream : TokenStream) (depth : Nat) (free : Bool) (start : Nat)
    (tokens : List Token) : Prop where
  taken : tokens <+: stream.body.toList.drop start
  /-- A recovery point outside of all groups is not passed. -/
  passes : ∀ count < tokens.length, (count = 0 → free = false) →
    openBehind depth ((tokens.take count).map Token.kind) = 0 →
      (stream.moveTo (start + count)).atRecoveryPoint = false
  /-- Gathering stops at a recovery point outside of all groups or at the end. -/
  stops : (stream.moveTo (start + tokens.length)).atEnd = true ∨
    openBehind depth (tokens.map Token.kind) = 0 ∧
      (stream.moveTo (start + tokens.length)).atRecoveryPoint = true

/-- The tokens of the stream make a node of faulty input at a position. -/
abbrev Gathered (stream : TokenStream) (start : Nat) (tokens : List Token) : Prop :=
  stream.GatheredFrom 0 true start tokens

theorem GatheredFrom.nil {stream : TokenStream} {depth start : Nat} {free : Bool}
    (stops : (stream.moveTo start).atEnd = true ∨
      depth = 0 ∧ (stream.moveTo start).atRecoveryPoint = true) :
    stream.GatheredFrom depth free start [] where
  taken := List.nil_prefix
  passes := fun count before => absurd before (Nat.not_lt_zero count)
  stops := stops

/-- Where the stream stands makes no difference. -/
theorem GatheredFrom.of_moveTo {stream : TokenStream} {depth start position : Nat}
    {free : Bool} {tokens : List Token}
    (gathered : (stream.moveTo position).GatheredFrom depth free start tokens) :
    stream.GatheredFrom depth free start tokens :=
  ⟨gathered.taken, gathered.passes, gathered.stops⟩

/-- The tokens that were gathered are those of the stream. -/
theorem GatheredFrom.current {stream : TokenStream} {depth start : Nat} {free : Bool}
    {front back : List Token} {token : Token}
    (gathered : stream.GatheredFrom depth free start (front ++ token :: back)) :
    (stream.moveTo (start + front.length)).current = token := by
  rcases gathered.taken with ⟨rest, whole⟩
  have found : stream.body[start + front.length]? = some token := by
    rw [← Array.getElem?_toList, ← List.getElem?_drop, ← whole, List.append_assoc,
      List.getElem?_append_right (Nat.le_refl _), Nat.sub_self]
    rfl
  show stream.body.getD (start + front.length + 0) stream.ending = token
  rw [Nat.add_zero, Array.getD_eq_getD_getElem?, found]
  rfl

/-- The kinds of the first tokens that were gathered are kinds of the stream. -/
theorem GatheredFrom.take_map_kind {stream : TokenStream} {depth start index : Nat}
    {free : Bool} {tokens : List Token} (gathered : stream.GatheredFrom depth free start tokens)
    (behind : start ≤ index) (before : index < start + tokens.length) :
    (tokens.take (index - start)).map Token.kind =
      ((stream.toList.map Token.kind).take index).drop start := by
  rcases gathered.taken with ⟨rest, whole⟩
  have inside : start ≤ stream.body.toList.length := by
    have lengths := congrArg List.length whole
    rw [List.length_append, List.length_drop] at lengths
    omega
  unfold toList
  rw [List.drop_take, ← List.map_drop, ← List.map_take, List.drop_append_of_le_length inside,
    ← whole, List.append_assoc, List.take_append_of_le_length (by omega)]

/-- One more token in front. -/
theorem GatheredFrom.cons {stream : TokenStream} {depth start : Nat} {free : Bool}
    {tokens : List Token} (inside : (stream.moveTo start).atEnd = false)
    (passes : free = false → depth = 0 → (stream.moveTo start).atRecoveryPoint = false)
    (gathered : stream.GatheredFrom
      (Progress.depthBehind depth (stream.moveTo start).kind) false (start + 1) tokens) :
    stream.GatheredFrom depth free start ((stream.moveTo start).current :: tokens) where
  taken := by
    have left : stream.body.toList.drop start =
        (stream.moveTo start).current :: stream.body.toList.drop (start + 1) := by
      have split := left_eq_cons inside
      rw [advance_eq_moveTo inside] at split
      exact split
    rw [left, List.cons_prefix_cons]
    exact ⟨rfl, gathered.taken⟩
  passes := by
    intro count before first level
    cases count with
    | zero => exact passes (first rfl) level
    | succ count =>
        have further := gathered.passes count (by simpa using before) (fun _ => rfl) level
        rw [Nat.add_right_comm] at further
        exact further
  stops := by
    have ended := gathered.stops
    rw [Nat.add_right_comm] at ended
    exact ended

end TokenStream

namespace Progress

/-- What gathering adds to the node under construction. -/
structure Collects (before after : Progress) (tokens : List Token) : Prop where
  stream : after.stream = before.stream.moveTo (before.stream.position + tokens.length)
  children : after.builder.children.toList =
    before.builder.children.toList ++ tokens.map .token
  kind : after.builder.kind = before.builder.kind

theorem Collects.refl (progress : Progress) : progress.Collects progress [] where
  stream := rfl
  children := (List.append_nil _).symm
  kind := rfl

theorem Collects.cons {progress after : Progress} {tokens : List Token}
    (inside : progress.stream.atEnd = false) (collects : progress.take.Collects after tokens) :
    progress.Collects after (progress.stream.current :: tokens) := by
  have moved : progress.take.stream = progress.stream.moveTo (progress.stream.position + 1) :=
    TokenStream.advance_eq_moveTo inside
  refine ⟨?_, ?_, collects.kind⟩
  · rw [collects.stream, moved, List.length_cons, TokenStream.moveTo_moveTo,
      TokenStream.position_moveTo, Nat.add_assoc, Nat.add_comm 1]
  · have pushed : progress.take.builder.children.toList =
        progress.builder.children.toList ++ [.token progress.stream.current] :=
      Array.toList_push
    rw [collects.children, pushed, List.append_assoc]
    rfl

/-- Gathering takes tokens as they are and stops where it should. -/
theorem gather_gathered (progress : Progress) (depth : Nat) :
    ∃ tokens, progress.Collects (progress.gather depth) tokens ∧
      progress.stream.GatheredFrom depth progress.builder.isEmpty progress.stream.position
        tokens := by
  fun_induction gather progress depth with
  | case1 progress depth atEnd => exact ⟨[], .refl progress, .nil (Or.inl atEnd)⟩
  | case2 progress depth before stops =>
      simp only [Bool.and_eq_true, decide_eq_true_eq] at stops
      exact ⟨[], .refl progress, .nil (Or.inr ⟨stops.1.1, stops.2⟩)⟩
  | case3 progress depth before goesOn inductionHypothesis =>
      have inside : progress.stream.atEnd = false := by simpa using before
      rcases inductionHypothesis with ⟨tokens, collects, gathered⟩
      have some : progress.take.builder.isEmpty = false := by
        unfold Builder.isEmpty take Builder.pushToken
        simp
      have moved : progress.take.stream =
          progress.stream.moveTo (progress.stream.position + 1) :=
        TokenStream.advance_eq_moveTo inside
      rw [some, moved] at gathered
      refine ⟨progress.stream.current :: tokens, collects.cons inside,
        .cons inside (fun nonempty level => ?_) gathered.of_moveTo⟩
      rw [level, nonempty] at goesOn
      rw [TokenStream.moveTo_self]
      simpa using goesOn

/-- Taking everything takes at least one token, if there is one. -/
theorem takeAll_collects (progress : Progress) :
    ∃ tokens, progress.Collects progress.takeAll tokens ∧
      (progress.stream.atEnd = false → tokens ≠ []) := by
  fun_induction takeAll progress with
  | case1 progress atEnd =>
      exact ⟨[], .refl progress, fun before => by rw [atEnd] at before; cases before⟩
  | case2 progress before inductionHypothesis =>
      rcases inductionHypothesis with ⟨tokens, collects, _⟩
      exact ⟨progress.stream.current :: tokens, collects.cons (by simpa using before),
        fun _ => List.cons_ne_nil _ _⟩

end Progress
end Offside
