import Mathlib.Data.List.Chain
import Offside.Text.Span

namespace Offside
namespace Span

/-!
# Rows of spans

Spans stand in a row when each of them ends before the next one begins.  A row covers a
span if the span reaches from the beginning of the first one to the end of the last one.
Where every part of a row is covered by a row of its own, the small parts together are a
row just if the large ones are, and both cover the same.
-/

/-- The span ends where the next one begins, or further to the left. -/
def Before (span next : Span) : Prop := span.stop ≤ next.start

instance : DecidableRel Before := fun span next => Nat.decLe span.stop next.start

/-- The span does not end before it begins. -/
def Proper (span : Span) : Prop := span.start ≤ span.stop

/-- Spans stand in a row and reach together from the beginning of a span to its end. -/
structure Row (spans : List Span) (whole : Span) : Prop where
  inOrder : spans.IsChain Before
  starts : spans.head?.map start = some whole.start
  ends : spans.getLast?.map stop = some whole.stop

namespace Row

variable {spans : List Span} {whole : Span}

theorem singleton (span : Span) : Row [span] span := ⟨.singleton _, rfl, rfl⟩

theorem ne_nil (row : Row spans whole) : spans ≠ [] := by
  rintro rfl
  cases row.starts

/-- What a row of proper spans covers does not end before it begins.  By induction on the
row. -/
theorem proper (row : Row spans whole) (each : ∀ span ∈ spans, span.Proper) :
    whole.Proper := by
  rcases row with ⟨inOrder, starts, ends⟩
  rcases whole with ⟨first, last⟩
  induction spans generalizing first with
  | nil => cases starts
  | cons span rest inductionHypothesis =>
      cases Option.some.inj starts
      rcases List.forall_mem_cons.mp each with ⟨here, further⟩
      cases rest with
      | nil =>
          cases Option.some.inj ends
          exact here
      | cons next rest =>
          rcases List.isChain_cons_cons.mp inOrder with ⟨before, row⟩
          have behind := inductionHypothesis further row next.start rfl
            (by rw [← ends, List.getLast?_cons_cons])
          exact Nat.le_trans here (Nat.le_trans before behind)

variable {Item : Type} {items : List Item} {pieces : Item → List Span} {cover : Item → Span}

private theorem head?_pieces (rows : ∀ item ∈ items, Row (pieces item) (cover item)) :
    (items.flatMap pieces).head?.map start = (items.map cover).head?.map start := by
  cases items with
  | nil => rfl
  | cons item rest =>
      have first := (rows item List.mem_cons_self).starts
      rw [List.flatMap_cons, List.head?_append, Option.map_or, first]
      rfl

private theorem getLast?_pieces (rows : ∀ item ∈ items, Row (pieces item) (cover item)) :
    (items.flatMap pieces).getLast?.map stop = (items.map cover).getLast?.map stop := by
  rcases List.eq_nil_or_concat items with rfl | ⟨front, item, same⟩
  · rfl
  · rw [List.concat_eq_append] at same
    have last := (rows item (same ▸ List.mem_append_right _ (List.mem_singleton_self _))).ends
    rw [same, List.flatMap_append, List.getLast?_append, Option.map_or, List.flatMap_singleton,
      last, List.map_append, List.getLast?_append]
    rfl

/-- The ends of a part are the ends of its pieces. -/
private theorem before_iff {item next : Item} (here : Row (pieces item) (cover item))
    (there : Row (pieces next) (cover next)) :
    (∀ last ∈ (pieces item).getLast?, ∀ first ∈ (pieces next).head?, last.Before first) ↔
      (cover item).Before (cover next) := by
  rcases Option.map_eq_some_iff.mp here.ends with ⟨last, isLast, stop⟩
  rcases Option.map_eq_some_iff.mp there.starts with ⟨first, isFirst, start⟩
  have ends : last.Before first ↔ (cover item).Before (cover next) := by
    unfold Before
    rw [stop, start]
  rw [← ends, isLast, isFirst]
  exact ⟨fun all => all last rfl first rfl, by rintro before _ ⟨⟩ _ ⟨⟩; exact before⟩

theorem isChain_flatMap (rows : ∀ item ∈ items, Row (pieces item) (cover item)) :
    (items.flatMap pieces).IsChain Before ↔ (items.map cover).IsChain Before := by
  have nonempty : [] ∉ items.map pieces := by
    intro member
    rcases List.mem_map.mp member with ⟨item, inside, empty⟩
    exact (rows item inside).ne_nil empty
  have inside : ∀ part ∈ items.map pieces, part.IsChain Before := by
    intro part member
    rcases List.mem_map.mp member with ⟨item, inside, rfl⟩
    exact (rows item inside).inOrder
  rw [List.flatMap_def, List.isChain_flatten nonempty, and_iff_right inside,
    List.isChain_map, List.isChain_map]
  exact List.IsChain.iff_of_mem_imp fun item next member memberNext =>
    before_iff (rows item member) (rows next memberNext)

/-- The pieces of the parts of a row are as good as the parts. -/
theorem flatMap (rows : ∀ item ∈ items, Row (pieces item) (cover item)) :
    Row (items.flatMap pieces) whole ↔ Row (items.map cover) whole := by
  constructor
  · rintro ⟨inOrder, starts, ends⟩
    exact ⟨(isChain_flatMap rows).mp inOrder, head?_pieces rows ▸ starts,
      getLast?_pieces rows ▸ ends⟩
  · rintro ⟨inOrder, starts, ends⟩
    exact ⟨(isChain_flatMap rows).mpr inOrder, (head?_pieces rows).trans starts,
      (getLast?_pieces rows).trans ends⟩

end Row

/-- Two proper spans in a row, merged. -/
theorem merge_eq {span next : Span} (proper : span.Proper) (properNext : next.Proper)
    (before : span.Before next) : span.merge next = ⟨span.start, next.stop⟩ := by
  unfold Proper Before at *
  unfold merge
  rw [Nat.min_eq_left (by omega), Nat.max_eq_right (by omega)]

/-- Proper spans in a row are merged into what they cover.  By induction on the row. -/
theorem row_merge {span : Span} {rest : List Span} (inOrder : (span :: rest).IsChain Before)
    (each : ∀ other ∈ span :: rest, other.Proper) :
    Row (span :: rest) (rest.foldl merge span) := by
  induction rest generalizing span with
  | nil => exact .singleton span
  | cons next rest inductionHypothesis =>
      rcases List.isChain_cons_cons.mp inOrder with ⟨before, behind⟩
      simp only [List.forall_mem_cons] at each
      rcases each with ⟨proper, properNext, further⟩
      have both : (⟨span.start, next.stop⟩ : Span).Proper :=
        Nat.le_trans proper (Nat.le_trans before properNext)
      have inOrderBoth : ((⟨span.start, next.stop⟩ : Span) :: rest).IsChain Before :=
        behind.imp_head fun {other} (before : next.Before other) =>
          show (⟨span.start, next.stop⟩ : Span).Before other from before
      have merged := inductionHypothesis inOrderBoth (List.forall_mem_cons.mpr ⟨both, further⟩)
      rw [List.foldl_cons, merge_eq proper properNext before]
      refine ⟨inOrder, merged.starts, ?_⟩
      rw [← merged.ends, List.getLast?_cons_cons]
      cases rest with
      | nil => rfl
      | cons other rest => rw [List.getLast?_cons_cons, List.getLast?_cons_cons]

/-! ## How far spans reach -/

/-- The furthest end of some spans. -/
structure Reach (spans : List Span) (furthest : Nat) : Prop where
  within : ∀ span ∈ spans, span.stop ≤ furthest
  reached : ∃ span ∈ spans, span.stop = furthest

namespace Reach

variable {spans : List Span} {furthest other : Nat}

theorem unique (reach : Reach spans furthest) (same : Reach spans other) : furthest = other := by
  rcases reach.reached with ⟨span, member, stop⟩
  rcases same.reached with ⟨another, memberAnother, stopAnother⟩
  have := reach.within another memberAnother
  have := same.within span member
  omega

end Reach

/-- Merged spans reach as far as the furthest of them.  By induction on the list. -/
theorem reach_merge (span : Span) (rest : List Span) :
    Reach (span :: rest) (rest.foldl merge span).stop := by
  induction rest generalizing span with
  | nil => exact ⟨List.forall_mem_singleton.mpr (Nat.le_refl _), span, List.mem_cons_self, rfl⟩
  | cons next rest inductionHypothesis =>
      rcases inductionHypothesis (span.merge next) with ⟨within, reached⟩
      simp only [List.forall_mem_cons, List.exists_mem_cons_iff] at within reached
      have both : (span.merge next).stop = max span.stop next.stop := rfl
      rw [List.foldl_cons]
      constructor
      · simp only [List.forall_mem_cons]
        exact ⟨by omega, by omega, within.2⟩
      · simp only [List.exists_mem_cons_iff]
        rcases reached with here | further
        · rcases Nat.le_total span.stop next.stop with less | more
          · exact .inr (.inl (by omega))
          · exact .inl (by omega)
        · exact .inr (.inr further)

/-! ## Spans together -/

/-- A span begins where the first of some spans begins and ends where the furthest of them
ends.  Without spans it is empty at zero. -/
structure Union (spans : List Span) (whole : Span) : Prop where
  within : ∀ span ∈ spans, whole.start ≤ span.start ∧ span.stop ≤ whole.stop
  starts : spans ≠ [] → ∃ span ∈ spans, span.start = whole.start
  ends : spans ≠ [] → ∃ span ∈ spans, span.stop = whole.stop
  nothing : spans = [] → whole = .empty 0

/-- Merged spans begin where the first of them begins.  By induction on the list. -/
theorem start_merge (span : Span) (rest : List Span) :
    (∀ other ∈ span :: rest, (rest.foldl merge span).start ≤ other.start) ∧
      ∃ other ∈ span :: rest, other.start = (rest.foldl merge span).start := by
  induction rest generalizing span with
  | nil => exact ⟨List.forall_mem_singleton.mpr (Nat.le_refl _), span, List.mem_cons_self, rfl⟩
  | cons next rest inductionHypothesis =>
      rcases inductionHypothesis (span.merge next) with ⟨within, reached⟩
      simp only [List.forall_mem_cons, List.exists_mem_cons_iff] at within reached ⊢
      have both : (span.merge next).start = min span.start next.start := rfl
      rw [List.foldl_cons]
      refine ⟨⟨by omega, by omega, within.2⟩, ?_⟩
      rcases reached with here | further
      · rcases Nat.le_total span.start next.start with less | more
        · exact .inl (by omega)
        · exact .inr (.inl (by omega))
      · exact .inr (.inr further)

namespace Union

variable {spans : List Span} {whole : Span}

theorem reach (union : Union spans whole) (some : spans ≠ []) : Reach spans whole.stop :=
  ⟨fun span member => (union.within span member).2, union.ends some⟩

/-- Where every part is its pieces together, the whole is all pieces together. -/
theorem flatMap {Item : Type} {items : List Item} {pieces : Item → List Span}
    {cover : Item → Span}
    (each : ∀ item ∈ items, pieces item ≠ [] ∧ Union (pieces item) (cover item))
    (union : Union (items.map cover) whole) : Union (items.flatMap pieces) whole := by
  have filled : items.flatMap pieces ≠ [] → items.map cover ≠ [] := by
    intro some none
    rw [List.map_eq_nil_iff.mp none] at some
    exact some rfl
  constructor
  · intro span member
    rcases List.mem_flatMap.mp member with ⟨item, inside, piece⟩
    have part := (each item inside).2.within span piece
    have around := union.within _ (List.mem_map_of_mem inside)
    exact ⟨Nat.le_trans around.1 part.1, Nat.le_trans part.2 around.2⟩
  · intro some
    rcases union.starts (filled some) with ⟨_, member, start⟩
    rcases List.mem_map.mp member with ⟨item, inside, rfl⟩
    rcases (each item inside).2.starts (each item inside).1 with ⟨span, piece, same⟩
    exact ⟨span, List.mem_flatMap.mpr ⟨item, inside, piece⟩, same.trans start⟩
  · intro some
    rcases union.ends (filled some) with ⟨_, member, stop⟩
    rcases List.mem_map.mp member with ⟨item, inside, rfl⟩
    rcases (each item inside).2.ends (each item inside).1 with ⟨span, piece, same⟩
    exact ⟨span, List.mem_flatMap.mpr ⟨item, inside, piece⟩, same.trans stop⟩
  · intro none
    refine union.nothing (List.map_eq_nil_iff.mpr ?_)
    refine List.eq_nil_iff_forall_not_mem.mpr fun item inside => ?_
    exact (each item inside).1 (List.flatMap_eq_nil_iff.mp none item inside)

end Union

theorem union_merge (span : Span) (rest : List Span) :
    Union (span :: rest) (rest.foldl merge span) where
  within other member :=
    ⟨(start_merge span rest).1 other member, (reach_merge span rest).within other member⟩
  starts _ := (start_merge span rest).2
  ends _ := (reach_merge span rest).reached
  nothing := nofun

end Span
end Offside
