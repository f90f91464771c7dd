import Offside.Proofs.Format.Kinds
import Offside.Proofs.Format.Seats
import Offside.Proofs.Lexing.Statements

namespace Offside

/-!
# Levels of indentation

A reader of a formatted source comes to the front of a line only where a piece begins it, and
there it stands as far to the right as the level of the piece says.  So every token that begins
a line of a formatted source stands in the column of its level, which can be told from the tokens
in front of it.
-/

/-- Where a token stands behind some others, if it begins a line or is the first of all: in the
column of the level that is arranged for it. -/
def Token.OnLevel (tabWidth : Nat) (text : String) (width : Nat) (front : List Token)
    (token : Token) : Prop :=
  token.kind.isReal = true →
  token.beginsLine text = true ∨ (∀ other ∈ front, other.kind.isReal = false) →
  ∃ arrangement, Arrangement.Behind (front.map Token.kind) arrangement ∧
    token.column tabWidth text = (arrangement.inside token.kind).level * width

/-- Every one of some tokens that begins a line is on its level. -/
def AllOnLevel (tabWidth : Nat) (text : String) (width : Nat) (tokens : List Token) : Prop :=
  ∀ front token back, tokens = front ++ token :: back →
    token.OnLevel tabWidth text width front

namespace AllOnLevel

variable {tabWidth width : Nat} {text : String} {tokens new : List Token} {token : Token}

theorem nil : AllOnLevel tabWidth text width [] := by
  intro front token back split
  exact absurd split.symm (List.append_ne_nil_of_right_ne_nil _ (List.cons_ne_nil _ _))

theorem concat (onLevel : AllOnLevel tabWidth text width tokens)
    (last : token.OnLevel tabWidth text width tokens) :
    AllOnLevel tabWidth text width (tokens ++ [token]) := by
  intro front other back split
  rcases split_concat split with ⟨inner, -, before⟩ | ⟨-, rfl, rfl⟩
  · exact onLevel front other inner before
  · exact last

/-- Tokens without a text are of no account. -/
theorem append_marks (onLevel : AllOnLevel tabWidth text width tokens)
    (noReal : ∀ mark ∈ new, mark.kind.isReal = false) :
    AllOnLevel tabWidth text width (tokens ++ new) := by
  intro front mark back split real
  rcases split_append split with ⟨inner, -, before⟩ | ⟨inner, -, behind⟩
  · exact onLevel front mark inner before real
  · rw [noReal mark (by rw [behind]; simp)] at real
    cases real

/-- Tokens that are glued to others begin no line. -/
theorem append_glued (onLevel : AllOnLevel tabWidth text width tokens)
    (some : ∃ other ∈ tokens, other.kind.isReal = true)
    (glued : ∀ token ∈ new, token.leading = []) :
    AllOnLevel tabWidth text width (tokens ++ new) := by
  intro front token back split real leads
  rcases split_append split with ⟨inner, -, before⟩ | ⟨inner, rfl, behind⟩
  · exact onLevel front token inner before real leads
  · exfalso
    rcases leads with begins | first
    · rw [beginsLine_of_glued (glued token (by rw [behind]; simp))] at begins
      cases begins
    · rcases some with ⟨other, among, realThere⟩
      rw [first other (List.mem_append_left _ among)] at realThere
      cases realThere

end AllOnLevel

theorem Arrangement.Behind.isReal_previous {kinds : List TokenKind} {arrangement : Arrangement}
    (behind : Behind kinds arrangement) : ∀ kind ∈ arrangement.previous, kind.isReal = true := by
  induction behind with
  | start => exact nofun
  | @pass _ _ kind behind noReal inductionHypothesis =>
      cases kind <;> exact inductionHypothesis
  | place behind real newlineBehind =>
      intro kind same
      cases same
      exact real

namespace Reader

variable {reader other ready : Reader} {tabWidth width : Nat} {text : String}
  {arrangement : Arrangement} {begins : Token → Bool}

/-- A silent reader of which every token is on its level. -/
structure Levelled [XidStart] (tabWidth width : Nat) (text : String) (reader : Reader) : Prop where
  aligned : reader.Aligned tabWidth text
  silent : reader.Silent
  onLevel : AllOnLevel tabWidth text width reader.tokens.toList

theorem iterate_aligned [XidStart] (aligned : reader.Aligned tabWidth text) (silent : reader.Silent)
    (count : Nat) : (step^[count] reader).Aligned tabWidth text ∧ (step^[count] reader).Silent := by
  induction count generalizing reader with
  | zero => exact ⟨aligned, silent⟩
  | succ count inductionHypothesis =>
      by_cases read : reader.rest = []
      · rw [Function.iterate_succ_apply, step_of_read read]
        exact inductionHypothesis aligned silent
      · exact inductionHypothesis (aligned.step silent read) (silent.step read)

theorem exists_real (last : ∀ kind ∈ reader.kinds.getLast?, kind.isReal = true)
    (some : reader.tokens.toList ≠ []) :
    ∃ token ∈ reader.tokens.toList, token.kind.isReal = true := by
  have ends := List.getLast?_eq_some_getLast some
  refine ⟨_, List.getLast_mem some, last _ ?_⟩
  unfold kinds
  rw [List.getLast?_map, ends]
  rfl

/-- What is found on the way to the next token of the source is on its level. -/
theorem Regains.levelled [XidStart] (regains : other.Regains width arrangement ready)
    (behind : Arrangement.Behind other.kinds arrangement)
    (last : ∀ kind ∈ other.kinds.getLast?, kind.isReal = true)
    (levelled : other.Levelled tabWidth width text) : ready.Levelled tabWidth width text := by
  cases regains with
  | stays => exact levelled
  | @token middle c rest kind inserted skips code unread found kinds column =>
      have unreadStill : middle.rest ≠ [] := by
        rw [unread]
        exact List.cons_ne_nil _ _
      rcases skips.steps with ⟨count, same⟩
      have went := iterate_aligned levelled.aligned levelled.silent count
      rw [← same] at went
      rcases went with ⟨aligned, silent⟩
      refine ⟨aligned.step silent unreadStill, silent.step unreadStill, ?_⟩
      rcases step_inserts silent code unread found with
        ⟨marks, own, beyond, taken, tokens, layout, _⟩
      have faces := aligned.faces code taken kind
      have marked : marks.map Token.kind = inserted := by
        have both := (kinds_of_marks tokens).symm.trans kinds
        exact List.append_cancel_right (List.append_cancel_left both)
      rw [skips.tokens] at tokens
      rw [tokens]
      refine (levelled.onLevel.append_marks fun mark member =>
        TokenKind.isReal_of_isLayout (layout mark member)).concat fun _ leads => ?_
      have begin : middle.atLineStart = true := by
        rw [faces.line, skips.tokens, Bool.or_eq_true, List.isEmpty_iff]
        refine leads.imp_right fun none => ?_
        by_contra some
        rcases exists_real last some with ⟨other, among, real⟩
        rw [none other (List.mem_append_left _ among)] at real
        cases real
      refine ⟨arrangement.through inserted, ?_, faces.column.trans (column begin)⟩
      rw [List.map_append, marked]
      exact behind.through fun kind member => by
        rw [← marked] at member
        rcases List.mem_map.mp member with ⟨mark, among, rfl⟩
        exact layout mark among
  | piece inString unread =>
      rcases Frame.exists_of_inString inString with ⟨quote, opened, outer, frames⟩
      rcases takesPiece_of_silent levelled.silent frames with ⟨_, whole, new, takes⟩
      rcases levelled.aligned.inString inString with ⟨noTrivia, some⟩
      refine ⟨levelled.aligned.step levelled.silent unread, levelled.silent.step unread, ?_⟩
      rw [takes.tokens]
      exact levelled.onLevel.append_glued (exists_real last some) (takes.leading noTrivia)

/-- Where a reader is retraced, every token of the formatted source is on its level. -/
theorem Retraces.finish_levels [XidStart] (positive : 0 < width)
    (retraces : Retraces width begins arrangement reader other) (readable : reader.Readable)
    (repeatable : Repeatable width begins reader.run.finish.tokens)
    (levelled : other.Levelled tabWidth width text) :
    AllOnLevel tabWidth text width other.run.finish.tokens := by
  fun_induction Reader.run reader generalizing other arrangement with
  | case1 reader atEnd =>
      rcases retraces.ends readable (List.isEmpty_iff.mp atEnd) with ⟨ended, skips, read⟩
      have silent : ended.Silent := by
        unfold Silent
        rw [← skips.run]
        exact levelled.silent
      have whole := tokens_append_ahead ended
      rw [← skips.run, skips.tokens] at whole
      rw [whole]
      refine levelled.onLevel.append_marks fun mark member => ?_
      have kinds := List.mem_map_of_mem (f := Token.kind) member
      rw [ahead_of_read silent read] at kinds
      rcases List.mem_append.mp kinds with outdent | ending
      · rw [List.eq_of_mem_replicate outdent]
        rfl
      · rw [List.mem_singleton.mp ending]
        rfl
  | case2 reader unread inductionHypothesis =>
      have unreadStill : reader.rest ≠ [] := fun read => unread (List.isEmpty_iff.mpr read)
      rcases retraces.step positive readable
          (by rw [run_of_unread unreadStill]; exact repeatable) unreadStill with
        ⟨behind, ready, retracesStill, regains⟩
      have behindThere := retraces.behind
      rw [← retraces.follows.kinds] at behindThere
      have last : ∀ kind ∈ other.kinds.getLast?, kind.isReal = true := by
        rw [retraces.follows.kinds, ← retraces.follows.previous]
        exact retraces.behind.isReal_previous
      rw [regains.run]
      exact inductionHypothesis retracesStill (readable.step unreadStill) repeatable
        (regains.levelled behindThere last levelled)

end Reader

end Offside
