import Offside.Grammar.Lookahead
import Offside.Proofs.Nesting

namespace Offside

/-!
# Looking behind a group

The parser finds the end of a group by counting brackets.  The count ignores
blocks and strings and does not compare the shapes of brackets, so it can only be
trusted in a stream that is nested: there every bracket that opens somewhere is
closed further on, and looking behind its group always has an answer.

The count is the number of groups on the stack of a reading, measured from the
group at which it began.  As looking behind a group is the only way in which looking
ahead can fail, every ambiguity of the grammar is settled in a nested stream.
-/

theorem TokenKind.isCloser_of_isOpener {kind : TokenKind} (opener : kind.isOpener = true) :
    kind.isCloser = false := by
  cases kind with
  | punctuation mark => cases mark <;> first | rfl | cases opener
  | _ => cases opener

namespace Nesting

/-- The number of groups among some delimiters. -/
def groupCount (stack : List Delimiter) : Nat := stack.countP Delimiter.isGroup

theorem isGroup_loosen (delimiter : Delimiter) :
    delimiter.loosen.isGroup = delimiter.isGroup := by
  cases delimiter <;> rfl

/-- Only brackets change the number of open groups. -/
theorem groupCount_step {stack after : List Delimiter} {kind : TokenKind}
    (stepped : loose.step stack kind = some after) :
    groupCount after + (if kind.isCloser then 1 else 0) =
      groupCount stack + (if kind.isOpener then 1 else 0) := by
  cases opens : kind.opens? with
  | some opened =>
      rw [step_of_opens _ opens] at stepped
      cases stepped
      have counted : opened.isGroup = kind.isOpener ∧ kind.isCloser = false := by
        cases kind with
        | punctuation mark => cases mark <;> cases opens <;> exact ⟨rfl, rfl⟩
        | _ => cases opens <;> exact ⟨rfl, rfl⟩
      simp only [groupCount, List.countP_cons, loose, isGroup_loosen, counted.1, counted.2]
      simp
  | none =>
      have noOpener : kind.isOpener = false := by
        cases kind with
        | punctuation mark => cases mark <;> first | rfl | cases opens
        | _ => rfl
      cases closes : kind.closes? with
      | none =>
          have inert : kind.isInert = true := by
            unfold TokenKind.isInert
            rw [opens, closes]
            rfl
          have noCloser : kind.isCloser = false := by
            cases kind with
            | punctuation mark => cases mark <;> first | rfl | cases closes
            | _ => rfl
          rw [step_of_inert _ inert] at stepped
          cases stepped
          rw [noOpener, noCloser]
      | some closed =>
          have counted : closed.isGroup = kind.isCloser := by
            cases kind with
            | punctuation mark => cases mark <;> cases closes <;> rfl
            | _ => cases closes <;> rfl
          have shrunk : stack = loose.view closed :: after := by
            unfold step at stepped
            rw [opens, closes] at stepped
            cases stack with
            | nil => cases stepped
            | cons top outer =>
                dsimp only at stepped
                split at stepped
                · rename_i same
                  cases stepped
                  rw [same]
                · cases stepped
          subst shrunk
          simp only [groupCount, List.countP_cons, loose, isGroup_loosen, counted, noOpener]
          simp

end Nesting

namespace TokenStream

theorem tokenAt_of_lt (stream : TokenStream) {position : Nat}
    (inside : position < stream.body.size) :
    stream.tokenAt position = stream.body[position] := by
  simp [tokenAt, Array.getD, inside]

/-- The kinds of the tokens before the last one, from a position on. -/
def kindsFrom (stream : TokenStream) (position : Nat) : List TokenKind :=
  (stream.body.toList.drop position).map Token.kind

theorem kindsFrom_eq_cons (stream : TokenStream) {position : Nat}
    (inside : position < stream.body.size) :
    stream.kindsFrom position =
      (stream.tokenAt position).kind :: stream.kindsFrom (position + 1) := by
  unfold kindsFrom
  rw [stream.tokenAt_of_lt inside, List.drop_eq_getElem_cons (by simpa using inside), List.map_cons,
    Array.getElem_toList]

theorem kindsFrom_of_size_le (stream : TokenStream) {position : Nat}
    (beyond : stream.body.size ≤ position) : stream.kindsFrom position = [] := by
  unfold kindsFrom
  rw [List.drop_eq_nil_of_le (by simpa using beyond), List.map_nil]

/-- No token in front of the last one ends the source. -/
def EndsOnce (stream : TokenStream) : Prop :=
  ∀ token ∈ stream.body, token.kind ≠ .endOfFile

theorem EndsOnce.kind_ne {stream : TokenStream} (endsOnce : stream.EndsOnce) {position : Nat}
    (inside : position < stream.body.size) :
    (stream.tokenAt position).kind ≠ .endOfFile := by
  rw [stream.tokenAt_of_lt inside]
  exact endsOnce _ (Array.getElem_mem inside)

/-- Looking behind a group that opens in the stream has an answer. -/
def GroupsClose (stream : TokenStream) : Prop :=
  ∀ position, (stream.tokenAt position).kind.isOpener = true →
    (stream.matchingClose? position).isSome = true

/-- With some groups open that are closed further on, the count comes down to
zero.  The induction is on the tokens that are left; a reading which ends with
fewer groups than are open now has to meet their closing brackets. -/
theorem closeFrom_isSome {stream : TokenStream} (endsOnce : stream.EndsOnce)
    {final : List Delimiter} (left : Nat) :
    ∀ {position depth : Nat} {stack : List Delimiter},
      stream.body.size - position = left →
      Nesting.loose.read stack (stream.kindsFrom position) = some final →
      0 < depth → Nesting.groupCount final + depth ≤ Nesting.groupCount stack →
      (stream.closeFrom depth position).isSome = true := by
  induction left with
  | zero =>
      intro position depth stack measured nested positive enough
      rw [stream.kindsFrom_of_size_le (by omega)] at nested
      cases nested
      omega
  | succ left inductionHypothesis =>
      intro position depth stack measured nested positive enough
      have inside : position < stream.body.size := by omega
      rw [stream.kindsFrom_eq_cons inside, Nesting.read_cons] at nested
      rcases Option.bind_eq_some_iff.mp nested with ⟨inner, stepped, rest⟩
      have counted := Nesting.groupCount_step stepped
      have goOn := fun depth => @inductionHypothesis (position + 1) depth inner (by omega) rest
      unfold closeFrom
      dsimp only
      rw [if_pos inside, if_neg (endsOnce.kind_ne inside)]
      by_cases opener : (stream.tokenAt position).kind.isOpener = true
      · rw [if_pos opener, if_neg (by omega)]
        rw [if_pos opener, TokenKind.isCloser_of_isOpener opener] at counted
        simp only [Bool.false_eq_true, if_false] at counted
        exact goOn (depth + 1) (by omega) (by omega)
      · rw [if_neg opener]
        rw [if_neg opener] at counted
        by_cases closer : (stream.tokenAt position).kind.isCloser = true
        · rw [if_pos closer] at counted ⊢
          by_cases last : depth - 1 = 0
          · rw [if_pos last]
            rfl
          · rw [if_neg last]
            exact goOn (depth - 1) (by omega) (by omega)
        · rw [if_neg closer] at counted ⊢
          rw [if_neg (by omega)]
          exact goOn depth positive (by omega)

/-- In a nested stream every group is closed. -/
theorem groupsClose_of_nested {stream : TokenStream} (endsOnce : stream.EndsOnce)
    (nested : Nesting.loose.read [] (stream.kindsFrom 0) = some []) : stream.GroupsClose := by
  intro position opener
  have inside : position < stream.body.size := by
    rcases Nat.lt_or_ge position stream.body.size with inside | beyond
    · exact inside
    · rw [stream.tokenAt_of_size_le position beyond, stream.ending_kind] at opener
      cases opener
  have split : stream.kindsFrom 0 =
      (stream.body.toList.take position).map Token.kind ++ stream.kindsFrom position := by
    unfold kindsFrom
    rw [← List.map_append, List.drop_zero, List.take_append_drop]
  rw [split, Nesting.read_append] at nested
  rcases Option.bind_eq_some_iff.mp nested with ⟨stack, before, after⟩
  rw [stream.kindsFrom_eq_cons inside, Nesting.read_cons] at after
  rcases Option.bind_eq_some_iff.mp after with ⟨inner, stepped, rest⟩
  have counted := Nesting.groupCount_step stepped
  rw [if_pos opener, TokenKind.isCloser_of_isOpener opener] at counted
  simp only [Bool.false_eq_true, if_false] at counted
  unfold matchingClose?
  rw [if_pos opener]
  unfold closeFrom
  dsimp only
  rw [if_pos inside, if_neg (endsOnce.kind_ne inside), if_pos opener, if_neg (by omega)]
  apply closeFrom_isSome endsOnce _ rfl rest (by omega)
  have none : Nesting.groupCount [] = 0 := rfl
  omega

/-! ## Settling ambiguities -/

theorem GroupsClose.isSome_map_kindAfterGroup? {stream : TokenStream}
    (close : stream.GroupsClose) {offset : Nat}
    (opener : (stream.kindAhead offset).isMark .leftParen = true) (test : TokenKind → Bool) :
    ((stream.kindAfterGroup? offset).map test).isSome = true := by
  have kind : (stream.tokenAt (stream.position + offset)).kind = .punctuation .leftParen :=
    beq_iff_eq.mp opener
  have answered := close (stream.position + offset) (by rw [kind]; rfl)
  unfold kindAfterGroup?
  rw [Option.isSome_map, Option.isSome_map]
  exact answered

theorem GroupsClose.bindingAhead?_isSome {stream : TokenStream}
    (close : stream.GroupsClose) : stream.bindingAhead?.isSome = true := by
  unfold bindingAhead?
  split
  · rfl
  · split
    · rename_i opener
      exact close.isSome_map_kindAfterGroup? opener _
    · rfl

theorem GroupsClose.groupedConditionAhead?_isSome {stream : TokenStream}
    (close : stream.GroupsClose) : stream.groupedConditionAhead?.isSome = true := by
  unfold groupedConditionAhead?
  split
  · rename_i opener
    exact close.isSome_map_kindAfterGroup? opener _
  · rfl

theorem GroupsClose.forLetAhead?_isSome {stream : TokenStream}
    (close : stream.GroupsClose) : stream.forLetAhead?.isSome = true := by
  unfold forLetAhead?
  dsimp only
  split
  · rfl
  · split
    · rename_i opener
      exact close.isSome_map_kindAfterGroup? opener _
    · rfl

theorem GroupsClose.fatArrowAfterParameters?_isSome {stream : TokenStream}
    (close : stream.GroupsClose) (offset : Nat) :
    (stream.fatArrowAfterParameters? offset).isSome = true := by
  unfold fatArrowAfterParameters?
  dsimp only
  split
  · rfl
  · split
    · rfl
    · split
      · rename_i opener
        exact close.isSome_map_kindAfterGroup? opener _
      · rfl

/-- Where every group is closed, looking ahead settles every ambiguity.  A tuple
type is only told from parameters in front of a round bracket. -/
theorem GroupsClose.resolve_isSome {stream : TokenStream} (close : stream.GroupsClose)
    (previous : Option NodeKind) (ambiguity : Ambiguity)
    (atGroup : ambiguity = .tupleOrParameterTypes → stream.isAtMark .leftParen = true) :
    (stream.resolve previous ambiguity).isSome = true := by
  cases ambiguity with
  | bindingOrExpression => exact close.bindingAhead?_isSome
  | tupleOrParameterTypes => exact close.isSome_map_kindAfterGroup? (atGroup rfl) _
  | whileHeader => exact close.groupedConditionAhead?_isSome
  | typeOrValuePath => rfl
  | instanceBody => rfl
  | moduleBody => rfl
  | colonCallOrAscription => exact close.fatArrowAfterParameters?_isSome 1
  | caseBlockOrBlock => rfl
  | forLetOrComprehension => exact close.forLetAhead?_isSome
  | bodySequence => rfl

end TokenStream
end Offside
