import Offside.Parsed
import Offside.Proofs.Lexing.Parallel
import Offside.Proofs.Grammar.Outlook
import Offside.Proofs.Lexing.Transfer
import Offside.Proofs.Parsing.Recovery
import Offside.Proofs.Tree.Map

namespace Offside

/-!
# The same parse of other tokens

The tokens of a stream may stand once more in another stream: at the end of another
source, or with other spans and other trivia.  Where a parse of the one stream and a parse
of the other one see the same, they take the same steps: their trees have the same
outline, and what they report is the same in places that belong to each other.

In front of the first token they may see different things, when its trivia differ or when
there are other tokens behind it.  Then a parse has to have taken that token before
anything is said here.
-/

/-- How much two streams with tokens of the same kinds have in common. -/
structure Likeness where
  /-- The position from which on the streams look alike. -/
  onset : Nat
  onset_le : onset ≤ 1
  /-- How the places of a token in the two sources belong to each other. -/
  places : Span → Span → Prop

namespace Likeness

/-- The tokens stand further on.  The first of them may have other trivia in front of it
and other tokens behind it. -/
abbrev moved (distance : Nat) : Likeness :=
  ⟨1, Nat.le_refl 1, fun span there => there = span.moved distance⟩

/-- The tokens may stand anywhere, but from the first one on the streams look alike. -/
abbrev throughout : Likeness := ⟨0, Nat.zero_le 1, fun _ _ => True⟩

end Likeness

/-- Two failures that are the same, in places that belong to each other. -/
structure Failure.Agrees (likeness : Likeness) (failure other : Failure) : Prop where
  fault : other.fault = failure.fault
  reported : other.reported = failure.reported
  places : likeness.places failure.span other.span

/-- Two diagnostics that are the same, in places that belong to each other. -/
structure Diagnostic.Agrees (likeness : Likeness) (diagnostic other : Diagnostic) : Prop where
  fault : other.fault = diagnostic.fault
  hints : other.hints = diagnostic.hints
  places : likeness.places diagnostic.span other.span

/-- The same reports in the same order, in places that belong to each other. -/
def Likeness.Reports (likeness : Likeness) (diagnostics others : Array Diagnostic) : Prop :=
  List.Forall₂ (Diagnostic.Agrees likeness) diagnostics.toList others.toList

namespace Likeness.Reports

variable {likeness : Likeness} {diagnostics others : Array Diagnostic}

/-- One report more on both sides. -/
theorem push {diagnostic other : Diagnostic} (reports : likeness.Reports diagnostics others)
    (agrees : diagnostic.Agrees likeness other) :
    likeness.Reports (diagnostics.push diagnostic) (others.push other) := by
  unfold Reports
  rw [Array.toList_push, Array.toList_push]
  exact List.rel_append reports (.cons agrees .nil)

/-- The reports of tokens that stand further on. -/
theorem eq_moved {distance : Nat} (reports : (Likeness.moved distance).Reports diagnostics others) :
    others.toList = diagnostics.toList.map (Diagnostic.moved distance) := by
  refine (List.map_id _).symm.trans (map_eq_of_forall₂ reports ?_)
  rintro diagnostic ⟨_, _, _⟩ ⟨rfl, rfl, rfl⟩
  rfl

end Likeness.Reports

namespace TokenStream

/-- The tokens of a stream stand once more in another stream, from a position on. -/
structure Reappears (stream other : TokenStream) (start : Nat) (likeness : Likeness) :
    Prop where
  size : other.body.size = start + stream.body.size
  /-- Only where nothing is in front of the tokens the streams look alike at once. -/
  front : likeness.onset = 0 → start = 0
  kinds : ∀ position,
    (stream.tokenAt position).kind = (other.tokenAt (start + position)).kind
  spans : ∀ position,
    likeness.places (stream.tokenAt position).span (other.tokenAt (start + position)).span
  ends : ∀ position, likeness.onset ≤ position →
    likeness.places (.empty (stream.moveTo position).previousEnd)
      (.empty (other.moveTo (start + position)).previousEnd)
  newlines : ∀ position, likeness.onset ≤ position →
    (stream.tokenAt position).hasNewlineBefore =
      (other.tokenAt (start + position)).hasNewlineBefore
  glued : ∀ position, likeness.onset ≤ position →
    (stream.tokenAt position).kind.isIdentifier = true →
    ((stream.tokenAt (position + 1)).kind.isPlainString ||
      (stream.tokenAt (position + 1)).kind.isStringStart) = true →
    (stream.tokenAt (position + 1)).hasTriviaBefore =
      (other.tokenAt (start + (position + 1))).hasTriviaBefore

theorem previous?_moveTo {stream : TokenStream} {position : Nat} (behind : 0 < position) :
    (stream.moveTo position).previous? = some (stream.tokenAt (position - 1)) :=
  if_neg (Nat.ne_of_gt behind)

namespace Reappears

variable {stream other : TokenStream} {start position : Nat} {likeness : Likeness}

theorem kind (reappears : stream.Reappears other start likeness) (position : Nat) :
    (other.moveTo (start + position)).kind = (stream.moveTo position).kind :=
  (reappears.kinds position).symm

theorem span (reappears : stream.Reappears other start likeness) (position : Nat) :
    likeness.places (stream.moveTo position).current.span
      (other.moveTo (start + position)).current.span :=
  reappears.spans position

theorem sameKinds (reappears : stream.Reappears other start likeness) (position : Nat) :
    (stream.moveTo position).SameKinds (other.moveTo (start + position)) where
  size := by
    have size := reappears.size
    simp only [body_moveTo, position_moveTo]
    omega
  kinds := by
    intro offset
    have kinds := reappears.kinds (position + offset)
    rw [← Nat.add_assoc] at kinds
    exact kinds

/-- From the onset on the streams look alike. -/
theorem alike (reappears : stream.Reappears other start likeness)
    (begun : likeness.onset ≤ position) :
    (stream.moveTo position).Alike (other.moveTo (start + position)) where
  toSameKinds := reappears.sameKinds position
  newline := reappears.newlines position begun
  glued := reappears.glued position begun
  previous := by
    rcases Nat.eq_zero_or_pos position with first | behind
    · have nothing : start = 0 := reappears.front (by omega)
      rw [first, nothing]
      rfl
    · have kinds := reappears.kinds (position - 1)
      have same : start + position - 1 = start + (position - 1) := by omega
      rw [previous?_moveTo behind, previous?_moveTo (by omega), same]
      exact congrArg (· == TokenKind.outdent) kinds

end Reappears
end TokenStream

open TokenStream (Reappears)

/-! ## Two parses -/

namespace Progress

theorem stream_reportFailure (progress : Progress) (failure : Failure) :
    (progress.reportFailure failure).stream = progress.stream := by
  unfold reportFailure
  split <;> rfl

theorem position_take_le (progress : Progress) :
    progress.stream.position ≤ progress.take.stream.position := by
  show _ ≤ progress.stream.advance.position
  unfold TokenStream.advance
  split
  · exact Nat.le_refl _
  · exact Nat.le_succ _

theorem isEmpty_eq {first second : Builder} (outline : second.outline = first.outline) :
    second.isEmpty = first.isEmpty := by
  rw [← Builder.isEmpty_outline, outline, Builder.isEmpty_outline]

/-- The kinds of children can be read off their outlines. -/
theorem firstKind?_eq {first second : Progress}
    (outline : second.builder.outline = first.builder.outline) :
    second.firstKind? = first.firstKind? := by
  have shown : ∀ progress : Progress, progress.firstKind? =
      (progress.builder.outline.children[0]?.bind Element.node?).map Node.kind := by
    intro progress
    unfold firstKind? Builder.outline
    rw [Array.getElem?_map, Option.bind_map, Option.map_bind, Option.map_bind]
    congr 1
    funext child
    cases child <;> simp [Element.outline, Element.node?]
  rw [shown, shown, outline]

theorem lastKind?_eq {first second : Progress}
    (outline : second.builder.outline = first.builder.outline) :
    second.lastKind? = first.lastKind? := by
  have shown : ∀ progress : Progress, progress.lastKind? =
      (progress.builder.outline.children.back?.bind Element.node?).map Node.kind := by
    intro progress
    unfold lastKind? Builder.outline
    rw [Array.back?_map, Option.bind_map, Option.map_bind, Option.map_bind]
    congr 1
    funext child
    cases child <;> simp [Element.outline, Element.node?]
  rw [shown, shown, outline]

/-- Two parses have come equally far, one of them over a stream and the other one over
the same tokens in another stream. -/
structure Tracks (stream other : TokenStream) (start : Nat) (likeness : Likeness)
    (first second : Progress) : Prop where
  here : first.stream = stream.moveTo first.stream.position
  there : second.stream = other.moveTo (start + first.stream.position)
  depth : second.depth = first.depth
  outline : second.builder.outline = first.builder.outline
  reports : likeness.Reports first.diagnostics second.diagnostics

namespace Tracks

variable {stream other : TokenStream} {start : Nat} {likeness : Likeness}
  {first second : Progress}

theorem kind_eq (reappears : stream.Reappears other start likeness)
    (tracks : first.Tracks stream other start likeness second) :
    second.stream.kind = first.stream.kind := by
  rw [tracks.here, tracks.there]
  exact reappears.kind first.stream.position

theorem span_eq (reappears : stream.Reappears other start likeness)
    (tracks : first.Tracks stream other start likeness second) :
    likeness.places first.stream.current.span second.stream.current.span := by
  rw [tracks.here, tracks.there]
  exact reappears.span first.stream.position

theorem atEnd_eq (reappears : stream.Reappears other start likeness)
    (tracks : first.Tracks stream other start likeness second) :
    second.stream.atEnd = first.stream.atEnd :=
  congrArg (· == TokenKind.endOfFile) (tracks.kind_eq reappears)

theorem sameKinds (reappears : stream.Reappears other start likeness)
    (tracks : first.Tracks stream other start likeness second) :
    first.stream.SameKinds second.stream := by
  rw [tracks.here, tracks.there]
  exact reappears.sameKinds first.stream.position

theorem alike (reappears : stream.Reappears other start likeness)
    (tracks : first.Tracks stream other start likeness second)
    (begun : likeness.onset ≤ first.stream.position) : first.stream.Alike second.stream := by
  rw [tracks.here, tracks.there]
  exact reappears.alike begun

theorem remaining_eq (reappears : stream.Reappears other start likeness)
    (tracks : first.Tracks stream other start likeness second) :
    second.stream.remaining = first.stream.remaining := by
  have size := reappears.size
  rw [tracks.here, tracks.there]
  unfold TokenStream.remaining TokenStream.size
  simp only [TokenStream.body_moveTo, TokenStream.position_moveTo]
  omega

/-- A change that leaves the streams where they are. -/
theorem of_same (tracks : first.Tracks stream other start likeness second)
    {after last : Progress} (here : after.stream = first.stream)
    (there : last.stream = second.stream) (depth : last.depth = after.depth)
    (outline : last.builder.outline = after.builder.outline)
    (reports : likeness.Reports after.diagnostics last.diagnostics) :
    after.Tracks stream other start likeness last := by
  refine ⟨?_, ?_, depth, outline, reports⟩
  · rw [here]
    exact tracks.here
  · rw [here, there]
    exact tracks.there

/-- Taking a token. -/
theorem take (reappears : stream.Reappears other start likeness)
    (tracks : first.Tracks stream other start likeness second) :
    first.take.Tracks stream other start likeness second.take := by
  have builders : second.take.builder.outline = first.take.builder.outline := by
    have tokens : second.stream.current.outline = first.stream.current.outline :=
      congrArg (Token.bare · (.empty 0)) (tracks.kind_eq reappears)
    unfold Progress.take
    rw [Builder.outline_pushToken, Builder.outline_pushToken, tracks.outline, tokens]
  have ends := tracks.atEnd_eq reappears
  cases ended : first.stream.atEnd with
  | true =>
      rw [ended] at ends
      have stays : first.take.stream = first.stream := by
        show first.stream.advance = _
        unfold TokenStream.advance
        exact if_pos ended
      have staysThere : second.take.stream = second.stream := by
        show second.stream.advance = _
        unfold TokenStream.advance
        exact if_pos ends
      exact tracks.of_same stays staysThere tracks.depth builders tracks.reports
  | false =>
      rw [ended] at ends
      have moves : first.take.stream = first.stream.moveTo (first.stream.position + 1) :=
        TokenStream.advance_eq_moveTo ended
      have movesThere : second.take.stream =
          second.stream.moveTo (second.stream.position + 1) :=
        TokenStream.advance_eq_moveTo ends
      refine ⟨?_, ?_, tracks.depth, builders, tracks.reports⟩
      · rw [moves, tracks.here]
        rfl
      · rw [movesThere, moves, tracks.there]
        rfl

theorem openNode (tracks : first.Tracks stream other start likeness second)
    (kind : NodeKind) :
    (first.openNode kind).Tracks stream other start likeness (second.openNode kind) :=
  tracks.of_same rfl rfl tracks.depth rfl tracks.reports

/-- Closing a node in builders around it. -/
theorem closeNode {inner innerThere : Progress} {outer outerThere : Builder}
    (tracks : inner.Tracks stream other start likeness innerThere)
    (around : outerThere.outline = outer.outline) (part : Option FieldName) :
    (inner.closeNode outer part).Tracks stream other start likeness
      (innerThere.closeNode outerThere part) := by
  refine tracks.of_same rfl rfl tracks.depth ?_ tracks.reports
  have finished : innerThere.builder.finish.outline = inner.builder.finish.outline := by
    rw [Builder.outline_finish, Builder.outline_finish, tracks.outline]
  unfold Progress.closeNode
  cases part with
  | none =>
      dsimp only
      rw [Builder.outline_push, Builder.outline_push, around, finished]
  | some part =>
      dsimp only
      rw [Builder.outline_pushField, Builder.outline_pushField, around, finished]

theorem wrap (tracks : first.Tracks stream other start likeness second) (kind : NodeKind) :
    (first.wrap kind).Tracks stream other start likeness (second.wrap kind) := by
  refine tracks.of_same rfl rfl tracks.depth ?_ tracks.reports
  have inner : ({ second.builder with kind := kind } : Builder).outline =
      ({ first.builder with kind := kind } : Builder).outline :=
    congrArg (fun builder : Builder => { builder with kind := kind }) tracks.outline
  have kinds : second.builder.outline.kind = first.builder.outline.kind := by
    rw [tracks.outline]
  replace kinds : second.builder.kind = first.builder.kind := kinds
  unfold Progress.wrap
  dsimp only
  rw [Builder.outline_push, Builder.outline_push, Builder.outline_finish,
    Builder.outline_finish, inner, kinds]

theorem report (tracks : first.Tracks stream other start likeness second)
    (fault : GrammaticalFault) {span spanThere : Span} (places : likeness.places span spanThere) :
    (first.report fault span).Tracks stream other start likeness
      (second.report fault spanThere) :=
  tracks.of_same rfl rfl tracks.depth tracks.outline (tracks.reports.push ⟨rfl, rfl, places⟩)

theorem reportFailure (tracks : first.Tracks stream other start likeness second)
    {failure failureThere : Failure} (agrees : failure.Agrees likeness failureThere) :
    (first.reportFailure failure).Tracks stream other start likeness
      (second.reportFailure failureThere) := by
  unfold Progress.reportFailure
  rw [agrees.reported, agrees.fault]
  split
  · exact tracks
  · exact tracks.report failure.fault agrees.places

/-- Gathering faulty input.  Before the end it takes a token if there is none yet. -/
theorem gather (reappears : stream.Reappears other start likeness) (depth : Nat)
    (tracks : first.Tracks stream other start likeness second) :
    (first.gather depth).Tracks stream other start likeness (second.gather depth) ∧
      first.stream.position ≤ (first.gather depth).stream.position ∧
      (first.builder.isEmpty = true → first.stream.atEnd = false →
        first.stream.position < (first.gather depth).stream.position) := by
  fun_induction Progress.gather first depth generalizing second with
  | case1 first depth atEnd =>
      rw [Progress.gather.eq_def second, dif_pos ((tracks.atEnd_eq reappears).trans atEnd)]
      exact ⟨tracks, Nat.le_refl _, fun _ inside => by rw [atEnd] at inside; cases inside⟩
  | case2 first depth before stops =>
      have inside : ¬ second.stream.atEnd = true := by
        rw [tracks.atEnd_eq reappears]
        exact before
      have stopsThere : (decide (depth = 0) && !second.builder.isEmpty &&
          second.stream.atRecoveryPoint) = true := by
        rw [isEmpty_eq tracks.outline, ← (tracks.sameKinds reappears).atRecoveryPoint]
        exact stops
      rw [Progress.gather.eq_def second, dif_neg inside, if_pos stopsThere]
      refine ⟨tracks, Nat.le_refl _, fun empty => ?_⟩
      rw [empty] at stops
      simp at stops
  | case3 first depth before goesOn inductionHypothesis =>
      have inside : ¬ second.stream.atEnd = true := by
        rw [tracks.atEnd_eq reappears]
        exact before
      have goesOnThere : ¬ (decide (depth = 0) && !second.builder.isEmpty &&
          second.stream.atRecoveryPoint) = true := by
        rw [isEmpty_eq tracks.outline, ← (tracks.sameKinds reappears).atRecoveryPoint]
        exact goesOn
      have moved : first.stream.position < first.take.stream.position := by
        show _ < first.stream.advance.position
        rw [TokenStream.advance_eq_moveTo (by simpa using before)]
        exact Nat.lt_succ_self _
      have rest := inductionHypothesis (tracks.take reappears)
      rw [Progress.gather.eq_def second, dif_neg inside, if_neg goesOnThere,
        tracks.kind_eq reappears]
      exact ⟨rest.1, by omega, fun _ _ => by omega⟩

/-- Taking everything up to the end. -/
theorem takeAll (reappears : stream.Reappears other start likeness)
    (tracks : first.Tracks stream other start likeness second) :
    first.takeAll.Tracks stream other start likeness second.takeAll := by
  fun_induction Progress.takeAll first generalizing second with
  | case1 first atEnd =>
      rw [Progress.takeAll.eq_def second, dif_pos ((tracks.atEnd_eq reappears).trans atEnd)]
      exact tracks
  | case2 first before inductionHypothesis =>
      have inside : ¬ second.stream.atEnd = true := by
        rw [tracks.atEnd_eq reappears]
        exact before
      rw [Progress.takeAll.eq_def second, dif_neg inside]
      exact inductionHypothesis (tracks.take reappears)

/-- Adding a node of faulty input, which has a token unless the source ends here. -/
theorem addFaulty (reappears : stream.Reappears other start likeness)
    (tracks : first.Tracks stream other start likeness second) :
    first.addFaulty.Tracks stream other start likeness second.addFaulty ∧
      first.stream.position ≤ first.addFaulty.stream.position := by
  have gathered := Tracks.gather reappears 0 (tracks.openNode .error)
  unfold Progress.addFaulty
  dsimp only
  rw [isEmpty_eq gathered.1.outline]
  split
  · refine ⟨gathered.1.of_same rfl rfl ?_ tracks.outline gathered.1.reports, gathered.2.1⟩
    exact gathered.1.depth
  · exact ⟨gathered.1.closeNode tracks.outline none, gathered.2.1⟩

/-- Settling an ambiguity. -/
theorem settle (reappears : stream.Reappears other start likeness)
    (tracks : first.Tracks stream other start likeness second) (session : Session)
    (ambiguity : Ambiguity) :
    (second.settle session ambiguity).1 = (first.settle session ambiguity).1 ∧
      (first.settle session ambiguity).2.Tracks stream other start likeness
        (second.settle session ambiguity).2 ∧
      (first.settle session ambiguity).2.stream = first.stream := by
  unfold Progress.settle
  rw [lastKind?_eq tracks.outline, ← (tracks.sameKinds reappears).resolve]
  split
  · exact ⟨rfl, tracks, rfl⟩
  · refine ⟨rfl, ?_, ?_⟩
    · dsimp only
      split
      · exact tracks
      · exact tracks.report _ (tracks.span_eq reappears)
    · dsimp only
      split
      · rfl
      · rfl

end Tracks
end Progress

/-! ## Running the grammar -/

/-- What comes of a rule in two parses.  Both have reached the onset. -/
inductive Outcome.Tracks (stream other : TokenStream) (start : Nat) (likeness : Likeness) :
    Outcome → Outcome → Prop
  | next {first second : Progress} (tracks : first.Tracks stream other start likeness second)
      (begun : likeness.onset ≤ first.stream.position) :
      Tracks stream other start likeness (.next first) (.next second)
  | leave {first second : Progress} (tracks : first.Tracks stream other start likeness second)
      (begun : likeness.onset ≤ first.stream.position) :
      Tracks stream other start likeness (.leave first) (.leave second)
  | failed {failure failureThere : Failure} {diagnostics diagnosticsThere : Array Diagnostic}
      (agrees : failure.Agrees likeness failureThere)
      (reports : likeness.Reports diagnostics diagnosticsThere) :
      Tracks stream other start likeness (.failed failure diagnostics)
        (.failed failureThere diagnosticsThere)

namespace Outcome.Tracks

variable {stream other : TokenStream} {start : Nat} {likeness : Likeness}
  {first second : Outcome}

theorem andThen {rest restThere : Progress → Outcome}
    (tracks : first.Tracks stream other start likeness second)
    (further : ∀ inner innerThere, inner.Tracks stream other start likeness innerThere →
      likeness.onset ≤ inner.stream.position →
      (rest inner).Tracks stream other start likeness (restThere innerThere)) :
    (first.andThen rest).Tracks stream other start likeness (second.andThen restThere) := by
  cases tracks with
  | next tracks begun => exact further _ _ tracks begun
  | leave tracks begun => exact .leave tracks begun
  | failed agrees reports => exact .failed agrees reports

theorem map {change changeThere : Progress → Progress}
    (tracks : first.Tracks stream other start likeness second)
    (changes : ∀ inner innerThere, inner.Tracks stream other start likeness innerThere →
      (change inner).Tracks stream other start likeness (changeThere innerThere) ∧
        (change inner).stream = inner.stream) :
    (first.map change).Tracks stream other start likeness (second.map changeThere) := by
  cases tracks with
  | next tracks begun =>
      have changed := changes _ _ tracks
      exact .next changed.1 (changed.2 ▸ begun)
  | leave tracks begun =>
      have changed := changes _ _ tracks
      exact .leave changed.1 (changed.2 ▸ begun)
  | failed agrees reports => exact .failed agrees reports

end Outcome.Tracks

namespace Progress.Tracks

variable {stream other : TokenStream} {start : Nat} {likeness : Likeness}
  {first second : Progress}

theorem tooDeep (tracks : first.Tracks stream other start likeness second)
    (reappears : stream.Reappears other start likeness) (limit : Nat) :
    (first.tooDeep limit).Agrees likeness (second.tooDeep limit) :=
  ⟨rfl, rfl, tracks.span_eq reappears⟩

theorem charge (tracks : first.Tracks stream other start likeness second)
    (reappears : stream.Reappears other start likeness)
    (begun : likeness.onset ≤ first.stream.position) (session : Session) :
    (first.charge session).Tracks stream other start likeness (second.charge session) := by
  unfold Progress.charge
  rw [tracks.depth]
  split
  · exact .failed (tracks.tooDeep reappears _) tracks.reports
  · exact .next (tracks.of_same rfl rfl rfl tracks.outline tracks.reports) begun

theorem unexpected (tracks : first.Tracks stream other start likeness second)
    (reappears : stream.Reappears other start likeness) (expected : List String) :
    (first.unexpected expected).Agrees likeness (second.unexpected expected) := by
  refine ⟨?_, ?_, tracks.span_eq reappears⟩
  · unfold Progress.unexpected
    rw [tracks.kind_eq reappears]
  · unfold Progress.unexpected
    rw [tracks.kind_eq reappears]

theorem missing (tracks : first.Tracks stream other start likeness second)
    (reappears : stream.Reappears other start likeness)
    (begun : likeness.onset ≤ first.stream.position)
    (kind : NodeKind) (part : FieldName) :
    (first.missing kind part).Agrees likeness (second.missing kind part) := by
  refine ⟨rfl, congrArg TokenKind.isError (tracks.kind_eq reappears), ?_⟩
  show likeness.places (.empty first.stream.previousEnd) (.empty second.stream.previousEnd)
  rw [tracks.here, tracks.there]
  exact reappears.ends _ begun

/-- Recovering from a failure, or passing on what came of a rule. -/
theorem recover {outcome outcomeThere : Outcome}
    (tracks : first.Tracks stream other start likeness second)
    (reappears : stream.Reappears other start likeness)
    (begun : likeness.onset ≤ first.stream.position)
    (came : outcome.Tracks stream other start likeness outcomeThere) :
    (first.recover outcome).Tracks stream other start likeness
      (second.recover outcomeThere) := by
  cases came with
  | next tracks begun => exact .next tracks begun
  | leave tracks begun => exact .leave tracks begun
  | @failed failure failureThere diagnostics diagnosticsThere agrees reports =>
      unfold Progress.recover
      dsimp only
      rw [agrees.fault]
      split
      · exact .failed agrees reports
      · have restarted : ({ first with diagnostics := diagnostics } : Progress).Tracks stream
            other start likeness { second with diagnostics := diagnosticsThere } :=
          tracks.of_same rfl rfl tracks.depth tracks.outline reports
        have added := (restarted.reportFailure agrees).addFaulty reappears
        rw [stream_reportFailure] at added
        exact .next added.1 (Nat.le_trans begun added.2)

theorem repeatRounds {round roundThere : Progress → Outcome}
    (each : ∀ inner innerThere, inner.Tracks stream other start likeness innerThere →
      likeness.onset ≤ inner.stream.position →
      (round inner).Tracks stream other start likeness (roundThere innerThere))
    (rounds : Nat) (tracks : first.Tracks stream other start likeness second)
    (begun : likeness.onset ≤ first.stream.position) :
    (repeatRounds round rounds first).Tracks stream other start likeness
      (repeatRounds roundThere rounds second) := by
  induction rounds generalizing first second with
  | zero => exact .next tracks begun
  | succ rounds inductionHypothesis =>
      have once := each first second tracks begun
      unfold Offside.repeatRounds
      generalize round first = came at once
      generalize roundThere second = cameThere at once
      cases once with
      | next tracks begun => exact inductionHypothesis tracks begun
      | leave tracks begun => exact .next tracks begun
      | failed agrees reports => exact .failed agrees reports

end Progress.Tracks

/-- Conditions are answered alike. -/
theorem Condition.IsLocal.holds_eq {condition : Condition} (isLocal : condition.IsLocal)
    {first second : Progress} (alike : first.stream.Alike second.stream)
    (outline : second.builder.outline = first.builder.outline)
    (surroundings : Surroundings) :
    condition.holds surroundings second = condition.holds surroundings first := by
  cases condition with
  | ahead test => exact (isLocal _ _ alike).symm
  | first test =>
      show second.firstKind?.any test = first.firstKind?.any test
      rw [Progress.firstKind?_eq outline]
  | bracesAllowed => rfl

/-- A rule does the same in both parses.  By induction on the rule, with one case for
each of its forms. -/
theorem Rule.run_tracks {stream other : TokenStream} {start : Nat} {likeness : Likeness}
    (reappears : stream.Reappears other start likeness)
    {call : Surroundings → Nonterminal → Progress → Outcome}
    (calls : ∀ surroundings nonterminal first second,
      first.Tracks stream other start likeness second → likeness.onset ≤ first.stream.position →
      (call surroundings nonterminal first).Tracks stream other start likeness
        (call surroundings nonterminal second))
    (rule : Rule) (asks : rule.Asks Condition.IsLocal) (surroundings : Surroundings)
    {first second : Progress} (tracks : first.Tracks stream other start likeness second)
    (begun : likeness.onset ≤ first.stream.position) :
    (rule.run call surroundings first).Tracks stream other start likeness
      (rule.run call surroundings second) := by
  induction rule generalizing surroundings first second with
  | done => exact .next tracks begun
  | seq one two inductionOne inductionTwo =>
      exact (inductionOne asks.1 surroundings tracks begun).andThen
        fun inner innerThere tracks begun => inductionTwo asks.2 surroundings tracks begun
  | take =>
      have further := Progress.position_take_le first
      exact .next (tracks.take reappears) (by omega)
  | call nonterminal => exact calls surroundings nonterminal first second tracks begun
  | node part kind rule inductionHypothesis =>
      exact (inductionHypothesis asks surroundings (tracks.openNode kind) begun).map
        fun inner innerThere tracksThere => ⟨tracksThere.closeNode tracks.outline part, rfl⟩
  | become kind =>
      refine .next (tracks.of_same rfl rfl tracks.depth ?_ tracks.reports) begun
      exact congrArg (fun builder : Builder => { builder with kind := kind }) tracks.outline
  | nameFirst part =>
      refine .next (tracks.of_same rfl rfl tracks.depth ?_ tracks.reports) begun
      rw [Builder.outline_attach, Builder.outline_attach, tracks.outline]
  | wrap kind => exact .next (tracks.wrap kind) begun
  | choose condition yes no inductionYes inductionNo =>
      unfold Rule.run
      rw [asks.1.holds_eq (tracks.alike reappears begun) tracks.outline]
      split
      · exact inductionYes asks.2.1 surroundings tracks begun
      · exact inductionNo asks.2.2 surroundings tracks begun
  | settle ambiguity one two inductionOne inductionTwo =>
      have settled := tracks.settle reappears surroundings.session ambiguity
      unfold Rule.run
      dsimp only
      rw [settled.1]
      rw [← settled.2.2] at begun
      split
      · exact inductionOne asks.1 surroundings settled.2.1 begun
      · exact inductionTwo asks.2 surroundings settled.2.1 begun
  | loop rule inductionHypothesis =>
      unfold Rule.run
      rw [tracks.remaining_eq reappears]
      exact tracks.repeatRounds (fun inner innerThere tracks begun =>
        inductionHypothesis asks surroundings tracks begun) _ begun
  | leave => exact .leave tracks begun
  | nested rule inductionHypothesis =>
      unfold Rule.run
      dsimp only
      rw [tracks.depth]
      refine Outcome.Tracks.map ((tracks.charge reappears begun _).andThen
        fun inner innerThere tracks begun =>
          inductionHypothesis asks surroundings tracks begun) ?_
      exact fun inner innerThere tracks =>
        ⟨tracks.of_same rfl rfl rfl tracks.outline tracks.reports, rfl⟩
  | chain rule inductionHypothesis =>
      unfold Rule.run
      dsimp only
      rw [tracks.depth]
      refine (inductionHypothesis asks surroundings tracks begun).map ?_
      exact fun inner innerThere tracks =>
        ⟨tracks.of_same rfl rfl rfl tracks.outline tracks.reports, rfl⟩
  | link => exact tracks.charge reappears begun surroundings.session
  | withBraces allowed rule inductionHypothesis =>
      exact inductionHypothesis asks { surroundings with bracesAllowed := allowed } tracks begun
  | recover rule inductionHypothesis =>
      exact tracks.recover reappears begun (inductionHypothesis asks surroundings tracks begun)
  | reject expected =>
      unfold Rule.run
      have added := (tracks.reportFailure (tracks.unexpected reappears expected)).addFaulty
        reappears
      rw [Progress.stream_reportFailure] at added
      exact .next added.1 (Nat.le_trans begun added.2)
  | fail expected =>
      exact .failed (tracks.unexpected reappears expected) tracks.reports
  | failMissing kind part =>
      exact .failed (tracks.missing reappears begun kind part) tracks.reports

/-- Nonterminals do the same in both parses, by induction on how many may be open. -/
theorem Nonterminal.run_tracks {stream other : TokenStream} {start : Nat} {likeness : Likeness}
    (reappears : stream.Reappears other start likeness) (depth : Nat) :
    ∀ surroundings nonterminal first second,
      first.Tracks stream other start likeness second → likeness.onset ≤ first.stream.position →
      (run depth surroundings nonterminal first).Tracks stream other start likeness
        (run depth surroundings nonterminal second) := by
  induction depth with
  | zero =>
      intro surroundings nonterminal first second tracks begun
      exact .failed (tracks.tooDeep reappears _) tracks.reports
  | succ depth inductionHypothesis =>
      intro surroundings nonterminal first second tracks begun
      exact Rule.run_tracks reappears inductionHypothesis nonterminal.rule
        nonterminal.rule_local surroundings tracks begun

end Offside
