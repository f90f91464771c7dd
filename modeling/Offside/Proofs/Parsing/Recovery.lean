import Offside.Proofs.Parsing.Advance

namespace Offside
namespace Progress

/-!
# Faulty input is gathered whole

Gathering faulty input moves over at least one token, unless the source has come
to its end, and puts every token it moves over into one node.  So a failure that
is reported and recovered from advances the parse by one faulty stretch: the
report and the node come together, and either both are there or the lexer has
already complained about the token at fault.
-/

variable {session : Session} {before middle after : Progress}

/-- Tokens were gathered one by one, whatever they are. -/
structure Gathers (before after : Progress) (tokens : List Token) : Prop where
  moves : Moves before after (tokens.map .sound)
  kind : after.builder.kind = before.builder.kind
  diagnostics : after.diagnostics = before.diagnostics
  isEmpty : after.builder.isEmpty = (before.builder.isEmpty && tokens.isEmpty)

namespace Gathers

theorem refl (progress : Progress) : Gathers progress progress [] where
  moves := .refl progress
  kind := rfl
  diagnostics := rfl
  isEmpty := (Bool.and_true _).symm

theorem trans {front back : List Token} (first : Gathers before middle front)
    (second : Gathers middle after back) : Gathers before after (front ++ back) where
  moves := by
    rw [List.map_append]
    exact first.moves.trans second.moves
  kind := second.kind.trans first.kind
  diagnostics := second.diagnostics.trans first.diagnostics
  isEmpty := by
    rw [second.isEmpty, first.isEmpty, Bool.and_assoc]
    cases front <;> rfl

theorem take {progress : Progress} (before : progress.stream.atEnd = false) :
    Gathers progress progress.take [progress.stream.current] where
  moves := .take before
  kind := rfl
  diagnostics := rfl
  isEmpty := by
    unfold Builder.isEmpty Progress.take Builder.pushToken
    simp

end Gathers

/-- Gathering takes at least one token, if there is one. -/
theorem gather_gathers (progress : Progress) (depth : Nat) :
    ∃ tokens, Gathers progress (progress.gather depth) tokens ∧
      (progress.stream.atEnd = false → progress.builder.isEmpty = true → tokens ≠ []) := by
  fun_induction gather progress depth with
  | case1 progress depth atEnd =>
      exact ⟨[], .refl progress, fun before => by rw [atEnd] at before; cases before⟩
  | case2 progress depth before stops =>
      refine ⟨[], .refl progress, fun _ empty => ?_⟩
      rw [empty] at stops
      simp at stops
  | case3 progress depth before goesOn inductionHypothesis =>
      have inside : progress.stream.atEnd = false := by simpa using before
      rcases inductionHypothesis with ⟨tokens, gathered, _⟩
      exact ⟨progress.stream.current :: tokens, (Gathers.take inside).trans gathered,
        fun _ _ => List.cons_ne_nil _ _⟩

/-- Taking everything ends at the end of the source. -/
theorem takeAll_gathers (progress : Progress) :
    ∃ tokens, Gathers progress progress.takeAll tokens ∧
      progress.takeAll.stream.atEnd = true ∧
      (progress.stream.atEnd = false → tokens ≠ []) := by
  fun_induction takeAll progress with
  | case1 progress atEnd =>
      exact ⟨[], .refl progress, atEnd, fun before => by rw [atEnd] at before; cases before⟩
  | case2 progress before inductionHypothesis =>
      have inside : progress.stream.atEnd = false := by simpa using before
      rcases inductionHypothesis with ⟨tokens, gathered, ended, _⟩
      exact ⟨progress.stream.current :: tokens, (Gathers.take inside).trans gathered, ended,
        fun _ => List.cons_ne_nil _ _⟩

theorem allTokens_map_sound (tokens : List Token) :
    Stretch.allTokens (tokens.map .sound) = tokens := by
  induction tokens with
  | nil => rfl
  | cons token tokens inductionHypothesis =>
      rw [List.map_cons, Stretch.allTokens_cons, inductionHypothesis]
      rfl

/-- What was gathered makes one faulty stretch. -/
theorem Gathers.closeNode {progress gathered : Progress} {tokens : List Token}
    (gathers : Gathers (progress.openNode .error) gathered tokens) :
    Moves progress (gathered.closeNode progress.builder none) [.faulty tokens] := by
  have faulty : gathered.builder.kind = .error := gathers.kind
  have held : gathered.builder.stretches = tokens.map .sound :=
    gathers.moves.builder.trans (List.nil_append _)
  have sameTokens : Stretch.allTokens [.faulty tokens] =
      Stretch.allTokens (tokens.map .sound) := by
    rw [allTokens_map_sound]
    exact List.append_nil tokens
  refine ⟨gathers.moves.stream, ?_, ?_, ?_, fun kept => ?_⟩
  · rw [sameTokens]
    exact gathers.moves.tokens
  · rw [sameTokens]
    exact gathers.moves.position
  · apply (Builder.stretches_push _ _).trans
    rw [Builder.stretches_finish_of_error faulty, held, allTokens_map_sound]
  · exact (Builder.kind_push _ _).symm ▸ kept

/-- Before the end of the source there is something to gather. -/
theorem addFaulty_eq_closeNode {progress : Progress} (before : progress.stream.atEnd = false) :
    progress.addFaulty =
      ((progress.openNode .error).gather 0).closeNode progress.builder none := by
  rcases gather_gathers (progress.openNode .error) 0 with ⟨tokens, gathers, some⟩
  have nonempty : tokens ≠ [] := some before rfl
  have kept : ((progress.openNode .error).gather 0).builder.isEmpty = false := by
    rw [gathers.isEmpty, List.isEmpty_eq_false_iff.mpr nonempty, Bool.and_false]
  unfold addFaulty
  dsimp only
  rw [kept]
  rfl

theorem diagnostics_addFaulty (progress : Progress) :
    progress.addFaulty.diagnostics = progress.diagnostics := by
  rcases gather_gathers (progress.openNode .error) 0 with ⟨tokens, gathers, _⟩
  unfold addFaulty
  dsimp only
  split
  · exact gathers.diagnostics
  · exact gathers.diagnostics

/-- Before the end of the source faulty input adds one stretch and reports nothing. -/
theorem addFaulty_moves {progress : Progress} (before : progress.stream.atEnd = false) :
    ∃ tokens, tokens ≠ [] ∧ Moves progress progress.addFaulty [.faulty tokens] ∧
      progress.addFaulty.diagnostics = progress.diagnostics := by
  rcases gather_gathers (progress.openNode .error) 0 with ⟨tokens, gathers, some⟩
  rw [addFaulty_eq_closeNode before]
  exact ⟨tokens, some before rfl, gathers.closeNode, gathers.diagnostics⟩

/-- The rest of the source makes one faulty stretch. -/
theorem addRest_moves {progress : Progress} (before : progress.stream.atEnd = false) :
    ∃ tokens, tokens ≠ [] ∧ Moves progress progress.addRest [.faulty tokens] ∧
      progress.addRest.diagnostics = progress.diagnostics ∧
      progress.addRest.stream.atEnd = true := by
  rcases takeAll_gathers (progress.openNode .error) with ⟨tokens, gathers, ended, some⟩
  have nonempty : tokens ≠ [] := some before
  have kept : (progress.openNode .error).takeAll.builder.isEmpty = false := by
    rw [gathers.isEmpty, List.isEmpty_eq_false_iff.mpr nonempty, Bool.and_false]
  have closed : progress.addRest =
      (progress.openNode .error).takeAll.closeNode progress.builder none := by
    unfold addRest
    dsimp only
    rw [kept]
    rfl
  rw [closed]
  exact ⟨tokens, nonempty, gathers.closeNode, gathers.diagnostics, ended⟩

/-! ## Recovering from a failure -/

/-- The progress at which a failed construct began, with the reports made since. -/
def restarted (before : Progress) (failure : Failure) (diagnostics : Array Diagnostic) :
    Progress :=
  ({ before with diagnostics := diagnostics } : Progress).reportFailure failure

variable {failure : Failure} {diagnostics : Array Diagnostic}

@[simp]
theorem stream_restarted (before : Progress) (failure : Failure)
    (diagnostics : Array Diagnostic) :
    (before.restarted failure diagnostics).stream = before.stream := by
  unfold restarted reportFailure
  split <;> rfl

@[simp]
theorem builder_restarted (before : Progress) (failure : Failure)
    (diagnostics : Array Diagnostic) :
    (before.restarted failure diagnostics).builder = before.builder := by
  unfold restarted reportFailure
  split <;> rfl

/-- A failure is reported unless the lexer has done so. -/
theorem diagnostics_restarted (before : Progress) (failure : Failure)
    (diagnostics : Array Diagnostic) :
    (before.restarted failure diagnostics).diagnostics.toList = diagnostics.toList ++
      if failure.reported then [] else [.grammatical failure.fault failure.span] := by
  unfold restarted reportFailure
  split
  · exact (List.append_nil _).symm
  · exact Array.toList_push

/-- A failure and the faulty input that it leaves behind keep the books balanced. -/
theorem GivesUp.advance (given : GivesUp session before failure diagnostics)
    {tokens : List Token}
    (moves : Moves (before.restarted failure diagnostics) after [.faulty tokens])
    (kept : after.diagnostics = (before.restarted failure diagnostics).diagnostics) :
    Advance session before after [.faulty tokens] where
  toMoves := moves.since (stream_restarted _ _ _) (builder_restarted _ _ _)
  sound := by
    intro token member
    cases List.mem_singleton.mp member
  reports := by
    rcases given.reports with ⟨earlier, added, blameless⟩
    rw [kept, diagnostics_restarted, added]
    refine ⟨_, List.append_assoc _ _ _, ⟨blameless.append ?_, ?_, ?_⟩⟩
    · intro diagnostic member unsettled
      split at member
      · cases member
      · cases List.mem_singleton.mp member
        rcases unsettled with ⟨ambiguity, same⟩
        exact absurd (Fault.grammatical.inj same) (given.settled ambiguity)
    · intro sound
      cases sound
    · intro _
      by_cases reported : failure.reported = true
      · exact Or.inr (given.reported reported)
      · refine Or.inl (List.append_ne_nil_of_right_ne_nil _ ?_)
        rw [if_neg reported]
        exact List.cons_ne_nil _ _

/-- Before the end of the source, recovering from a failure advances the parse. -/
theorem GivesUp.addFaulty (given : GivesUp session before failure diagnostics)
    (inside : before.stream.atEnd = false) :
    ∃ tokens, tokens ≠ [] ∧
      Advance session before (before.restarted failure diagnostics).addFaulty
        [.faulty tokens] := by
  have restartedInside : (before.restarted failure diagnostics).stream.atEnd = false := by
    rw [stream_restarted]
    exact inside
  rcases addFaulty_moves restartedInside with ⟨tokens, nonempty, moves, kept⟩
  exact ⟨tokens, nonempty, given.advance moves kept⟩

/-- Abandoning the source after a failure advances the parse to its end. -/
theorem GivesUp.addRest (given : GivesUp session before failure diagnostics)
    (inside : before.stream.atEnd = false) :
    ∃ tokens, tokens ≠ [] ∧
      Advance session before (before.restarted failure diagnostics).addRest [.faulty tokens] ∧
      (before.restarted failure diagnostics).addRest.stream.atEnd = true := by
  have restartedInside : (before.restarted failure diagnostics).stream.atEnd = false := by
    rw [stream_restarted]
    exact inside
  rcases addRest_moves restartedInside with ⟨tokens, nonempty, moves, kept, ended⟩
  exact ⟨tokens, nonempty, given.advance moves kept, ended⟩

end Progress
end Offside
