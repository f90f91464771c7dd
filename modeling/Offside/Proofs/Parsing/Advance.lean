import Offside.Parsing.Run
import Offside.Proofs.Parsing.Groups
import Offside.Proofs.Tree.Stretches

namespace Offside

/-!
# How a parse advances

What a parse owes to its source at every point of every rule.  Between two points
the stream has moved over exactly the tokens that the builder has gained, in
their order.  Tokens that mark an error of the lexer are only ever gathered as
faulty input.  And the books are kept on both sides: faulty input is either
reported or belongs to a token that the lexer has complained about, and whatever
is reported, unsettled ambiguities apart, leaves faulty input behind.

A construct that is given up keeps nothing but its reports, so less is asked of
it: the failure itself still has to be accounted for by whoever recovers from it.
-/

/-! ## Moving through a stream -/

namespace TokenStream

/-- The tokens from the current one on, without the last one. -/
def left (stream : TokenStream) : List Token := stream.body.toList.drop stream.position

@[simp]
theorem position_moveTo (stream : TokenStream) (position : Nat) :
    (stream.moveTo position).position = position := rfl

@[simp]
theorem body_moveTo (stream : TokenStream) (position : Nat) :
    (stream.moveTo position).body = stream.body := rfl

@[simp]
theorem moveTo_moveTo (stream : TokenStream) (first second : Nat) :
    (stream.moveTo first).moveTo second = stream.moveTo second := rfl

theorem moveTo_self (stream : TokenStream) : stream.moveTo stream.position = stream := rfl

theorem advance_eq_moveTo {stream : TokenStream} (before : stream.atEnd = false) :
    stream.advance = stream.moveTo (stream.position + 1) := by
  unfold advance
  rw [before]
  rfl

/-- Before the end the current token is the first of those that are left. -/
theorem left_eq_cons {stream : TokenStream} (before : stream.atEnd = false) :
    stream.left = stream.current :: stream.advance.left := by
  have inside := stream.position_lt_of_not_atEnd before
  have shown : stream.current = stream.body[stream.position] := stream.tokenAt_of_lt inside
  rw [advance_eq_moveTo before, shown]
  unfold left
  rw [List.drop_eq_getElem_cons (by simpa using inside), Array.getElem_toList]
  rfl

theorem current_mem_body {stream : TokenStream} (before : stream.atEnd = false) :
    stream.current ∈ stream.body := by
  have inside := stream.position_lt_of_not_atEnd before
  have shown : stream.current = stream.body[stream.position] := stream.tokenAt_of_lt inside
  rw [shown]
  exact Array.getElem_mem inside

/-- Whether some token of the stream marks an error of the lexer. -/
def HasErrorToken (stream : TokenStream) : Prop :=
  ∃ token ∈ stream.body, token.kind.isError = true

theorem hasErrorToken_of_kind {stream : TokenStream} (marked : stream.kind.isError = true) :
    stream.HasErrorToken := by
  refine ⟨stream.current, current_mem_body ?_, marked⟩
  unfold atEnd
  cases found : stream.kind with
  | endOfFile => rw [found] at marked; cases marked
  | _ => rfl

@[simp]
theorem tokenAt_moveTo (stream : TokenStream) (moved position : Nat) :
    (stream.moveTo moved).tokenAt position = stream.tokenAt position := rfl

theorem closeFrom_moveTo (stream : TokenStream) (moved depth position : Nat) :
    (stream.moveTo moved).closeFrom depth position = stream.closeFrom depth position := by
  induction measured : stream.body.size - position generalizing depth position with
  | zero =>
      have beyond : ¬ position < stream.body.size := by omega
      unfold closeFrom
      rw [body_moveTo, if_neg beyond, if_neg beyond]
  | succ left inductionHypothesis =>
      have inside : position < stream.body.size := by omega
      have rest := fun inner => inductionHypothesis inner (position + 1) (by omega)
      rw [closeFrom, closeFrom.eq_def stream]
      simp only [body_moveTo, tokenAt_moveTo, inside, if_true, rest]
      rfl

theorem GroupsClose.moveTo {stream : TokenStream} (close : stream.GroupsClose)
    (position : Nat) : (stream.moveTo position).GroupsClose := by
  intro place opener
  have found := close place opener
  unfold matchingClose? at found ⊢
  rw [closeFrom_moveTo]
  exact found

end TokenStream

/-! ## Reports -/

/-- Whether a diagnostic says that looking ahead did not settle an ambiguity. -/
def Diagnostic.IsUnsettled (diagnostic : Diagnostic) : Prop :=
  ∃ ambiguity, diagnostic.fault = .grammatical (.unresolvedAmbiguity ambiguity)

/-- An ambiguity is reported as unsettled only when some group of the stream is
never closed although the lexer had no complaint. -/
def Blameless (session : Session) (stream : TokenStream) (reports : List Diagnostic) : Prop :=
  ∀ diagnostic ∈ reports, diagnostic.IsUnsettled →
    session.lexerComplained = false ∧ ¬ stream.GroupsClose

namespace Blameless

variable {session : Session} {stream : TokenStream}

theorem nil : Blameless session stream [] := by
  intro diagnostic member
  cases member

theorem append {front back : List Diagnostic} (first : Blameless session stream front)
    (second : Blameless session stream back) : Blameless session stream (front ++ back) := by
  intro diagnostic member
  rcases List.mem_append.mp member with earlier | later
  · exact first diagnostic earlier
  · exact second diagnostic later

theorem moveTo {reports : List Diagnostic} {position : Nat}
    (blameless : Blameless session (stream.moveTo position) reports) :
    Blameless session stream reports := by
  intro diagnostic member unsettled
  rcases blameless diagnostic member unsettled with ⟨silent, unclosed⟩
  exact ⟨silent, fun close => unclosed (close.moveTo position)⟩

end Blameless

/-- New reports are in keeping with what was taken in the meantime. -/
structure Accounted (session : Session) (stream : TokenStream) (held : List Stretch)
    (reports : List Diagnostic) : Prop where
  blameless : Blameless session stream reports
  /-- Without faulty input there is nothing to report but unsettled ambiguities. -/
  unsettled : Stretch.anyFaulty held = false →
    ∀ diagnostic ∈ reports, diagnostic.IsUnsettled
  /-- Faulty input is reported, by the lexer if not by the parser. -/
  reported : Stretch.anyFaulty held = true → reports ≠ [] ∨ stream.HasErrorToken

namespace Accounted

variable {session : Session} {stream : TokenStream}

theorem nil {held : List Stretch} (sound : Stretch.anyFaulty held = false) :
    Accounted session stream held [] where
  blameless := .nil
  unsettled := fun _ diagnostic member => by cases member
  reported := fun faulty => by rw [sound] at faulty; cases faulty

theorem append {front back : List Stretch} {earlier later : List Diagnostic}
    (first : Accounted session stream front earlier)
    (second : Accounted session stream back later) :
    Accounted session stream (front ++ back) (earlier ++ later) where
  blameless := first.blameless.append second.blameless
  unsettled := by
    intro sound diagnostic member
    rw [Stretch.anyFaulty_append, Bool.or_eq_false_iff] at sound
    rcases List.mem_append.mp member with inEarlier | inLater
    · exact first.unsettled sound.1 diagnostic inEarlier
    · exact second.unsettled sound.2 diagnostic inLater
  reported := by
    intro faulty
    rw [Stretch.anyFaulty_append, Bool.or_eq_true_iff] at faulty
    rcases faulty with inFront | inBack
    · rcases first.reported inFront with told | marked
      · exact Or.inl (List.append_ne_nil_of_left_ne_nil told later)
      · exact Or.inr marked
    · rcases second.reported inBack with told | marked
      · exact Or.inl (List.append_ne_nil_of_right_ne_nil earlier told)
      · exact Or.inr marked

theorem moveTo {held : List Stretch} {reports : List Diagnostic} {position : Nat}
    (accounted : Accounted session (stream.moveTo position) held reports) :
    Accounted session stream held reports :=
  ⟨accounted.blameless.moveTo, accounted.unsettled, accounted.reported⟩

end Accounted

namespace Progress

/-! ## Advancing -/

/-- A parse went from one point to another one and took `held` on the way. -/
structure Moves (before after : Progress) (held : List Stretch) : Prop where
  /-- The tokens of the stream stay as they are. -/
  stream : after.stream = before.stream.moveTo after.stream.position
  /-- What was taken is what the stream has moved over. -/
  tokens : before.stream.left = Stretch.allTokens held ++ after.stream.left
  position : after.stream.position = before.stream.position + (Stretch.allTokens held).length
  builder : after.builder.stretches = before.builder.stretches ++ held
  kind : before.builder.kind ≠ .error → after.builder.kind ≠ .error

/-- A parse went from one point to another one and kept its books. -/
structure Advance (session : Session) (before after : Progress) (held : List Stretch) : Prop
    extends Moves before after held where
  sound : ∀ token, Stretch.sound token ∈ held → token.kind.isError = false
  /-- Reports are never taken back.  New ones and faulty input come together. -/
  reports : ∃ new, after.diagnostics.toList = before.diagnostics.toList ++ new ∧
    Accounted session before.stream held new

/-- A construct that began at some point was given up. -/
structure GivesUp (session : Session) (before : Progress) (failure : Failure)
    (diagnostics : Array Diagnostic) : Prop where
  reports : ∃ new, diagnostics.toList = before.diagnostics.toList ++ new ∧
    Blameless session before.stream new
  /-- Only a token that the lexer has complained about excuses the parser. -/
  reported : failure.reported = true → before.stream.HasErrorToken
  settled : ∀ ambiguity, failure.fault ≠ .unresolvedAmbiguity ambiguity

variable {session : Session} {before middle after : Progress}

namespace Moves

/-- Rearranging the node under construction takes nothing. -/
theorem of_builder (stream : after.stream = before.stream)
    (builder : after.builder.stretches = before.builder.stretches)
    (kind : before.builder.kind ≠ .error → after.builder.kind ≠ .error) :
    Moves before after [] where
  stream := by rw [stream, TokenStream.moveTo_self]
  tokens := by rw [stream]; rfl
  position := by rw [stream]; rfl
  builder := by rw [builder, List.append_nil]
  kind := kind

theorem refl (progress : Progress) : Moves progress progress [] := .of_builder rfl rfl id

theorem trans {front back : List Stretch} (first : Moves before middle front)
    (second : Moves middle after back) : Moves before after (front ++ back) where
  stream := by
    have moved := second.stream
    rw [first.stream, TokenStream.moveTo_moveTo] at moved
    exact moved
  tokens := by rw [first.tokens, second.tokens, Stretch.allTokens_append, List.append_assoc]
  position := by
    rw [second.position, first.position, Stretch.allTokens_append, List.length_append]
    omega
  builder := by rw [second.builder, first.builder, List.append_assoc]
  kind := fun kept => second.kind (first.kind kept)

/-- What comes behind a change of the reports alone. -/
theorem since {held : List Stretch} (moves : Moves middle after held)
    (stream : middle.stream = before.stream) (builder : middle.builder = before.builder) :
    Moves before after held := by
  have unmoved : Moves before middle [] :=
    .of_builder stream (congrArg Builder.stretches builder) fun kept => builder ▸ kept
  exact unmoved.trans moves

/-- Before the end of the source, taking a token moves past it. -/
theorem take {progress : Progress} (before : progress.stream.atEnd = false) :
    Moves progress progress.take [.sound progress.stream.current] where
  stream := by rw [Progress.take, TokenStream.advance_eq_moveTo before]; rfl
  tokens := TokenStream.left_eq_cons before
  position := by rw [Progress.take, TokenStream.advance_eq_moveTo before]; rfl
  builder := Builder.stretches_pushToken _ _
  kind := id

end Moves

namespace Advance

/-- Rearranging the node under construction takes nothing. -/
theorem of_builder (stream : after.stream = before.stream)
    (builder : after.builder.stretches = before.builder.stretches)
    (kind : before.builder.kind ≠ .error → after.builder.kind ≠ .error)
    (diagnostics : after.diagnostics = before.diagnostics) :
    Advance session before after [] where
  toMoves := .of_builder stream builder kind
  sound := fun token member => by cases member
  reports := ⟨[], by rw [diagnostics, List.append_nil], .nil rfl⟩

theorem refl (progress : Progress) : Advance session progress progress [] :=
  .of_builder rfl rfl id rfl

theorem hasErrorToken {held : List Stretch} (step : Advance session before after held)
    (marked : after.stream.HasErrorToken) : before.stream.HasErrorToken := by
  rw [step.stream] at marked
  exact marked

theorem trans {front back : List Stretch} (first : Advance session before middle front)
    (second : Advance session middle after back) :
    Advance session before after (front ++ back) where
  toMoves := first.toMoves.trans second.toMoves
  sound := by
    intro token member
    rcases List.mem_append.mp member with earlier | later
    · exact first.sound token earlier
    · exact second.sound token later
  reports := by
    rcases first.reports with ⟨earlier, firstAdded, firstAccounted⟩
    rcases second.reports with ⟨later, secondAdded, secondAccounted⟩
    rw [first.stream] at secondAccounted
    refine ⟨earlier ++ later, ?_, firstAccounted.append secondAccounted.moveTo⟩
    rw [secondAdded, firstAdded, List.append_assoc]

/-- Taking a token that the lexer did not complain about. -/
theorem take {progress : Progress} (before : progress.stream.atEnd = false)
    (sound : progress.stream.kind.isError = false) :
    Advance session progress progress.take [.sound progress.stream.current] where
  toMoves := .take before
  sound := by
    intro token member
    cases List.mem_singleton.mp member
    exact sound
  reports := ⟨[], (List.append_nil _).symm, .nil rfl⟩

/-- Closing a node hands over what was built inside. -/
theorem closeNode {progress inner : Progress} {kind : NodeKind} {held : List Stretch}
    (kept : kind ≠ .error) (step : Advance session (progress.openNode kind) inner held)
    (part : Option FieldName) :
    Advance session progress (inner.closeNode progress.builder part) held := by
  have finished : inner.builder.finish.stretches = held := by
    rw [Builder.stretches_finish (step.kind kept), step.builder]
    exact List.nil_append held
  refine ⟨⟨step.stream, step.tokens, step.position, ?_, ?_⟩, step.sound, step.reports⟩
  · cases part with
    | none => exact (Builder.stretches_push _ _).trans (by rw [finished])
    | some part => exact (Builder.stretches_pushField _ _ _).trans (by rw [finished])
  · cases part with
    | none => exact fun outer => (Builder.kind_push _ _).symm ▸ outer
    | some part => exact fun outer => (Builder.kind_pushField _ _ _).symm ▸ outer

/-- Wrapping what has been built keeps it. -/
theorem wrap (progress : Progress) {kind : NodeKind} (kept : kind ≠ .error) :
    Advance session progress (progress.wrap kind) [] := by
  refine .of_builder rfl ?_ ?_ rfl
  · have finished := Builder.stretches_finish
      (show ({ progress.builder with kind := kind } : Builder).kind ≠ .error from kept)
    unfold Progress.wrap
    rw [Builder.stretches_push, finished, Builder.stretches_new]
    rfl
  · intro outer
    unfold Progress.wrap
    rw [Builder.kind_push]
    exact outer

/-- Settling an ambiguity reports at most that it is unsettled. -/
theorem settle (progress : Progress) (ambiguity : Ambiguity)
    (settles : progress.stream.GroupsClose →
      (progress.stream.resolve progress.lastKind? ambiguity).isSome = true) :
    Advance session progress (progress.settle session ambiguity).2 [] := by
  unfold Progress.settle
  cases found : progress.stream.resolve progress.lastKind? ambiguity with
  | some choice => exact .refl progress
  | none =>
      cases silent : session.lexerComplained with
      | true => exact .refl progress
      | false =>
          rw [found] at settles
          refine ⟨.of_builder rfl rfl id, ?_, ?_⟩
          · intro token member
            cases member
          · refine ⟨[_], Array.toList_push, ?_, ?_, fun faulty => by cases faulty⟩
            · intro diagnostic member unsettled
              exact ⟨silent, fun close => by cases settles close⟩
            · intro sound diagnostic member
              cases List.mem_singleton.mp member
              exact ⟨ambiguity, rfl⟩

end Advance

/-- What is given up after an advance is given up from the beginning. -/
theorem GivesUp.of_advance {held : List Stretch} {failure : Failure}
    {diagnostics : Array Diagnostic} (first : Advance session before middle held)
    (second : GivesUp session middle failure diagnostics) :
    GivesUp session before failure diagnostics where
  reports := by
    rcases first.reports with ⟨earlier, firstAdded, firstAccounted⟩
    rcases second.reports with ⟨later, secondAdded, secondBlameless⟩
    rw [first.stream] at secondBlameless
    refine ⟨earlier ++ later, ?_, firstAccounted.blameless.append secondBlameless.moveTo⟩
    rw [secondAdded, firstAdded, List.append_assoc]
  reported := fun reported => first.hasErrorToken (second.reported reported)
  settled := second.settled

theorem GivesUp.unexpected (progress : Progress) (expected : List String) :
    GivesUp session progress (progress.unexpected expected) progress.diagnostics where
  reports := ⟨[], (List.append_nil _).symm, .nil⟩
  reported := TokenStream.hasErrorToken_of_kind
  settled := fun ambiguity same => by cases same

theorem GivesUp.missing (progress : Progress) (kind : NodeKind) (part : FieldName) :
    GivesUp session progress (progress.missing kind part) progress.diagnostics where
  reports := ⟨[], (List.append_nil _).symm, .nil⟩
  reported := TokenStream.hasErrorToken_of_kind
  settled := fun ambiguity same => by cases same

theorem GivesUp.tooDeep (progress : Progress) (limit : Nat) :
    GivesUp session progress (progress.tooDeep limit) progress.diagnostics where
  reports := ⟨[], (List.append_nil _).symm, .nil⟩
  reported := fun reported => by cases reported
  settled := fun ambiguity same => by cases same

end Progress
end Offside
