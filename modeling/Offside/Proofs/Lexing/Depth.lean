import Offside.Proofs.Lexing.Steps
import Offside.Proofs.Parsing.Gathering

namespace Offside

/-!
# Groups that the tokens leave open

Whoever gathers faulty input counts the groups that its tokens open and close, and the
reader that made the tokens has them on its stack of frames.  From wherever the count
begins, it never finds more groups open than the reader has, as long as every frame
that is given up leaves a token behind that counts: an opening frame counts with its
opener, a block that is closed leaves the end of the block, and a group or a string
that is given up leaves a mark of width zero.

There is one exception.  A closing bracket further out cuts off the groups and splices
inside and leaves nothing behind for them, and from then on the count may be too high.
-/

open Progress (openBehind depthBehind)

namespace Frame

/-- Whether the frame counts as a group that is open. -/
def counts (frame : Frame) : Bool := !frame.isString

/-- The number of frames that count as groups. -/
def depth (frames : List Frame) : Nat := frames.countP counts

theorem depth_cons_of_counts {frame : Frame} (frames : List Frame)
    (counted : frame.counts = true) : depth (frame :: frames) = depth frames + 1 :=
  List.countP_cons_of_pos counted

theorem depth_le_cons (frame : Frame) (frames : List Frame) :
    depth frames ≤ depth (frame :: frames) := by
  unfold depth
  rw [List.countP_cons]
  omega

end Frame

namespace TokenKind

variable {kind : TokenKind}

theorem depthBehind_le (depth : Nat) (kind : TokenKind) : depthBehind depth kind ≤ depth + 1 := by
  unfold depthBehind
  split
  · exact Nat.le_refl _
  · split <;> omega

theorem depthBehind_le_of_plain (depth : Nat) (noIndent : kind ≠ .indent)
    (noOpener : kind.isOpener = false) : depthBehind depth kind ≤ depth := by
  have other : (kind == .indent || kind.isOpener) = false := by
    rw [noOpener, Bool.or_false, beq_eq_false_iff_ne]
    exact noIndent
  unfold depthBehind
  rw [other, if_neg Bool.false_ne_true]
  split <;> omega

/-- The tokens that make up for a frame that is closed or given up. -/
theorem depthBehind_closing (depth : Nat)
    (closing : kind = .outdent ∨ kind.isCloser = true ∨ kind = .error "") :
    depthBehind depth kind = depth - 1 := by
  rcases closing with same | closer | same
  · rw [same]
    rfl
  · cases kind with
    | punctuation mark => cases mark <;> first | rfl | cases closer
    | _ => cases closer
  · rw [same]
    rfl

end TokenKind

namespace Reader

variable {before middle after reader : Reader} {frames : List Frame} {kind : TokenKind}
  {token : Token}

/-- From wherever one counts, no more groups are open behind the tokens so far than
there are among some frames. -/
def Bounded (frames : List Frame) (reader : Reader) : Prop :=
  ∀ front back, reader.kinds = front ++ back → openBehind 0 back ≤ Frame.depth frames

/-- The open groups of a reader bound what its tokens leave open. -/
def InBounds (reader : Reader) : Prop := reader.Bounded reader.frames

namespace Bounded

theorem of_same (bounded : before.Bounded frames) (tokens : after.tokens = before.tokens) :
    after.Bounded frames := by
  unfold Bounded kinds
  rw [tokens]
  exact bounded

theorem mono {others : List Frame} (bounded : reader.Bounded frames)
    (more : Frame.depth frames ≤ Frame.depth others) : reader.Bounded others :=
  fun front back split => Nat.le_trans (bounded front back split) more

/-- A token that keeps the count below the number of groups. -/
theorem push {others : List Frame} (bounded : before.Bounded frames)
    (tokens : after.tokens = before.tokens.push token)
    (step : ∀ depth ≤ Frame.depth frames,
      depthBehind depth token.kind ≤ Frame.depth others) : after.Bounded others := by
  intro front back split
  rw [kinds_push tokens] at split
  rcases List.eq_nil_or_concat back with nothing | ⟨inner, last, same⟩
  · rw [nothing]
    exact Nat.zero_le _
  · rw [same, List.concat_eq_append, ← List.append_assoc] at split
    rcases List.append_inj' split rfl with ⟨sameKinds, sameLast⟩
    cases sameLast
    rw [same, List.concat_eq_append]
    unfold openBehind
    rw [List.foldl_append]
    exact step _ (bounded front inner sameKinds)

/-- Whatever the token is, a frame that counts makes room for it. -/
theorem pushOpening {frame : Frame} (bounded : before.Bounded frames)
    (tokens : after.tokens = before.tokens.push token) (counted : frame.counts = true) :
    after.Bounded (frame :: frames) := by
  apply bounded.push tokens
  intro depth within
  have room := TokenKind.depthBehind_le depth token.kind
  rw [Frame.depth_cons_of_counts frames counted]
  omega

/-- A token that opens nothing may come at any time. -/
theorem pushPlain (bounded : before.Bounded frames)
    (tokens : after.tokens = before.tokens.push token) (noIndent : token.kind ≠ .indent)
    (noOpener : token.kind.isOpener = false) : after.Bounded frames := by
  apply bounded.push tokens
  intro depth within
  exact Nat.le_trans (TokenKind.depthBehind_le_of_plain depth noIndent noOpener) within

/-- The frame that a token closes or makes up for is gone. -/
theorem pushClosing {frame : Frame} (bounded : before.Bounded (frame :: frames))
    (tokens : after.tokens = before.tokens.push token)
    (closing : token.kind = .outdent ∨ token.kind.isCloser = true ∨ token.kind = .error "") :
    after.Bounded frames := by
  apply bounded.push tokens
  intro depth within
  rw [TokenKind.depthBehind_closing depth closing]
  have fewer : Frame.depth (frame :: frames) ≤ Frame.depth frames + 1 := by
    unfold Frame.depth
    rw [List.countP_cons]
    split <;> omega
  omega

/-- Going through frames one by one, with a token for each of them. -/
theorem foldl {change : Reader → Frame → Reader} {cut : List Frame}
    (each : ∀ frame ∈ cut, ∀ frames reader, reader.Bounded (frame :: frames) →
      (change reader frame).Bounded frames)
    (bounded : reader.Bounded (cut ++ frames)) : (cut.foldl change reader).Bounded frames := by
  induction cut generalizing reader with
  | nil => exact bounded
  | cons frame cut inductionHypothesis =>
      rw [List.forall_mem_cons] at each
      exact inductionHypothesis each.2 (each.1 (cut ++ frames) reader bounded)

end Bounded

theorem InBounds.advance (bounded : reader.InBounds) (text rest : List Char) :
    (reader.advance text rest).InBounds :=
  Bounded.of_same bounded rfl

/-! ## The layout rules -/

theorem closeBlocks_bounded (bounded : reader.InBounds) (column : Nat) :
    (reader.closeBlocks column).InBounds := by
  unfold InBounds
  rw [frames_closeBlocks]
  unfold closeBlocks
  apply Bounded.foldl
  · intro frame member frames before blocks
    exact blocks.pushClosing rfl (Or.inl rfl)
  · rw [takeWhile_append_drop]
    exact bounded.of_same rfl

theorem beginLine_bounded (bounded : reader.InBounds) (column offset : Nat)
    (kind : TokenKind) (next : Option Char) :
    (reader.beginLine column offset kind next).InBounds := by
  have fitted : ({ reader.closeBlocks column with lineIndent := column } : Reader).InBounds :=
    (closeBlocks_bounded bounded column).of_same rfl
  exact beginLine_cases (motive := InBounds) rfl fitted
    (Bounded.pushPlain fitted rfl nofun rfl) (Bounded.pushPlain fitted rfl nofun rfl)
    fun _ => Bounded.pushOpening fitted rfl rfl

theorem abandonGroups_bounded (bounded : reader.InBounds) : reader.abandonGroups.InBounds := by
  unfold InBounds
  rw [frames_abandonGroups]
  unfold abandonGroups
  apply Bounded.foldl
  · intro frame member frames before groups
    have abandoned := List.all_eq_true.mp List.all_takeWhile frame member
    cases frame with
    | group bracket opened => exact groups.pushClosing rfl (Or.inr (Or.inr rfl))
    | _ => cases abandoned
  · rw [takeWhile_append_drop]
    exact bounded.of_same rfl

theorem applyLayout_bounded (bounded : reader.InBounds) (kind : TokenKind)
    (next : Option Char) : (reader.applyLayout kind next).InBounds := by
  have begun : ({ reader with atLineStart := false } : Reader).InBounds := bounded.of_same rfl
  have outside := abandonGroups_bounded begun
  exact applyLayout_cases (motive := InBounds) rfl (fun _ => bounded) begun
    (fun _ => beginLine_bounded begun _ _ _ _) outside
    fun _ => beginLine_bounded outside _ _ _ _

/-! ## Closing brackets -/

/-- Whether a closing bracket would cut off a group or a splice. -/
def losesGroup (reader : Reader) (closer : ClosingBracket) : Bool :=
  let visible := reader.frames.takeWhile fun frame => !frame.isString
  match visible.findIdx? (Frame.isClosedBy closer) with
  | none => false
  | some index => (visible.take index).any fun frame => !frame.isBlock

theorem addCloser_bounded (bounded : reader.InBounds) {closer : ClosingBracket}
    (fits : reader.losesGroup closer = false) (span : Span) :
    (reader.addCloser closer span).InBounds := by
  unfold losesGroup at fits
  unfold addCloser
  dsimp only at fits ⊢
  cases found : (reader.frames.takeWhile fun frame => !frame.isString).findIdx?
      (Frame.isClosedBy closer) with
  | none =>
      have before : reader.Bounded reader.frames := bounded
      exact before.pushPlain rfl nofun rfl
  | some index =>
      rw [found] at fits
      rcases visible_split found with ⟨cut, target, taken, whole, _, _⟩
      dsimp only at fits ⊢
      rw [taken] at fits ⊢
      unfold InBounds at bounded
      rw [whole] at bounded
      have closed : (cut.foldl Reader.cutOff reader).Bounded
          (target :: reader.frames.drop (index + 1)) := by
        refine Bounded.foldl (fun frame member frames before blocks => ?_) bounded
        have isBlock := List.any_eq_false.mp fits frame member
        cases frame with
        | indent column => exact blocks.pushClosing rfl (Or.inl rfl)
        | _ => exact absurd rfl isBlock
      have isCloser : (TokenKind.punctuation closer.mark).isCloser = true := by
        cases closer <;> rfl
      exact closed.pushClosing rfl (Or.inr (Or.inl isCloser))

/-- Whether the token cuts off a group or a splice when the reader emits it. -/
def losesGroupAt (reader : Reader) (kind : TokenKind) (next : Option Char) : Bool :=
  match ClosingBracket.ofKind? kind with
  | some closer => (reader.applyLayout kind next).losesGroup closer
  | none => false

/-- Whether the reader stands at a closing bracket that cuts off a group or a splice. -/
def losesGroupAhead [XidStart] (reader : Reader) : Bool :=
  match reader.rest with
  | [] => false
  | c :: rest =>
    match (reader.lexeme c rest).lexeme with
    | .token kind =>
      !Frame.inString reader.frames &&
        reader.losesGroupAt kind (rest.drop (reader.lexeme c rest).more).head?
    | _ => false

/-! ## Reading -/

theorem emit_bounded (bounded : reader.InBounds) (noIndent : kind ≠ .indent) (span : Span)
    (next : Option Char) (fits : reader.losesGroupAt kind next = false) :
    (reader.emit kind span next).InBounds := by
  have placed := applyLayout_bounded bounded kind next
  unfold emit
  dsimp only
  split
  · rename_i closer found
    apply addCloser_bounded placed
    unfold losesGroupAt at fits
    rw [found] at fits
    exact fits
  · split
    · exact Bounded.pushOpening placed rfl rfl
    · rename_i noOpener
      refine Bounded.pushPlain placed rfl noIndent ?_
      show (Bracket.ofKind? kind).isSome = false
      rw [noOpener]
      rfl

theorem ne_indent_of_isLexical (lexical : kind.isLexical = true) : kind ≠ .indent := by
  rintro rfl
  cases lexical

variable [XidStart]

theorem readLexeme_bounded (bounded : reader.InBounds) {c : Char} {rest : List Char}
    (code : Frame.inString reader.frames = false) (unread : reader.rest = c :: rest)
    (fits : reader.losesGroupAhead = false) : (reader.readLexeme c rest).InBounds := by
  have spelled := Lexeme.fits_scan (reader.lastKind?.any TokenKind.endsOperand) c rest
  have ahead : ∀ kind, (Lexeme.scan (reader.lastKind?.any TokenKind.endsOperand) c
      rest).lexeme = .token kind → reader.losesGroupAt kind
        (rest.drop (Lexeme.scan (reader.lastKind?.any TokenKind.endsOperand) c
          rest).more).head? = false := by
    intro kind found
    unfold losesGroupAhead lexeme at fits
    rw [unread] at fits
    dsimp only at fits
    rw [found, code] at fits
    exact fits
  unfold Lexeme.Found.Fits at spelled
  unfold readLexeme
  dsimp only
  generalize Lexeme.scan (reader.lastKind?.any TokenKind.endsOperand) c rest = found
    at spelled ahead
  refine InBounds.advance ?_ _ _
  split
  · exact bounded.of_same rfl
  · exact bounded.of_same rfl
  · exact bounded.of_same rfl
  · rename_i kind same
    rw [same] at spelled
    cases spelled with
    | token lexical spells =>
        exact emit_bounded bounded (ne_indent_of_isLexical lexical) _ _ (ahead kind same)
  · rename_i quote same
    have noIndent : TokenKind.stringStart quote ≠ .indent := nofun
    have emitted := emit_bounded bounded noIndent (reader.spanOf (c :: rest.take found.more))
      (rest.drop found.more).head? rfl
    exact Bounded.mono emitted (Frame.depth_le_cons _ _)
  · rename_i fault same
    have told : (reader.report fault (reader.spanOf (c :: rest.take found.more))).InBounds :=
      Bounded.of_same bounded rfl
    have noIndent : TokenKind.error (String.ofList (c :: rest.take found.more)) ≠ .indent :=
      nofun
    exact emit_bounded told noIndent _ _ rfl

theorem readPiece_bounded {quote : QuoteForm} {opened : Nat} {outer : List Frame}
    (bounded : reader.InBounds) (inString : reader.frames = .string quote opened :: outer) :
    (reader.readPiece quote opened outer).InBounds := by
  have outside : reader.Bounded outer := by
    unfold InBounds at bounded
    rw [inString] at bounded
    exact bounded
  have dollar : Bounded reader.frames
      (reader.add (.punctuation .dollar) (reader.spanOf (reader.rest.take 1))) :=
    Bounded.pushPlain bounded rfl nofun rfl
  unfold readPiece
  dsimp only
  split
  · exact outside.pushPlain rfl nofun rfl
  · exact dollar.pushOpening rfl rfl
  · exact dollar.pushPlain rfl nofun rfl
  · exact Bounded.pushPlain bounded rfl nofun rfl
  · rename_i length _
    have read : (reader.addFragment (reader.rest.take length)).Bounded outer := by
      unfold addFragment
      split
      · exact outside
      · exact outside.pushPlain rfl nofun rfl
    exact (read.of_same rfl).pushPlain rfl nofun rfl

theorem step_bounded (bounded : reader.InBounds) (fits : reader.losesGroupAhead = false) :
    reader.step.InBounds := by
  cases rest : reader.rest with
  | nil =>
      unfold step
      rw [rest]
      exact bounded
  | cons c rest =>
      cases code : Frame.inString reader.frames with
      | true =>
          rcases Frame.exists_of_inString code with ⟨quote, opened, outer, frames⟩
          rw [step_eq_readPiece frames (by rw [‹reader.rest = _›]; exact List.cons_ne_nil _ _)]
          exact readPiece_bounded bounded frames
      | false =>
          rw [step_eq_readLexeme code ‹_›]
          exact readLexeme_bounded bounded code ‹_› fits

/-- By induction on the steps. -/
theorem afterSteps_bounded {source : String} {tabWidth : Nat} (steps : Nat)
    (fits : ∀ earlier < steps, (afterSteps source tabWidth earlier).losesGroupAhead = false) :
    (afterSteps source tabWidth steps).InBounds := by
  induction steps with
  | zero =>
      intro front back split
      have nothing : back = [] := (List.append_eq_nil_iff.mp split.symm).2
      rw [nothing]
      exact Nat.zero_le _
  | succ steps inductionHypothesis =>
      rw [afterSteps_succ]
      exact step_bounded
        (inductionHypothesis fun earlier before => fits earlier (Nat.lt_succ_of_lt before))
        (fits steps (Nat.lt_succ_self _))

end Reader
end Offside
