import Offside.Proofs.Parsing.Advance

namespace Offside

/-!
# What a parse can see

A parse looks at the kinds of the tokens ahead, at whether the next one begins a line, at
whether a string is glued to a name in front of it, and at whether the token behind it
closes a block.  It never asks where in its source a token stands, nor how many tokens lie
behind it.  So two streams may hold different tokens at different positions and still look
alike, and then every question about them has the same answer.

All questions of the grammar come down to a few: the kind of a token ahead, and the
three walks along a row of modifiers, along a path and over a group.  Most of them need
no more than the kinds.
-/

namespace TokenStream

/-- Two streams with tokens of the same kinds ahead, and equally many of them. -/
structure SameKinds (stream other : TokenStream) : Prop where
  size : stream.body.size - stream.position = other.body.size - other.position
  kinds : ∀ offset, stream.kindAhead offset = other.kindAhead offset

/-- Two streams that show the same to a parse. -/
structure Alike (stream other : TokenStream) : Prop extends SameKinds stream other where
  newline : stream.current.hasNewlineBefore = other.current.hasNewlineBefore
  glued : stream.kind.isIdentifier = true →
    ((stream.kindAhead 1).isPlainString || (stream.kindAhead 1).isStringStart) = true →
      (stream.ahead 1).hasTriviaBefore = (other.ahead 1).hasTriviaBefore
  previous : stream.previous?.any (fun token => token.kind == .outdent) =
    other.previous?.any fun token => token.kind == .outdent

variable {stream other : TokenStream}

namespace SameKinds

theorem kind (same : stream.SameKinds other) : stream.kind = other.kind := same.kinds 0

theorem isAtKeyword (same : stream.SameKinds other) (word : Keyword) :
    stream.isAtKeyword word = other.isAtKeyword word :=
  congrArg (TokenKind.isKeyword word) same.kind

theorem isAtMark (same : stream.SameKinds other) (mark : Punctuation) :
    stream.isAtMark mark = other.isAtMark mark :=
  congrArg (TokenKind.isMark mark) same.kind

theorem atEnd (same : stream.SameKinds other) : stream.atEnd = other.atEnd :=
  congrArg (· == TokenKind.endOfFile) same.kind

theorem isAtDot (same : stream.SameKinds other) (follower : TokenKind → Bool) :
    stream.isAtDot follower = other.isAtDot follower := by
  unfold TokenStream.isAtDot
  rw [same.isAtMark, same.kinds]

/-- Inside the one stream is inside the other one. -/
theorem inside_iff (same : stream.SameKinds other) (offset : Nat) :
    stream.position + offset < stream.body.size ↔
      other.position + offset < other.body.size := by
  have size := same.size
  omega

/-! ## Walks -/

/-- By induction on the tokens that are left behind the offset. -/
theorem modifiersAhead (same : stream.SameKinds other) (offset : Nat) :
    stream.modifiersAhead offset = other.modifiersAhead offset := by
  induction left : stream.body.size - (stream.position + offset) generalizing offset with
  | zero =>
      have outside : ¬ stream.position + offset < stream.body.size := by omega
      rw [TokenStream.modifiersAhead, TokenStream.modifiersAhead.eq_def other, if_neg outside,
        if_neg fun inside => outside ((same.inside_iff offset).mpr inside)]
  | succ left inductionHypothesis =>
      have inside : stream.position + offset < stream.body.size := by omega
      rw [TokenStream.modifiersAhead, TokenStream.modifiersAhead.eq_def other, if_pos inside,
        if_pos ((same.inside_iff offset).mp inside), same.kinds,
        inductionHypothesis (offset + 1) (by omega)]

/-- By induction on the tokens that are left behind the offset. -/
theorem pathNamesType (same : stream.SameKinds other) (offset : Nat) :
    stream.pathNamesType offset = other.pathNamesType offset := by
  induction left : stream.body.size - (stream.position + offset) using Nat.strongRecOn
    generalizing offset with
  | ind left inductionHypothesis =>
      rw [TokenStream.pathNamesType, TokenStream.pathNamesType.eq_def other, same.kinds, same.kinds]
      by_cases inside : stream.position + offset < stream.body.size
      · rw [if_pos inside, if_pos ((same.inside_iff offset).mp inside),
          inductionHypothesis _ (by omega) (offset + 2) rfl]
      · rw [if_neg inside, if_neg fun there => inside ((same.inside_iff offset).mpr there)]

/-- What stands behind a group.  By induction on the tokens that are left. -/
theorem closeFrom (same : stream.SameKinds other) (depth offset : Nat) :
    ((stream.closeFrom depth (stream.position + offset)).map fun position =>
        (stream.tokenAt position).kind) =
      (other.closeFrom depth (other.position + offset)).map fun position =>
        (other.tokenAt position).kind := by
  induction left : stream.body.size - (stream.position + offset) generalizing depth offset with
  | zero =>
      have outside : ¬ stream.position + offset < stream.body.size := by omega
      rw [TokenStream.closeFrom, TokenStream.closeFrom.eq_def other, if_neg outside,
        if_neg fun inside => outside ((same.inside_iff offset).mpr inside)]
      rfl
  | succ left inductionHypothesis =>
      have inside : stream.position + offset < stream.body.size := by omega
      have there : (stream.tokenAt (stream.position + offset)).kind =
          (other.tokenAt (other.position + offset)).kind := same.kinds offset
      have behind : (stream.tokenAt (stream.position + offset + 1)).kind =
          (other.tokenAt (other.position + offset + 1)).kind := same.kinds (offset + 1)
      rw [TokenStream.closeFrom, TokenStream.closeFrom.eq_def other, if_pos inside,
        if_pos ((same.inside_iff offset).mp inside), there]
      dsimp only
      generalize (if (other.tokenAt (other.position + offset)).kind.isOpener = true then depth + 1
        else if (other.tokenAt (other.position + offset)).kind.isCloser = true then depth - 1
          else depth) = inner
      split
      · rfl
      · split
        · exact congrArg some behind
        · exact inductionHypothesis inner (offset + 1) (by omega)

theorem kindAfterGroup? (same : stream.SameKinds other) (offset : Nat) :
    stream.kindAfterGroup? offset = other.kindAfterGroup? offset := by
  have there : (stream.tokenAt (stream.position + offset)).kind =
      (other.tokenAt (other.position + offset)).kind := same.kinds offset
  unfold TokenStream.kindAfterGroup? matchingClose?
  rw [there]
  split
  · exact same.closeFrom 0 offset
  · rfl

/-! ## Questions -/

theorem startsTemplateBody (same : stream.SameKinds other) (offset : Nat) :
    stream.startsTemplateBody offset = other.startsTemplateBody offset := by
  unfold TokenStream.startsTemplateBody
  rw [same.kinds, same.kinds]

theorem fatArrowAfterParameters? (same : stream.SameKinds other) (offset : Nat) :
    stream.fatArrowAfterParameters? offset = other.fatArrowAfterParameters? offset := by
  unfold TokenStream.fatArrowAfterParameters?
  rw [same.kinds, same.kinds, same.kindAfterGroup?]

theorem forLetAhead? (same : stream.SameKinds other) :
    stream.forLetAhead? = other.forLetAhead? := by
  unfold TokenStream.forLetAhead?
  rw [same.kinds, same.kindAfterGroup?]

/-- Ambiguities are settled same. -/
theorem resolve (same : stream.SameKinds other) (previous : Option NodeKind)
    (ambiguity : Ambiguity) :
    stream.resolve previous ambiguity = other.resolve previous ambiguity := by
  cases ambiguity with
  | bindingOrExpression =>
      show stream.bindingAhead? = other.bindingAhead?
      unfold bindingAhead?
      rw [same.kind, same.kinds, same.isAtMark, same.kindAfterGroup?]
  | tupleOrParameterTypes =>
      show stream.tupleTypeAhead? = other.tupleTypeAhead?
      unfold tupleTypeAhead?
      rw [same.kindAfterGroup?]
  | whileHeader =>
      show stream.groupedConditionAhead? = other.groupedConditionAhead?
      unfold groupedConditionAhead?
      rw [same.kinds, same.kindAfterGroup?]
  | typeOrValuePath => exact congrArg some (same.pathNamesType 1)
  | instanceBody => exact congrArg some (same.startsTemplateBody 0)
  | moduleBody =>
      show some stream.moduleBodyAhead = some other.moduleBodyAhead
      unfold moduleBodyAhead
      rw [same.kind, same.startsTemplateBody]
  | colonCallOrAscription => exact same.fatArrowAfterParameters? 1
  | caseBlockOrBlock =>
      show some ((stream.kindAhead 1).isKeyword .caseKw) = _
      rw [same.kinds]
      rfl
  | forLetOrComprehension => exact same.forLetAhead?
  | bodySequence =>
      show some (stream.bodyGoesOn previous) = some (other.bodyGoesOn previous)
      unfold bodyGoesOn
      rw [same.kinds]

theorem definitionStartsAt (same : stream.SameKinds other) (offset : Nat) :
    stream.definitionStartsAt offset = other.definitionStartsAt offset := by
  unfold TokenStream.definitionStartsAt
  rw [same.kinds, same.modifiersAhead]
  dsimp only
  rw [same.kinds, same.forLetAhead?]

theorem atRecoveryPoint (same : stream.SameKinds other) :
    stream.atRecoveryPoint = other.atRecoveryPoint := by
  unfold TokenStream.atRecoveryPoint
  rw [same.kind, same.isAtKeyword, same.definitionStartsAt]

theorem prefixOperatorAt (same : stream.SameKinds other) (offset : Nat) :
    stream.prefixOperatorAt offset = other.prefixOperatorAt offset := by
  unfold TokenStream.prefixOperatorAt
  rw [same.kinds, same.kinds]

theorem operandStartsAt (same : stream.SameKinds other) (offset : Nat) :
    stream.operandStartsAt offset = other.operandStartsAt offset := by
  unfold TokenStream.operandStartsAt
  rw [same.kinds, same.fatArrowAfterParameters?, same.prefixOperatorAt]

end SameKinds

namespace Alike

theorem onSameLine (alike : stream.Alike other) : stream.onSameLine = other.onSameLine :=
  congrArg (!·) alike.newline

theorem atJoiningOperator (alike : stream.Alike other) (operand : TokenKind → Bool) :
    stream.atJoiningOperator operand = other.atJoiningOperator operand := by
  unfold TokenStream.atJoiningOperator
  rw [alike.kind, alike.onSameLine, alike.kinds]

theorem atInterpolator (alike : stream.Alike other) :
    stream.atInterpolator = other.atInterpolator := by
  have glued := alike.glued
  unfold TokenStream.atInterpolator
  rw [← alike.kind, ← alike.kinds]
  cases name : stream.kind.isIdentifier with
  | false => rfl
  | true =>
      cases string : (stream.kindAhead 1).isPlainString || (stream.kindAhead 1).isStringStart with
      | false => rw [Bool.and_false, Bool.and_false]
      | true => rw [glued name string]

theorem atExpressionOperator (alike : stream.Alike other) :
    stream.atExpressionOperator = other.atExpressionOperator := by
  unfold TokenStream.atExpressionOperator
  rw [alike.kind, alike.onSameLine, alike.atInterpolator]

end Alike
end TokenStream
end Offside
