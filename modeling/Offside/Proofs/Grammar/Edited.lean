import Offside.Proofs.Grammar.Questions

namespace Offside

/-!
# The grammar does not read the texts of strings

When the texts of the strings in a stream are edited, every question that the grammar asks
about the stream keeps its answer.  The questions are put together from tests of single
tokens, none of which reads such a text.
-/

variable (edit : String → String)

/-- The token with its text edited, if it is a string. -/
def Token.mapText (token : Token) : Token := { token with kind := token.kind.mapText edit }

namespace Token

variable (token : Token)

@[simp]
theorem kind_mapText : (token.mapText edit).kind = token.kind.mapText edit := rfl

@[simp]
theorem span_mapText : (token.mapText edit).span = token.span := rfl

@[simp]
theorem hasNewlineBefore_mapText :
    (token.mapText edit).hasNewlineBefore = token.hasNewlineBefore := rfl

@[simp]
theorem hasTriviaBefore_mapText :
    (token.mapText edit).hasTriviaBefore = token.hasTriviaBefore := rfl

end Token

namespace TokenStream

/-- The stream with the texts of its strings edited. -/
def mapText (stream : TokenStream) : TokenStream where
  body := stream.body.map (Token.mapText edit)
  ending := stream.ending.mapText edit
  position := stream.position
  ending_kind := by
    rw [Token.kind_mapText, stream.ending_kind]
    rfl

variable (stream : TokenStream) (offset : Nat)

/-! ## Tokens -/

@[simp]
theorem position_mapText : (stream.mapText edit).position = stream.position := rfl

@[simp]
theorem size_body_mapText : (stream.mapText edit).body.size = stream.body.size :=
  Array.size_map

@[simp]
theorem tokenAt_mapText (position : Nat) :
    (stream.mapText edit).tokenAt position = (stream.tokenAt position).mapText edit := by
  simp only [tokenAt, mapText, Array.getD_eq_getD_getElem?, Array.getElem?_map, Option.getD_map]

@[simp]
theorem ahead_mapText : (stream.mapText edit).ahead offset = (stream.ahead offset).mapText edit :=
  tokenAt_mapText edit stream _

@[simp]
theorem kindAhead_mapText :
    (stream.mapText edit).kindAhead offset = (stream.kindAhead offset).mapText edit :=
  congrArg Token.kind (ahead_mapText edit stream offset)

@[simp]
theorem current_mapText : (stream.mapText edit).current = stream.current.mapText edit :=
  ahead_mapText edit stream 0

@[simp]
theorem kind_mapText : (stream.mapText edit).kind = stream.kind.mapText edit :=
  congrArg Token.kind (current_mapText edit stream)

@[simp]
theorem atEnd_mapText : (stream.mapText edit).atEnd = stream.atEnd := by
  simp [atEnd]

@[simp]
theorem size_mapText : (stream.mapText edit).size = stream.size := by
  simp [size]

@[simp]
theorem remaining_mapText : (stream.mapText edit).remaining = stream.remaining := by
  simp [remaining]

@[simp]
theorem advance_mapText : (stream.mapText edit).advance = stream.advance.mapText edit := by
  unfold advance
  rw [atEnd_mapText, apply_ite (mapText edit)]
  rfl

@[simp]
theorem previous?_mapText :
    (stream.mapText edit).previous? = stream.previous?.map (Token.mapText edit) := by
  unfold previous?
  rw [position_mapText, tokenAt_mapText, apply_ite (Option.map (Token.mapText edit))]
  rfl

@[simp]
theorem previousEnd_mapText : (stream.mapText edit).previousEnd = stream.previousEnd := by
  simp [previousEnd, Function.comp_def]

/-! ## Looking ahead -/

@[simp]
theorem isAtKeyword_mapText (word : Keyword) :
    (stream.mapText edit).isAtKeyword word = stream.isAtKeyword word := by
  simp [isAtKeyword]

@[simp]
theorem isAtMark_mapText (mark : Punctuation) :
    (stream.mapText edit).isAtMark mark = stream.isAtMark mark := by
  simp [isAtMark]

@[simp]
theorem onSameLine_mapText : (stream.mapText edit).onSameLine = stream.onSameLine := by
  simp [onSameLine]

@[simp]
theorem modifiersAhead_mapText :
    (stream.mapText edit).modifiersAhead offset = stream.modifiersAhead offset := by
  fun_induction stream.modifiersAhead offset with
  | case1 offset inside modifier inductionHypothesis =>
      rw [modifiersAhead]
      simp [inside, modifier, inductionHypothesis]
  | case2 offset inside other =>
      rw [modifiersAhead]
      simp [inside, other]
  | case3 offset outside =>
      rw [modifiersAhead]
      simp [outside]

@[simp]
theorem pathNamesType_mapText :
    (stream.mapText edit).pathNamesType offset = stream.pathNamesType offset := by
  fun_induction stream.pathNamesType offset with
  | case1 offset inside dot type =>
      rw [pathNamesType]
      simp [inside, dot, type]
  | case2 offset inside dot noType name inductionHypothesis =>
      rw [pathNamesType]
      simp [inside, dot, noType, name, inductionHypothesis]
  | case3 offset inside dot noType noName =>
      rw [pathNamesType]
      simp [inside, dot, noType, noName]
  | case4 offset inside noDot =>
      rw [pathNamesType]
      simp [inside, noDot]
  | case5 offset outside =>
      rw [pathNamesType]
      simp [outside]

/-- By induction on the tokens that are left. -/
@[simp]
theorem closeFrom_mapText (depth position : Nat) :
    (stream.mapText edit).closeFrom depth position = stream.closeFrom depth position := by
  induction left : stream.body.size - position generalizing depth position with
  | zero =>
      have outside : ¬ position < stream.body.size := by omega
      rw [closeFrom, closeFrom.eq_def stream, size_body_mapText, if_neg outside, if_neg outside]
  | succ left inductionHypothesis =>
      have further : ∀ depth, (stream.mapText edit).closeFrom depth (position + 1) =
          stream.closeFrom depth (position + 1) :=
        fun depth => inductionHypothesis depth (position + 1) (by omega)
      rw [closeFrom, closeFrom.eq_def stream]
      simp [further]

@[simp]
theorem matchingClose?_mapText (position : Nat) :
    (stream.mapText edit).matchingClose? position = stream.matchingClose? position := by
  simp [matchingClose?]

@[simp]
theorem kindAfterGroup?_mapText :
    (stream.mapText edit).kindAfterGroup? offset =
      (stream.kindAfterGroup? offset).map (TokenKind.mapText edit) := by
  simp [kindAfterGroup?, Function.comp_def]

@[simp]
theorem startsTemplateBody_mapText :
    (stream.mapText edit).startsTemplateBody offset = stream.startsTemplateBody offset := by
  simp [startsTemplateBody]

@[simp]
theorem fatArrowAfterParameters?_mapText :
    (stream.mapText edit).fatArrowAfterParameters? offset =
      stream.fatArrowAfterParameters? offset := by
  simp [fatArrowAfterParameters?, Function.comp_def]

@[simp]
theorem forLetAhead?_mapText : (stream.mapText edit).forLetAhead? = stream.forLetAhead? := by
  simp [forLetAhead?, Function.comp_def]

/-- Ambiguities are settled alike. -/
@[simp]
theorem resolve_mapText (previous : Option NodeKind) (ambiguity : Ambiguity) :
    (stream.mapText edit).resolve previous ambiguity = stream.resolve previous ambiguity := by
  cases ambiguity <;>
    simp [resolve, bindingAhead?, tupleTypeAhead?, groupedConditionAhead?, moduleBodyAhead,
      bodyGoesOn, Function.comp_def]

/-- Only the keyword counts behind the modifiers. -/
@[simp]
theorem definitionStartsAt_mapText :
    (stream.mapText edit).definitionStartsAt offset = stream.definitionStartsAt offset := by
  unfold definitionStartsAt
  simp only [kindAhead_mapText, TokenKind.isMark_mapText, modifiersAhead_mapText,
    forLetAhead?_mapText]
  cases stream.kindAhead (offset + stream.modifiersAhead offset) <;> rfl

@[simp]
theorem atRecoveryPoint_mapText :
    (stream.mapText edit).atRecoveryPoint = stream.atRecoveryPoint := by
  simp [atRecoveryPoint]

@[simp]
theorem isAtDot_mapText {follower : TokenKind → Bool} (blind : Condition.Blind follower) :
    (stream.mapText edit).isAtDot follower = stream.isAtDot follower := by
  simp [isAtDot, blind edit]

@[simp]
theorem atJoiningOperator_mapText {operand : TokenKind → Bool}
    (blind : Condition.Blind operand) :
    (stream.mapText edit).atJoiningOperator operand = stream.atJoiningOperator operand := by
  simp [atJoiningOperator, blind edit]

@[simp]
theorem atInterpolator_mapText :
    (stream.mapText edit).atInterpolator = stream.atInterpolator := by
  simp [atInterpolator]

@[simp]
theorem prefixOperatorAt_mapText :
    (stream.mapText edit).prefixOperatorAt offset = stream.prefixOperatorAt offset := by
  simp [prefixOperatorAt]

@[simp]
theorem atExpressionOperator_mapText :
    (stream.mapText edit).atExpressionOperator = stream.atExpressionOperator := by
  simp [atExpressionOperator]

@[simp]
theorem operandStartsAt_mapText :
    (stream.mapText edit).operandStartsAt offset = stream.operandStartsAt offset := by
  simp [operandStartsAt]

end TokenStream

/-! ## Conditions -/

namespace Condition

/-- The answer does not depend on the texts of strings. -/
def IsBlind : Condition → Prop
  | ahead test => ∀ edit (stream : TokenStream), test (stream.mapText edit) = test stream
  | first _ | bracesAllowed => True

/-- No form of question reads the text of a string. -/
theorem Asked.isBlind {condition : Condition} (asked : condition.Asked) :
    condition.IsBlind := by
  cases asked with
  | first holds => exact True.intro
  | bracesAllowed => exact True.intro
  | atKind blind => exact fun edit stream => by simp [blind edit]
  | beforeKind blind => exact fun edit stream => by simp [blind edit]
  | isAtDot blind => exact fun edit stream => stream.isAtDot_mapText edit blind
  | atJoiningOperator blind => exact fun edit stream => stream.atJoiningOperator_mapText edit blind
  | _ =>
      intro edit stream
      simp [Rule.atNamespaceSeparator, Option.any_map]

end Condition

/-- No question that the grammar asks reads the text of a string. -/
theorem Nonterminal.rule_blind (nonterminal : Nonterminal) :
    nonterminal.rule.Asks Condition.IsBlind :=
  nonterminal.rule_asked.mono fun _ asked => asked.isBlind

end Offside
