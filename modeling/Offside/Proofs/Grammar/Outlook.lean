import Offside.Proofs.Grammar.Questions
import Offside.Proofs.Parsing.Outlook

namespace Offside

/-!
# The grammar asks only about what can be seen

Every condition that a rule of the grammar asks has the same answer in streams that look
alike.  A condition may be any function of the stream, so this has to be checked for each
form of questions that the rules ask.
-/

/-! ## Conditions -/

namespace Condition

/-- The answer is the same in streams that look alike. -/
def IsLocal : Condition → Prop
  | ahead test => ∀ stream other : TokenStream, stream.Alike other → test stream = test other
  | first _ => True
  | bracesAllowed => True

@[simp]
theorem isLocal_first (holds : NodeKind → Bool) : (first holds).IsLocal := True.intro

@[simp]
theorem isLocal_bracesAllowed : bracesAllowed.IsLocal := True.intro

@[simp]
theorem isLocal_atKeyword (word : Keyword) : (atKeyword word).IsLocal :=
  fun _ _ alike => alike.isAtKeyword word

@[simp]
theorem isLocal_atMark (mark : Punctuation) : (atMark mark).IsLocal :=
  fun _ _ alike => alike.isAtMark mark

@[simp]
theorem isLocal_atMarks (marks : List Punctuation) : (atMarks marks).IsLocal := by
  intro stream other alike
  exact congrArg marks.any (funext alike.isAtMark)

@[simp]
theorem isLocal_atKind (holds : TokenKind → Bool) : (atKind holds).IsLocal :=
  fun _ _ alike => congrArg holds alike.kind

@[simp]
theorem isLocal_beforeKind (holds : TokenKind → Bool) : (beforeKind holds).IsLocal :=
  fun _ _ alike => congrArg holds (alike.kinds 1)

@[simp]
theorem isLocal_atSeparator : atSeparator.IsLocal := isLocal_atKind _

@[simp]
theorem isLocal_atMarkOrEnd (mark : Punctuation) : (atMarkOrEnd mark).IsLocal := by
  intro stream other alike
  show (_ || _) = (_ || _)
  rw [alike.isAtMark, alike.atEnd]

/-! Questions that have a name. -/

@[simp]
theorem isLocal_isAtDot (follower : TokenKind → Bool) :
    (ahead fun stream => stream.isAtDot follower).IsLocal :=
  fun _ _ alike => alike.isAtDot follower

@[simp]
theorem isLocal_atJoiningOperator (operand : TokenKind → Bool) :
    (ahead fun stream => stream.atJoiningOperator operand).IsLocal :=
  fun _ _ alike => alike.atJoiningOperator operand

@[simp]
theorem isLocal_startsTemplateBody (offset : Nat) :
    (ahead fun stream => stream.startsTemplateBody offset).IsLocal :=
  fun _ _ alike => alike.startsTemplateBody offset

@[simp]
theorem isLocal_definitionStartsAt (offset : Nat) :
    (ahead fun stream => stream.definitionStartsAt offset).IsLocal :=
  fun _ _ alike => alike.definitionStartsAt offset

@[simp]
theorem isLocal_prefixOperatorAt (offset : Nat) :
    (ahead fun stream => stream.prefixOperatorAt offset).IsLocal :=
  fun _ _ alike => alike.prefixOperatorAt offset

@[simp]
theorem isLocal_operandStartsAt (offset : Nat) :
    (ahead fun stream => stream.operandStartsAt offset).IsLocal :=
  fun _ _ alike => alike.operandStartsAt offset

@[simp]
theorem isLocal_atInterpolator : (ahead TokenStream.atInterpolator).IsLocal :=
  fun _ _ alike => alike.atInterpolator

@[simp]
theorem isLocal_atExpressionOperator : (ahead TokenStream.atExpressionOperator).IsLocal :=
  fun _ _ alike => alike.atExpressionOperator

/-! Questions that are asked in one place only. -/

@[simp]
theorem isLocal_annotationFollows : Rule.annotationFollows.IsLocal := by
  intro stream other alike
  show (_ && _) = (_ && _)
  rw [alike.isAtMark, alike.onSameLine]

@[simp]
theorem isLocal_pathGoesOn (offset : Nat) : (Rule.pathGoesOn offset).IsLocal := by
  intro stream other alike
  show (_ && (_ || _)) = (_ && (_ || _))
  rw [alike.kinds, alike.kinds]

@[simp]
theorem isLocal_recordTypeAhead : Rule.recordTypeAhead.IsLocal := by
  intro stream other alike
  show (_ && _) = (_ && _)
  rw [alike.kinds, alike.kinds]

@[simp]
theorem isLocal_indentedBodyAhead : Rule.indentedBodyAhead.IsLocal := by
  intro stream other alike
  show (_ && _) = (_ && _)
  rw [alike.isAtMark, alike.kinds]

@[simp]
theorem isLocal_markOnLine (mark : Punctuation) : (Rule.markOnLine mark).IsLocal := by
  intro stream other alike
  show (_ && _) = (_ && _)
  rw [alike.isAtMark, alike.onSameLine]

@[simp]
theorem isLocal_itemsEnd (place : ItemsPlace) : (Rule.itemsEnd place).IsLocal := by
  intro stream other alike
  show (_ || _ || _ || _) = (_ || _ || _ || _)
  rw [alike.atEnd, alike.kind, alike.isAtKeyword]

@[simp]
theorem isLocal_itemStartsUnseparated (place : ItemsPlace) :
    (Rule.itemStartsUnseparated place).IsLocal := by
  intro stream other alike
  show (_ && _ || _) = (_ && _ || _)
  rw [alike.newline, alike.kind, alike.isAtKeyword, alike.definitionStartsAt]

@[simp]
theorem isLocal_afterIndentedBlock : Rule.afterIndentedBlock.IsLocal :=
  fun _ _ alike => alike.previous

@[simp]
theorem isLocal_capture : (ahead fun stream =>
    stream.kind.isIdentifier && (stream.kindAhead 1).isMark .atSign).IsLocal := by
  intro stream other alike
  show (_ && _) = (_ && _)
  rw [alike.kind, alike.kinds]

@[simp]
theorem isLocal_bracedBody : (ahead fun stream =>
    stream.isAtMark .leftBrace && !(stream.kindAhead 1).isKeyword .caseKw).IsLocal := by
  intro stream other alike
  show (_ && !_) = (_ && !_)
  rw [alike.isAtMark, alike.kinds]

@[simp]
theorem isLocal_namespaceGoesOn : (ahead fun stream =>
    Rule.atNamespaceSeparator stream && (stream.kindAhead 1).isIdentifier).IsLocal := by
  intro stream other alike
  show ((_ || _) && _) = ((_ || _) && _)
  rw [alike.isAtMark, alike.kind, alike.kinds]

@[simp]
theorem isLocal_annotatedBehind : (ahead fun stream =>
    stream.kind.isSeparator && stream.definitionStartsAt 1).IsLocal := by
  intro stream other alike
  show (_ && _) = (_ && _)
  rw [alike.kind, alike.definitionStartsAt]

end Condition

/-- Every form of question is about what can be seen. -/
theorem Condition.Asked.isLocal {condition : Condition} (asked : condition.Asked) :
    condition.IsLocal := by
  cases asked <;> simp

/-- Every question that the grammar asks is about what can be seen. -/
theorem Nonterminal.rule_local (nonterminal : Nonterminal) :
    nonterminal.rule.Asks Condition.IsLocal :=
  nonterminal.rule_asked.mono fun _ asked => asked.isLocal

end Offside
