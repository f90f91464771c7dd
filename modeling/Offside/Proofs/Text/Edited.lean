import Offside.Grammar.FirstToken
import Offside.Token.Bracket

namespace Offside

/-!
# Edited texts of strings

A line break of a source may stand in a string, and then it is part of what the token is.
Writing the line breaks of a source in another way therefore edits the texts of strings,
and of the pieces of strings between two splices.  All other tokens stay as they are.

Nothing that is asked about a token depends on what a string says.  The layout rules and
the grammar only ask whether there is a string.
-/

/-- The kind with the text of a string edited.  All other kinds are left alone. -/
def TokenKind.mapText (edit : String → String) : TokenKind → TokenKind
  | string text => string (edit text)
  | stringMiddle text => stringMiddle (edit text)
  | kind => kind

namespace TokenKind

variable (edit : String → String) (kind : TokenKind)

theorem mapText_id : kind.mapText id = kind := by
  cases kind <;> rfl

/-! ## Questions of the layout rules -/

@[simp]
theorem endsOperand_mapText : (kind.mapText edit).endsOperand = kind.endsOperand := by
  cases kind <;> rfl

@[simp]
theorem canEndStatement_mapText :
    (kind.mapText edit).canEndStatement = kind.canEndStatement := by
  cases kind <;> rfl

@[simp]
theorem startsDefinition_mapText :
    (kind.mapText edit).startsDefinition = kind.startsDefinition := by
  cases kind <;> rfl

@[simp]
theorem opensBlock_mapText : (kind.mapText edit).opensBlock = kind.opensBlock := by
  cases kind <;> rfl

@[simp]
theorem closing_mapText :
    ClosingBracket.ofKind? (kind.mapText edit) = ClosingBracket.ofKind? kind := by
  cases kind <;> rfl

@[simp]
theorem bracket_mapText : Bracket.ofKind? (kind.mapText edit) = Bracket.ofKind? kind := by
  cases kind <;> rfl

/-- Of the character behind a token it only matters whether there is one that is no blank. -/
theorem canStartStatement_mapText {next nextThere : Option Char}
    (follows : (nextThere.any fun c => !isBlank c) = next.any fun c => !isBlank c) :
    (kind.mapText edit).canStartStatement nextThere = kind.canStartStatement next := by
  cases kind with
  | operator text =>
      show canStartStatement nextThere (.operator text) = canStartStatement next (.operator text)
      unfold canStartStatement
      dsimp only
      rw [follows]
  | _ => rfl

/-! ## Questions of the grammar -/

/-- Comparing with a kind that is not a string. -/
theorem beq_mapText {other : TokenKind} (noString : other.isPlainString = false)
    (noPiece : other.isStringMiddle = false) :
    (kind.mapText edit == other) = (kind == other) := by
  cases kind with
  | string text => cases other <;> first | rfl | cases noString
  | stringMiddle text => cases other <;> first | rfl | cases noPiece
  | _ => rfl

@[simp]
theorem beq_indent_mapText : (kind.mapText edit == .indent) = (kind == .indent) :=
  beq_mapText edit kind rfl rfl

@[simp]
theorem beq_outdent_mapText : (kind.mapText edit == .outdent) = (kind == .outdent) :=
  beq_mapText edit kind rfl rfl

@[simp]
theorem beq_endOfFile_mapText : (kind.mapText edit == .endOfFile) = (kind == .endOfFile) :=
  beq_mapText edit kind rfl rfl

@[simp]
theorem mapText_eq_endOfFile_iff : kind.mapText edit = .endOfFile ↔ kind = .endOfFile := by
  cases kind <;> simp [mapText]

@[simp]
theorem beq_operator_mapText (text : String) :
    (kind.mapText edit == .operator text) = (kind == .operator text) :=
  beq_mapText edit kind rfl rfl

@[simp]
theorem beq_error_mapText (text : String) :
    (kind.mapText edit == .error text) = (kind == .error text) :=
  beq_mapText edit kind rfl rfl

@[simp]
theorem isKeyword_mapText (word : Keyword) :
    (kind.mapText edit).isKeyword word = kind.isKeyword word :=
  beq_mapText edit kind rfl rfl

@[simp]
theorem isMark_mapText (mark : Punctuation) :
    (kind.mapText edit).isMark mark = kind.isMark mark :=
  beq_mapText edit kind rfl rfl

@[simp]
theorem isIdentifier_mapText : (kind.mapText edit).isIdentifier = kind.isIdentifier := by
  cases kind <;> rfl

@[simp]
theorem isOperator_mapText : (kind.mapText edit).isOperator = kind.isOperator := by
  cases kind <;> rfl

@[simp]
theorem isModifier_mapText : (kind.mapText edit).isModifier = kind.isModifier := by
  cases kind <;> rfl

@[simp]
theorem isInteger_mapText : (kind.mapText edit).isInteger = kind.isInteger := by
  cases kind <;> rfl

@[simp]
theorem isFloat_mapText : (kind.mapText edit).isFloat = kind.isFloat := by
  cases kind <;> rfl

@[simp]
theorem isCharacter_mapText : (kind.mapText edit).isCharacter = kind.isCharacter := by
  cases kind <;> rfl

@[simp]
theorem isPlainString_mapText : (kind.mapText edit).isPlainString = kind.isPlainString := by
  cases kind <;> rfl

@[simp]
theorem isStringStart_mapText : (kind.mapText edit).isStringStart = kind.isStringStart := by
  cases kind <;> rfl

@[simp]
theorem isStringMiddle_mapText :
    (kind.mapText edit).isStringMiddle = kind.isStringMiddle := by
  cases kind <;> rfl

@[simp]
theorem isStringEnd_mapText : (kind.mapText edit).isStringEnd = kind.isStringEnd := by
  cases kind <;> rfl

@[simp]
theorem isPrefixOperator_mapText :
    (kind.mapText edit).isPrefixOperator = kind.isPrefixOperator := by
  cases kind <;> rfl

@[simp]
theorem startsItem_mapText : (kind.mapText edit).startsItem = kind.startsItem := by
  cases kind <;> rfl

@[simp]
theorem startsExpression_mapText :
    (kind.mapText edit).startsExpression = kind.startsExpression := by
  cases kind <;> rfl

@[simp]
theorem isSeparator_mapText : (kind.mapText edit).isSeparator = kind.isSeparator := by
  cases kind <;> rfl

@[simp]
theorem isError_mapText : (kind.mapText edit).isError = kind.isError := by
  cases kind <;> rfl

@[simp]
theorem isOpener_mapText : (kind.mapText edit).isOpener = kind.isOpener :=
  congrArg Option.isSome (bracket_mapText edit kind)

@[simp]
theorem isCloser_mapText : (kind.mapText edit).isCloser = kind.isCloser :=
  congrArg Option.isSome (closing_mapText edit kind)

/-! Questions that are put together from others. -/

@[simp]
theorem isName_mapText : (kind.mapText edit).isName = kind.isName := by
  simp [isName]

@[simp]
theorem isBinder_mapText : (kind.mapText edit).isBinder = kind.isBinder := by
  simp [isBinder]

@[simp]
theorem isPlainLiteral_mapText :
    (kind.mapText edit).isPlainLiteral = kind.isPlainLiteral := by
  simp [isPlainLiteral]

@[simp]
theorem isBoolean_mapText : (kind.mapText edit).isBoolean = kind.isBoolean := by
  simp [isBoolean]

@[simp]
theorem isLiteral_mapText : (kind.mapText edit).isLiteral = kind.isLiteral := by
  simp [isLiteral]

@[simp]
theorem startsSimpleType_mapText :
    (kind.mapText edit).startsSimpleType = kind.startsSimpleType := by
  simp [startsSimpleType]

@[simp]
theorem startsPattern_mapText : (kind.mapText edit).startsPattern = kind.startsPattern := by
  simp [startsPattern]

@[simp]
theorem startsSimpleExpression_mapText :
    (kind.mapText edit).startsSimpleExpression = kind.startsSimpleExpression := by
  simp [startsSimpleExpression]

/-- A report names the sort of a string, not the string. -/
@[simp]
theorem description_mapText : (kind.mapText edit).description = kind.description := by
  cases kind <;> rfl

end TokenKind
end Offside
