import Offside.Grammar.Ambiguity
import Offside.Grammar.FirstToken
import Offside.TokenStream
import Offside.Tree.Kind

namespace Offside
namespace TokenStream

/-!
# Looking ahead

All questions that the parser asks about the tokens ahead of it are functions of
the token stream alone.  Some look one or two tokens ahead.  Others skip a whole
group to see what follows its closing bracket; those have no answer when the
group is never closed.

The second half of the module settles the ambiguities of the grammar: an answer
`some true` takes the first alternative of an ambiguity, `some false` the second
one, and `none` means that looking ahead did not settle the matter.
-/

def isAtKeyword (stream : TokenStream) (word : Keyword) : Bool := stream.kind.isKeyword word

def isAtMark (stream : TokenStream) (mark : Punctuation) : Bool := stream.kind.isMark mark

/-- Whether the current token stands on the line of the token in front of it. -/
def onSameLine (stream : TokenStream) : Bool := !stream.current.hasNewlineBefore

/-- Whether the current token is a dot in front of a name of the given sort. -/
def isAtDot (stream : TokenStream) (follower : TokenKind → Bool) : Bool :=
  stream.isAtMark .dot && follower (stream.kindAhead 1)

def modifiersAhead (stream : TokenStream) (offset : Nat) : Nat :=
  if stream.position + offset < stream.body.size then
    if (stream.kindAhead offset).isModifier then modifiersAhead stream (offset + 1) + 1 else 0
  else 0
termination_by stream.body.size - (stream.position + offset)

/-- Whether a template body, in curly brackets or indented, starts a number of
places ahead. -/
def startsTemplateBody (stream : TokenStream) (offset : Nat) : Bool :=
  (stream.kindAhead offset).isMark .leftBrace ||
    ((stream.kindAhead offset).isMark .colon && stream.kindAhead (offset + 1) == .indent)

/-- Whether a fat arrow follows the parameters, if there are parameters, a number
of places ahead. -/
def fatArrowAfterParameters? (stream : TokenStream) (offset : Nat) : Option Bool :=
  let next := stream.kindAhead offset
  if next.isMark .leftBrace then some true
  else if next.isBinder then some ((stream.kindAhead (offset + 1)).isMark .fatArrow)
  else if next.isMark .leftParen then
    (stream.kindAfterGroup? offset).map fun kind => kind.isMark .fatArrow
  else some false

/-! ## Settling the ambiguities -/

/-- Whether an arrow follows the parameters of a lambda. -/
def bindingAhead? (stream : TokenStream) : Option Bool :=
  if stream.kind.isBinder then some ((stream.kindAhead 1).isMark .arrow)
  else if stream.isAtMark .leftParen then
    (stream.kindAfterGroup? 0).map fun kind => kind.isMark .arrow
  else some false

/-- Whether the group ahead is a type of its own and not the parameters of one. -/
def tupleTypeAhead? (stream : TokenStream) : Option Bool :=
  (stream.kindAfterGroup? 0).map fun kind => !kind.isMark .arrow

/-- Whether the group behind `while` is the whole condition. -/
def groupedConditionAhead? (stream : TokenStream) : Option Bool :=
  if (stream.kindAhead 1).isMark .leftParen then
    (stream.kindAfterGroup? 1).map fun kind => !kind.isKeyword .doKw
  else some false

/-- Whether the path that goes on a number of places ahead names a type.  A path
that ends in the keyword `type` names a value, whose type is meant. -/
def pathNamesType (stream : TokenStream) (offset : Nat) : Bool :=
  if stream.position + offset < stream.body.size then
    if (stream.kindAhead offset).isMark .dot then
      if (stream.kindAhead (offset + 1)).isKeyword .typeKw then false
      else if (stream.kindAhead (offset + 1)).isIdentifier then
        pathNamesType stream (offset + 2)
      else true
    else true
  else true
termination_by stream.body.size - (stream.position + offset)

/-- Whether the module goes on with its body, if need be behind a separator. -/
def moduleBodyAhead (stream : TokenStream) : Bool :=
  stream.startsTemplateBody (if stream.kind.isSeparator then 1 else 0)

/-- Whether `forM` begins a definition and not a comprehension. -/
def forLetAhead? (stream : TokenStream) : Option Bool :=
  let next := stream.kindAhead 1
  if next == .indent then some false
  else if next.isMark .leftParen then
    (stream.kindAfterGroup? 1).map fun kind => kind.isMark .equals || kind.isMark .colon
  else some true

/-- Whether a body without brackets takes in what stands behind the separator
ahead, given the kind of its last item.  Only a `let` needs something to follow,
and a neighbouring definition other than another `let` ends the body. -/
def bodyGoesOn (stream : TokenStream) (previous : Option NodeKind) : Bool :=
  let next := stream.kindAhead 1
  previous == some .letDefinition && next.startsItem &&
    !(next.startsDefinition || next.isMark .atSign)

/-- Settle an ambiguity at the current token.  Only a body without brackets
depends on the kind of the previous item. -/
def resolve (stream : TokenStream) (previous : Option NodeKind) : Ambiguity → Option Bool
  | .bindingOrExpression => stream.bindingAhead?
  | .tupleOrParameterTypes => stream.tupleTypeAhead?
  | .whileHeader => stream.groupedConditionAhead?
  | .typeOrValuePath => some (stream.pathNamesType 1)
  | .instanceBody => some (stream.startsTemplateBody 0)
  | .moduleBody => some stream.moduleBodyAhead
  | .colonCallOrAscription => stream.fatArrowAfterParameters? 1
  | .caseBlockOrBlock => some ((stream.kindAhead 1).isKeyword .caseKw)
  | .forLetOrComprehension => stream.forLetAhead?
  | .bodySequence => some (stream.bodyGoesOn previous)

/-! ## Where constructs begin and end -/

/-- Whether a definition starts a number of places ahead.  The modifier `lazy`
also begins expressions, so modifiers count only in front of a definition
keyword.  At the current token `forM` counts unless it begins a comprehension. -/
def definitionStartsAt (stream : TokenStream) (offset : Nat) : Bool :=
  if (stream.kindAhead offset).isMark .atSign then true
  else
    let place := offset + stream.modifiersAhead offset
    match stream.kindAhead place with
    | .keyword .forMKw => if place = 0 then stream.forLetAhead? != some false else true
    | .keyword .letKw => true
    | .keyword word => word.isDefinitionKeyword
    | _ => false

/-- Whether the parser, gathering faulty tokens outside of all brackets, stops in
front of the current token. -/
def atRecoveryPoint (stream : TokenStream) : Bool :=
  stream.kind == .outdent || stream.kind.isCloser || stream.isAtKeyword .caseKw ||
    stream.kind.isSeparator || stream.definitionStartsAt 0

/-- Whether an operator joins the current token to what stands before it.  An
alphabetic operator has to stand on the line of its left operand, and something
that can be the right operand has to follow. -/
def atJoiningOperator (stream : TokenStream) (operand : TokenKind → Bool) : Bool :=
  ((stream.kind.isIdentifier && stream.onSameLine) || stream.kind.isOperator) &&
    operand (stream.kindAhead 1)

/-- Whether the current token is an identifier with a string glued to it. -/
def atInterpolator (stream : TokenStream) : Bool :=
  stream.kind.isIdentifier && !(stream.ahead 1).hasTriviaBefore &&
    ((stream.kindAhead 1).isPlainString || (stream.kindAhead 1).isStringStart)

/-- Whether a prefix operator with its operand starts a number of places ahead. -/
def prefixOperatorAt (stream : TokenStream) (offset : Nat) : Bool :=
  (stream.kindAhead offset).isPrefixOperator &&
    (stream.kindAhead (offset + 1)).startsSimpleExpression

/-- Whether the current token is an operator that can continue an expression. -/
def atExpressionOperator (stream : TokenStream) : Bool :=
  (stream.kind.isIdentifier && stream.onSameLine && !stream.atInterpolator) ||
    stream.kind.isOperator

/-- Whether the right operand of an infix operator starts a number of places ahead. -/
def operandStartsAt (stream : TokenStream) (offset : Nat) : Bool :=
  if (stream.kindAhead offset).isMark .colon then
    (stream.fatArrowAfterParameters? (offset + 1)).getD false
  else
    (stream.kindAhead offset).startsSimpleExpression || stream.prefixOperatorAt offset

end TokenStream
end Offside
