import Offside.Grammar.Ambiguity
import Offside.Text.Quoted
import Offside.Text.Span
import Offside.Tree.Field
import Offside.Tree.Kind

namespace Offside

/-!
# Diagnostics

Neither the lexer nor the parser gives up at the first fault of a source.  They
record what is wrong as a fault in its place and go on.  The wording of every
message is settled here; the other modules only name the cause.
-/

/-- The literals that can be malformed. -/
inductive LiteralKind
  | integer
  | float
  | character
deriving DecidableEq, Repr

def LiteralKind.name : LiteralKind → String
  | integer => "integer"
  | float => "float"
  | character => "character"

/-- What can be wrong with the characters of a source. -/
inductive LexicalFault
  | unterminatedString
  | unterminatedComment
  /-- A line is less deep than its block and fits no enclosing block. -/
  | inconsistentIndentation (column : Nat)
  | illegalCharacter (c : Char)
  | malformedLiteral (literal : LiteralKind)
  /-- A closing bracket closes nothing. -/
  | unmatchedDelimiter (closer : Char)
  /-- A group is never closed. -/
  | unterminatedBlock (opener : Char)
deriving DecidableEq, Repr

/-- What the parser would have accepted, without repetitions and in the order
in which it tried. -/
structure Expectation where
  items : List String
deriving DecidableEq, Repr

namespace Expectation

/-- Expect one more item, unless it is expected already. -/
def add (expectation : Expectation) (item : String) : Expectation :=
  if expectation.items.contains item then expectation else ⟨expectation.items ++ [item]⟩

def ofList (items : List String) : Expectation := items.foldl add ⟨[]⟩

def description (expectation : Expectation) : String :=
  match expectation.items with
  | [] => "something else"
  | [item] => item
  | [first, second] => first ++ " or " ++ second
  | items => "one of " ++ ", ".intercalate items

end Expectation

/-- What can be wrong with the tokens of a source. -/
inductive GrammaticalFault
  | unexpectedToken (expected : Expectation) (found : String)
  /-- A construct ends before one of its parts. -/
  | missingField (node : NodeKind) (part : FieldName)
  /-- Looking ahead did not settle an ambiguity although the lexer had no complaint. -/
  | unresolvedAmbiguity (ambiguity : Ambiguity)
  | nestingTooDeep (limit : Nat)
deriving DecidableEq, Repr

/-- What can be wrong with a source. -/
inductive Fault
  | lexical (fault : LexicalFault)
  | grammatical (fault : GrammaticalFault)
deriving DecidableEq, Repr

/-- How bad a fault is. -/
inductive Severity
  /-- The rest of the source is still read. -/
  | error
  /-- The rest of the source was abandoned. -/
  | fatal
  /-- The parser itself is at fault, not the source. -/
  | internal
deriving DecidableEq, Repr

def Severity.name : Severity → String
  | error => "error"
  | fatal => "fatal"
  | internal => "internal error"

namespace LexicalFault

def message : LexicalFault → String
  | unterminatedString => "unterminated string literal"
  | unterminatedComment => "unterminated block comment"
  | inconsistentIndentation column =>
    "inconsistent indentation: column " ++ toString column ++
      " does not match any enclosing block"
  | illegalCharacter c => "illegal character " ++ Quoted.character c
  | malformedLiteral literal => "malformed " ++ literal.name ++ " literal"
  | unmatchedDelimiter closer => "unmatched closing delimiter `" ++ closer.toString ++ "`"
  | unterminatedBlock opener => "`" ++ opener.toString ++ "` is never closed"

def code : LexicalFault → String
  | unterminatedString => "unterminated_string"
  | unterminatedComment => "unterminated_comment"
  | inconsistentIndentation _ => "inconsistent_indentation"
  | illegalCharacter _ => "illegal_character"
  | malformedLiteral _ => "malformed_literal"
  | unmatchedDelimiter _ => "unmatched_delimiter"
  | unterminatedBlock _ => "unterminated_block"

def label : LexicalFault → String
  | inconsistentIndentation _ => "dedent lands here"
  | _ => "here"

end LexicalFault

namespace GrammaticalFault

def message : GrammaticalFault → String
  | unexpectedToken expected found => "expected " ++ expected.description ++ ", found " ++ found
  | missingField node part => node.name ++ " is missing its `" ++ part.label ++ "`"
  | unresolvedAmbiguity ambiguity =>
    "no disambiguation policy decided " ++ ambiguity.description
  | nestingTooDeep limit => "input nests deeper than " ++ toString limit ++ " levels"

def code : GrammaticalFault → String
  | unexpectedToken _ _ => "unexpected_token"
  | missingField _ _ => "missing_field"
  | unresolvedAmbiguity _ => "unresolved_ambiguity"
  | nestingTooDeep _ => "nesting_too_deep"

def label : GrammaticalFault → String
  | unexpectedToken _ found => "unexpected " ++ found
  | missingField _ part => "`" ++ part.label ++ "` expected here"
  | _ => "here"

/-- Fatal faults end the parse; the others are recovered from in place. -/
def isFatal : GrammaticalFault → Bool
  | nestingTooDeep _ => true
  | _ => false

end GrammaticalFault

namespace Fault

def severity : Fault → Severity
  | grammatical (.nestingTooDeep _) => .fatal
  | grammatical (.unresolvedAmbiguity _) => .internal
  | _ => .error

/-- A code that stays the same when messages are reworded. -/
def code : Fault → String
  | lexical fault => "flix::lex::" ++ fault.code
  | grammatical fault => "flix::parse::" ++ fault.code

def message : Fault → String
  | lexical fault => fault.message
  | grammatical fault => fault.message

def label : Fault → String
  | lexical fault => fault.label
  | grammatical fault => fault.label

def isLexical : Fault → Bool
  | lexical _ => true
  | grammatical _ => false

end Fault

/-- A fault in its place. -/
structure Diagnostic where
  fault : Fault
  span : Span
  /-- Advice for the reader. -/
  hints : List String
deriving DecidableEq, Repr

namespace Diagnostic

def lexical (fault : LexicalFault) (span : Span) : Diagnostic := ⟨.lexical fault, span, []⟩

def grammatical (fault : GrammaticalFault) (span : Span) : Diagnostic :=
  ⟨.grammatical fault, span, []⟩

def severity (diagnostic : Diagnostic) : Severity := diagnostic.fault.severity

def message (diagnostic : Diagnostic) : String := diagnostic.fault.message

def help? (diagnostic : Diagnostic) : Option String :=
  if diagnostic.hints.isEmpty then none else some ("\n".intercalate diagnostic.hints)

end Diagnostic
end Offside
