import Offside.Format.Page
import Offside.Parsed

namespace Offside

/-!
# Formatting

Formatting prints the tokens of a syntax tree anew.  The layout comes from the
synthetic tokens and not from the blanks of the source, and a source that is
faulty is refused rather than printed from a faulty tree.
-/

/-- The offsets at which the definitions of a tree start, the first one left out. -/
def Node.laterStarts (root : Node) : List Nat :=
  (root.nodeChildren.drop 1).map fun child => child.span.start

def Node.pieces (root : Node) (blankLines : Bool) : List Piece :=
  let starts := root.laterStarts
  Arrangement.start.pieces
    (fun token => blankLines && starts.contains token.span.start) root.tokens

def Node.format (root : Node) (options : FormatOptions) : String :=
  (Page.ofPieces options.indentWidth (root.pieces options.blankLines)).text

/-- A source that was refused, for its faults. -/
structure FormatRefusal where
  diagnostics : List Diagnostic

def FormatRefusal.message (refusal : FormatRefusal) : String :=
  "cannot format source with " ++ toString refusal.diagnostics.length ++ " syntax error(s)"

/-- A source, laid out anew.  The source is read with the default options. -/
def format [XidStart] (source : String) (options : FormatOptions) : Except FormatRefusal String :=
  let parsed := parse source .default
  if parsed.hasErrors then .error ⟨parsed.diagnostics⟩
  else .ok (parsed.root.format options)

/-- Whether formatting a source with the default options leaves it as it is. -/
def isFormatted [XidStart] (source : String) : Except FormatRefusal Bool :=
  (format source .default).map fun formatted => formatted == source

end Offside
