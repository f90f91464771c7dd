import Offside.Lexed
import Offside.Parsing.Run

namespace Offside

/-!
# Parsing

Parsing turns tokens into a syntax tree.  It is total: faulty definitions become
nodes of faulty input and are reported on the side.  Only one fault ends a parse
before the end of its source.  When the source nests too deeply, everything from
the definition at fault on becomes one node of faulty input.
-/

/-- The tree of a source and the faults that were found on the way. -/
structure Parsed where
  root : Node
  diagnostics : List Diagnostic

namespace Parsed

def hasErrors (parsed : Parsed) : Bool := !parsed.diagnostics.isEmpty

/-- Whether the parse ended before the end of its source. -/
def isPartial (parsed : Parsed) : Bool :=
  parsed.diagnostics.any fun diagnostic => diagnostic.severity == .fatal

end Parsed

/-- The options of a parse. -/
structure ParseOptions where
  tabWidth : Nat
  maxDepth : Nat

/-- The depth of nesting that is allowed unless somebody asks for another one. -/
def defaultMaxDepth : Nat := 128

def ParseOptions.default : ParseOptions := ⟨defaultTabWidth, defaultMaxDepth⟩

namespace Nonterminal

/-- The number of nonterminals that can be opened for one level of nesting. -/
def perLevel : Nat := 4

/-- Run the rule of a nonterminal, with at most `depth` nonterminals open. -/
def run : Nat → Surroundings → Nonterminal → Progress → Outcome
  | 0, surroundings, _, progress =>
    .failed (progress.tooDeep surroundings.session.maxDepth) progress.diagnostics
  | depth + 1, surroundings, nonterminal, progress =>
    nonterminal.rule.run (run depth) surroundings progress

/-- Run the rule of a nonterminal within the allowed depth of nesting. -/
def derive (surroundings : Surroundings) (nonterminal : Nonterminal) (progress : Progress) :
    Outcome :=
  run (perLevel * (surroundings.session.maxDepth + 1)) surroundings nonterminal progress

end Nonterminal

namespace Progress

def skipSeparators (progress : Progress) : Progress :=
  if progress.stream.kind.isSeparator then
    if _atEnd : progress.stream.atEnd then progress else skipSeparators progress.take
  else progress
termination_by progress.stream.remaining
decreasing_by
  exact progress.stream.remaining_advance_lt (by simpa using _atEnd)

def definition (session : Session) (progress : Progress) : Outcome :=
  if progress.stream.definitionStartsAt 0 then
    progress.recover (Nonterminal.derive ⟨session, true⟩ .definition progress)
  else
    .next (progress.reportFailure (progress.unexpected ["definition"])).addFaulty

/-- Read definitions to the end of the source, at most as many as given. -/
def definitions (session : Session) : Nat → Progress → Progress
  | 0, progress => progress
  | count + 1, progress =>
    let ready := progress.skipSeparators
    if ready.stream.atEnd then ready
    else
      match ready.definition session with
      | .next done | .leave done => definitions session count done
      | .failed failure diagnostics =>
        (({ ready with diagnostics := diagnostics } : Progress).reportFailure failure).addRest

end Progress

def parseStream (session : Session) (stream : TokenStream) : Parsed :=
  let start := Progress.start stream .compilationUnit
  let ended := (start.definitions session (stream.size + 1)).take
  ⟨ended.builder.finish, ended.diagnostics.toList⟩

/-- The tree of a list of tokens.  A token that marks a lexical error tells that
the lexer has complained. -/
def parseTokens (tokens : List Token) (maxDepth : Nat) : Parsed :=
  let complained := tokens.any fun token => token.kind.isError
  parseStream ⟨maxDepth, complained⟩ (.ofList tokens)

/-- The diagnostics in the order of the source.  At one place they keep their
order. -/
def sortDiagnostics (diagnostics : List Diagnostic) : List Diagnostic :=
  diagnostics.mergeSort fun left right => left.span.start ≤ right.span.start

/-- The tree of a source, with all diagnostics in the order of the source. -/
def parse [XidStart] (source : String) (options : ParseOptions) : Parsed :=
  let lexed := lex source options.tabWidth
  let complained :=
    !lexed.diagnostics.isEmpty || lexed.tokens.any fun token => token.kind.isError
  let parsed := parseStream ⟨options.maxDepth, complained⟩ (.ofList lexed.tokens)
  { parsed with diagnostics := sortDiagnostics (lexed.diagnostics ++ parsed.diagnostics) }

end Offside
