import Offside.CommandLine.Invocation
import Offside.Export
import Offside.Formatted
import Offside.Text.XidStart

namespace Offside

/-!
# Execution

What a command prints and whether it succeeds.  Commands only read files, so all
they need of the world is a way to look up the text of a file.  They read names by the
letters of Unicode 16.0.0.
-/

/-- Why the text of a file cannot be had. -/
inductive FileProblem
  | missing
  | directory
  /-- The bytes of the file are no UTF-8. -/
  | notText
deriving DecidableEq, Repr

def FileProblem.message (name : String) : FileProblem → String
  | missing => "Cannot access file '" ++ name ++ "': No such file or directory (os error 2)"
  | directory => "Error reading file '" ++ name ++ "': Is a directory (os error 21)"
  | notText => "Error reading file '" ++ name ++ "': stream did not contain valid UTF-8"

/-- A way to look up the text of a file. -/
abbrev FileTable := String → Except FileProblem String

/-- What a command does. -/
inductive ExecutionResult
  /-- The command printed a text and tells whether everything was in order. -/
  | printed (text : String) (allGood : Bool)
  /-- The command printed nothing and failed. -/
  | failed (message : String)
deriving DecidableEq, Repr

def ExecutionResult.exitCode : ExecutionResult → Nat
  | printed _ allGood => if allGood then 0 else 1
  | failed _ => 1

/-- A token as a line of a listing.  The text is left out when there is none. -/
def Token.listing (token : Token) : String :=
  let place :=
    token.kind.name ++ " " ++ toString token.span.start ++ ".." ++ toString token.span.stop
  if token.text.isEmpty then place ++ "\n"
  else place ++ " " ++ Quoted.string token.text ++ "\n"

def listTokens (tokens : List Token) : String := String.join (tokens.map Token.listing)

namespace Invocation

def withFile (files : FileTable) (name : String) (work : String → ExecutionResult) :
    ExecutionResult :=
  match files name with
  | .ok source => work source
  | .error problem => .failed (problem.message name)

def lexSource (options : ParseOptions) (source : String) : ExecutionResult :=
  let lexed := lex source options.tabWidth
  .printed (listTokens lexed.tokens) lexed.diagnostics.isEmpty

/-- Print the tree of a source, as nested lists or as a document. -/
def parseSource (options : ParseOptions) (json : Bool) (source : String) : ExecutionResult :=
  let parsed := parse source options
  let text := if json then parsed.toJson.pretty else parsed.root.sexp
  .printed (text ++ "\n") (!parsed.hasErrors)

def formatSource (indentWidth : Nat) (source : String) : ExecutionResult :=
  match format source (.ofWidth indentWidth true) with
  | .ok formatted => .printed formatted true
  | .error refusal => .failed refusal.message

/-- Whether a file can be read and holds no faults. -/
def isFaultless (files : FileTable) (options : ParseOptions) (name : String) : Bool :=
  match files name with
  | .ok source => !(parse source options).hasErrors
  | .error _ => false

/-- Count the files with faults.  A file that cannot be read counts as faulty. -/
def checkFiles (files : FileTable) (options : ParseOptions) (names : List String) :
    ExecutionResult :=
  let faulty := names.countP fun name => !isFaultless files options name
  if faulty = 0 then .printed ("✓ " ++ toString names.length ++ " file(s) checked\n") true
  else
    .failed
      (toString faulty ++ " of " ++ toString names.length ++ " file(s) have syntax errors")

def execute (files : FileTable) (invocation : Invocation) : ExecutionResult :=
  match invocation.command with
  | .lex file => withFile files file (lexSource invocation.options)
  | .parse file json => withFile files file (parseSource invocation.options json)
  | .check names => checkFiles files invocation.options names
  | .format file indentWidth => withFile files file (formatSource indentWidth)

end Invocation
end Offside
