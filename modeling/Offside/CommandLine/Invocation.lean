import Offside.Parsed

namespace Offside

/-!
# Invocations

What a command line asks for.  The options for reading a source belong to every
command and may stand in front of the command or behind it; formatting alone pays
no attention to them.
-/

/-- A command with the files it works on. -/
inductive Command
  /-- List the tokens of a file. -/
  | lex (file : String)
  /-- Print the tree of a file. -/
  | parse (file : String) (json : Bool)
  /-- Count the files with faults. -/
  | check (files : List String)
  /-- Print a file, laid out anew. -/
  | format (file : String) (indentWidth : Nat)
deriving DecidableEq, Repr

def Command.files : Command → List String
  | lex file | parse file _ | format file _ => [file]
  | check files => files

/-- What a command line asks for. -/
structure Invocation where
  command : Command
  tabWidth : Nat
  maxDepth : Nat
deriving DecidableEq, Repr

def Invocation.options (invocation : Invocation) : ParseOptions :=
  ⟨invocation.tabWidth, invocation.maxDepth⟩

/-- Why a command line asks for nothing that could be done. -/
inductive UsageFault
  /-- Help was asked for. -/
  | help
  /-- The version was asked for. -/
  | version
  /-- There is nothing at all on the command line. -/
  | nothingGiven
  /-- There are options, but no command. -/
  | noCommand
  | unknownCommand
  /-- The command has no file to work on. -/
  | noFile
  /-- An option that is not known here, or an argument too many. -/
  | unknownArgument
  /-- The value of an option is no number. -/
  | notANumber
  /-- An option without its value, or a file without a name. -/
  | noValue
  /-- An option for the second time. -/
  | repeated
  /-- An option with a value that it does not take. -/
  | surplusValue
deriving DecidableEq, Repr

end Offside
