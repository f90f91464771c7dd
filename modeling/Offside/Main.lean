import Offside.CommandLine.Arguments
import Offside.CommandLine.Execution

/-!
# The program

The outer layer: it reads the files that a command names, prints what the command
prints, and ends with its exit code.
-/

namespace Offside

def UsageFault.message : UsageFault → String
  | help | nothingGiven => "usage: [--tab-width N] [--max-depth N] lex|parse|check|fmt FILE..."
  | version => "version " ++ grammarRevision
  | noCommand => "a command is required"
  | unknownCommand => "unrecognized command"
  | noFile => "a file is required"
  | unknownArgument => "unexpected argument"
  | notANumber => "the value of an option is not a number"
  | noValue => "a value is required"
  | repeated => "an option cannot be used multiple times"
  | surplusValue => "an option takes no value"

/-- The exit code for a fault of usage.  Help that was asked for is no fault. -/
def UsageFault.exitCode : UsageFault → UInt32
  | help | version => 0
  | _ => 2

def readSource (name : String) : IO (Except FileProblem String) := do
  try
    let bytes ← IO.FS.readBinFile name
    match String.fromUTF8? bytes with
    | some source => return .ok source
    | none => return .error .notText
  catch
    | .noFileOrDirectory .. => return .error .missing
    | _ => return .error .directory

def runArguments (arguments : List String) : IO UInt32 := do
  match Invocation.ofArguments arguments with
  | .error fault =>
    let out ← if fault.exitCode = 0 then IO.getStdout else IO.getStderr
    out.putStrLn fault.message
    return fault.exitCode
  | .ok invocation =>
    let mut contents := []
    for name in invocation.command.files do
      contents := (name, ← readSource name) :: contents
    let table := contents
    let files : FileTable := fun name =>
      ((table.find? fun entry => entry.1 == name).map Prod.snd).getD (.error .missing)
    let result := invocation.execute files
    match result with
    | .printed text _ => IO.print text
    | .failed message => IO.eprintln message
    return result.exitCode.toUInt32

end Offside

def main (arguments : List String) : IO UInt32 := Offside.runArguments arguments
