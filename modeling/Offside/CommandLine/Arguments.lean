import Offside.CommandLine.Invocation
import Offside.Text.CharClass

namespace Offside

/-!
# Arguments

Arguments are read from left to right.  A command is a word of its own, and what
stands behind it belongs to the command.  A value may be glued to its option by an
equals sign or follow it as the next argument.  Behind `--` every argument is a
file.

A value is looked at only when the next argument has been recognised, so an
unknown argument is reported before a wrong value in front of it; and what is
wrong behind a command is reported before what is wrong in front of it.
-/

/-- The name of a command. -/
inductive CommandName
  | lex
  | parse
  | check
  | format
deriving DecidableEq, Repr

def CommandName.ofWord? : String → Option CommandName
  | "lex" => some lex
  | "parse" => some parse
  | "check" => some check
  | "fmt" => some format
  | _ => none

/-- An option with a number as its value. -/
inductive Setting
  | tabWidth
  | maxDepth
  | indentWidth
deriving DecidableEq, Repr

/-- What stands before the next argument. -/
inductive Pending
  | nothing
  /-- An option and its value, if that has been read. -/
  | setting (setting : Setting) (value : Option String)
  /-- Files in a row. -/
  | files (names : List String)

/-- The arguments in front of a command, or behind it. -/
structure ArgumentReading where
  /-- The command that the arguments belong to. -/
  command : Option CommandName
  settings : List (Setting × Nat)
  json : Bool
  files : List String
  pending : Pending
  /-- Whether every argument from here on is a file. -/
  onlyFiles : Bool

namespace ArgumentReading

def start (command : Option CommandName) : ArgumentReading :=
  ⟨command, [], false, [], .nothing, false⟩

/-- The size that a text spells: decimal digits, perhaps behind a plus sign, for a
number that fits a machine word. -/
def size? (text : String) : Option Nat :=
  let digits :=
    match text.toList with
    | '+' :: rest => rest
    | all => all
  let value := digits.foldl (fun value c => 10 * value + (c.toNat - '0'.toNat)) 0
  if digits.isEmpty || !digits.all CharClass.isDigit || UInt64.size ≤ value then none
  else some value

def setting? (reading : ArgumentReading) (setting : Setting) : Option Nat :=
  (reading.settings.find? fun entry => entry.1 == setting).map Prod.snd

def record (reading : ArgumentReading) (setting : Setting) (value : String) :
    Except UsageFault ArgumentReading :=
  if (reading.setting? setting).isSome then .error .repeated
  else
    match size? value with
    | some number => .ok { reading with settings := (setting, number) :: reading.settings }
    | none => .error .notANumber

def settle (reading : ArgumentReading) : Except UsageFault ArgumentReading :=
  let settled := { reading with pending := .nothing }
  match reading.pending with
  | .nothing => .ok settled
  | .setting _ none => .error .noValue
  | .setting setting (some value) => settled.record setting value
  | .files names =>
    if names.contains "" then .error .noValue
    else .ok { settled with files := reading.files ++ names }

def awaitsValue (reading : ArgumentReading) : Bool :=
  match reading.pending with
  | .setting _ none => true
  | _ => false

def settingOf? (reading : ArgumentReading) : String → Option Setting
  | "tab-width" => some .tabWidth
  | "max-depth" => some .maxDepth
  | "indent-width" => if reading.command = some .format then some .indentWidth else none
  | _ => none

def readFlag (reading : ArgumentReading) (name : String) :
    Except UsageFault ArgumentReading := do
  if name = "help" then
    let _ ← reading.settle
    .error .help
  else if name = "version" && reading.command.isNone then
    let _ ← reading.settle
    .error .version
  else if name = "json" && reading.command = some .parse then
    let settled ← reading.settle
    if settled.json then .error .repeated else .ok { settled with json := true }
  else .error .unknownArgument

def isFlag (reading : ArgumentReading) (name : String) : Bool :=
  name = "help" || (name = "version" && reading.command.isNone) ||
    (name = "json" && reading.command = some .parse)

/-- Read an option that is written out, with the value that is glued to it. -/
def readLong (reading : ArgumentReading) (name : String) (value : Option String) :
    Except UsageFault ArgumentReading :=
  match reading.settingOf? name, value with
  | some setting, some value => do (← reading.settle).record setting value
  | some setting, none => do
    .ok { (← reading.settle) with pending := .setting setting none }
  | none, some _ =>
    if reading.isFlag name then .error .surplusValue else .error .unknownArgument
  | none, none => reading.readFlag name

def readShort (reading : ArgumentReading) (letter : Char) :
    Except UsageFault ArgumentReading :=
  if letter = 'h' then reading.readFlag "help"
  else if letter = 'V' then reading.readFlag "version"
  else .error .unknownArgument

/-- Read a file.  Only `check` works on several files, and in front of a command
there are none. -/
def readFile (reading : ArgumentReading) (name : String) :
    Except UsageFault ArgumentReading :=
  match reading.command, reading.pending with
  | none, _ =>
    if reading.onlyFiles && (name = "help" || (CommandName.ofWord? name).isSome) then
      .error .unknownArgument
    else .error .unknownCommand
  | some .check, .files names => .ok { reading with pending := .files (names ++ [name]) }
  | some .check, _ => do .ok { (← reading.settle) with pending := .files [name] }
  | some _, .files _ => .error .unknownArgument
  | some _, _ =>
    if reading.files.isEmpty then do
      .ok { (← reading.settle) with pending := .files [name] }
    else .error .unknownArgument

/-- Split an option that is written out from the value that is glued to it. -/
def splitValue (text : List Char) : String × Option String :=
  match text.dropWhile (· != '=') with
  | [] => (String.ofList text, none)
  | _ :: value => (String.ofList (text.takeWhile (· != '=')), some (String.ofList value))

def read (reading : ArgumentReading) (argument : String) :
    Except UsageFault ArgumentReading :=
  if reading.onlyFiles then reading.readFile argument
  else
    match argument.toList with
    | ['-', '-'] => .ok { reading with onlyFiles := true }
    | '-' :: '-' :: option => (fun split => reading.readLong split.1 split.2) (splitValue option)
    | '-' :: letter :: _ => reading.readShort letter
    | _ =>
      match reading.pending with
      | .setting setting none =>
        .ok { reading with pending := .setting setting (some argument) }
      | _ => reading.readFile argument

def toCommand (reading : ArgumentReading) (name : CommandName) : Except UsageFault Command :=
  match name, reading.files with
  | _, [] => .error .noFile
  | .lex, file :: _ => .ok (.lex file)
  | .parse, file :: _ => .ok (.parse file reading.json)
  | .check, files => .ok (.check files)
  | .format, file :: _ => .ok (.format file ((reading.setting? .indentWidth).getD 4))

end ArgumentReading

namespace Invocation

def helpTopic : List String → UsageFault
  | [] => .help
  | [word] =>
    if word = "help" || (CommandName.ofWord? word).isSome then .help else .unknownCommand
  | _ => .unknownCommand

/-- Put together what was read in front of a command and behind it.  What stands
behind the command counts when both give a setting. -/
def combine (before behind : ArgumentReading) (command : Command) : Invocation :=
  let value (setting : Setting) (otherwise : Nat) :=
    ((behind.setting? setting).or (before.setting? setting)).getD otherwise
  ⟨command, value .tabWidth defaultTabWidth, value .maxDepth defaultMaxDepth⟩

def readBehind (before : ArgumentReading) (name : CommandName) (arguments : List String) :
    Except UsageFault Invocation := do
  let behind ← arguments.foldlM ArgumentReading.read (.start (some name))
  let behind ← behind.settle
  let command ← behind.toCommand name
  let before ← before.settle
  .ok (combine before behind command)

def readFrom (before : ArgumentReading) : List String → Except UsageFault Invocation
  | [] => do
    let before ← before.settle
    if before.settings.isEmpty then .error .nothingGiven else .error .noCommand
  | argument :: rest =>
    if before.onlyFiles || before.awaitsValue then do
      readFrom (← before.read argument) rest
    else
      match CommandName.ofWord? argument with
      | some name => readBehind before name rest
      | none =>
        if argument = "help" then .error (helpTopic rest)
        else do readFrom (← before.read argument) rest

def ofArguments (arguments : List String) : Except UsageFault Invocation :=
  readFrom (.start none) arguments

end Invocation
end Offside
