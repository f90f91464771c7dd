namespace Offside

/-!
# JSON documents

Trees and diagnostics are exported as JSON.  The keys of an object are sorted, so
that equal data give equal documents.  A document has two printed forms: compact,
without any white space, and pretty, with every item on a line of its own and two
blanks of indentation for each level.
-/

/-- A JSON value.  Numbers are offsets and counts, so they are never negative. -/
inductive Json
  | null
  | bool (value : Bool)
  | number (value : Nat)
  | string (text : String)
  | array (items : List Json)
  | object (entries : List (String × Json))

namespace Json

/-- An object with its entries in the order of their keys. -/
def ofEntries (entries : List (String × Json)) : Json :=
  .object (entries.mergeSort fun left right => !decide (right.1 < left.1))

/-- A string, or null in its absence. -/
def ofString? : Option String → Json
  | some text => .string text
  | none => .null

def ofStrings (texts : List String) : Json := .array (texts.map .string)

/-! ## Printing -/

def hexDigit (digit : Nat) : Char := Nat.digitChar (digit % 16)

def escape (c : Char) : List Char :=
  if c = '"' then ['\\', '"']
  else if c = '\\' then ['\\', '\\']
  else if c = '\x08' then ['\\', 'b']
  else if c = '\t' then ['\\', 't']
  else if c = '\n' then ['\\', 'n']
  else if c = '\x0c' then ['\\', 'f']
  else if c = '\r' then ['\\', 'r']
  else if c.toNat < 32 then ['\\', 'u', '0', '0', hexDigit (c.toNat / 16), hexDigit c.toNat]
  else [c]

def quoted (text : String) : String :=
  String.ofList ('"' :: text.toList.flatMap escape ++ ['"'])

def commaSeparated (texts : List String) : String := ",".intercalate texts

mutual

def compact : Json → String
  | null => "null"
  | bool value => if value then "true" else "false"
  | number value => toString value
  | string text => quoted text
  | array items => "[" ++ commaSeparated (compactItems items) ++ "]"
  | object entries => "\x7b" ++ commaSeparated (compactEntries entries) ++ "\x7d"

def compactItems : List Json → List String
  | [] => []
  | item :: rest => compact item :: compactItems rest

def compactEntries : List (String × Json) → List String
  | [] => []
  | (key, value) :: rest => (quoted key ++ ":" ++ compact value) :: compactEntries rest

end

def lineStart (level : Nat) : String := "\n" ++ String.ofList (List.replicate (2 * level) ' ')

mutual

/-- The form with one item on a line, inside `level` levels. -/
def prettyAt (level : Nat) : Json → String
  | null => "null"
  | bool value => if value then "true" else "false"
  | number value => toString value
  | string text => quoted text
  | array [] => "[]"
  | array (item :: rest) =>
    "[" ++ commaSeparated (prettyItems (level + 1) (item :: rest)) ++ lineStart level ++ "]"
  | object [] => "\x7b\x7d"
  | object (entry :: rest) =>
    "\x7b" ++ commaSeparated (prettyEntries (level + 1) (entry :: rest)) ++ lineStart level ++
      "\x7d"

def prettyItems (level : Nat) : List Json → List String
  | [] => []
  | item :: rest => (lineStart level ++ prettyAt level item) :: prettyItems level rest

def prettyEntries (level : Nat) : List (String × Json) → List String
  | [] => []
  | (key, value) :: rest =>
    (lineStart level ++ quoted key ++ ": " ++ prettyAt level value) ::
      prettyEntries level rest

end

def pretty (document : Json) : String := prettyAt 0 document

end Json
end Offside
