import Offside.Diagnostic
import Offside.Layout.Column
import Offside.Layout.Frame
import Offside.Token

namespace Offside

/-!
# The state of a reader

A reader goes through a source once, from front to back.  Its state is the text
still to be read with its place, the open frames, the trivia that waits for its
token, and what has been found so far.
-/

/-- A source that has been read up to some point. -/
structure Reader where
  tabWidth : Nat
  /-- The text still to be read. -/
  rest : List Char
  /-- The byte offset of that text. -/
  offset : Nat
  /-- The column of that text. -/
  column : Nat
  /-- What is open, the innermost construct first. -/
  frames : List Frame
  /-- Trivia that waits for the next real token. -/
  trivia : Array Trivia
  /-- Whether a line break was read since the last real token. -/
  atLineStart : Bool
  /-- The column of the last line that went through the layout rules. -/
  lineIndent : Nat
  /-- The end of the last real token. -/
  lastEnd : Nat
  tokens : Array Token
  diagnostics : Array Diagnostic

namespace Reader

/-- A reader in front of a source.  A tab is at least one column wide. -/
def start (tabWidth : Nat) (source : List Char) : Reader where
  tabWidth := max tabWidth 1
  rest := source
  offset := 0
  column := 0
  frames := []
  trivia := #[]
  atLineStart := true
  lineIndent := 0
  lastEnd := 0
  tokens := #[]
  diagnostics := #[]

/-- The kind of the last token, real or synthetic. -/
def lastKind? (reader : Reader) : Option TokenKind :=
  reader.tokens.back?.map Token.kind

def report (reader : Reader) (fault : LexicalFault) (span : Span) : Reader :=
  { reader with diagnostics := reader.diagnostics.push (.lexical fault span) }

/-- Insert a token of width zero.  Waiting trivia is left for the next real token. -/
def insert (reader : Reader) (kind : TokenKind) (offset : Nat) : Reader :=
  { reader with tokens := reader.tokens.push (.bare kind (.empty offset)) }

/-- Add a real token, which takes the waiting trivia. -/
def add (reader : Reader) (kind : TokenKind) (span : Span) : Reader :=
  { reader with
    tokens := reader.tokens.push ⟨kind, span, reader.trivia.toList⟩
    trivia := #[]
    lastEnd := span.stop }

/-- Let a stretch of trivia wait for its token. -/
def addTrivia (reader : Reader) (kind : TriviaKind) (span : Span) : Reader :=
  { reader with trivia := reader.trivia.push ⟨kind, span⟩ }

def openFrame (reader : Reader) (frame : Frame) : Reader :=
  { reader with frames := frame :: reader.frames }

def spanOf (reader : Reader) (text : List Char) : Span :=
  ⟨reader.offset, reader.offset + Utf8.byteLength text⟩

/-- Move past a text, in front of what follows it. -/
def advance (reader : Reader) (text rest : List Char) : Reader :=
  { reader with
    rest := rest
    offset := reader.offset + Utf8.byteLength text
    column := Column.afterText reader.tabWidth reader.column text }

end Reader
end Offside
