import Offside.Layout.Step

namespace Offside

/-!
# Lexing

Lexing turns a source text into tokens.  It is total: every character ends up in
a token or in trivia, whatever the source looks like, and faults are reported on
the side.  At the end of the source everything that is still open is closed, the
innermost construct first, and a last token marks the end.
-/

/-- The tokens of a source and the faults that were found on the way. -/
structure Lexed where
  tokens : List Token
  diagnostics : List Diagnostic

namespace Reader

def run [XidStart] (reader : Reader) : Reader :=
  if _atEnd : reader.rest.isEmpty then reader else run reader.step
termination_by reader.remaining
decreasing_by exact remaining_step_lt reader (by simpa using _atEnd)

/-- Close a construct that is open at the end of the source.  An open splice needs
no report, because the string it stands in is reported. -/
def closeAtEnd (reader : Reader) : Frame → Reader
  | .indent _ => reader.insert .outdent reader.lastEnd
  | .splice _ => reader
  | .string _ opened =>
    (reader.report .unterminatedString ⟨opened, reader.offset⟩).insert (.error "") reader.offset
  | .group bracket opened =>
    let shown := if bracket = .hashCurly then Bracket.curly else bracket
    (reader.report (.unterminatedBlock shown.char) ⟨opened, opened + 1⟩).insert
      (.error "") reader.offset

/-- Close what is open and mark the end of the source. -/
def finish (reader : Reader) : Lexed :=
  let closed := reader.frames.foldl closeAtEnd reader
  let ended := closed.add .endOfFile (.empty reader.offset)
  ⟨ended.tokens.toList, ended.diagnostics.toList⟩

end Reader

def defaultTabWidth : Nat := 4

/-- The tokens of a source, with tab stops at multiples of the tab width. -/
def lex [XidStart] (source : String) (tabWidth : Nat) : Lexed :=
  (Reader.start tabWidth source.toList).run.finish

end Offside
