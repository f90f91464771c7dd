import Offside.Grammar.Lookahead
import Offside.Parsing.Progress

namespace Offside

/-!
# Recovery

A construct that is given up is read again as faulty input.  Faulty input takes
at least one token and goes on to a place where something sensible can begin: a
separator, a `case`, the start of a definition, or whatever closes the construct
around it.  Groups and indented blocks that open in between are skipped whole.
-/

namespace Progress

/-- How many groups are open behind a token, counting from `depth` in front of it.
A mark of width zero stands where the lexer gave up a group, so it closes one. -/
def depthBehind (depth : Nat) (kind : TokenKind) : Nat :=
  if kind == .indent || kind.isOpener then depth + 1
  else if kind == .outdent || kind.isCloser || kind == .error "" then depth - 1
  else depth

/-- Gather faulty input with `depth` groups open. -/
def gather (progress : Progress) (depth : Nat) : Progress :=
  if _atEnd : progress.stream.atEnd then progress
  else if depth = 0 && !progress.builder.isEmpty && progress.stream.atRecoveryPoint then
    progress
  else gather progress.take (depthBehind depth progress.stream.kind)
termination_by progress.stream.remaining
decreasing_by
  exact progress.stream.remaining_advance_lt (by simpa using _atEnd)

/-- Add a node of faulty input, unless the source ends here. -/
def addFaulty (progress : Progress) : Progress :=
  let gathered := (progress.openNode .error).gather 0
  if gathered.builder.isEmpty then { gathered with builder := progress.builder }
  else gathered.closeNode progress.builder none

def takeAll (progress : Progress) : Progress :=
  if _atEnd : progress.stream.atEnd then progress else takeAll progress.take
termination_by progress.stream.remaining
decreasing_by
  exact progress.stream.remaining_advance_lt (by simpa using _atEnd)

/-- Add a node with everything up to the end of the source. -/
def addRest (progress : Progress) : Progress :=
  let gathered := (progress.openNode .error).takeAll
  if gathered.builder.isEmpty then { gathered with builder := progress.builder }
  else gathered.closeNode progress.builder none

end Progress
end Offside
