import Offside.Diagnostic
import Offside.TokenStream
import Offside.Tree.Builder

namespace Offside

/-!
# The progress of a parse

A parse moves through a token stream and builds one node at a time.  Its progress
is the place in the stream, the node under construction, the levels of nesting
that are charged, and what has been reported.  A parse never takes a report back,
not even when it gives up a construct and starts over.
-/

/-- What stays fixed during a parse. -/
structure Session where
  /-- The deepest nesting that is allowed. -/
  maxDepth : Nat
  /-- Whether the lexer found faults.  Brackets may then be missing, and looking
  ahead may fail without anybody being to blame. -/
  lexerComplained : Bool

/-- How far a parse has come. -/
structure Progress where
  stream : TokenStream
  /-- The levels of nesting that are charged. -/
  depth : Nat
  /-- The node under construction. -/
  builder : Builder
  diagnostics : Array Diagnostic

/-- Why a construct was given up. -/
structure Failure where
  fault : GrammaticalFault
  span : Span
  /-- Whether the lexer has complained about the same token already. -/
  reported : Bool

/-- What comes of a rule. -/
inductive Outcome
  /-- The rule is done. -/
  | next (progress : Progress)
  /-- The rule is done, and the innermost loop around it as well. -/
  | leave (progress : Progress)
  /-- The rule was given up.  Of its progress only the reports are kept. -/
  | failed (failure : Failure) (diagnostics : Array Diagnostic)

namespace Progress

/-- A parse in front of a stream, with a node of the given kind to build. -/
def start (stream : TokenStream) (kind : NodeKind) : Progress where
  stream := stream
  depth := 0
  builder := .new kind
  diagnostics := #[]

/-- Take the current token into the node under construction.  At the end of the
source the stream stays where it is. -/
def take (progress : Progress) : Progress :=
  { progress with
    builder := progress.builder.pushToken progress.stream.current
    stream := progress.stream.advance }

def report (progress : Progress) (fault : GrammaticalFault) (span : Span) : Progress :=
  { progress with diagnostics := progress.diagnostics.push (.grammatical fault span) }

/-- Report why a construct was given up, unless the lexer has done so. -/
def reportFailure (progress : Progress) (failure : Failure) : Progress :=
  if failure.reported then progress else progress.report failure.fault failure.span

/-- The failure of the current token to be what was expected. -/
def unexpected (progress : Progress) (expected : List String) : Failure where
  fault := .unexpectedToken (.ofList expected) progress.stream.kind.description
  span := progress.stream.current.span
  reported := progress.stream.kind.isError

/-- The failure of a part of a node to turn up.  It is reported right behind the
last token that was taken. -/
def missing (progress : Progress) (kind : NodeKind) (part : FieldName) : Failure where
  fault := .missingField kind part
  span := .empty progress.stream.previousEnd
  reported := progress.stream.kind.isError

def tooDeep (progress : Progress) (limit : Nat) : Failure where
  fault := .nestingTooDeep limit
  span := progress.stream.current.span
  reported := false

/-- Wrap everything in the node under construction into one node. -/
def wrap (progress : Progress) (kind : NodeKind) : Progress :=
  let inner := { progress.builder with kind := kind }
  { progress with builder := (Builder.new progress.builder.kind).push inner.finish }

def openNode (progress : Progress) (kind : NodeKind) : Progress :=
  { progress with builder := .new kind }

/-- Finish the node under construction and add it to the node around it. -/
def closeNode (progress : Progress) (outer : Builder) (part : Option FieldName) : Progress :=
  let inner := progress.builder.finish
  { progress with
    builder :=
      match part with
      | none => outer.push inner
      | some part => outer.pushField part inner }

/-- The kind of the first child that has been built, if it is a node. -/
def firstKind? (progress : Progress) : Option NodeKind :=
  (progress.builder.children[0]?.bind Element.node?).map Node.kind

/-- The kind of the last child that has been built, if it is a node. -/
def lastKind? (progress : Progress) : Option NodeKind :=
  (progress.builder.children.back?.bind Element.node?).map Node.kind

end Progress

namespace Outcome

def andThen (outcome : Outcome) (rest : Progress → Outcome) : Outcome :=
  match outcome with
  | next progress => rest progress
  | other => other

/-- Change the progress of a rule that was not given up. -/
def map (change : Progress → Progress) : Outcome → Outcome
  | next progress => next (change progress)
  | leave progress => leave (change progress)
  | failed failure diagnostics => failed failure diagnostics

end Outcome
end Offside
