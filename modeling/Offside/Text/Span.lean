import Offside.Text.Utf8

namespace Offside

/-!
# Spans

A span names a stretch of a source text by the byte offsets of its two ends.
The text from `start` up to but excluding `stop` belongs to it.
-/

/-- A stretch of source text, in byte offsets, with the end left out. -/
structure Span where
  start : Nat
  stop : Nat
deriving DecidableEq, Repr, Inhabited

namespace Span

def empty (offset : Nat) : Span := ⟨offset, offset⟩

def merge (left right : Span) : Span :=
  ⟨min left.start right.start, max left.stop right.stop⟩

def length (span : Span) : Nat := span.stop - span.start

def isEmpty (span : Span) : Bool := span.start == span.stop

/-- The part of a source that the span names.  A span that does not fit the
source, or that cuts a character, names the empty text. -/
def text (span : Span) (source : String) : String :=
  String.ofList ((Utf8.slice source.toList span.start span.stop).getD [])

end Span
end Offside
