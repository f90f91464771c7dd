import Offside.Token.Bracket
import Offside.Token

namespace Offside

/-!
# Token streams

A token stream is a finished list of tokens and a place in it.  Looking ahead is
free and may go as far as it likes; behind the last token there is nothing but
the end of the source.  Moving on never goes past that end, so the place of a
stream is always the place of a token.
-/

/-- Tokens with a place among them.  The mark at the end is kept apart from the
tokens before it: it is what every position beyond them shows. -/
structure TokenStream where
  /-- The tokens before the last one. -/
  body : Array Token
  /-- The mark at the end of the source. -/
  ending : Token
  /-- The position of the current token. -/
  position : Nat
  ending_kind : ending.kind = .endOfFile

namespace TokenStream

/-- The stream over a list of tokens.  A list that does not end in the mark at
the end of the source gets one, right behind its last token. -/
def ofList (tokens : List Token) : TokenStream :=
  match tokens.getLast? with
  | some last =>
    if isEnd : last.kind = .endOfFile then ⟨tokens.dropLast.toArray, last, 0, isEnd⟩
    else ⟨tokens.toArray, .endOfFile last.span.stop, 0, rfl⟩
  | none => ⟨#[], .endOfFile 0, 0, rfl⟩

def toList (stream : TokenStream) : List Token := stream.body.toList ++ [stream.ending]

/-- The number of tokens, the mark at the end included. -/
def size (stream : TokenStream) : Nat := stream.body.size + 1

def tokenAt (stream : TokenStream) (position : Nat) : Token :=
  stream.body.getD position stream.ending

def ahead (stream : TokenStream) (offset : Nat) : Token :=
  stream.tokenAt (stream.position + offset)

def kindAhead (stream : TokenStream) (offset : Nat) : TokenKind := (stream.ahead offset).kind

def current (stream : TokenStream) : Token := stream.ahead 0

def kind (stream : TokenStream) : TokenKind := stream.current.kind

def atEnd (stream : TokenStream) : Bool := stream.kind == .endOfFile

/-- The stream past its current token; at the end of the source it stays. -/
def advance (stream : TokenStream) : TokenStream :=
  if stream.atEnd then stream else { stream with position := stream.position + 1 }

def moveTo (stream : TokenStream) (position : Nat) : TokenStream :=
  { stream with position := position }

def remaining (stream : TokenStream) : Nat := stream.size - stream.position

def previous? (stream : TokenStream) : Option Token :=
  if stream.position = 0 then none else some (stream.tokenAt (stream.position - 1))

def previousEnd (stream : TokenStream) : Nat :=
  (stream.previous?.map fun token => token.span.stop).getD 0

theorem tokenAt_of_size_le (stream : TokenStream) (position : Nat)
    (beyond : stream.body.size ≤ position) : stream.tokenAt position = stream.ending := by
  simp [tokenAt, Array.getD, Nat.not_lt.mpr beyond]

/-- Before the end of the source there are tokens left, so moving on makes progress. -/
theorem position_lt_of_not_atEnd (stream : TokenStream) (before : stream.atEnd = false) :
    stream.position < stream.body.size := by
  rcases Nat.lt_or_ge stream.position stream.body.size with inside | beyond
  · exact inside
  · have shown := tokenAt_of_size_le stream stream.position beyond
    simp [atEnd, kind, current, ahead, shown, stream.ending_kind] at before

theorem remaining_advance_lt (stream : TokenStream) (before : stream.atEnd = false) :
    stream.advance.remaining < stream.remaining := by
  have inside := position_lt_of_not_atEnd stream before
  simp only [advance, before, Bool.false_eq_true, if_false, remaining, size]
  omega

/-! ## Groups -/

/-- The position behind the closing bracket that ends a group, for a position
inside the group at which `depth` brackets are open.  The number of open brackets
stays below that of tokens, so a word of 32 bits holds it as well in any source
with fewer than `2 ^ 31` of them. -/
def closeFrom (stream : TokenStream) (depth position : Nat) : Option Nat :=
  if position < stream.body.size then
    let kind := (stream.tokenAt position).kind
    let inside :=
      if kind.isOpener then depth + 1 else if kind.isCloser then depth - 1 else depth
    if kind = .endOfFile then none
    else if inside = 0 then some (position + 1)
    else closeFrom stream inside (position + 1)
  else none
termination_by stream.body.size - position

/-- The position behind the closing bracket that ends the group which the token
at a position opens.  The brackets in between are only counted, not matched. -/
def matchingClose? (stream : TokenStream) (position : Nat) : Option Nat :=
  if (stream.tokenAt position).kind.isOpener then stream.closeFrom 0 position else none

/-- The kind of the token behind the group that opens a number of places ahead. -/
def kindAfterGroup? (stream : TokenStream) (offset : Nat) : Option TokenKind :=
  (stream.matchingClose? (stream.position + offset)).map fun position =>
    (stream.tokenAt position).kind

end TokenStream
end Offside
