namespace Offside
namespace Utf8

/-!
# Byte offsets in a text

Positions in a source text are counted in bytes of its UTF-8 encoding, while
all scanning works on characters.  This module relates the two: the encoded
length of a list of characters, and the characters between two offsets, which
exist only when both offsets fall between characters.
-/

def byteLength (text : List Char) : Nat :=
  text.foldr (fun c length => c.utf8Size + length) 0

@[simp]
theorem byteLength_nil : byteLength [] = 0 := rfl

@[simp]
theorem byteLength_cons (c : Char) (text : List Char) :
    byteLength (c :: text) = c.utf8Size + byteLength text := rfl

@[simp]
theorem byteLength_append (left right : List Char) :
    byteLength (left ++ right) = byteLength left + byteLength right := by
  induction left with
  | nil => simp
  | cons c left inductionHypothesis => simp [inductionHypothesis, Nat.add_assoc]

/-- Leave out the first `count` bytes, if they end between two characters. -/
def dropBytes : Nat → List Char → Option (List Char)
  | 0, text => some text
  | _ + 1, [] => none
  | count + 1, c :: text =>
    if c.utf8Size ≤ count + 1 then dropBytes (count + 1 - c.utf8Size) text else none

/-- Keep the first `count` bytes, if they end between two characters. -/
def takeBytes : Nat → List Char → Option (List Char)
  | 0, _ => some []
  | _ + 1, [] => none
  | count + 1, c :: text =>
    if c.utf8Size ≤ count + 1 then
      (takeBytes (count + 1 - c.utf8Size) text).map (c :: ·)
    else
      none

/-- The characters between two byte offsets.  There are none to speak of when
an offset lies beyond the text or inside a character, or when the offsets are
in the wrong order. -/
def slice (text : List Char) (start stop : Nat) : Option (List Char) :=
  if start ≤ stop then (dropBytes start text).bind (takeBytes (stop - start)) else none

end Utf8
end Offside
