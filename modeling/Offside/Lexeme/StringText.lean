import Offside.Lexeme.Run
import Offside.Token.Kind

namespace Offside
namespace StringText

/-!
# The text of strings

A string ends at quotation marks of its own form.  A string with plain marks
also ends, unfinished, at the end of its line.  Inside, a backslash takes the
next character out of consideration, and a dollar sign in front of a name or an
opening curly bracket is a splice.

Two functions look at such text.  `hasSplice` looks ahead from the opening marks
to decide whether the string is one token or a sequence of them; `length`
measures the text in front of the next mark, splice or unfinished end.
-/

open CharClass

variable [XidStart]

def closesWith (quote : QuoteForm) (text : List Char) : Bool :=
  match quote with
  | .plain => headIs (· == '"') text
  | .triple => ['"', '"', '"'].isPrefixOf text

def marksLength : QuoteForm → Nat
  | .plain => 1
  | .triple => 3

def startsSplice : List Char → Bool
  | '$' :: '{' :: _ => true
  | '$' :: c :: _ => c != '$' && isIdentStart c
  | _ => false

/-- Whether a string of the given form is cut off in front of a text: at the end
of the source, and for plain marks at the end of the line. -/
def isCutOff (quote : QuoteForm) (text : List Char) : Bool :=
  text.isEmpty || (quote == .plain && headIs (· == '\n') text)

def hasSplice (quote : QuoteForm) : List Char → Bool
  | [] => false
  | c :: rest =>
    if closesWith quote (c :: rest) || (quote == .plain && c == '\n') then false
    else if startsSplice (c :: rest) then true
    else if c == '\\' then
      match rest with
      | [] => false
      | _ :: beyond => hasSplice quote beyond
    else
      hasSplice quote rest

/-- The length of the text in front of the closing marks, the next splice, or
the place where the string is cut off. -/
def length (quote : QuoteForm) : List Char → Nat
  | [] => 0
  | c :: rest =>
    if quote == .plain && c == '\n' then 0
    else if closesWith quote (c :: rest) then 0
    else if startsSplice (c :: rest) then 0
    else if c == '\\' then
      match rest with
      | [] => 1
      | d :: beyond =>
        if quote == .plain && d == '\n' then 1 else length quote beyond + 2
    else
      length quote rest + 1

/-- The next piece of a string with splices. -/
inductive Piece
  /-- The closing marks. -/
  | closing
  /-- A dollar sign and an opening curly bracket. -/
  | spliceOpening
  /-- A dollar sign and a name of the given length. -/
  | name (length : Nat)
  /-- Plain text of the given length. -/
  | text (length : Nat)
  /-- Plain text of the given length, possibly none, behind which the string is cut off. -/
  | cutOff (length : Nat)
deriving DecidableEq, Repr

def scanPiece (quote : QuoteForm) (text : List Char) : Piece :=
  if closesWith quote text then .closing
  else if startsSplice text then
    match text.drop 1 with
    | '{' :: _ => .spliceOpening
    | nameText => .name (runLength isIdentContinue nameText)
  else
    let reach := length quote text
    if isCutOff quote (text.drop reach) then .cutOff reach else .text reach

/-- Text that is neither cut off at once nor begins with marks or a splice is not empty. -/
theorem length_pos {quote : QuoteForm} {text : List Char}
    (notCutOff : isCutOff quote text = false) (notClosed : closesWith quote text = false)
    (notSpliced : startsSplice text = false) : 0 < length quote text := by
  cases text with
  | nil => simp [isCutOff] at notCutOff
  | cons c rest =>
      simp only [isCutOff, headIs, List.isEmpty_cons, Bool.false_or, List.head?_cons,
        Option.any_some] at notCutOff
      unfold length
      simp only [notCutOff, notClosed, notSpliced, Bool.false_eq_true, if_false]
      split
      · split
        · omega
        · split <;> omega
      · omega

/-- A piece of plain text has at least one character. -/
theorem pos_of_scanPiece_text {quote : QuoteForm} {text : List Char} {reach : Nat}
    (found : scanPiece quote text = .text reach) : 0 < reach := by
  unfold scanPiece at found
  split at found
  · cases found
  · rename_i notClosed
    split at found
    · split at found <;> cases found
    · rename_i notSpliced
      simp only at found
      split at found
      · cases found
      · rename_i notCutOff
        cases found
        rcases Nat.eq_zero_or_pos (length quote text) with zero | positive
        · rw [zero] at notCutOff
          have atFront : isCutOff quote text = false := by simpa using notCutOff
          have := length_pos atFront (by simpa using notClosed) (by simpa using notSpliced)
          omega
        · exact positive

end StringText
end Offside
