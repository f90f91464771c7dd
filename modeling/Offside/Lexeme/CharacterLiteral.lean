import Offside.Lexeme.Run
import Offside.Text.CharClass

namespace Offside
namespace CharacterLiteral

/-!
# Character literals

A character literal holds one character or one escape between single quotation
marks; it may also be empty.  Where a literal is malformed, the text up to the
next quotation mark of the line belongs to it, so that one slip does not make
the rest of the line unreadable.
-/

open CharClass

/-- The length of the part of an escape behind the backslash, and whether the
escape is well formed. -/
def scanEscape : List Char → Nat × Bool
  | [] => (0, false)
  | '\n' :: _ => (0, false)
  | 'x' :: rest =>
    let digits := runLength isHexDigit (rest.take 2)
    (1 + digits, digits == 2)
  | 'u' :: '{' :: rest =>
    let digits := runLength isHexDigit rest
    if digits = 0 then (2, false)
    else
      match rest.drop digits with
      | [] => (2 + digits, false)
      | c :: _ => (3 + digits, c == '}')
  | 'u' :: rest =>
    let digits := runLength isHexDigit (rest.take 4)
    (1 + digits, digits == 4)
  | _ :: _ => (1, true)

/-- The length of what stands between the quotation marks, and whether it is
well formed. -/
def scanContent : List Char → Nat × Bool
  | [] => (0, false)
  | '\n' :: _ => (0, false)
  | '\'' :: _ => (0, true)
  | '\\' :: rest =>
    let escape := scanEscape rest
    (1 + escape.1, escape.2)
  | _ :: _ => (1, true)

/-- The number of characters up to and including the next quotation mark of the
line, if there is one. -/
def resyncLength (text : List Char) : Nat :=
  let gap := runLength (fun c => c != '\'' && c != '\n') text
  if headIs (· == '\'') (text.drop gap) then gap + 1 else 0

/-- The number of characters of a literal behind its opening quotation mark, and
whether the literal is well formed. -/
def scan (text : List Char) : Nat × Bool :=
  let content := scanContent text
  let beyond := text.drop content.1
  if content.2 && headIs (· == '\'') beyond then (content.1 + 1, true)
  else (content.1 + resyncLength beyond, false)

end CharacterLiteral
end Offside
