import Offside.Token.Bracket

namespace Offside

/-!
# Nested tokens

Some kinds of token open a delimiter and others close one.  Reading tokens with
a stack of open delimiters settles whether they are nested: an opening token is
put on the stack, a closing token has to meet its own delimiter on top, and all
other tokens leave the stack alone.  A reading that meets the wrong delimiter is
stuck for good.

The exact reading tells the two forms of quotation marks apart.  The loose
reading does not: it is as much as the parser attends to, which never compares
the marks at the two ends of a string.
-/

/-- What a token can open and another one close. -/
inductive Delimiter
  /-- An indented block. -/
  | block
  /-- A group, by the bracket that closes it. -/
  | group (closer : ClosingBracket)
  /-- A string with splices. -/
  | string (quote : QuoteForm)
deriving DecidableEq, Repr

namespace Delimiter

/-- Whether the delimiter is a group between brackets. -/
def isGroup : Delimiter → Bool
  | group _ => true
  | _ => false

/-- The delimiter without the form of its quotation marks. -/
def loosen : Delimiter → Delimiter
  | string _ => string .plain
  | delimiter => delimiter

end Delimiter

namespace TokenKind

/-- The delimiter that a token opens, if it opens one. -/
def opens? : TokenKind → Option Delimiter
  | indent => some .block
  | stringStart quote => some (.string quote)
  | kind => (Bracket.ofKind? kind).map fun bracket => .group bracket.closer

/-- The delimiter that a token closes, if it closes one. -/
def closes? : TokenKind → Option Delimiter
  | outdent => some .block
  | stringEnd quote => some (.string quote)
  | kind => (ClosingBracket.ofKind? kind).map .group

/-- Whether a token leaves every delimiter alone. -/
def isInert (kind : TokenKind) : Bool := kind.opens?.isNone && kind.closes?.isNone

theorem isInert_of_none {kind : TokenKind} (opens : kind.opens? = none)
    (closes : kind.closes? = none) : kind.isInert = true := by
  unfold isInert
  rw [opens, closes]
  rfl

/-- Whether a token is one that a rule may take whatever is open around it: it
leaves all delimiters alone, marks no fault and does not end the source. -/
def isPlain (kind : TokenKind) : Bool :=
  kind.isInert && !kind.isError && kind != .endOfFile

end TokenKind

/-! ## Reading with a stack -/

/-- How a reading sees the delimiters of tokens. -/
structure Nesting where
  /-- What counts of a delimiter. -/
  view : Delimiter → Delimiter

namespace Nesting

/-- The reading that sees everything. -/
def exact : Nesting := ⟨id⟩

/-- The reading that takes all quotation marks for the same. -/
def loose : Nesting := ⟨Delimiter.loosen⟩

/-- Read one token. -/
def step (nesting : Nesting) (stack : List Delimiter) (kind : TokenKind) :
    Option (List Delimiter) :=
  match kind.opens? with
  | some opened => some (nesting.view opened :: stack)
  | none =>
    match kind.closes? with
    | none => some stack
    | some closed =>
      match stack with
      | [] => none
      | top :: outer => if top = nesting.view closed then some outer else none

/-- Read some tokens, one after the other. -/
def read (nesting : Nesting) (stack : List Delimiter) : List TokenKind → Option (List Delimiter)
  | [] => some stack
  | kind :: kinds => (nesting.step stack kind).bind fun stack => nesting.read stack kinds

variable (nesting : Nesting)

@[simp]
theorem read_nil (stack : List Delimiter) : nesting.read stack [] = some stack := rfl

@[simp]
theorem read_cons (stack : List Delimiter) (kind : TokenKind) (kinds : List TokenKind) :
    nesting.read stack (kind :: kinds) =
      (nesting.step stack kind).bind fun stack => nesting.read stack kinds := rfl

/-- Tokens are read one part after the other. -/
theorem read_append (stack : List Delimiter) (front back : List TokenKind) :
    nesting.read stack (front ++ back) =
      (nesting.read stack front).bind fun stack => nesting.read stack back := by
  induction front generalizing stack with
  | nil => rfl
  | cons kind front inductionHypothesis =>
      rw [List.cons_append, read_cons, read_cons, Option.bind_assoc]
      exact congrArg _ (funext fun inner => inductionHypothesis inner)

theorem read_concat {stack inner : List Delimiter} {kinds : List TokenKind} {kind : TokenKind}
    (readSoFar : nesting.read stack kinds = some inner) :
    nesting.read stack (kinds ++ [kind]) = nesting.step inner kind := by
  rw [read_append, readSoFar, Option.bind_some, read_cons]
  exact Option.bind_fun_some _

theorem exists_of_read_concat {stack opened : List Delimiter} {kinds : List TokenKind}
    {kind : TokenKind} (readThrough : nesting.read stack (kinds ++ [kind]) = some opened) :
    ∃ inner, nesting.read stack kinds = some inner ∧ nesting.step inner kind = some opened := by
  rw [read_append] at readThrough
  rcases Option.bind_eq_some_iff.mp readThrough with ⟨inner, readSoFar, last⟩
  rw [read_cons] at last
  exact ⟨inner, readSoFar, (Option.bind_fun_some _).symm.trans last⟩

/-- A reading that is stuck stays stuck. -/
theorem read_append_of_stuck {stack : List Delimiter} {front : List TokenKind}
    (stuck : nesting.read stack front = none) (back : List TokenKind) :
    nesting.read stack (front ++ back) = none := by
  rw [read_append, stuck, Option.bind_none]

theorem step_of_opens {stack : List Delimiter} {kind : TokenKind} {opened : Delimiter}
    (opens : kind.opens? = some opened) :
    nesting.step stack kind = some (nesting.view opened :: stack) := by
  unfold step
  rw [opens]

theorem opens_of_closes {kind : TokenKind} {closed : Delimiter}
    (closes : kind.closes? = some closed) : kind.opens? = none := by
  cases kind with
  | punctuation mark => cases mark <;> first | rfl | cases closes
  | stringStart quote => cases closes
  | indent => cases closes
  | _ => rfl

/-- A closing token takes its own delimiter from the top of the stack. -/
theorem step_of_closes (outer : List Delimiter) {kind : TokenKind} {closed : Delimiter}
    (closes : kind.closes? = some closed) :
    nesting.step (nesting.view closed :: outer) kind = some outer := by
  unfold step
  rw [opens_of_closes closes, closes]
  exact if_pos rfl

/-- A closing token is stuck on any other delimiter. -/
theorem step_of_closes_ne {top : Delimiter} {outer : List Delimiter} {kind : TokenKind}
    {closed : Delimiter} (closes : kind.closes? = some closed)
    (other : top ≠ nesting.view closed) : nesting.step (top :: outer) kind = none := by
  unfold step
  rw [opens_of_closes closes, closes]
  exact if_neg other

/-- What a token closes was open. -/
theorem eq_cons_of_closes {stack outer : List Delimiter} {kind : TokenKind} {closed : Delimiter}
    (closes : kind.closes? = some closed) (stepped : nesting.step stack kind = some outer) :
    stack = nesting.view closed :: outer := by
  unfold step at stepped
  rw [opens_of_closes closes, closes] at stepped
  cases stack with
  | nil => cases stepped
  | cons top inner =>
      dsimp only at stepped
      split at stepped
      · rename_i same
        rw [same, Option.some.inj stepped]
      · cases stepped

theorem step_of_inert {stack : List Delimiter} {kind : TokenKind}
    (inert : kind.isInert = true) : nesting.step stack kind = some stack := by
  unfold TokenKind.isInert at inert
  simp only [Bool.and_eq_true, Option.isNone_iff_eq_none] at inert
  unfold step
  rw [inert.1, inert.2]

/-- A reading that is not stuck is not stuck either when less counts of the delimiters. -/
theorem step_loose {stack after : List Delimiter} {kind : TokenKind}
    (stepped : exact.step stack kind = some after) :
    loose.step (stack.map Delimiter.loosen) kind = some (after.map Delimiter.loosen) := by
  cases opens : kind.opens? with
  | some opened =>
      rw [step_of_opens _ opens] at stepped ⊢
      cases stepped
      rfl
  | none =>
      cases closes : kind.closes? with
      | none =>
          rw [step_of_inert _ (TokenKind.isInert_of_none opens closes)] at stepped ⊢
          cases stepped
          rfl
      | some closed =>
          cases stack with
          | nil =>
              unfold step at stepped
              rw [opens, closes] at stepped
              cases stepped
          | cons top outer =>
              by_cases same : top = exact.view closed
              · have met := step_of_closes exact outer closes
                rw [← same, stepped] at met
                cases met
                rw [same]
                exact step_of_closes loose _ closes
              · rw [step_of_closes_ne _ closes same] at stepped
                cases stepped

theorem read_loose {stack after : List Delimiter} {kinds : List TokenKind}
    (readExactly : exact.read stack kinds = some after) :
    loose.read (stack.map Delimiter.loosen) kinds = some (after.map Delimiter.loosen) := by
  induction kinds generalizing stack with
  | nil =>
      cases readExactly
      rfl
  | cons kind kinds inductionHypothesis =>
      rw [read_cons] at readExactly ⊢
      rcases Option.bind_eq_some_iff.mp readExactly with ⟨inner, stepped, rest⟩
      rw [step_loose stepped, Option.bind_some]
      exact inductionHypothesis rest

end Nesting
end Offside
