import Offside.Proofs.Lexing.Ahead

namespace Offside

/-!
# The grammar of strings with splices

Between the two ends of a string with splices stand its interpolations, each of them a name
or some code between brackets, and between these at most one piece of text.  The code in an
interpolation may be anything that closes what it opens, and any string in it keeps to the
same grammar.

The tokens up to some point are cut into what stands directly in each of the open frames.
How far the innermost string has got at that point is all that has to be known to go on.
-/

/-- Tokens that close what they open, and nothing else. -/
def Nesting.Balanced (kinds : List TokenKind) : Prop :=
  ∀ stack, Nesting.exact.read stack kinds = some stack

namespace Nesting.Balanced

variable {kinds others : List TokenKind} {kind opening closing : TokenKind}
  {delimiter : Delimiter}

theorem nil : Balanced [] := fun _ => rfl

theorem append (balanced : Balanced kinds) (also : Balanced others) :
    Balanced (kinds ++ others) := by
  intro stack
  rw [read_append, balanced stack, Option.bind_some, also stack]

theorem of_inert (inert : kind.isInert = true) : Balanced [kind] := by
  intro stack
  rw [read_cons, step_of_inert _ inert]
  rfl

theorem enclose (balanced : Balanced kinds) (opens : opening.opens? = some delimiter)
    (closes : closing.closes? = some delimiter) : Balanced (opening :: (kinds ++ [closing])) := by
  intro stack
  rw [read_cons, step_of_opens _ opens, Option.bind_some,
    exact.read_concat (balanced (exact.view delimiter :: stack))]
  exact step_of_closes exact stack closes

end Nesting.Balanced

/-! ## What stands in a string -/

/-- The tokens of one splice. -/
inductive Interpolation : List TokenKind → Prop
  | name (name : String) : Interpolation [.punctuation .dollar, .identifier name]
  | code {code : List TokenKind} (balanced : Nesting.Balanced code) :
      Interpolation
        (.punctuation .dollar :: .punctuation .leftBrace :: (code ++ [.punctuation .rightBrace]))

/-- The tokens in a string up to some point: whether there is a splice among them, and
whether the last of them is text. -/
inductive Interpolated : (spliced texted : Bool) → List TokenKind → Prop
  | nothing : Interpolated false false []
  | text {spliced : Bool} {kinds : List TokenKind} (inside : Interpolated spliced false kinds)
      (text : String) (nonempty : text ≠ "") :
      Interpolated spliced true (kinds ++ [.stringMiddle text])
  | splice {spliced texted : Bool} {kinds piece : List TokenKind}
      (inside : Interpolated spliced texted kinds) (splice : Interpolation piece) :
      Interpolated true false (kinds ++ piece)

theorem Interpolation.balanced {piece : List TokenKind} (splice : Interpolation piece) :
    Nesting.Balanced piece := by
  have dollar : Nesting.Balanced [.punctuation .dollar] := .of_inert rfl
  cases splice with
  | name name => exact dollar.append (.of_inert rfl)
  | code balanced => exact dollar.append (balanced.enclose rfl rfl)

theorem Interpolated.balanced {spliced texted : Bool} {kinds : List TokenKind}
    (inside : Interpolated spliced texted kinds) : Nesting.Balanced kinds := by
  induction inside with
  | nothing => exact .nil
  | text inside text nonempty inductionHypothesis =>
      exact inductionHypothesis.append (.of_inert rfl)
  | splice inside splice inductionHypothesis =>
      exact inductionHypothesis.append splice.balanced

/-- A string that is opened in front of some tokens is closed among them, in the same form,
and has at least one splice. -/
def EndsString (quote : QuoteForm) (back : List TokenKind) : Prop :=
  ∃ inside after texted, back = inside ++ .stringEnd quote :: after ∧
    Nesting.Balanced inside ∧ Interpolated true texted inside

/-- Tokens that close what they open, with all their strings. -/
structure Code (kinds : List TokenKind) : Prop where
  balanced : Nesting.Balanced kinds
  strings : ∀ front quote back, kinds = front ++ .stringStart quote :: back →
    EndsString quote back

theorem EndsString.append {quote : QuoteForm} {back : List TokenKind}
    (ends : EndsString quote back) (others : List TokenKind) :
    EndsString quote (back ++ others) := by
  rcases ends with ⟨inside, after, texted, rfl, balanced, interpolated⟩
  exact ⟨inside, after ++ others, texted, by simp, balanced, interpolated⟩

namespace Code

variable {kinds others : List TokenKind} {kind opening closing : TokenKind} {quote : QuoteForm}
  {delimiter : Delimiter}

theorem nil : Code [] where
  balanced := .nil
  strings := by
    intro front quote back none
    cases front <;> cases none

theorem append (code : Code kinds) (also : Code others) : Code (kinds ++ others) where
  balanced := code.balanced.append also.balanced
  strings := by
    intro front quote back parts
    rcases split_append parts with ⟨inner, rfl, before⟩ | ⟨inner, -, behind⟩
    · exact (code.strings front quote inner before).append others
    · exact also.strings inner quote back behind

theorem of_inert (inert : kind.isInert = true) : Code [kind] where
  balanced := .of_inert inert
  strings := by
    intro front quote back parts
    cases front with
    | nil =>
        cases parts
        cases inert
    | cons first front => cases front <;> cases parts

/-- The strings behind the first of some tokens, and the one that it opens. -/
theorem strings_cons (ends : ∀ quote, kind = .stringStart quote → EndsString quote kinds)
    (strings : ∀ front quote back, kinds = front ++ .stringStart quote :: back →
      EndsString quote back) :
    ∀ front quote back, kind :: kinds = front ++ .stringStart quote :: back →
      EndsString quote back := by
  intro front quote back parts
  cases front with
  | nil =>
      cases parts
      exact ends quote rfl
  | cons first front =>
      cases parts
      exact strings front quote back rfl

theorem strings_concat (code : Code kinds) (closes : closing.closes? = some delimiter) :
    ∀ front quote back, kinds ++ [closing] = front ++ .stringStart quote :: back →
      EndsString quote back := by
  intro front quote back parts
  rcases split_concat parts with ⟨inner, rfl, before⟩ | ⟨-, -, rfl⟩
  · exact (code.strings front quote inner before).append [closing]
  · cases closes

/-- Code in a block or a group. -/
theorem enclose (code : Code kinds) (opens : opening.opens? = some delimiter)
    (closes : closing.closes? = some delimiter) (noString : ∀ quote, opening ≠ .stringStart quote) :
    Code (opening :: (kinds ++ [closing])) where
  balanced := code.balanced.enclose opens closes
  strings := strings_cons (fun quote same => absurd same (noString quote))
    (code.strings_concat closes)

/-- A whole string. -/
theorem string {texted : Bool} (code : Code kinds) (inside : Interpolated true texted kinds)
    (quote : QuoteForm) : Code (.stringStart quote :: (kinds ++ [.stringEnd quote])) where
  balanced := code.balanced.enclose rfl rfl
  strings := by
    have closes : (TokenKind.stringEnd quote).closes? = some (.string quote) := rfl
    refine strings_cons (fun other same => ?_) (code.strings_concat closes)
    cases same
    exact ⟨kinds, [], texted, rfl, code.balanced, inside⟩

end Code

/-! ## What stands in the open frames -/

/-- Where the next token comes to stand: in code, or directly in a string. -/
inductive Place
  | code
  | string (quote : QuoteForm) (spliced texted : Bool)

/-- Tokens up to some point, by what stands directly in each of the open frames. -/
inductive Built : Place → List Frame → List TokenKind → Prop
  | outside {kinds : List TokenKind} (code : Code kinds) : Built .code [] kinds
  | block {frames : List Frame} {kinds inner : List TokenKind} (column : Nat)
      (built : Built .code frames kinds) (code : Code inner) :
      Built .code (.indent column :: frames) (kinds ++ .indent :: inner)
  | group {frames : List Frame} {kinds inner : List TokenKind} {bracket : Bracket}
      {opening : TokenKind} (opened : Nat) (opens : Bracket.ofKind? opening = some bracket)
      (built : Built .code frames kinds) (code : Code inner) :
      Built .code (.group bracket opened :: frames) (kinds ++ opening :: inner)
  | string {frames : List Frame} {kinds inner : List TokenKind} {spliced texted : Bool}
      (quote : QuoteForm) (opened : Nat) (built : Built .code frames kinds)
      (inside : Interpolated spliced texted inner) (code : Code inner) :
      Built (.string quote spliced texted) (.string quote opened :: frames)
        (kinds ++ .stringStart quote :: inner)
  | splice {frames : List Frame} {kinds inner : List TokenKind} {quote : QuoteForm}
      {spliced texted : Bool} (opened : Nat)
      (built : Built (.string quote spliced texted) frames kinds) (code : Code inner) :
      Built .code (.splice opened :: frames)
        (kinds ++ .punctuation .dollar :: .punctuation .leftBrace :: inner)

namespace Built

variable {place : Place} {frames blocks outer : List Frame} {kinds piece : List TokenKind}
  {quote form : QuoteForm} {spliced texted : Bool} {column opened : Nat}

theorem append (built : Built .code frames kinds) (code : Code piece) :
    Built .code frames (kinds ++ piece) := by
  cases built with
  | outside inner => exact .outside (inner.append code)
  | block column built inner =>
      rw [List.append_assoc]
      exact .block column built (inner.append code)
  | group opened opens built inner =>
      rw [List.append_assoc]
      exact .group opened opens built (inner.append code)
  | splice opened built inner =>
      rw [List.append_assoc]
      exact .splice opened built (inner.append code)

theorem appendText (built : Built (.string quote spliced false) frames kinds) {text : String}
    (nonempty : text ≠ "") :
    Built (.string quote spliced true) frames (kinds ++ [.stringMiddle text]) := by
  cases built with
  | string _ opened built inside inner =>
      rw [List.append_assoc]
      exact .string quote opened built (inside.text text nonempty) (inner.append (.of_inert rfl))

theorem appendSplice (built : Built (.string quote spliced texted) frames kinds)
    (splice : Interpolation piece) (code : Code piece) :
    Built (.string quote true false) frames (kinds ++ piece) := by
  cases built with
  | string _ opened built inside inner =>
      rw [List.append_assoc]
      exact .string quote opened built (inside.splice splice) (inner.append code)

/-! ## Closing frames -/

theorem closeString
    (built : Built (.string quote true texted) (.string form opened :: outer) kinds) :
    Built .code outer (kinds ++ [.stringEnd form]) := by
  cases built with
  | string _ _ built inside inner =>
      rw [List.append_assoc]
      exact built.append (inner.string inside quote)

theorem closeBlock (built : Built .code (.indent column :: outer) kinds) :
    Built .code outer (kinds ++ [.outdent]) := by
  cases built with
  | block _ built inner =>
      have block : Code (.indent :: (_ ++ [.outdent])) := inner.enclose rfl rfl nofun
      rw [List.append_assoc]
      exact built.append block

theorem closeBlocks (closed : ∀ frame ∈ blocks, frame.isBlock = true)
    (built : Built .code (blocks ++ outer) kinds) :
    Built .code outer (kinds ++ Reader.outdents blocks) := by
  induction blocks generalizing kinds with
  | nil =>
      show Built .code outer (kinds ++ [])
      rw [List.append_nil]
      exact built
  | cons frame blocks inductionHypothesis =>
      rw [List.forall_mem_cons] at closed
      cases frame with
      | indent column =>
          have further := inductionHypothesis closed.2 (closeBlock built)
          rw [List.append_assoc] at further
          exact further
      | _ => cases closed.1

/-- A closing bracket ends some code in a group, or the code of a splice. -/
theorem closeGroup {closer : ClosingBracket} {target : Frame}
    (fits : target.isClosedBy closer = true) (built : Built .code (target :: outer) kinds) :
    Built .code outer (kinds ++ [.punctuation closer.mark]) ∨
      ∃ quote, Built (.string quote true false) outer (kinds ++ [.punctuation closer.mark]) := by
  cases built with
  | block column built inner => cases fits
  | @group _ _ _ bracket opening opened opens built inner =>
      have shape : bracket.closer = closer := beq_iff_eq.mp fits
      have noString : ∀ quote, opening ≠ .stringStart quote := by
        intro quote same
        rw [same] at opens
        cases opens
      have closes : (TokenKind.punctuation closer.mark).closes? = some (.group bracket.closer) := by
        rw [shape]
        cases closer <;> rfl
      rw [List.append_assoc]
      exact .inl (built.append (inner.enclose (Reader.opens_of_ofKind? opens) closes noString))
  | @splice _ _ _ quote spliced texted opened built inner =>
      have curly : closer = .curly := beq_iff_eq.mp fits
      subst curly
      have dollar : Code [.punctuation .dollar] := .of_inert rfl
      have group : Code (.punctuation .leftBrace :: (_ ++ [.punctuation .rightBrace])) :=
        inner.enclose rfl rfl nofun
      rw [List.append_assoc]
      exact .inr ⟨quote, built.appendSplice (.code inner.balanced) (dollar.append group)⟩

/-! ## The innermost frame -/

theorem place_eq_code (built : Built place frames kinds) (code : Frame.inString frames = false) :
    place = .code := by
  cases built with
  | string quote opened built inside inner => cases code
  | _ => rfl

theorem place_eq_string (built : Built place (.string quote opened :: outer) kinds) :
    ∃ spliced texted, place = .string quote spliced texted := by
  cases built with
  | @string _ _ _ spliced texted _ _ built inside inner => exact ⟨spliced, texted, rfl⟩

/-- If only blocks and splices are open, these are blocks: a splice stands in a string. -/
theorem of_mayEnd (built : Built place frames kinds)
    (mayEnd : ∀ frame ∈ frames, frame.mayEnd = true) :
    place = .code ∧ ∀ frame ∈ frames, frame.isBlock = true := by
  induction built with
  | outside code => exact ⟨rfl, List.forall_mem_nil _⟩
  | block column built code inductionHypothesis =>
      rw [List.forall_mem_cons] at mayEnd
      exact ⟨rfl, List.forall_mem_cons.mpr ⟨rfl, (inductionHypothesis mayEnd.2).2⟩⟩
  | group opened opens built code inductionHypothesis => cases (List.forall_mem_cons.mp mayEnd).1
  | string quote opened built inside code inductionHypothesis =>
      cases (List.forall_mem_cons.mp mayEnd).1
  | splice opened built code inductionHypothesis =>
      cases (inductionHypothesis (List.forall_mem_cons.mp mayEnd).2).1

end Built
end Offside
