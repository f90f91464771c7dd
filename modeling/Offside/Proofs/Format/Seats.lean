import Offside.Proofs.Format.Texts
import Offside.Proofs.Lexing.Pieces
import Offside.Proofs.Lexing.Splices
import Offside.Proofs.Lexing.WithinLines

namespace Offside

/-!
# What stands next to a token

Only text of a string with splices may begin or end in a blank, and only strings with three
marks may hold a line feed.  No gap can come next to text of a string when a source is
formatted, because it is glued to the tokens on both sides of it.  All this is known of every
token of a source without faults from the tokens in front of it.
-/

namespace TokenKind

/-- Whether a token is text of a string with splices. -/
def isStringText : TokenKind → Bool
  | stringMiddle _ => true
  | _ => false

theorem isReal_of_isStringText {kind : TokenKind} (isText : kind.isStringText = true) :
    kind.isReal = true := by
  cases kind <;> first | rfl | cases isText

end TokenKind

/-- Directly in a string the tokens since its opening marks close what they open. -/
theorem Built.opened {place : Place} {frames : List Frame} {kinds : List TokenKind}
    {quote : QuoteForm} {opened : Nat}
    (built : Built place (.string quote opened :: frames) kinds) :
    ∃ earlier inside, kinds = earlier ++ .stringStart quote :: inside ∧
      Nesting.Balanced inside := by
  cases built with
  | string _ _ built inside code => exact ⟨_, _, rfl, code.balanced⟩

/-- A text that neither begins nor ends in a blank, and is not empty. -/
structure Tight (text : List Char) : Prop where
  begins : headIs (fun c => !isBlank c) text = true
  ends : EndsSolid text

namespace Tight

variable {text : List Char}

theorem ne_nil (tight : Tight text) : text ≠ [] := by
  rintro rfl
  cases tight.begins

theorem of_all (noBlank : ∀ c ∈ text, isBlank c = false) (nonempty : text ≠ []) :
    Tight text where
  begins := by
    cases text with
    | nil => exact absurd rfl nonempty
    | cons c text =>
        show (!isBlank c) = true
        rw [noBlank c List.mem_cons_self]
        rfl
  ends := .of_all noBlank

theorem of_visible (visible : text.all isVisible = true) (nonempty : text ≠ []) :
    Tight text :=
  .of_all (fun c member => isBlank_of_visible (List.all_eq_true.mp visible c member)) nonempty

end Tight

/-- A token that belongs to a string with three marks, by the tokens in front of it: it is the
whole string, or text directly in one. -/
inductive Token.InTriple (front : List TokenKind) (token : Token) : Prop
  | whole (text : List Char)
      (isString : token.kind = .string (String.ofList ('"' :: '"' :: '"' :: text)))
  | part {earlier inside : List TokenKind} (text : String)
      (isText : token.kind = .stringMiddle text)
      (opened : front = earlier ++ .stringStart .triple :: inside)
      (balanced : Nesting.Balanced inside)

/-- What is known of a token from the tokens in front of it. -/
structure Token.Seated (front : List TokenKind) (token : Token) : Prop where
  nonempty : token.kind.isReal = true → token.text ≠ ""
  tight : token.kind.isReal = true → token.kind.isStringText = false → Tight token.text.toList
  /-- Text of a string is glued to a token in front of it. -/
  text : token.kind.isStringText = true →
    token.Glued ∧ front.getLast?.any TokenKind.isReal = true
  /-- Between two texts of a string stands something else. -/
  apart : token.kind.isStringText = true → front.getLast?.any TokenKind.isStringText = false
  /-- Behind text of a string stands another piece of it, glued to the text. -/
  behind : front.getLast?.any TokenKind.isStringText = true →
    token.Glued ∧ token.kind.isReal = true ∧ token.kind.isPiece = true
  lines : '\n' ∈ token.text.toList → token.InTriple front

/-- Every one of some tokens is seated. -/
def AllSeated (tokens : List Token) : Prop :=
  ∀ front token back, tokens = front ++ token :: back → token.Seated (front.map Token.kind)

namespace AllSeated

variable {tokens marks : List Token} {token : Token}

theorem nil : AllSeated [] := by
  intro front token back split
  exact absurd split.symm (List.append_ne_nil_of_right_ne_nil _ (List.cons_ne_nil _ _))

theorem concat (seated : AllSeated tokens) (last : token.Seated (tokens.map Token.kind)) :
    AllSeated (tokens ++ [token]) := by
  intro front other back split
  rcases split_concat split with ⟨inner, -, before⟩ | ⟨-, rfl, rfl⟩
  · exact seated front other inner before
  · exact last

end AllSeated

namespace Token.Seated

variable {front : List TokenKind} {token : Token} {quote : QuoteForm}

/-- A token without a text is seated behind anything but text of a string. -/
theorem of_not_real (noReal : token.kind.isReal = false)
    (noText : front.getLast?.any TokenKind.isStringText = false) : token.Seated front where
  nonempty := by
    intro real
    rw [noReal] at real
    cases real
  tight := by
    intro real
    rw [noReal] at real
    cases real
  text := by
    intro isText
    rw [TokenKind.isReal_of_isStringText isText] at noReal
    cases noReal
  apart := fun _ => noText
  behind := by
    intro isText
    rw [noText] at isText
    cases isText
  lines := by
    intro broken
    rcases token with ⟨kind, span, leading⟩
    cases kind with
    | indent => cases broken
    | outdent => cases broken
    | autoSemicolon => cases broken
    | endOfFile => cases broken
    | _ => cases noReal

theorem tight_of_marks [XidStart] {kind : TokenKind} (marks : quote.Marks kind)
    (nonempty : kind.text ≠ "") : Tight kind.text.toList := by
  have someText : kind.text.toList ≠ [] := fun none =>
    nonempty (String.toList_eq_nil_iff.mp none)
  cases marks with
  | closing => cases quote <;> exact .of_visible (by decide) someText
  | dollar => exact .of_visible (by decide) someText
  | bracket => exact .of_visible (by decide) someText
  | name text =>
      refine .of_all (fun c member => ?_) someText
      have among : c ∈ (String.ofList
          (text.take (runLength CharClass.isIdentContinue text))).toList := member
      rw [String.toList_ofList, take_runLength] at among
      exact CharClass.isBlank_of_isIdentContinue (List.all_eq_true.mp List.all_takeWhile c among)

theorem glued_of_marks [XidStart] (marks : quote.Marks token.kind) (leading : token.leading = []) :
    token.Glued ∧ token.kind.isReal = true ∧ token.kind.isPiece = true ∧
      token.kind.isStringText = false := by
  rcases token with ⟨kind, span, others⟩
  cases marks <;> exact ⟨⟨leading, rfl, rfl⟩, rfl, rfl, rfl⟩

/-- What stands around the text of a string is seated behind any token of the string. -/
theorem of_marks [XidStart] (marks : quote.Marks token.kind) (nonempty : token.text ≠ "")
    (leading : token.leading = []) : token.Seated front := by
  rcases glued_of_marks marks leading with ⟨glued, real, piece, noText⟩
  have never : token.kind.isStringText ≠ true := by
    rw [noText]
    exact Bool.false_ne_true
  exact ⟨fun _ => nonempty, fun _ _ => tight_of_marks marks nonempty,
    fun isText => absurd isText never, fun isText => absurd isText never,
    fun _ => ⟨glued, real, piece⟩, fun broken => absurd rfl (marks.unbroken '\n' broken)⟩

end Token.Seated

namespace AllSeated

variable {tokens new : List Token} {quote : QuoteForm}

/-- Tokens without a text are seated behind anything but text of a string. -/
theorem append_marks (seated : AllSeated tokens)
    (noText : (tokens.map Token.kind).getLast?.any TokenKind.isStringText = false)
    (noReal : ∀ mark ∈ new, mark.kind.isReal = false) :
    AllSeated (tokens ++ new) ∧
      ((tokens ++ new).map Token.kind).getLast?.any TokenKind.isStringText = false := by
  induction new generalizing tokens with
  | nil =>
      rw [List.append_nil]
      exact ⟨seated, noText⟩
  | cons mark new inductionHypothesis =>
      rw [List.forall_mem_cons] at noReal
      rw [List.append_cons]
      refine inductionHypothesis (seated.concat (.of_not_real noReal.1 noText)) ?_ noReal.2
      rw [List.map_append, List.map_singleton, List.getLast?_concat]
      refine Bool.eq_false_iff.mpr fun isText => ?_
      have real := TokenKind.isReal_of_isStringText isText
      rw [noReal.1] at real
      cases real

/-- What stands around the text of a string is seated behind the other tokens of it. -/
theorem append_string [XidStart] (seated : AllSeated tokens)
    (marks : ∀ token ∈ new, quote.Marks token.kind)
    (nonempty : ∀ token ∈ new, token.text ≠ "") (glued : ∀ token ∈ new, token.leading = []) :
    AllSeated (tokens ++ new) := by
  induction new generalizing tokens with
  | nil =>
      rw [List.append_nil]
      exact seated
  | cons token new inductionHypothesis =>
      rw [List.forall_mem_cons] at marks nonempty glued
      rw [List.append_cons]
      exact inductionHypothesis (seated.concat (.of_marks marks.1 nonempty.1 glued.1)) marks.2
        nonempty.2 glued.2

end AllSeated

namespace Reader

open TokenKind StringText

variable {reader : Reader} {c : Char} {rest : List Char} {kind : TokenKind}
  {next : Option Char} {span : Span} {quote : QuoteForm} {opened : Nat} {outer : List Frame}

/-! ## What is inserted in code -/

theorem Laid.isLayout {after : Reader} (laid : reader.Laid kind next after) :
    ∃ inserted, after.kinds = reader.kinds ++ inserted ∧
      ∀ mark ∈ inserted, mark.isLayout = true := by
  cases laid with
  | settles separated split closed begins goesOn kinds frames =>
      exact ⟨_, kinds, isLayout_of_mem_marks⟩
  | deepens level active opens kinds frames =>
      exact ⟨_, kinds, List.forall_mem_singleton.mpr rfl⟩

/-- A silent reader inserts nothing but layout tokens. -/
theorem emit_isLayout (silent : (reader.emit kind span next).diagnostics = #[]) :
    ∃ inserted, (reader.emit kind span next).kinds = reader.kinds ++ (inserted ++ [kind]) ∧
      ∀ mark ∈ inserted, mark.isLayout = true := by
  cases closing : ClosingBracket.ofKind? kind with
  | none =>
      rcases emit_of_noCloser reader closing span next with ⟨kinds, frames, diagnostics⟩
      rcases (applyLayout_laid (diagnostics.symm.trans silent)).isLayout with
        ⟨inserted, laid, layout⟩
      exact ⟨inserted, by rw [kinds, laid, List.append_assoc], layout⟩
  | some closer =>
      cases kind_of_ofKind? closing
      rw [emit_of_closer] at silent ⊢
      rcases (applyLayout_laid ((addCloser_grows _ _ _).silent silent)).isLayout with
        ⟨inserted, laid, layout⟩
      rcases addCloser_silent silent with ⟨blocks, target, around, closes⟩
      refine ⟨inserted ++ outdents blocks, ?_, fun mark member => ?_⟩
      · rw [closes.kinds, laid]
        simp only [List.append_assoc]
      · rcases List.mem_append.mp member with early | late
        · exact layout mark early
        · exact isLayout_of_mem_outdents late

/-- A lexeme that becomes a token is found behind layout tokens only, and it takes the trivia
that waits. -/
theorem step_inserts [XidStart] (silent : reader.Silent)
    (code : Frame.inString reader.frames = false)
    (unread : reader.rest = c :: rest) (found : (reader.lexeme c rest).lexeme.kind? = some kind) :
    ∃ marks own beyond, reader.rest = own ++ beyond ∧
      reader.step.tokens.toList =
        reader.tokens.toList ++ marks ++ [⟨kind, reader.spanOf own, reader.trivia.toList⟩] ∧
      (∀ mark ∈ marks, mark.kind.isLayout = true) ∧ reader.step.trivia = #[] := by
  have told := (silent.step (by rw [unread]; exact List.cons_ne_nil _ _)).diagnostics
  have taken : reader.rest = (c :: rest.take (reader.lexeme c rest).more) ++
      rest.drop (reader.lexeme c rest).more := by
    rw [unread, List.cons_append, List.take_append_drop]
  rw [step_eq_emit code unread found rfl rfl] at told ⊢
  generalize rest.drop (reader.lexeme c rest).more = beyond at told taken ⊢
  generalize c :: rest.take (reader.lexeme c rest).more = own at told taken ⊢
  rcases openString_tokens (reader.emit kind (reader.spanOf own) beyond.head?) kind
    reader.offset with ⟨tokens, trivia, diagnostics⟩
  have silentThere := diagnostics.symm.trans told
  rcases emit_marks silentThere with ⟨marks, added, _, none⟩
  rcases emit_isLayout silentThere with ⟨inserted, kinds, layout⟩
  have same : marks.map Token.kind = inserted := by
    have both := (kinds_of_marks added).symm.trans kinds
    exact List.append_cancel_right (List.append_cancel_left both)
  refine ⟨marks, own, beyond, taken, (congrArg Array.toList tokens).trans added,
    fun mark member => ?_, trivia.trans none⟩
  exact layout _ (same ▸ List.mem_map_of_mem member)

/-! ## The tokens of a reader -/

theorem isStringText_of_lexeme [XidStart]
    (found : (reader.lexeme c rest).lexeme.kind? = some kind) :
    kind.isStringText = false := by
  have fits := Lexeme.fits_scan (reader.lastKind?.any TokenKind.endsOperand) c rest
  rcases fits.isLexical found with lexical | ⟨quote, rfl⟩
  · cases kind <;> first | rfl | cases lexical
  · rfl

/-- A lexeme is seated behind anything but text of a string. -/
theorem seated_of_lexeme [XidStart] {front : List TokenKind} {token : Token}
    (found : (reader.lexeme c rest).lexeme.kind? = some token.kind)
    (noText : front.getLast?.any isStringText = false) : token.Seated front where
  nonempty := fun _ => Lexeme.text_ne_of_scan found
  tight := by
    intro _ _
    have begins := solid_text found []
    rw [List.append_nil] at begins
    exact ⟨begins, Lexeme.endsSolid_of_kind? found⟩
  text := by
    intro isText
    rw [isStringText_of_lexeme found] at isText
    cases isText
  apart := fun _ => noText
  behind := by
    intro isText
    rw [noText] at isText
    cases isText
  lines := by
    intro broken
    rcases lexeme_unbroken found with unbroken | ⟨text, isString⟩
    · exact absurd rfl (unbroken '\n' broken)
    · exact .whole text isString

/-- The pieces of a string that are no text are what stands around the text. -/
theorem marks_of_scanPiece [XidStart] {text : List Char} {piece : StringText.Piece}
    (found : scanPiece quote text = piece) (whole : ∀ length, piece ≠ .cutOff length)
    (noText : ∀ length, piece ≠ .text length) :
    ∀ kind ∈ piece.kinds quote text, quote.Marks kind := by
  cases piece with
  | cutOff length => exact absurd rfl (whole length)
  | text length => exact absurd rfl (noText length)
  | closing => exact List.forall_mem_singleton.mpr .closing
  | spliceOpening =>
      exact List.forall_mem_cons.mpr ⟨.dollar, List.forall_mem_singleton.mpr .bracket⟩
  | name length =>
      refine List.forall_mem_cons.mpr ⟨.dollar, List.forall_mem_singleton.mpr ?_⟩
      rw [length_of_scanPiece_name found]
      exact .name _

theorem last_of_scanPiece {text : List Char} {piece : StringText.Piece}
    (whole : ∀ length, piece ≠ .cutOff length)
    (noText : ∀ length, piece ≠ .text length) :
    (piece.kinds quote text).getLast?.any isStringText = false ∧
      (piece.kinds quote text).getLast?.any isReal = true := by
  cases piece with
  | cutOff length => exact absurd rfl (whole length)
  | text length => exact absurd rfl (noText length)
  | _ => exact ⟨rfl, rfl⟩

variable [XidStart]

/-- In front of text of a string stands no other text: the reader would have taken both in one. -/
theorem Builds.noText (builds : reader.Builds)
    (inString : reader.frames = .string quote opened :: outer) {length : Nat}
    (found : scanPiece quote reader.rest = .text length) :
    reader.kinds.getLast?.any isStringText = false := by
  rcases builds with ⟨place, built, faces⟩
  rw [inString] at built
  generalize reader.kinds = kinds at built ⊢
  cases built with
  | string _ _ built inside code =>
      rw [List.append_cons, List.getLast?_append]
      cases inside with
      | nothing => rw [List.getLast?_nil, Option.none_or, List.getLast?_concat]; rfl
      | text inside text nonempty =>
          have positive := pos_of_scanPiece_text found
          rcases scanPiece_eq_text found with ⟨rfl, _⟩
          rw [length_of_stops (faces.2 rfl)] at positive
          cases positive
      | splice inside splice =>
          rw [List.getLast?_append]
          cases splice with
          | name name => rfl
          | code balanced =>
              rw [← List.cons_append, ← List.cons_append, List.getLast?_concat]
              rfl

/-- What holds of a silent reader between its steps.  In a string no trivia waits. -/
structure Seats (reader : Reader) : Prop where
  builds : reader.Builds
  seated : AllSeated reader.tokens.toList
  code : Frame.inString reader.frames = false → reader.kinds.getLast?.any isStringText = false
  string : Frame.inString reader.frames = true →
    reader.trivia = #[] ∧ reader.kinds.getLast?.any isReal = true

theorem start_seats (tabWidth : Nat) (source : List Char) : (start tabWidth source).Seats where
  builds := start_builds tabWidth source
  seated := .nil
  code := fun _ => rfl
  string := nofun

namespace Seats

variable (seats : reader.Seats) (silent : reader.Silent)

include seats silent

theorem step_trivia (code : Frame.inString reader.frames = false)
    (unread : reader.rest = c :: rest) {trivia : TriviaKind}
    (found : (reader.lexeme c rest).lexeme = .trivia trivia) : reader.step.Seats := by
  have waits := step_waits code unread found
  have kinds : reader.step.kinds = reader.kinds :=
    congrArg (fun tokens : Array Token => tokens.toList.map Token.kind) waits.tokens
  refine ⟨seats.builds.step silent (by rw [unread]; exact List.cons_ne_nil _ _), ?_,
    fun _ => ?_, fun inString => ?_⟩
  · rw [waits.tokens]
    exact seats.seated
  · rw [kinds]
    exact seats.code code
  · rw [waits.frames, code] at inString
    cases inString

theorem step_token (code : Frame.inString reader.frames = false)
    (unread : reader.rest = c :: rest)
    (found : (reader.lexeme c rest).lexeme.kind? = some kind) : reader.step.Seats := by
  rcases step_inserts silent code unread found with ⟨marks, own, beyond, -, tokens, layout, trivia⟩
  have last : reader.step.kinds.getLast? = some kind := by
    unfold kinds
    rw [tokens, List.map_append]
    exact List.getLast?_concat
  have behind := seats.seated.append_marks (seats.code code) fun mark member =>
    isReal_of_isLayout (layout mark member)
  refine ⟨seats.builds.step silent (by rw [unread]; exact List.cons_ne_nil _ _), ?_, fun _ => ?_,
    fun _ => ⟨trivia, ?_⟩⟩
  · rw [tokens]
    exact behind.1.concat (seated_of_lexeme found behind.2)
  · rw [last]
    exact isStringText_of_lexeme found
  · rw [last]
    exact isReal_of_lexeme found

/-- Text of a string is seated behind the mark or the splice in front of it. -/
theorem step_text (inString : reader.frames = .string quote opened :: outer) {length : Nat}
    (found : scanPiece quote reader.rest = .text length) : reader.step.Seats := by
  rcases takesPiece_of_silent silent inString with ⟨unread, _, new, takes⟩
  rw [found] at takes
  rcases seats.string (by rw [inString]; rfl) with ⟨noTrivia, lastReal⟩
  rcases exists_of_map_singleton takes.kinds with ⟨token, rfl, isText⟩
  have glued : token.Glued :=
    ⟨takes.leading noTrivia token List.mem_cons_self, by rw [isText]; rfl, by rw [isText]; rfl⟩
  have real : token.kind.isReal = true := by
    rw [isText]
    rfl
  have nonempty : token.text ≠ "" := by
    have texts := @text_ne_of_scanPiece quote _ reader.rest _ found
    exact texts _ (by rw [← takes.kinds]; exact List.mem_cons_self)
  have last : reader.step.kinds.getLast? = some token.kind := by
    rw [kinds_of_tokens takes.tokens]
    exact List.getLast?_concat
  have broken : '\n' ∈ token.text.toList → token.InTriple reader.kinds := by
    intro broken
    rcases seats.builds with ⟨place, built, _⟩
    rw [inString] at built
    rcases built.opened with ⟨earlier, inside, kinds, balanced⟩
    cases quote with
    | triple => exact .part _ isText kinds balanced
    | plain =>
        have unbroken : Unbroken token.text.toList := by
          unfold Token.text
          rw [isText, ← (scanPiece_eq_text found).1]
          exact .ofList (unbroken_length_plain _)
        exact absurd rfl (unbroken '\n' broken)
  refine ⟨seats.builds.step silent unread, ?_, fun code => ?_, fun _ => ⟨takes.trivia, ?_⟩⟩
  · rw [takes.tokens]
    refine seats.seated.concat ⟨fun _ => nonempty, fun _ noText => ?_, fun _ => ⟨glued, lastReal⟩,
      fun _ => seats.builds.noText inString found,
      fun _ => ⟨glued, real, by rw [isText]; rfl⟩, broken⟩
    rw [isText] at noText
    cases noText
  · rw [takes.frames] at code
    cases code
  · rw [last]
    exact real

theorem step_marks (inString : reader.frames = .string quote opened :: outer)
    (noText : ∀ length, scanPiece quote reader.rest ≠ .text length) : reader.step.Seats := by
  rcases takesPiece_of_silent silent inString with ⟨unread, whole, new, takes⟩
  rcases seats.string (by rw [inString]; rfl) with ⟨noTrivia, _⟩
  have marks := marks_of_scanPiece rfl whole noText
  have nonempty := @text_ne_of_scanPiece quote _ reader.rest _ rfl
  have last := @last_of_scanPiece quote reader.rest _ whole noText
  rw [← takes.kinds] at marks nonempty last
  have kinds : reader.step.kinds.getLast? = (new.map Token.kind).getLast? := by
    rw [kinds_of_tokens takes.tokens, List.getLast?_append]
    cases ends : (new.map Token.kind).getLast? with
    | none =>
        rw [ends] at last
        cases last.2
    | some kind => rfl
  refine ⟨seats.builds.step silent unread, ?_, fun _ => ?_, fun _ => ⟨takes.trivia, ?_⟩⟩
  · rw [takes.tokens]
    exact seats.seated.append_string (fun token member => marks _ (List.mem_map_of_mem member))
      (fun token member => nonempty _ (List.mem_map_of_mem member)) (takes.leading noTrivia)
  · rw [kinds]
    exact last.1
  · rw [kinds]
    exact last.2

theorem step (unread : reader.rest ≠ []) : reader.step.Seats := by
  cases code : Frame.inString reader.frames with
  | true =>
      rcases Frame.exists_of_inString code with ⟨quote, opened, outer, inString⟩
      by_cases isText : ∃ length, scanPiece quote reader.rest = .text length
      · rcases isText with ⟨length, found⟩
        exact seats.step_text silent inString found
      · exact seats.step_marks silent inString fun length found => isText ⟨length, found⟩
  | false =>
      rcases List.exists_cons_of_ne_nil unread with ⟨c, rest, same⟩
      rcases lexeme_cases silent code same with ⟨trivia, found⟩ | ⟨kind, found⟩
      · exact seats.step_trivia silent code same found
      · exact seats.step_token silent code same found

/-- By induction on the run, every state of which is as silent as its end. -/
theorem run : reader.run.Seats := by
  fun_induction Reader.run reader with
  | case1 reader atEnd => exact seats
  | case2 reader more inductionHypothesis =>
      rw [List.isEmpty_iff] at more
      exact inductionHypothesis (seats.step silent more) (silent.step more)

/-- At the end of a source come tokens without a text. -/
theorem finish (read : reader.rest = []) :
    AllSeated reader.finish.tokens ∧
      (reader.finish.tokens.map Token.kind).getLast?.any isStringText = false := by
  have code : Frame.inString reader.frames = false :=
    Bool.eq_false_iff.mpr fun inString => silent.unread inString read
  have whole := tokens_append_ahead reader
  rw [run_of_read read] at whole
  rw [whole]
  refine seats.seated.append_marks (seats.code code) fun mark member => ?_
  have kinds : mark.kind ∈ reader.ahead.map Token.kind := List.mem_map_of_mem member
  rw [ahead_of_read silent read] at kinds
  rcases List.mem_append.mp kinds with outdent | ending
  · rw [List.eq_of_mem_replicate outdent]
    rfl
  · rw [List.mem_singleton.mp ending]
    rfl

end Seats

end Reader

/-- The tokens of a source without faults are seated, and the last of them is no text. -/
theorem seated_lex [XidStart] {source : String} {tabWidth : Nat}
    (silent : (lex source tabWidth).diagnostics = []) :
    AllSeated (lex source tabWidth).tokens ∧
      ((lex source tabWidth).tokens.map Token.kind).getLast?.any TokenKind.isStringText =
        false := by
  have started : (Reader.start tabWidth source.toList).Silent := silent
  have ended : (Reader.start tabWidth source.toList).run.Silent := by
    unfold Reader.Silent
    rw [Reader.run_of_read (Reader.run_rest _)]
    exact silent
  exact ((Reader.start_seats tabWidth source.toList).run started).finish ended
    (Reader.run_rest _)

end Offside
