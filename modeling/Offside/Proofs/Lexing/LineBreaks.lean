import Offside.Proofs.Lexing.Stance
import Offside.Proofs.Lexing.Steps
import Offside.Text.XidStart

namespace Offside

/-!
# Line breaks in front of tokens

A token comes behind a line break if there is a line feed in the source between it and the
token in front of it, where tokens of no width do not count.  The reader sees every such
line feed, whatever it is part of, and takes the token to begin a line.  The trivia of the
token shows a line feed of its own, and no others: one in a block comment is hidden in the
comment.
-/

open Utf8

/-! ## Line feeds in trivia -/

theorem Trivia.Covers.any_breaksLine {source : String} {front blank : List Char}
    {pieces : List Trivia} (covers : Trivia.Covers (byteLength front) pieces blank) :
    ∀ {beyond : List Char}, source.toList = front ++ blank ++ beyond →
      pieces.any (Trivia.breaksLine source) = blank.contains '\n' := by
  induction covers with
  | nil =>
      intro beyond whole
      rfl
  | @snoc pieces text kind piece covers nonempty inductionHypothesis =>
      intro beyond whole
      have split : source.toList = front ++ text ++ piece ++ beyond := by
        rw [whole]
        simp only [List.append_assoc]
      have last := breaksLine_of_append split kind
      rw [byteLength_append] at last
      rw [List.append_assoc (front ++ text)] at split
      rw [List.any_append, inductionHypothesis split, List.any_cons, List.any_nil,
        Bool.or_false, last]
      simp

/-- Tokens make up a text as far as the last one of them that has a width. -/
theorem Token.Covers.stop {tokens : List Token} {text : List Char}
    (covers : Token.Covers tokens text) {previous : Token} (wide : previous.span.isEmpty = false) :
    ∀ before inserted, tokens = before ++ previous :: inserted →
      (∀ other ∈ inserted, other.span.isEmpty = true) →
        previous.span.stop = byteLength text := by
  induction covers with
  | nil =>
      intro before inserted parts
      cases before <;> cases parts
  | @inserted tokens text last covers isInserted inductionHypothesis =>
      intro before inserted parts empty
      have narrow := isInserted.span_isEmpty
      rcases split_concat parts with ⟨inner, rfl, same⟩ | ⟨-, -, rfl⟩
      · exact inductionHypothesis before inner same (List.forall_mem_append.mp empty).1
      · rw [narrow] at wide
        cases wide
  | @read tokens text blank own leading kind covers trivia spells nonempty
      inductionHypothesis =>
      intro before inserted parts empty
      rcases split_concat parts with ⟨inner, rfl, -⟩ | ⟨-, -, rfl⟩
      · have positive := byteLength_pos nonempty
        have narrow := beq_iff_eq.mp (empty _ List.mem_concat_self)
        dsimp only at narrow
        omega
      · exact (byteLength_append _ _).symm

/-! ## The beginning of a line -/

namespace Reader

variable {reader after : Reader} {source : String} {c : Char} {rest front : List Char}

/-- The reader stands behind a token, with nothing but inserted tokens in between. -/
structure InLine (reader : Reader) : Prop where
  nothing : reader.trivia = #[]
  some : reader.tokens.toList ≠ []
  line : reader.atLineStart = false

/-- What holds of a reader between its steps, also behind faults.  It stands at the beginning
of a line if there is a line feed in the trivia that waits, and in a string nothing waits. -/
structure Lined (source : String) (reader : Reader) : Prop where
  line : reader.atLineStart =
    (reader.trivia.toList.any (Trivia.breaksLine source) || reader.tokens.toList.isEmpty)
  inString : Frame.inString reader.frames = true → reader.InLine
  /-- Trivia that is no block comment tells by its kind whether it is a line feed. -/
  told : ∀ trivia ∈ reader.trivia.toList, trivia.kind ≠ .blockComment →
    trivia.breaksLine source = (trivia.kind == .newline)

theorem InLine.lined (inLine : reader.InLine) : reader.Lined source where
  line := by
    rw [inLine.line, inLine.nothing, List.isEmpty_eq_false_iff.mpr inLine.some]
    rfl
  inString := fun _ => inLine
  told := by
    rw [inLine.nothing]
    nofun

theorem InLine.advance (inLine : reader.InLine) (text beyond : List Char) :
    (reader.advance text beyond).InLine :=
  ⟨inLine.nothing, inLine.some, inLine.line⟩

theorem Lined.advance (lined : reader.Lined source) (text beyond : List Char) :
    (reader.advance text beyond).Lined source :=
  ⟨lined.line, fun inString => (lined.inString inString).advance text beyond, lined.told⟩

theorem start_lined (tabWidth : Nat) (source : String) :
    (start tabWidth source.toList).Lined source :=
  ⟨rfl, nofun, nofun⟩

/-- Whatever is inserted in front of it, a token ends the beginning of its line. -/
theorem emit_inLine (reader : Reader) (kind : TokenKind) (span : Span) (next : Option Char) :
    (reader.emit kind span next).InLine := by
  have stance := emit_stance reader kind span next
  have emits := emit_emits reader kind span next
  generalize reader.emit kind span next = after at stance emits
  refine ⟨?_, ?_, congrArg Stance.atLineStart stance⟩
  · cases emits <;> rfl
  · rcases emits.tokens with ⟨inserted, last, added, _⟩
    simp [added]

theorem InLine.openString (inLine : reader.InLine) (kind : TokenKind) (offset : Nat) :
    (reader.openString kind offset).InLine := by
  cases kind <;> exact ⟨inLine.nothing, inLine.some, inLine.line⟩

/-- A piece of a string stands in the line of what is in front of it. -/
theorem InLine.readPiece [XidStart] (inLine : reader.InLine) (quote : QuoteForm) (opened : Nat)
    (outer : List Frame) : (reader.readPiece quote opened outer).InLine := by
  unfold Reader.readPiece
  dsimp only
  split
  · exact ⟨rfl, by simp [add, Reader.advance], inLine.line⟩
  · exact ⟨rfl, by simp [add, openFrame, Reader.advance], inLine.line⟩
  · exact ⟨rfl, by simp [add, Reader.advance], inLine.line⟩
  · exact ⟨rfl, by simp [add, Reader.advance], inLine.line⟩
  · split
    · exact ⟨inLine.nothing, by simp [insert, Reader.advance], inLine.line⟩
    · exact ⟨rfl, by simp [insert, Reader.advance], inLine.line⟩

theorem Lined.trivia (lined : reader.Lined source) (code : Frame.inString reader.frames = false)
    {text beyond : List Char} {kind : TriviaKind}
    (breaks : Trivia.breaksLine source ⟨kind, reader.spanOf text⟩ = text.contains '\n')
    (shown : kind ≠ .blockComment → text.contains '\n' = (kind == .newline)) :
    (({ reader.addTrivia kind (reader.spanOf text) with
      atLineStart := reader.atLineStart || text.contains '\n' } : Reader).advance text
        beyond).Lined source where
  line := line_addTrivia lined.line breaks
  inString := fun inString => absurd inString (Bool.eq_false_iff.mp code)
  told := by
    show ∀ trivia ∈ (reader.trivia.push ⟨kind, reader.spanOf text⟩).toList, _
    rw [Array.toList_push, List.forall_mem_append, List.forall_mem_singleton]
    exact ⟨lined.told, fun noComment => breaks.trans (shown noComment)⟩

/-- Trivia waits and may begin a line, and a token takes what waits. -/
theorem step_lined [XidStart] (lined : reader.Lined source)
    (whole : source.toList = front ++ reader.rest)
    (offset : reader.offset = byteLength front) : reader.step.Lined source := by
  cases unread : reader.rest with
  | nil =>
      rw [step_of_read unread]
      exact lined
  | cons c rest =>
      cases code : Frame.inString reader.frames with
      | true =>
          rcases Frame.exists_of_inString code with ⟨quote, opened, outer, frames⟩
          rw [step_eq_readPiece frames (by rw [unread]; exact List.cons_ne_nil _ _)]
          exact ((lined.inString code).readPiece _ _ _).lined
      | false =>
          have becomes : ∀ kind, (reader.lexeme c rest).lexeme.kind? = some kind →
              reader.step.Lined source := by
            intro kind found
            rw [step_eq_emit code unread found rfl rfl]
            exact ((emit_inLine _ _ _ _).openString _ _).lined.advance _ _
          cases found : (reader.lexeme c rest).lexeme with
          | token kind => exact becomes kind (congrArg Lexeme.kind? found)
          | stringOpening quote => exact becomes (.stringStart quote) (congrArg Lexeme.kind? found)
          | faulty fault =>
              rw [step_of_faulty code unread found rfl rfl]
              exact (emit_inLine _ _ _ _).lined.advance _ _
          | trivia kind =>
              have split : source.toList = front ++ (c :: rest.take (reader.lexeme c rest).more) ++
                  rest.drop (reader.lexeme c rest).more := by
                simp [whole, unread]
              have breaks := Trivia.breaksLine_of_append split kind
              rw [← offset] at breaks
              rw [step_eq_readLexeme code unread, readLexeme_eq_of_trivia found rfl rfl]
              exact lined.trivia code breaks (Lexeme.contains_newline_of_scan found)

theorem afterSteps_lined [XidStart] (source : String) (tabWidth steps : Nat) :
    (afterSteps source tabWidth steps).Lined source := by
  induction steps with
  | zero => exact start_lined tabWidth source
  | succ steps inductionHypothesis =>
      rcases afterSteps_hasRead source tabWidth steps with ⟨front, whole, read⟩
      rw [afterSteps_succ]
      exact step_lined inductionHypothesis whole read.offset

theorem Reads.leading [XidStart] {token : Token} (reads : reader.Reads token) :
    token.leading = reader.trivia.toList ∨
      Frame.inString reader.frames = true ∧ token.leading ⊆ reader.trivia.toList := by
  cases reads with
  | mark inString marks span waiting => exact .inr ⟨by rw [inString]; rfl, waiting⟩
  | _ => exact .inl rfl

theorem Reads.leading_subset [XidStart] {token : Token} (reads : reader.Reads token) :
    token.leading ⊆ reader.trivia.toList := by
  rcases reads.leading with same | ⟨-, waiting⟩
  · rw [same]
    exact List.Subset.refl _
  · exact waiting

/-- Outside of strings a token that has a width was there before. -/
theorem ReadBy.tokens_ne_nil [XidStart] {front : List Token} {previous token : Token}
    (readBy : reader.ReadBy front token) (code : Frame.inString reader.frames = false)
    (wide : previous.span.isEmpty = false) (member : previous ∈ front) :
    reader.tokens.toList ≠ [] := by
  intro nothing
  rcases readBy.behind with ⟨new, rfl, inserted⟩
  rw [nothing, List.nil_append] at member
  rw [(inserted code previous member).span_isEmpty] at wide
  cases wide

/-- The kinds of trivia show every line feed that no comment hides. -/
theorem Lined.any_breaksLine {leading : List Trivia} (lined : reader.Lined source)
    (waiting : leading ⊆ reader.trivia.toList) :
    leading.any (Trivia.breaksLine source) = true ↔
      leading.any (fun trivia => trivia.kind == .newline) = true ∨
        ∃ comment ∈ leading, comment.kind = .blockComment ∧ comment.breaksLine source = true := by
  rw [List.any_eq_true, List.any_eq_true]
  constructor
  · rintro ⟨trivia, member, breaks⟩
    by_cases comment : trivia.kind = .blockComment
    · exact .inr ⟨trivia, member, comment, breaks⟩
    · rw [lined.told trivia (waiting member) comment] at breaks
      exact .inl ⟨trivia, member, breaks⟩
  · rintro (⟨trivia, member, newline⟩ | ⟨trivia, member, comment, breaks⟩)
    · have noComment : trivia.kind ≠ .blockComment := by
        rw [beq_iff_eq.mp newline]
        nofun
      exact ⟨trivia, member, (lined.told trivia (waiting member) noComment).trans newline⟩
    · exact ⟨trivia, member, breaks⟩

/-- Behind another token the reader is at the beginning of a line if there is a line feed in
the trivia of the next one. -/
theorem Lined.atLineStart_eq [XidStart] {token : Token} (lined : reader.Lined source)
    (reads : reader.Reads token)
    (behind : Frame.inString reader.frames = false → reader.tokens.toList ≠ []) :
    reader.atLineStart = token.leading.any (Trivia.breaksLine source) := by
  have inLine : Frame.inString reader.frames = true → token.leading ⊆ reader.trivia.toList →
      reader.atLineStart = token.leading.any (Trivia.breaksLine source) := by
    intro inString waiting
    have inLine := lined.inString inString
    rw [inLine.nothing] at waiting
    rw [inLine.line, List.subset_nil.mp waiting]
    rfl
  rcases reads.leading with same | ⟨inString, waiting⟩
  · cases code : Frame.inString reader.frames with
    | true => exact inLine code (same ▸ List.Subset.refl _)
    | false => rw [lined.line, same, List.isEmpty_eq_false_iff.mpr (behind code), Bool.or_false]
  · exact inLine inString waiting

end Reader

/-- What a line feed between two tokens comes to.  It shows in the trivia of the second one or
is hidden there in a block comment, and it makes that token the first one of its line. -/
structure Token.Gap [XidStart] (source : String) (tabWidth : Nat) (front : List Token)
    (previous token : Token) (text : List Char) : Prop where
  slice : slice source.toList previous.span.stop token.span.start = some text
  shows : '\n' ∈ text ↔ token.hasNewlineBefore = true ∨
    ∃ comment ∈ token.leading, comment.kind = .blockComment ∧ comment.breaksLine source = true
  begins : ∃ steps, (Reader.afterSteps source tabWidth steps).ReadBy front token ∧
    ((Reader.afterSteps source tabWidth steps).atLineStart = true ↔ '\n' ∈ text)

/-- Between a token of some width and the one in front of it that has a width, a line feed
shows in trivia unless a block comment hides it, and the reader finds it in either case. -/
theorem lex_line_breaks [XidStart] {source : String} {tabWidth : Nat}
    {before inserted after : List Token}
    {previous token : Token} (wide : previous.span.isEmpty = false)
    (also : token.span.isEmpty = false) (between : ∀ other ∈ inserted, other.span.isEmpty = true)
    (parts : (lex source tabWidth).tokens =
      before ++ previous :: (inserted ++ token :: after)) :
    ∃ text, Token.Gap source tabWidth (before ++ previous :: inserted) previous token text := by
  have split : (lex source tabWidth).tokens =
      (before ++ previous :: inserted) ++ token :: after := by
    rw [parts, List.append_assoc, List.cons_append]
  rcases lex_wide split also with ⟨steps, text, blank, own, beyond, whole, stands, readBy⟩
  rw [List.append_assoc (text ++ blank)] at whole
  have lined := Reader.afterSteps_lined source tabWidth steps
  have broken : token.leading.any (Trivia.breaksLine source) = true ↔ '\n' ∈ blank := by
    rw [stands.trivia.any_breaksLine whole, List.contains_iff_mem]
  refine ⟨blank, ?_, ?_, ⟨steps, readBy, ?_⟩⟩
  · rw [stands.covers.stop wide before inserted rfl between, stands.span, whole,
      byteLength_append]
    exact slice_append text blank _
  · exact broken.symm.trans (lined.any_breaksLine readBy.reads.leading_subset)
  · rw [lined.atLineStart_eq readBy.reads fun code => readBy.tokens_ne_nil code wide (by simp)]
    exact broken

/-- The line feed in the comment begins a line, so a separator is inserted, but the token
behind it shows no line break. -/
theorem lex_line_breaks_comment :
    let a : Token := ⟨.identifier "a", ⟨4, 5⟩, [⟨.newline, ⟨1, 2⟩⟩, ⟨.whitespace, ⟨2, 4⟩⟩]⟩
    let b : Token := ⟨.identifier "b", ⟨10, 11⟩, [⟨.blockComment, ⟨5, 10⟩⟩]⟩
    let before : List Token := [⟨.punctuation .equals, ⟨0, 1⟩, []⟩, .bare .indent (.empty 4)]
    let separator : Token := .bare .autoSemicolon (.empty 5)
    (lex "=\n  a/*\n*/b" 4).tokens = before ++ a :: ([separator] ++ b ::
        [.bare .outdent (.empty 11), .endOfFile 11]) ∧
      b.hasNewlineBefore = false ∧
      ∃ text, Token.Gap "=\n  a/*\n*/b" 4 (before ++ a :: [separator]) a b text := by
  intro a b before separator
  have parts : (lex "=\n  a/*\n*/b" 4).tokens = before ++ a :: ([separator] ++ b ::
      [.bare .outdent (.empty 11), .endOfFile 11]) := by decide +kernel
  exact ⟨parts, rfl, lex_line_breaks rfl rfl (List.forall_mem_singleton.mpr rfl) parts⟩

end Offside
