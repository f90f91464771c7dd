import Mathlib.Logic.Function.Iterate
import Offside.Proofs.Lexing.Ahead
import Offside.Proofs.Lexing.Coverage
import Offside.Proofs.Text.Classes

namespace Offside

/-!
# Where tokens come from

A reader goes through its source in steps.  Every token that was not inserted is read by
one of them, and the text that the reader has in front of it then says what the token can
be: a lexeme, a closing bracket with nothing to close, text that is no token, or a part of
a string.
-/

/-- The kinds of the tokens that surround the text of a string with splices. -/
inductive QuoteForm.Marks [XidStart] (quote : QuoteForm) : TokenKind → Prop
  | closing : Marks quote (.stringEnd quote)
  | dollar : Marks quote (.punctuation .dollar)
  | bracket : Marks quote (.punctuation .leftBrace)
  | name (text : List Char) : Marks quote
      (.identifier (String.ofList (text.take (runLength CharClass.isIdentContinue text))))

theorem Token.IsInserted.isSynthetic {token : Token} (inserted : token.IsInserted) :
    token.kind.isSynthetic = true := by
  cases inserted with
  | intro offset synthetic => exact synthetic

theorem Token.IsInserted.span_isEmpty {token : Token} (inserted : token.IsInserted) :
    token.span.isEmpty = true := by
  cases inserted with
  | intro offset synthetic => exact beq_self_eq_true offset

theorem not_spells_endOfFile {text : List Char} (nonempty : text ≠ []) :
    ¬ TokenKind.endOfFile.Spells text := by
  rintro (shown | ⟨other, -⟩)
  · exact nonempty (String.ofList_eq_empty_iff.mp shown.symm)
  · cases other

namespace StringText

variable {quote : QuoteForm} {text : List Char} {reach : Nat}

/-- Where text of a string was found, cut off or not, stand neither marks nor a splice. -/
theorem plain_of_scanPiece [XidStart]
    (found : scanPiece quote text = .text reach ∨ scanPiece quote text = .cutOff reach) :
    closesWith quote text = false ∧ startsSplice text = false ∧ length quote text = reach := by
  unfold scanPiece at found
  split at found
  · rcases found with found | found <;> cases found
  · rename_i unclosed
    split at found
    · split at found <;> rcases found with found | found <;> cases found
    · rename_i noSplice
      rw [Bool.not_eq_true] at unclosed noSplice
      dsimp only at found
      split at found <;> rcases found with found | found <;> cases found
      · exact ⟨unclosed, noSplice, rfl⟩
      · exact ⟨unclosed, noSplice, rfl⟩

theorem length_of_scanPiece_name [XidStart] (found : scanPiece quote text = .name reach) :
    reach = runLength CharClass.isIdentContinue (text.drop 1) := by
  unfold scanPiece at found
  split at found
  · cases found
  · split at found
    · split at found <;> cases found
      rfl
    · dsimp only at found
      split at found <;> cases found

end StringText

namespace Reader

variable {reader before after : Reader} {token : Token} {kind : TokenKind} {span : Span}
  {source : String} {tabWidth : Nat} {c : Char} {rest : List Char}

/-- The next step of a reader reads a token. -/
inductive Reads [XidStart] (reader : Reader) : Token → Prop
  | lexeme {c : Char} {rest : List Char} {kind : TokenKind}
      (code : Frame.inString reader.frames = false) (unread : reader.rest = c :: rest)
      (found : (reader.lexeme c rest).lexeme.kind? = some kind) :
      Reads reader ⟨kind, reader.spanOf (c :: rest.take (reader.lexeme c rest).more),
        reader.trivia.toList⟩
  | stray (closer : ClosingBracket) (span : Span) :
      Reads reader ⟨.error closer.char.toString, span, reader.trivia.toList⟩
  | faulty {c : Char} {rest : List Char} {fault : LexicalFault}
      (code : Frame.inString reader.frames = false) (unread : reader.rest = c :: rest)
      (found : (reader.lexeme c rest).lexeme = .faulty fault) :
      Reads reader ⟨.error (String.ofList (c :: rest.take (reader.lexeme c rest).more)),
        reader.spanOf (c :: rest.take (reader.lexeme c rest).more), reader.trivia.toList⟩
  | mark {quote : QuoteForm} {opened : Nat} {outer : List Frame} {kind : TokenKind}
      (inString : reader.frames = .string quote opened :: outer) (marks : quote.Marks kind)
      (span : Span) {leading : List Trivia} (waiting : leading ⊆ reader.trivia.toList) :
      Reads reader ⟨kind, span, leading⟩
  | plain {quote : QuoteForm} {opened : Nat} {outer : List Frame}
      (inString : reader.frames = .string quote opened :: outer)
      (unclosed : StringText.closesWith quote reader.rest = false)
      (noSplice : StringText.startsSplice reader.rest = false) :
      Reads reader ⟨.stringMiddle (String.ofList
          (reader.rest.take (StringText.length quote reader.rest))),
        reader.spanOf (reader.rest.take (StringText.length quote reader.rest)),
        reader.trivia.toList⟩

/-! ## What a step adds -/

/-- A token comes to stand behind what is inserted, as it is or as a bracket that closes
nothing. -/
theorem Emits.tokens (emits : before.Emits kind span after) :
    ∃ inserted last, after.tokens.toList = before.tokens.toList ++ (inserted ++ [last]) ∧
      (∀ other ∈ inserted, other.IsInserted) ∧
      (last = ⟨kind, span, before.trivia.toList⟩ ∨ kind.isCloser = true ∧
        ∃ closer : ClosingBracket,
          last = ⟨.error closer.char.toString, span, before.trivia.toList⟩) := by
  have behind : ∀ {placed : Reader} (kindThere : TokenKind), before.Inserts placed →
      ∃ inserted, (placed.add kindThere span).tokens.toList = before.tokens.toList ++
        (inserted ++ [⟨kindThere, span, before.trivia.toList⟩]) ∧
        ∀ other ∈ inserted, other.IsInserted := by
    intro placed kindThere inserts
    rcases inserts.tokens with ⟨inserted, added, each⟩
    refine ⟨inserted, ?_, each⟩
    simp only [add, Array.toList_push, added, inserts.trivia, List.append_assoc]
  cases emits with
  | kept inserts =>
      rcases behind kind inserts with ⟨inserted, added, each⟩
      exact ⟨inserted, _, added, each, .inl rfl⟩
  | @unmatched placed closer inserts closes reported =>
      rcases behind (.error closer.char.toString) inserts with ⟨inserted, added, each⟩
      exact ⟨inserted, _, added, each, .inr ⟨closes ▸ isCloser_mark closer, closer, rfl⟩⟩

/-- Whatever is inserted in front of it, a token that closes nothing is added as it is. -/
theorem Emits.mem_self (emits : before.Emits kind span after) (noCloser : kind.isCloser = false) :
    ⟨kind, span, before.trivia.toList⟩ ∈ after.tokens.toList := by
  rcases emits.tokens with ⟨inserted, last, added, -, rfl | ⟨closes, -⟩⟩
  · simp [added]
  · rw [closes] at noCloser
    cases noCloser

variable [XidStart]

theorem step_of_faulty (code : Frame.inString reader.frames = false)
    (unread : reader.rest = c :: rest) {fault : LexicalFault}
    (found : (reader.lexeme c rest).lexeme = .faulty fault) {text beyond : List Char}
    (reads : c :: rest.take (reader.lexeme c rest).more = text)
    (leaves : rest.drop (reader.lexeme c rest).more = beyond) :
    reader.step = ((reader.report fault (reader.spanOf text)).emit (.error (String.ofList text))
      (reader.spanOf text) beyond.head?).advance text beyond := by
  rw [step_eq_readLexeme code unread]
  unfold lexeme at found reads leaves
  unfold readLexeme
  dsimp only
  rw [found, reads, leaves]

/-- A lexeme that closes nothing is added as the token that it is. -/
theorem mem_step_of_lexeme (code : Frame.inString reader.frames = false)
    (unread : reader.rest = c :: rest) (found : (reader.lexeme c rest).lexeme.kind? = some kind)
    (noCloser : kind.isCloser = false) :
    ⟨kind, reader.spanOf (c :: rest.take (reader.lexeme c rest).more), reader.trivia.toList⟩ ∈
      reader.step.tokens.toList := by
  rw [step_eq_emit code unread found rfl rfl]
  show _ ∈ (Reader.openString _ kind reader.offset).tokens.toList
  rw [(openString_tokens _ kind reader.offset).1]
  exact (emit_emits _ _ _ _).mem_self noCloser

/-- Text that is no token is added as a fault. -/
theorem mem_step_of_faulty (code : Frame.inString reader.frames = false)
    (unread : reader.rest = c :: rest) {fault : LexicalFault}
    (found : (reader.lexeme c rest).lexeme = .faulty fault) :
    ⟨.error (String.ofList (c :: rest.take (reader.lexeme c rest).more)),
      reader.spanOf (c :: rest.take (reader.lexeme c rest).more), reader.trivia.toList⟩ ∈
      reader.step.tokens.toList := by
  rw [step_of_faulty code unread found rfl rfl]
  exact (emit_emits (reader.report fault _) _ _ _).mem_self rfl

/-- Text that is no token is reported. -/
theorem step_reports (code : Frame.inString reader.frames = false)
    (unread : reader.rest = c :: rest) {fault : LexicalFault}
    (found : (reader.lexeme c rest).lexeme = .faulty fault) :
    .lexical fault (reader.spanOf (c :: rest.take (reader.lexeme c rest).more)) ∈
      reader.step.diagnostics.toList := by
  rw [step_of_faulty code unread found rfl rfl]
  generalize reader.spanOf (c :: rest.take (reader.lexeme c rest).more) = place
  rcases (emit_grows (reader.report fault place) (.error (String.ofList _)) place
    (rest.drop (reader.lexeme c rest).more).head?).diagnostics with ⟨more, added, _⟩
  refine added ▸ List.mem_append_left _ ?_
  exact Array.mem_toList_iff.mpr Array.mem_push_self

/-- What a step of a reader adds.  Outside of strings only the last token is read. -/
structure Adds (reader : Reader) (new : List Token) : Prop where
  each : ∀ token ∈ new, token.IsInserted ∨ reader.Reads token
  alone : Frame.inString reader.frames = false → ∀ token ∈ new.dropLast, token.IsInserted

theorem Adds.nil (reader : Reader) : reader.Adds [] :=
  ⟨List.forall_mem_nil _, fun _ => List.forall_mem_nil _⟩

/-- Some inserted tokens and one that is read. -/
theorem Adds.concat {inserted : List Token} (each : ∀ other ∈ inserted, other.IsInserted)
    (reads : reader.Reads token) : reader.Adds (inserted ++ [token]) where
  each := by
    intro other member
    rcases List.mem_append.mp member with earlier | last
    · exact .inl (each other earlier)
    · cases List.mem_singleton.mp last
      exact .inr reads
  alone := by
    intro _
    rw [List.dropLast_concat]
    exact each

theorem Adds.of_inString {quote : QuoteForm} {opened : Nat} {outer : List Frame}
    {new : List Token} (inString : reader.frames = .string quote opened :: outer)
    (each : ∀ token ∈ new, token.IsInserted ∨ reader.Reads token) : reader.Adds new where
  each := each
  alone := by
    intro code
    rw [inString] at code
    cases code

theorem step_adds_of_code (code : Frame.inString reader.frames = false)
    (unread : reader.rest = c :: rest) :
    ∃ new, reader.step.tokens.toList = reader.tokens.toList ++ new ∧ reader.Adds new := by
  have becomes : ∀ kind, (reader.lexeme c rest).lexeme.kind? = some kind →
      ∃ new, reader.step.tokens.toList = reader.tokens.toList ++ new ∧ reader.Adds new := by
    intro kind found
    rw [step_eq_emit code unread found rfl rfl]
    rcases (emit_emits reader kind (reader.spanOf (c :: rest.take (reader.lexeme c rest).more))
      (rest.drop (reader.lexeme c rest).more).head?).tokens with
      ⟨inserted, last, added, each, rfl | ⟨-, closer, rfl⟩⟩
    · exact ⟨_, (congrArg Array.toList (openString_tokens _ kind _).1).trans added,
        .concat each (.lexeme code unread found)⟩
    · exact ⟨_, (congrArg Array.toList (openString_tokens _ kind _).1).trans added,
        .concat each (.stray closer _)⟩
  cases found : (reader.lexeme c rest).lexeme with
  | trivia kind =>
      rw [(step_waits code unread found).tokens]
      exact ⟨[], (List.append_nil _).symm, .nil reader⟩
  | token kind => exact becomes kind (congrArg Lexeme.kind? found)
  | stringOpening quote => exact becomes (.stringStart quote) (congrArg Lexeme.kind? found)
  | faulty fault =>
      rw [step_of_faulty code unread found rfl rfl]
      rcases (emit_emits (reader.report fault (reader.spanOf
        (c :: rest.take (reader.lexeme c rest).more))) (.error (String.ofList _)) _
          (rest.drop (reader.lexeme c rest).more).head?).tokens with
        ⟨inserted, last, added, each, rfl | ⟨-, closer, rfl⟩⟩
      · exact ⟨_, added, .concat each (.faulty code unread found)⟩
      · exact ⟨_, added, .concat each (.stray closer _)⟩

theorem step_adds_of_inString {quote : QuoteForm} {opened : Nat} {outer : List Frame}
    (inString : reader.frames = .string quote opened :: outer) (unread : reader.rest ≠ []) :
    ∃ new, reader.step.tokens.toList = reader.tokens.toList ++ new ∧ reader.Adds new := by
  have waiting : reader.trivia.toList ⊆ reader.trivia.toList := List.Subset.refl _
  have noTrivia : [] ⊆ reader.trivia.toList := List.nil_subset _
  let inner := reader.advance (reader.rest.take 1) (reader.rest.drop 1)
  have pair : ∀ {kind : TokenKind} (length : Nat), quote.Marks kind →
      ∀ token ∈ [⟨.punctuation .dollar, reader.spanOf (reader.rest.take 1), reader.trivia.toList⟩,
        ⟨kind, inner.spanOf (inner.rest.take length), []⟩],
          token.IsInserted ∨ reader.Reads token := fun length marks =>
    List.forall_mem_cons.mpr ⟨.inr (.mark inString .dollar _ waiting),
      List.forall_mem_singleton.mpr (.inr (.mark inString marks _ noTrivia))⟩
  rw [step_eq_readPiece inString unread]
  cases found : StringText.scanPiece quote reader.rest with
  | closing =>
      have added : (reader.readPiece quote opened outer).tokens.toList = reader.tokens.toList ++
          [⟨.stringEnd quote, reader.spanOf (reader.rest.take (StringText.marksLength quote)),
            reader.trivia.toList⟩] := by
        simp only [readPiece, found, advance, add, Array.toList_push]
      exact ⟨_, added, .of_inString inString (List.forall_mem_singleton.mpr
        (.inr (.mark inString .closing _ waiting)))⟩
  | spliceOpening =>
      refine ⟨_, ?_, .of_inString inString (pair 1 .bracket)⟩
      simp only [readPiece, found, advance, add, openFrame, toList_push_push]
      rfl
  | name length =>
      refine ⟨_, ?_, .of_inString inString (pair length (.name inner.rest))⟩
      simp only [readPiece, found, advance, add, toList_push_push,
        StringText.length_of_scanPiece_name found]
      rfl
  | text length =>
      rcases StringText.plain_of_scanPiece (.inl found) with ⟨unclosed, noSplice, measured⟩
      have reads := Reads.plain inString unclosed noSplice
      refine ⟨_, ?_, .of_inString inString (List.forall_mem_singleton.mpr (.inr reads))⟩
      simp only [readPiece, found, advance, add, Array.toList_push, ← measured]
  | cutOff length =>
      rcases StringText.plain_of_scanPiece (.inr found) with ⟨unclosed, noSplice, measured⟩
      have reads := Reads.plain inString unclosed noSplice
      have mark : ∀ token ∈ [Token.bare (.error "") (.empty
          (reader.spanOf (reader.rest.take length)).stop)],
          token.IsInserted ∨ reader.Reads token :=
        List.forall_mem_singleton.mpr (.inl (.intro _ rfl))
      rw [readPiece_of_cutOff found]
      simp only [advance, insert, report, Array.toList_push]
      unfold addFragment
      split
      · exact ⟨_, rfl, .of_inString inString mark⟩
      · refine ⟨_, ?_, .of_inString inString (List.forall_mem_cons.mpr ⟨.inr reads, mark⟩)⟩
        simp only [add, Array.toList_push, ← measured, List.append_assoc]
        rfl

theorem step_adds (reader : Reader) :
    ∃ new, reader.step.tokens.toList = reader.tokens.toList ++ new ∧ reader.Adds new := by
  cases unread : reader.rest with
  | nil =>
      rw [step_of_read unread]
      exact ⟨[], (List.append_nil _).symm, .nil reader⟩
  | cons c rest =>
      cases code : Frame.inString reader.frames with
      | false => exact step_adds_of_code code unread
      | true =>
          rcases Frame.exists_of_inString code with ⟨quote, opened, outer, frames⟩
          exact step_adds_of_inString frames (by rw [unread]; exact List.cons_ne_nil _ _)

/-! ## Steps from the start -/

/-- The reader of a source after a number of steps. -/
def afterSteps (source : String) (tabWidth steps : Nat) : Reader :=
  step^[steps] (start tabWidth source.toList)

theorem afterSteps_succ (source : String) (tabWidth steps : Nat) :
    afterSteps source tabWidth (steps + 1) = (afterSteps source tabWidth steps).step :=
  Function.iterate_succ_apply' _ _ _

theorem run_iterate (steps : Nat) (reader : Reader) : (step^[steps] reader).run = reader.run := by
  induction steps generalizing reader with
  | zero => rfl
  | succ steps inductionHypothesis =>
      exact (inductionHypothesis reader.step).trans (run_step reader)

theorem run_afterSteps (source : String) (tabWidth steps : Nat) :
    (afterSteps source tabWidth steps).run = (start tabWidth source.toList).run :=
  run_iterate _ _

/-- A run takes finitely many steps. -/
theorem exists_iterate_eq_run (reader : Reader) : ∃ steps, step^[steps] reader = reader.run := by
  fun_induction run reader with
  | case1 reader atEnd => exact ⟨0, rfl⟩
  | case2 reader unread inductionHypothesis =>
      rcases inductionHypothesis with ⟨steps, reached⟩
      exact ⟨steps + 1, reached⟩

theorem exists_afterSteps_eq_run (source : String) (tabWidth : Nat) :
    ∃ steps, afterSteps source tabWidth steps = (start tabWidth source.toList).run :=
  exists_iterate_eq_run _

/-- After any number of steps a front part of the source has been read. -/
theorem afterSteps_hasRead (source : String) (tabWidth steps : Nat) :
    ∃ front, source.toList = front ++ (afterSteps source tabWidth steps).rest ∧
      (afterSteps source tabWidth steps).HasRead front := by
  induction steps with
  | zero => exact ⟨[], rfl, start_hasRead tabWidth source.toList⟩
  | succ steps inductionHypothesis =>
      rcases inductionHypothesis with ⟨front, whole, read⟩
      rcases step_hasRead read with ⟨taken, beyond, split, left, further⟩
      rw [afterSteps_succ]
      refine ⟨front ++ taken, ?_, further⟩
      rw [whole, split, left, List.append_assoc]

/-- What was found and reported after some steps is found and reported in the end. -/
theorem afterSteps_grows (source : String) (tabWidth steps : Nat) :
    (∃ more, (lex source tabWidth).tokens =
      (afterSteps source tabWidth steps).tokens.toList ++ more) ∧
    ∃ more, (lex source tabWidth).diagnostics =
      (afterSteps source tabWidth steps).diagnostics.toList ++ more := by
  have whole : lex source tabWidth = (afterSteps source tabWidth steps).run.finish := by
    rw [run_afterSteps]
    rfl
  rcases run_finish_grows (afterSteps source tabWidth steps) with ⟨ended, grows, ends⟩
  rcases grows.diagnostics with ⟨more, added, _⟩
  rw [whole, ends]
  exact ⟨grows.tokens, more, added⟩

/-- The step that reads a token which stands behind some others.  It may have added some of
these as well, but outside of strings it has only inserted them. -/
structure ReadBy (front : List Token) (token : Token) (reader : Reader) : Prop where
  reads : reader.Reads token
  behind : ∃ new, front = reader.tokens.toList ++ new ∧
    (Frame.inString reader.frames = false → ∀ other ∈ new, other.IsInserted)

/-- Some more tokens of which the last may be read stand behind those of the reader. -/
theorem Adds.readBy {reader : Reader} {new inner back : List Token} (adds : reader.Adds new)
    (parts : new = inner ++ token :: back) :
    token.IsInserted ∨ reader.ReadBy (reader.tokens.toList ++ inner) token := by
  subst parts
  rcases adds.each token (by simp) with inserted | reads
  · exact .inl inserted
  · refine .inr ⟨reads, inner, rfl, fun code other member => ?_⟩
    refine adds.alone code other ?_
    rw [List.dropLast_append_of_ne_nil (List.cons_ne_nil _ _)]
    exact List.mem_append_left _ member

/-- By induction on the steps. -/
theorem afterSteps_readBy {steps : Nat} {front back : List Token}
    (parts : (afterSteps source tabWidth steps).tokens.toList = front ++ token :: back) :
    token.IsInserted ∨ ∃ earlier, (afterSteps source tabWidth earlier).ReadBy front token := by
  induction steps generalizing back with
  | zero => cases front <;> cases parts
  | succ steps inductionHypothesis =>
      rw [afterSteps_succ] at parts
      rcases step_adds (afterSteps source tabWidth steps) with ⟨new, added, adds⟩
      rw [added] at parts
      rcases split_append parts with ⟨inner, -, before⟩ | ⟨inner, rfl, behind⟩
      · exact inductionHypothesis before
      · exact (adds.readBy behind).imp_right fun readBy => ⟨steps, readBy⟩

end Reader

/-- Every token of a source is inserted, marks its end or is read by some step. -/
theorem lex_readBy [XidStart] {source : String} {tabWidth : Nat} {front back : List Token}
    {token : Token} (parts : (lex source tabWidth).tokens = front ++ token :: back) :
    token.IsInserted ∨ token.kind = .endOfFile ∨
      ∃ steps, (Reader.afterSteps source tabWidth steps).ReadBy front token := by
  rcases Reader.exists_afterSteps_eq_run source tabWidth with ⟨steps, ended⟩
  unfold lex at parts
  rw [← ended] at parts
  unfold Reader.finish at parts
  dsimp only at parts
  rcases (Reader.Inserts.foldl Reader.Inserts.closeAtEnd
    (Reader.afterSteps source tabWidth steps).frames _).tokens with ⟨inserted, added, each⟩
  unfold Reader.add at parts
  rw [Array.toList_push] at parts
  rcases split_concat parts with ⟨inner, -, same⟩ | ⟨-, -, rfl⟩
  · rcases split_append (added.symm.trans same) with ⟨inner, -, before⟩ | ⟨inner, -, behind⟩
    · exact (Reader.afterSteps_readBy before).imp_right .inr
    · exact .inl (each token (by simp [behind]))
  · exact .inr (.inl rfl)

/-- A token that has a width stands in the source and is read there. -/
theorem lex_wide [XidStart] {source : String} {tabWidth : Nat} {front back : List Token}
    {token : Token} (parts : (lex source tabWidth).tokens = front ++ token :: back)
    (wide : token.span.isEmpty = false) :
    ∃ steps before blank own beyond, source.toList = before ++ blank ++ own ++ beyond ∧
      token.Stands front before blank own ∧
        (Reader.afterSteps source tabWidth steps).ReadBy front token := by
  have notInserted : ¬ token.IsInserted := by
    intro inserted
    rw [inserted.span_isEmpty] at wide
    cases wide
  rcases lex_stands parts with
    inserted | ⟨-, nothing⟩ | ⟨before, blank, own, beyond, whole, stands⟩
  · exact absurd inserted notInserted
  · rw [nothing, Span.isEmpty, Span.empty, beq_self_eq_true] at wide
    cases wide
  · rcases lex_readBy parts with inserted | isEnd | ⟨steps, readBy⟩
    · exact absurd inserted notInserted
    · exact absurd (isEnd ▸ stands.spells) (not_spells_endOfFile stands.nonempty)
    · exact ⟨steps, before, blank, own, beyond, whole, stands, readBy⟩

theorem mem_tokens_lex [XidStart] {source : String} {tabWidth : Nat} {token : Token}
    (member : token ∈ (lex source tabWidth).tokens) :
    token.IsInserted ∨ token.kind = .endOfFile ∨
      ∃ steps, (Reader.afterSteps source tabWidth steps).Reads token := by
  rcases List.append_of_mem member with ⟨front, back, parts⟩
  exact (lex_readBy parts).imp_right (·.imp_right fun ⟨steps, read⟩ => ⟨steps, read.reads⟩)

namespace Reader

/-!
## Reading over blanks

Outside of strings blanks only move the column, and a line break begins a line.  What a
reader has found and what is open stay as they are.
-/

/-- A reader comes to stand behind some blanks. -/
structure Skips [XidStart] (before after : Reader) : Prop where
  steps : ∃ count, after = step^[count] before
  tokens : after.tokens = before.tokens
  frames : after.frames = before.frames
  lineIndent : after.lineIndent = before.lineIndent
  diagnostics : after.diagnostics = before.diagnostics

variable {reader before middle after : Reader} {rest : List Char} {count : Nat}

namespace Skips

variable [XidStart]

theorem refl (reader : Reader) : reader.Skips reader := ⟨⟨0, rfl⟩, rfl, rfl, rfl, rfl⟩

theorem run (skips : before.Skips after) : before.run = after.run := by
  rcases skips.steps with ⟨count, rfl⟩
  exact (run_iterate count before).symm

theorem kinds (skips : before.Skips after) : after.kinds = before.kinds :=
  congrArg (fun tokens : Array Token => tokens.toList.map Token.kind) skips.tokens

theorem trans (first : before.Skips middle) (second : middle.Skips after) :
    before.Skips after where
  steps := by
    rcases first.steps with ⟨early, rfl⟩
    rcases second.steps with ⟨late, rfl⟩
    exact ⟨late + early, (Function.iterate_add_apply step late early before).symm⟩
  tokens := second.tokens.trans first.tokens
  frames := second.frames.trans first.frames
  lineIndent := second.lineIndent.trans first.lineIndent
  diagnostics := second.diagnostics.trans first.diagnostics

end Skips

theorem skips_newline [XidStart] (code : Frame.inString reader.frames = false)
    (unread : reader.rest = '\n' :: rest) :
    reader.Skips reader.step ∧ reader.step.rest = rest ∧ reader.step.atLineStart = true ∧
      reader.step.column = 0 := by
  have step : reader.step =
      ({ reader.addTrivia .newline (reader.spanOf ['\n']) with
        atLineStart := true } : Reader).advance ['\n'] rest :=
    step_eq_readLexeme code unread
  rw [step]
  exact ⟨⟨⟨1, step.symm⟩, rfl, rfl, rfl, rfl⟩, rfl, rfl, rfl⟩

theorem exactAfter_space (tabWidth column : Nat) :
    Column.exactAfter tabWidth column ' ' = column + 1 := rfl

/-- The column behind some blanks, as long as it can be told. -/
theorem afterText_spaces {tabWidth column : Nat} (fits : column + count < Column.wordSize) :
    Column.afterText tabWidth column (List.replicate count ' ') = column + count := by
  induction count generalizing column with
  | zero => rfl
  | succ count inductionHypothesis =>
      have next : Column.after tabWidth column ' ' = column + 1 := by
        unfold Column.after
        rw [exactAfter_space]
        exact Nat.mod_eq_of_lt (by omega)
      have unfolded : Column.afterText tabWidth column (List.replicate (count + 1) ' ') =
          Column.afterText tabWidth (Column.after tabWidth column ' ')
            (List.replicate count ' ') := rfl
      rw [unfolded, next, inductionHypothesis (by omega)]
      omega

theorem scan_space [XidStart] (operandBefore : Bool) (rest : List Char) :
    Lexeme.scan operandBefore ' ' rest =
      ⟨.trivia .whitespace, runLength (fun c => c != '\n' && isBlank c) rest⟩ := by
  have noBreak : (' ' == '\n') = false := rfl
  unfold Lexeme.scan
  rw [noBreak, isBlank_space]
  rfl

theorem runLength_spaces (ends : headIs isBlank rest = false) :
    runLength (fun c => c != '\n' && isBlank c) (List.replicate count ' ' ++ rest) = count := by
  have spaces : ∀ c ∈ List.replicate count ' ', (c != '\n' && isBlank c) = true := by
    intro c member
    rw [List.eq_of_mem_replicate member, isBlank_space]
    rfl
  have stops : headIs (fun c => c != '\n' && isBlank c) rest = false := by
    cases rest with
    | nil => rfl
    | cons c rest =>
        have solid : isBlank c = false := ends
        show (c != '\n' && isBlank c) = false
        rw [solid, Bool.and_false]
  rw [runLength_append spaces stops, List.length_replicate]

theorem skips_spaces [XidStart] (code : Frame.inString reader.frames = false)
    (unread : reader.rest = List.replicate count ' ' ++ rest)
    (ends : headIs isBlank rest = false)
    (fits : reader.column + count < Column.wordSize) :
    ∃ after : Reader, reader.Skips after ∧ after.rest = rest ∧
      after.atLineStart = reader.atLineStart ∧ after.column = reader.column + count := by
  cases count with
  | zero => exact ⟨reader, .refl reader, unread, rfl, rfl⟩
  | succ count =>
      have behind : reader.rest = ' ' :: (List.replicate count ' ' ++ rest) := unread
      have read := step_eq_readLexeme code behind
      have text : ' ' :: (List.replicate count ' ' ++ rest).take count =
          List.replicate (count + 1) ' ' := by
        rw [List.take_left' List.length_replicate]
        rfl
      have beyond : (List.replicate count ' ' ++ rest).drop count = rest :=
        List.drop_left' List.length_replicate
      unfold readLexeme at read
      dsimp only at read
      rw [scan_space, runLength_spaces ends] at read
      dsimp only at read
      rw [text, beyond] at read
      exact ⟨_, ⟨⟨1, read.symm⟩, rfl, rfl, rfl, rfl⟩, rfl, rfl, afterText_spaces fits⟩

end Reader

end Offside
