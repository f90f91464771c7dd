import Offside.Proofs.Lexing.Depth
import Offside.Proofs.Parsing.Containment
import Offside.Text.XidStart

namespace Offside

/-!
# Faulty input ends at the next definition

A definition that stands outside of everything is safe from the faults in front of it,
whatever the lexer has to say about them.  Where the reader has no frame open, nothing
is open to the eyes of whoever gathers faulty input either, so gathering stops there.

It takes two things.  No closing bracket may have cut off a group in front of the
definition, because nothing is left behind for that group and gathering takes it for
open.  And the token has to start a definition by the rules of the parser: a modifier
with nothing to modify behind it does not.
-/

open Progress (openBehind)

namespace Reader

variable {reader : Reader} {kind : TokenKind}

/-- In front of the next token, behind what the layout rules insert there. -/
def placed [XidStart] (reader : Reader) (c : Char) (rest : List Char) (kind : TokenKind) : Reader :=
  reader.applyLayout kind (rest.drop (reader.lexeme c rest).more).head?

/-- The reader stands at a token, which becomes the token with the given index, and no
frame is open around it. -/
def StandsFree [XidStart] (reader : Reader) (index : Nat) : Prop :=
  ∃ c rest kind, reader.rest = c :: rest ∧ Frame.inString reader.frames = false ∧
    (reader.lexeme c rest).lexeme = .token kind ∧
    (reader.placed c rest kind).frames = [] ∧ index = (reader.placed c rest kind).tokens.size

theorem emit_grows_placed (reader : Reader) (kind : TokenKind) (span : Span)
    (next : Option Char) : (reader.applyLayout kind next).Grows (reader.emit kind span next) := by
  unfold emit
  dsimp only
  split
  · exact addCloser_grows _ _ _
  · split
    · exact .push rfl rfl
    · exact .push rfl rfl

/-- What stands in front of a token stays there. -/
theorem kinds_of_placed [XidStart] {source : String} {tabWidth steps : Nat} {c : Char}
    {rest : List Char} (unread : (afterSteps source tabWidth steps).rest = c :: rest)
    (code : Frame.inString (afterSteps source tabWidth steps).frames = false)
    (found : ((afterSteps source tabWidth steps).lexeme c rest).lexeme = .token kind) :
    ∃ more, (lex source tabWidth).tokens.map Token.kind =
      ((afterSteps source tabWidth steps).placed c rest kind).kinds ++ more := by
  have ran := run_afterSteps source tabWidth steps
  generalize afterSteps source tabWidth steps = reader at *
  have whole : (lex source tabWidth).tokens = reader.run.finish.tokens := by
    rw [ran]
    rfl
  have stepped : (reader.placed c rest kind).Grows reader.step := by
    rw [step_eq_emit code unread (by rw [found]; rfl) rfl rfl]
    refine (emit_grows_placed reader kind
      (reader.spanOf (c :: rest.take (reader.lexeme c rest).more)) _).trans (.of_same ?_ ?_)
    · exact (openString_tokens _ kind reader.offset).1
    · exact (openString_tokens _ kind reader.offset).2.2
  rcases run_finish_grows reader.step with ⟨ended, grows, ends⟩
  rcases (stepped.trans grows).tokens with ⟨more, added⟩
  refine ⟨more.map Token.kind, ?_⟩
  rw [whole, ← run_step, ends, added, List.map_append]
  rfl

end Reader

/-- In front of a token around which no frame is open, no groups are left open. -/
theorem openBehind_of_standsFree [XidStart] {source : String} {tabWidth steps index : Nat}
    (free : (Reader.afterSteps source tabWidth steps).StandsFree index)
    (kept : ∀ earlier < steps, (Reader.afterSteps source tabWidth earlier).losesGroupAhead = false)
    (start : Nat) :
    openBehind 0 ((((lex source tabWidth).tokens.map Token.kind).take index).drop start) = 0 := by
  rcases free with ⟨c, rest, kind, unread, code, found, noFrames, same⟩
  rcases Reader.kinds_of_placed unread code found with ⟨more, whole⟩
  have bounded : ((Reader.afterSteps source tabWidth steps).placed c rest kind).InBounds :=
    Reader.applyLayout_bounded (Reader.afterSteps_bounded steps kept) kind _
  generalize (Reader.afterSteps source tabWidth steps).placed c rest kind = placed at *
  have size : placed.kinds.length = index := by
    rw [same]
    unfold Reader.kinds
    rw [List.length_map, Array.length_toList]
  rw [whole, ← size, List.take_left]
  have none := bounded (placed.kinds.take start) (placed.kinds.drop start)
    (List.take_append_drop start placed.kinds).symm
  rw [noFrames] at none
  exact Nat.le_zero.mp none

/-- Recovery is local.  Where the parse is not ended early, take a token around which no
frame is open once the layout rules have run, and in front of which no closing bracket
has cut off a group or a splice.  If a definition starts with it, whatever is wrong in
front of it, no node of faulty input reaches over it. -/
theorem parse_local [XidStart] (source : String) (options : ParseOptions)
    (whole : (parse source options).isPartial = false) (steps index : Nat)
    (free : (Reader.afterSteps source options.tabWidth steps).StandsFree index)
    (kept : ∀ earlier < steps,
      (Reader.afterSteps source options.tabWidth earlier).losesGroupAhead = false)
    (starts : ((TokenStream.ofList (lex source options.tabWidth).tokens).moveTo
      index).definitionStartsAt 0 = true) :
    ∀ start node, (start, node) ∈ (parse source options).root.places 0 →
      node.kind = .error → ¬ (start < index ∧ index < start + node.tokens.length) := by
  rintro start node member faulty ⟨behind, before⟩
  have gathered := (parse_gathered whole (start, node)
    (Node.mem_faults_iff.mpr ⟨member, faulty⟩)).2
  dsimp only at gathered
  generalize held : TokenStream.ofList (lex source options.tabWidth).tokens = stream at *
  have level : openBehind 0 ((node.tokens.take (index - start)).map Token.kind) = 0 := by
    have all := toList_lex source options.tabWidth
    rw [held] at all
    have none := openBehind_of_standsFree free kept start
    rw [← all] at none
    rw [gathered.take_map_kind (Nat.le_of_lt behind) before]
    exact none
  have noPoint := gathered.passes (index - start) (by omega) (by omega) level
  rw [Nat.add_sub_cancel' (Nat.le_of_lt behind)] at noPoint
  unfold TokenStream.atRecoveryPoint at noPoint
  rw [starts, Bool.or_true] at noPoint
  cases noPoint

/-- The group that is never closed does not swallow the second definition, the keyword of
which is the seventh token, behind the mark for the group. -/
theorem parse_local_unclosed :
    (parse "def f = (.\ndef g() = 1\n" ⟨4, 9⟩).isPartial = false ∧
    (parse "def f = (.\ndef g() = 1\n" ⟨4, 9⟩).root.hasError = true ∧
    (Reader.afterSteps "def f = (.\ndef g() = 1\n" 4 9).StandsFree 6 ∧
    (∀ earlier < 9,
      (Reader.afterSteps "def f = (.\ndef g() = 1\n" 4 earlier).losesGroupAhead = false) ∧
    ((TokenStream.ofList (lex "def f = (.\ndef g() = 1\n" 4).tokens).moveTo
      6).definitionStartsAt 0 = true ∧
    ∀ start node,
      (start, node) ∈ (parse "def f = (.\ndef g() = 1\n" ⟨4, 9⟩).root.places 0 →
      node.kind = .error → ¬ (start < 6 ∧ 6 < start + node.tokens.length) := by
  have whole : (parse "def f = (.\ndef g() = 1\n" ⟨4, 9⟩).isPartial = false := by
    rw [isPartial_parse]
    decide +kernel
  have free : (Reader.afterSteps "def f = (.\ndef g() = 1\n" 4 9).StandsFree 6 :=
    ⟨'d', "ef g() = 1\n".toList, .keyword .defKw, by decide +kernel, by decide +kernel,
      by decide +kernel, by decide +kernel, by decide +kernel⟩
  have kept : ∀ earlier < 9, (Reader.afterSteps "def f = (.\ndef g() = 1\n" 4
      earlier).losesGroupAhead = false := by decide +kernel
  have starts : ((TokenStream.ofList (lex "def f = (.\ndef g() = 1\n" 4).tokens).moveTo
      6).definitionStartsAt 0 = true := by decide +kernel
  exact ⟨whole, by decide +kernel, free, kept, starts,
    parse_local _ ⟨4, 9⟩ whole 9 6 free kept starts⟩

end Offside
