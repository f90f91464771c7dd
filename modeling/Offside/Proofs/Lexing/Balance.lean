import Offside.Proofs.Lexing.Nesting
import Offside.Text.XidStart

namespace Offside

/-!
# Blocks and groups are balanced

What a source opens it closes.  About indented blocks this holds without any
condition: however faulty a source is, and wherever its lines begin, a block that is
closed was open, and at the end every block has been closed.  Blocks end in many
ways, at a line further to the left, at a closing bracket around them, or at the end
of the source, but they always end by the same two things at once: the frame goes
and a token for it comes.  Frames that go without a token are never blocks.

About brackets and quotation marks nothing of the kind holds where the source is
faulty.  Where the lexer is silent, all delimiters are nested.
-/

/-- Every source for which nothing is reported is a well-nested word: each closing
token meets its own opening token, and in the end nothing is left open. -/
theorem lex_nested [XidStart] (source : String) (tabWidth : Nat)
    (silent : (lex source tabWidth).diagnostics = []) :
    Nesting.exact.read [] ((lex source tabWidth).tokens.map Token.kind) = some [] := by
  rcases lex_honest source tabWidth with nested | faulty
  · exact nested.nested
  · exact absurd silent faulty.told

/-- A block, a group in the block and a string with a splice in the group. -/
theorem lex_nested_block_group_splice :
    (lex "def f() =\n  g(\"a${x}\")\n" 4).diagnostics = [] ∧
    Nesting.exact.read []
      ((lex "def f() =\n  g(\"a${x}\")\n" 4).tokens.map Token.kind) = some [] := by
  have silent : (lex "def f() =\n  g(\"a${x}\")\n" 4).diagnostics = [] := by decide +kernel
  exact ⟨silent, lex_nested _ _ silent⟩

/-! ## Counting blocks -/

def Frame.isBlock : Frame → Bool
  | indent _ => true
  | _ => false

/-- Whether a block begins or ends at the token. -/
def TokenKind.isBlockMark : TokenKind → Bool
  | indent | outdent => true
  | _ => false

/-- Some kinds of tokens open at least as many blocks as they close, wherever one
stops, and in the end leave a number of blocks open. -/
structure BlocksOpen (depth : Nat) (kinds : List TokenKind) : Prop where
  stops : ∀ length, (kinds.take length).count .outdent ≤ (kinds.take length).count .indent
  ends : kinds.count .indent = kinds.count .outdent + depth

namespace BlocksOpen

variable {depth : Nat} {kinds : List TokenKind} {kind : TokenKind}

theorem nil : BlocksOpen 0 [] := ⟨fun _ => by simp, rfl⟩

/-- Only at its end a longer row of tokens can stop where the shorter one did not. -/
theorem concat {after : Nat} (blocks : BlocksOpen depth kinds)
    (ends : (kinds ++ [kind]).count .indent = (kinds ++ [kind]).count .outdent + after) :
    BlocksOpen after (kinds ++ [kind]) where
  stops := by
    intro length
    rcases Nat.lt_or_ge kinds.length length with beyond | inside
    · rw [List.take_of_length_le (by rw [List.length_append]; exact beyond)]
      omega
    · rw [List.take_append_of_le_length inside]
      exact blocks.stops length
  ends := ends

theorem concat_indent (blocks : BlocksOpen depth kinds) :
    BlocksOpen (depth + 1) (kinds ++ [.indent]) := by
  apply blocks.concat
  have ends := blocks.ends
  simp only [List.count_append, List.count_singleton, beq_iff_eq, reduceCtorEq, if_true, if_false]
  omega

theorem concat_outdent (blocks : BlocksOpen (depth + 1) kinds) :
    BlocksOpen depth (kinds ++ [.outdent]) := by
  apply blocks.concat
  have ends := blocks.ends
  simp only [List.count_append, List.count_singleton, beq_iff_eq, reduceCtorEq, if_true, if_false]
  omega

theorem concat_other (blocks : BlocksOpen depth kinds) (noBegin : kind ≠ .indent)
    (noEnd : kind ≠ .outdent) : BlocksOpen depth (kinds ++ [kind]) := by
  apply blocks.concat
  have ends := blocks.ends
  rw [List.count_append, List.count_append]
  simp only [List.count_singleton, beq_iff_eq, noBegin, noEnd, if_false]
  omega

end BlocksOpen

namespace Reader

/-- The tokens found so far leave as many blocks open as there are among some frames. -/
def Balances (frames : List Frame) (reader : Reader) : Prop :=
  BlocksOpen (frames.countP Frame.isBlock) reader.kinds

/-- The open blocks of a reader are those that its tokens leave open. -/
def InBalance (reader : Reader) : Prop := reader.Balances reader.frames

namespace Balances

variable {before after reader : Reader} {frames inner : List Frame} {token : Token}

theorem of_same (balances : before.Balances frames) (tokens : after.tokens = before.tokens) :
    after.Balances frames := by
  unfold Balances kinds
  rw [tokens]
  exact balances

/-- A frame that is no block may come and go without a token. -/
theorem cons (balances : reader.Balances frames) {frame : Frame}
    (noBlock : frame.isBlock = false) : reader.Balances (frame :: frames) := by
  unfold Balances
  rw [List.countP_cons_of_neg (by rw [noBlock]; exact Bool.false_ne_true)]
  exact balances

theorem tail {frame : Frame} (balances : reader.Balances (frame :: frames))
    (noBlock : frame.isBlock = false) : reader.Balances frames := by
  unfold Balances at balances
  rw [List.countP_cons_of_neg (by rw [noBlock]; exact Bool.false_ne_true)] at balances
  exact balances

/-- A block opens together with the token for it. -/
theorem pushIndent (balances : before.Balances frames) (column : Nat)
    (tokens : after.tokens = before.tokens.push token) (kind : token.kind = .indent) :
    after.Balances (.indent column :: frames) := by
  unfold Balances
  rw [kinds_push tokens, kind, List.countP_cons_of_pos rfl]
  exact BlocksOpen.concat_indent balances

/-- A block closes together with the token for it. -/
theorem pushOutdent {column : Nat} (balances : before.Balances (.indent column :: frames))
    (tokens : after.tokens = before.tokens.push token) (kind : token.kind = .outdent) :
    after.Balances frames := by
  unfold Balances at balances
  rw [List.countP_cons_of_pos rfl] at balances
  unfold Balances
  rw [kinds_push tokens, kind]
  exact balances.concat_outdent

theorem push (balances : before.Balances frames)
    (tokens : after.tokens = before.tokens.push token) (other : token.kind.isBlockMark = false) :
    after.Balances frames := by
  unfold Balances
  rw [kinds_push tokens]
  apply BlocksOpen.concat_other balances
  · intro same
    rw [same] at other
    cases other
  · intro same
    rw [same] at other
    cases other

/-- Going through frames one by one, with a token for each of the blocks. -/
theorem foldl {change : Reader → Frame → Reader} {cut : List Frame}
    (each : ∀ frame ∈ cut, ∀ frames reader, reader.Balances (frame :: frames) →
      (change reader frame).Balances frames)
    (balances : reader.Balances (cut ++ frames)) :
    (cut.foldl change reader).Balances frames := by
  induction cut generalizing reader with
  | nil => exact balances
  | cons frame cut inductionHypothesis =>
      rw [List.forall_mem_cons] at each
      exact inductionHypothesis each.2 (each.1 (cut ++ frames) reader balances)

end Balances

variable {reader : Reader} {kind : TokenKind}

theorem InBalance.advance (balances : reader.InBalance) (text rest : List Char) :
    (reader.advance text rest).InBalance :=
  Balances.of_same balances rfl

/-! ## The layout rules -/

theorem closeBlocks_balances (balances : reader.InBalance) (column : Nat) :
    (reader.closeBlocks column).InBalance := by
  unfold InBalance
  rw [frames_closeBlocks]
  unfold closeBlocks
  apply Balances.foldl
  · intro frame member frames before blocks
    have deeper := List.all_eq_true.mp List.all_takeWhile frame member
    cases frame with
    | indent level => exact blocks.pushOutdent rfl rfl
    | _ => cases deeper
  · rw [takeWhile_append_drop]
    exact balances.of_same rfl

theorem beginLine_balances (balances : reader.InBalance) (column offset : Nat)
    (kind : TokenKind) (next : Option Char) :
    (reader.beginLine column offset kind next).InBalance := by
  have fitted : ({ reader.closeBlocks column with lineIndent := column } : Reader).InBalance :=
    (closeBlocks_balances balances column).of_same rfl
  exact beginLine_cases (motive := InBalance) rfl fitted (Balances.push fitted rfl rfl)
    (Balances.push fitted rfl rfl) fun _ => Balances.pushIndent fitted column rfl rfl

/-- Groups that are given up hold no blocks between them. -/
theorem abandonGroups_balances (balances : reader.InBalance) :
    reader.abandonGroups.InBalance := by
  unfold InBalance
  rw [frames_abandonGroups]
  unfold abandonGroups
  apply Balances.foldl
  · intro frame member frames before blocks
    have abandoned := List.all_eq_true.mp List.all_takeWhile frame member
    cases frame with
    | group bracket opened => exact (blocks.tail rfl).push rfl rfl
    | _ => cases abandoned
  · rw [takeWhile_append_drop]
    exact balances.of_same rfl

theorem applyLayout_balances (balances : reader.InBalance) (kind : TokenKind)
    (next : Option Char) : (reader.applyLayout kind next).InBalance := by
  have begun : ({ reader with atLineStart := false } : Reader).InBalance := balances.of_same rfl
  have outside := abandonGroups_balances begun
  exact applyLayout_cases (motive := InBalance) rfl (fun _ => balances) begun
    (fun _ => beginLine_balances begun _ _ _ _) outside
    fun _ => beginLine_balances outside _ _ _ _

/-! ## Reading -/

/-- What is cut off may be anything, but only blocks leave a token behind. -/
theorem cutOff_balances {frame : Frame} {frames : List Frame}
    (balances : reader.Balances (frame :: frames)) :
    (reader.cutOff frame).Balances frames := by
  cases frame with
  | indent column => exact balances.pushOutdent rfl rfl
  | group bracket opened => exact (balances.tail rfl).of_same rfl
  | splice opened => exact (balances.tail rfl).of_same rfl
  | string quote opened => exact balances.tail rfl

theorem addCloser_balances (balances : reader.InBalance) (closer : ClosingBracket)
    (span : Span) :
    (reader.addCloser closer span).InBalance := by
  unfold addCloser
  dsimp only
  cases found : (reader.frames.takeWhile fun frame => !frame.isString).findIdx?
      (Frame.isClosedBy closer) with
  | none => exact balances.push rfl rfl
  | some index =>
      rcases visible_split found with ⟨cut, target, taken, whole, fits, unfit⟩
      have noBlock : target.isBlock = false := by
        cases target with
        | indent column => cases fits
        | _ => rfl
      dsimp only
      rw [taken]
      unfold InBalance at balances
      rw [whole] at balances
      have closed : (cut.foldl Reader.cutOff reader).Balances
          (target :: reader.frames.drop (index + 1)) :=
        Balances.foldl (fun frame member frames before => cutOff_balances) balances
      exact (closed.tail noBlock).push rfl rfl

theorem emit_balances (balances : reader.InBalance) (other : kind.isBlockMark = false)
    (span : Span) (next : Option Char) :
    (reader.emit kind span next).InBalance := by
  have placed := applyLayout_balances balances kind next
  unfold emit
  dsimp only
  split
  · exact addCloser_balances placed _ span
  · split
    · exact (placed.cons rfl).push rfl other
    · exact placed.push rfl other

theorem isBlockMark_of_isLexical (lexical : kind.isLexical = true) : kind.isBlockMark = false := by
  cases kind <;> first | rfl | cases lexical

theorem readLexeme_balances [XidStart] (balances : reader.InBalance) (c : Char) (rest : List Char) :
    (reader.readLexeme c rest).InBalance := by
  have fits := Lexeme.fits_scan (reader.lastKind?.any TokenKind.endsOperand) c rest
  unfold Lexeme.Found.Fits at fits
  unfold readLexeme
  dsimp only
  generalize Lexeme.scan (reader.lastKind?.any TokenKind.endsOperand) c rest = found at fits
  refine InBalance.advance ?_ _ _
  split
  · exact balances.of_same rfl
  · exact balances.of_same rfl
  · exact balances.of_same rfl
  · rename_i kind same
    rw [same] at fits
    cases fits with
    | token lexical spells =>
        exact emit_balances balances (isBlockMark_of_isLexical lexical) _ _
  · rename_i quote same
    have other : (TokenKind.stringStart quote).isBlockMark = false := rfl
    exact Balances.of_same (Balances.cons (emit_balances balances other _ _) rfl) rfl
  · have other : (TokenKind.error (String.ofList (c :: rest.take found.more))).isBlockMark =
        false := rfl
    have told : (reader.report ‹LexicalFault›
        (reader.spanOf (c :: rest.take found.more))).InBalance := Balances.of_same balances rfl
    exact emit_balances told other _ _

theorem readPiece_balances [XidStart] {quote : QuoteForm} {opened : Nat} {outer : List Frame}
    (balances : reader.InBalance) (inString : reader.frames = .string quote opened :: outer) :
    (reader.readPiece quote opened outer).InBalance := by
  have outside : reader.Balances outer := by
    unfold InBalance at balances
    rw [inString] at balances
    exact balances.tail rfl
  have dollar : Balances reader.frames
      (reader.add (.punctuation .dollar) (reader.spanOf (reader.rest.take 1))) :=
    balances.push rfl rfl
  unfold readPiece
  dsimp only
  split
  · exact outside.push rfl rfl
  · exact (dollar.cons rfl).push rfl rfl
  · exact dollar.push rfl rfl
  · exact balances.push rfl rfl
  · rename_i length _
    have read : (reader.addFragment (reader.rest.take length)).Balances outer := by
      unfold addFragment
      split
      · exact outside
      · exact outside.push rfl rfl
    exact (read.of_same rfl).push rfl rfl

theorem step_balances [XidStart] (balances : reader.InBalance) : reader.step.InBalance := by
  unfold step
  split
  · exact balances
  · split
    · exact readPiece_balances balances ‹_›
    · exact readLexeme_balances balances _ _

theorem run_balances [XidStart] (balances : reader.InBalance) : reader.run.InBalance := by
  fun_induction run reader with
  | case1 reader atEnd => exact balances
  | case2 reader unread inductionHypothesis =>
      exact inductionHypothesis (step_balances balances)

theorem closeAtEnd_balances {frame : Frame} {frames : List Frame}
    (balances : reader.Balances (frame :: frames)) :
    (reader.closeAtEnd frame).Balances frames := by
  cases frame with
  | indent column => exact balances.pushOutdent rfl rfl
  | splice opened => exact balances.tail rfl
  | string quote opened => exact (balances.tail rfl).push rfl rfl
  | group bracket opened => exact (balances.tail rfl).push rfl rfl

end Reader

/-- In every source, faulty or not, blocks are balanced: up to any token no more blocks
have been closed than opened, and up to the last one exactly as many. -/
theorem lex_balanced [XidStart] (source : String) (tabWidth : Nat) :
    (∀ length, (((lex source tabWidth).tokens.map Token.kind).take length).count .outdent ≤
      (((lex source tabWidth).tokens.map Token.kind).take length).count .indent) ∧
    ((lex source tabWidth).tokens.map Token.kind).count .indent =
      ((lex source tabWidth).tokens.map Token.kind).count .outdent := by
  have started : (Reader.start tabWidth source.toList).InBalance := BlocksOpen.nil
  have ran := Reader.run_balances started
  unfold lex Reader.finish
  dsimp only
  generalize (Reader.start tabWidth source.toList).run = reader at ran
  have closed : (reader.frames.foldl Reader.closeAtEnd reader).Balances [] := by
    apply Reader.Balances.foldl (fun frame _ frames before => Reader.closeAtEnd_balances)
    rw [List.append_nil]
    exact ran
  have ended : ((reader.frames.foldl Reader.closeAtEnd reader).add .endOfFile
      (.empty reader.offset)).Balances [] := closed.push rfl rfl
  exact ⟨ended.stops, ended.ends⟩

end Offside
