import Mathlib.Data.List.Chain
import Offside.Proofs.Format.Kinds
import Offside.Proofs.Lexing.LineEnd
import Offside.Proofs.Lexing.Stance

namespace Offside

/-!
# Sources without curly brackets

Blocks can stand in blocks and between curly brackets, and nowhere else.  So where no curly
bracket opens, but for those of splices, all blocks lie below all groups.  No bracket closes a
block there, no block stays empty, and the level of indentation counts the open blocks.
-/

namespace TokenKind

/-- Whether a token is a curly bracket that opens a group or a splice. -/
def opensCurly (kind : TokenKind) : Bool :=
  (Bracket.ofKind? kind).any fun bracket => bracket.closer == .curly

/-- Between two neighbours: a curly bracket opens only behind the mark of a splice. -/
def OpensSplice (kind next : TokenKind) : Prop :=
  next.opensCurly = true → kind = .punctuation .dollar

instance (kind next : TokenKind) : Decidable (kind.OpensSplice next) :=
  inferInstanceAs (Decidable (next.opensCurly = true → kind = .punctuation .dollar))

end TokenKind

/-- No curly bracket opens, but for those of splices. -/
structure OnlySplices (kinds : List TokenKind) : Prop where
  first : kinds.head?.any TokenKind.opensCurly = false
  next : kinds.IsChain TokenKind.OpensSplice

instance (kinds : List TokenKind) : Decidable (OnlySplices kinds) :=
  decidable_of_iff
    (kinds.head?.any TokenKind.opensCurly = false ∧ kinds.IsChain TokenKind.OpensSplice)
    ⟨fun both => ⟨both.1, both.2⟩, fun only => ⟨only.first, only.next⟩⟩

namespace OnlySplices

variable {front back : List TokenKind} {kind : TokenKind}

theorem of_append (only : OnlySplices (front ++ back)) : OnlySplices front where
  first := by
    have first := only.first
    cases front with
    | nil => rfl
    | cons kind front => exact first
  next := (List.isChain_append.mp only.next).1

/-- In front of a curly bracket that opens stands the mark of a splice. -/
theorem dollar (only : OnlySplices (front ++ kind :: back)) (opens : kind.opensCurly = true) :
    front.getLast? = some (.punctuation .dollar) := by
  rcases List.eq_nil_or_concat front with rfl | ⟨others, last, rfl⟩
  · have first : kind.opensCurly = false := only.first
    rw [opens] at first
    cases first
  · rw [List.concat_eq_append, List.append_assoc, List.singleton_append] at only
    rw [List.concat_eq_append, List.getLast?_concat]
    have behind := (List.isChain_append.mp only.next).2.1
    exact congrArg some ((List.isChain_cons_cons.mp behind).1 opens)

end OnlySplices

/-- No block ends right where it begins. -/
def BlocksApart (kinds : List TokenKind) : Prop :=
  kinds.IsChain fun kind next => kind = .indent → next ≠ .outdent

namespace BlocksApart

variable {front back kinds : List TokenKind}

theorem of_noIndent (noIndent : TokenKind.indent ∉ kinds) : BlocksApart kinds := by
  refine (List.pairwise_of_forall_mem_list fun kind member _ _ isIndent => ?_).isChain
  rw [isIndent] at member
  exact absurd member noIndent

theorem append (apart : BlocksApart front) (also : BlocksApart back)
    (last : TokenKind.indent ∉ front.getLast?) : BlocksApart (front ++ back) :=
  List.isChain_append.mpr ⟨apart, also, fun _ ends _ _ isIndent =>
    absurd (isIndent ▸ ends) last⟩

theorem noEmptyBlock (apart : BlocksApart kinds) : Reader.NoEmptyBlock kinds := by
  rintro front back rfl
  exact (List.isChain_cons_cons.mp (List.isChain_append.mp apart).2.1).1 rfl rfl

end BlocksApart

/-! ## Frames -/

/-- Blocks lie below everything else, and lines have a meaning in nothing but blocks. -/
inductive Frame.Plain : List Frame → Prop
  | blocks {frames : List Frame} (blocks : ∀ frame ∈ frames, frame.isBlock = true) : Plain frames
  | cons {frame : Frame} {frames : List Frame} (plain : Plain frames)
      (inactive : layoutActive (frame :: frames) = false) : Plain (frame :: frames)

namespace Frame.Plain

variable {frames blocks around : List Frame} {target : Frame} {closer : ClosingBracket}

/-- Where lines have a meaning nothing but blocks is open. -/
theorem of_active (plain : Plain frames) (active : layoutActive frames = true) :
    ∀ frame ∈ frames, frame.isBlock = true := by
  cases plain with
  | blocks blocks => exact blocks
  | cons plain inactive =>
      rw [inactive] at active
      cases active

theorem tail {frame : Frame} (plain : Plain (frame :: frames)) : Plain frames := by
  cases plain with
  | blocks blocks => exact .blocks (List.forall_mem_cons.mp blocks).2
  | cons plain inactive => exact plain

theorem of_append (plain : Plain (blocks ++ around)) : Plain around := by
  induction blocks with
  | nil => exact plain
  | cons block blocks inductionHypothesis => exact inductionHypothesis plain.tail

/-- A bracket closes no blocks. -/
theorem closes_no_blocks (plain : Plain (blocks ++ target :: around))
    (closed : ∀ frame ∈ blocks, frame.isBlock = true) (fits : target.isClosedBy closer = true) :
    blocks = [] := by
  cases blocks with
  | nil => rfl
  | cons block blocks =>
      have active : layoutActive (block :: (blocks ++ target :: around)) = true := by
        have isBlock := closed block List.mem_cons_self
        cases block with
        | indent column => rfl
        | _ => cases isBlock
      have isBlock := plain.of_active active target
        (List.mem_append_right (block :: blocks) List.mem_cons_self)
      cases target with
      | indent column => cases fits
      | _ => cases isBlock

end Frame.Plain

namespace Reader

open StringText

variable {reader after : Reader} {kind : TokenKind} {next : Option Char} {span : Span}
  {c : Char} {rest : List Char} {kinds inserted : List TokenKind} {frames around : List Frame}
  {quote : QuoteForm} {opened : Nat} {outer : List Frame}

theorem Laid.plain (laid : reader.Laid kind next after) (plain : Frame.Plain reader.frames) :
    Frame.Plain after.frames := by
  cases laid with
  | settles separated split closed begins goesOn inserted left =>
      rw [split] at plain
      rw [left]
      exact plain.of_append
  | deepens level active opens inserted left =>
      rw [left]
      exact .blocks (List.forall_mem_cons.mpr ⟨rfl, plain.of_active active⟩)

theorem Emission.plain (emission : Emission kinds kind next frames inserted around)
    (plain : Frame.Plain frames) : Frame.Plain around := by
  cases emission with
  | settles separated noCloser closed begins goesOn => exact plain.of_append
  | deepens level noCloser active opens =>
      exact .blocks (List.forall_mem_cons.mpr ⟨rfl, plain.of_active active⟩)
  | closes same closed fits => exact plain.of_append.tail

/-- In front of a bracket that closes a group nothing is inserted. -/
theorem Emission.none_of_closer (emission : Emission kinds kind next frames inserted around)
    (plain : Frame.Plain frames) (isCloser : kind.isCloser = true) : inserted = [] := by
  cases emission with
  | settles separated noCloser closed begins goesOn =>
      rw [isCloser] at noCloser
      cases noCloser
  | deepens level noCloser active opens =>
      rw [isCloser] at noCloser
      cases noCloser
  | closes same closed fits =>
      rw [plain.closes_no_blocks closed fits]
      rfl

/-- A block begins with the token that it was opened for. -/
theorem emit_noEmptyBlock (plain : Frame.Plain reader.frames) (real : kind.isReal = true)
    (silent : (reader.emit kind span next).diagnostics = #[]) (more : List TokenKind) :
    (reader.emit kind span next).kinds ≠ reader.kinds ++ .indent :: .outdent :: more := by
  intro same
  have settled : ∀ (blocks : List Frame) (separated : Bool),
      outdents blocks ++ separator separated ++ [kind] ≠ .indent :: .outdent :: more := by
    intro blocks separated same
    cases blocks with
    | cons block blocks => cases same
    | nil => cases separated <;> cases same
  cases closing : ClosingBracket.ofKind? kind with
  | none =>
      rcases emit_of_noCloser reader closing span next with ⟨kinds, frames, diagnostics⟩
      have laid := applyLayout_laid (diagnostics.symm.trans silent)
      rw [kinds] at same
      cases laid with
      | settles separated split closed begins goesOn inserted left =>
          rw [inserted, List.append_assoc] at same
          exact settled _ _ (List.append_cancel_left same)
      | deepens level active opens inserted left =>
          rw [inserted, List.append_assoc] at same
          cases List.append_cancel_left same
          cases real
  | some closer =>
      cases kind_of_ofKind? closing
      rw [emit_of_closer] at silent same
      have laid := applyLayout_laid ((addCloser_grows _ _ _).silent silent)
      rcases addCloser_silent silent with ⟨blocks, target, around, closes⟩
      have plainThere := laid.plain plain
      rw [closes.split] at plainThere
      have noBlocks := plainThere.closes_no_blocks closes.closed closes.fits
      subst noBlocks
      have frames := closes.split
      rw [closes.kinds] at same
      cases laid with
      | settles separated split closed begins goesOn inserted left =>
          rw [inserted, List.append_assoc] at same
          exact settled _ _ (List.append_cancel_left same)
      | deepens level active opens inserted left =>
          rw [left] at frames
          have fits := closes.fits
          rw [show target = .indent level from (List.cons.inj frames).1.symm] at fits
          cases fits

/-! ## The run -/

/-- What holds of a silent reader between its steps where no curly bracket opens, but for those
of splices. -/
structure Unbraced (reader : Reader) : Prop where
  plain : Frame.Plain reader.frames
  apart : BlocksApart reader.kinds
  last : ∀ kind ∈ reader.kinds.getLast?, kind.isReal = true ∧ kind ≠ .punctuation .dollar

theorem start_unbraced (tabWidth : Nat) (source : List Char) :
    (start tabWidth source).Unbraced where
  plain := .blocks (List.forall_mem_nil _)
  apart := .nil
  last := nofun

namespace Unbraced

variable (unbraced : reader.Unbraced)

include unbraced

theorem noIndent : TokenKind.indent ∉ reader.kinds.getLast? := by
  intro ends
  cases (unbraced.last _ ends).1

/-- Some more tokens are found, of which the last is real. -/
theorem append {new : List TokenKind} {last : TokenKind} (plain : Frame.Plain after.frames)
    (kinds : after.kinds = reader.kinds ++ (new ++ [last])) (real : last.isReal = true)
    (noDollar : last ≠ .punctuation .dollar)
    (apart : BlocksApart (new ++ [last])) : after.Unbraced where
  plain := plain
  apart := by
    rw [kinds]
    exact unbraced.apart.append apart unbraced.noIndent
  last := by
    rw [kinds, ← List.append_assoc, List.getLast?_concat]
    intro kind same
    cases same
    exact ⟨real, noDollar⟩

variable [XidStart]

theorem step_trivia (code : Frame.inString reader.frames = false)
    (unread : reader.rest = c :: rest) {trivia : TriviaKind}
    (found : (reader.lexeme c rest).lexeme = .trivia trivia) : reader.step.Unbraced := by
  have waits := step_waits code unread found
  have kinds : reader.step.kinds = reader.kinds :=
    congrArg (fun tokens : Array Token => tokens.toList.map Token.kind) waits.tokens
  refine ⟨?_, ?_, ?_⟩
  · rw [waits.frames]
    exact unbraced.plain
  · rw [kinds]
    exact unbraced.apart
  · rw [kinds]
    exact unbraced.last

/-- In code no curly bracket opens. -/
theorem opens_no_curly {token : Token} {inserted : List Token}
    (takes : reader.Takes kind next inserted token around reader.step)
    (unread : reader.rest ≠ [])
    (only : OnlySplices (reader.run.finish.tokens.map Token.kind)) : kind.opensCurly = false := by
  apply Bool.eq_false_iff.mpr
  intro opens
  have whole : reader.run.finish.tokens.map Token.kind =
      (reader.kinds ++ inserted.map Token.kind) ++ kind :: reader.step.ahead.map Token.kind := by
    rw [run_of_unread unread, kinds_append_ahead, kinds_of_tokens takes.tokens, List.map_append,
      List.map_singleton, takes.kind, List.append_assoc, List.append_assoc, List.append_assoc]
    rfl
  rw [whole] at only
  have dollar := only.dollar opens
  rw [List.getLast?_append, Option.or_eq_some_iff] at dollar
  rcases dollar with last | ⟨_, last⟩
  · have layout := takes.emission.isLayout _ (List.mem_of_getLast? last)
    cases layout
  · exact (unbraced.last _ last).2 rfl

theorem step_token (silent : reader.Silent) (code : Frame.inString reader.frames = false)
    (unread : reader.rest = c :: rest) (found : (reader.lexeme c rest).lexeme.kind? = some kind)
    (only : OnlySplices (reader.run.finish.tokens.map Token.kind)) : reader.step.Unbraced := by
  have unreadStill : reader.rest ≠ [] := by
    rw [unread]
    exact List.cons_ne_nil _ _
  have real := isReal_of_lexeme found
  have noBlock : ∀ more, reader.step.kinds ≠ reader.kinds ++ .indent :: .outdent :: more := by
    rcases exists_emit_of_step code unread found with ⟨span, next, kinds, diagnostics⟩
    rw [kinds]
    exact emit_noEmptyBlock unbraced.plain real
      (diagnostics.symm.trans (silent.step unreadStill).diagnostics)
  rcases step_takes_of_noBlock silent code unread found noBlock with
    ⟨inserted, token, around, takes, _⟩
  have kinds : reader.step.kinds = reader.kinds ++ (inserted.map Token.kind ++ [kind]) := by
    rw [kinds_of_tokens takes.tokens, List.map_append, List.map_singleton, takes.kind]
  refine unbraced.append ?_ kinds real (Lexeme.ne_dollar_of_scan found) ?_
  · have plain := takes.emission.plain unbraced.plain
    have noCurly := unbraced.opens_no_curly takes unreadStill only
    rw [takes.frames]
    cases kind with
    | stringStart quote => exact .cons plain rfl
    | punctuation mark =>
        unfold Frame.opening? at *
        unfold TokenKind.opensCurly at noCurly
        dsimp only at noCurly ⊢
        cases opens : Bracket.ofKind? (.punctuation mark) with
        | none => exact plain
        | some bracket =>
            rw [opens] at noCurly
            cases bracket with
            | round => exact .cons plain rfl
            | square => exact .cons plain rfl
            | curly => cases noCurly
            | hashCurly => cases noCurly
    | _ => exact plain
  · have emission := takes.emission
    generalize inserted.map Token.kind = marks, reader.frames = frames at emission
    have noReal : TokenKind.indent ≠ kind := by
      rintro rfl
      cases real
    cases emission with
    | settles separated noCloser closed begins goesOn =>
        apply BlocksApart.of_noIndent
        intro member
        rcases List.mem_append.mp member with inserted | last
        · rcases List.mem_append.mp inserted with outdent | separates
          · cases List.eq_of_mem_replicate outdent
          · cases separated with
            | false => cases separates
            | true => cases List.mem_singleton.mp separates
        · exact noReal (List.mem_singleton.mp last)
    | deepens level noCloser active opens =>
        apply List.isChain_pair.mpr
        intro _ isOutdent
        rw [isOutdent] at real
        cases real
    | closes same closed fits =>
        apply BlocksApart.of_noIndent
        intro member
        rcases List.mem_append.mp member with outdent | last
        · cases List.eq_of_mem_replicate outdent
        · exact noReal (List.mem_singleton.mp last)

theorem step_piece (silent : reader.Silent)
    (inString : reader.frames = .string quote opened :: outer) : reader.step.Unbraced := by
  rcases takesPiece_of_silent silent inString with ⟨unread, whole, new, takes⟩
  generalize scanPiece quote reader.rest = piece at takes whole
  rcases StringText.Piece.kinds_eq_append whole quote reader.rest with
    ⟨front, last, split, noDollar⟩
  have real := piece.isReal_of_mem quote reader.rest
  have kinds : reader.step.kinds = reader.kinds ++ (front ++ [last]) := by
    rw [kinds_of_tokens takes.tokens, takes.kinds, split]
  rw [split] at real
  refine unbraced.append ?_ kinds
    (real last (List.mem_append_right _ List.mem_cons_self)).1 noDollar ?_
  · have plain := unbraced.plain
    rw [inString] at plain
    rw [takes.frames]
    cases piece with
    | closing => exact plain.tail
    | spliceOpening => exact .cons plain rfl
    | _ => exact plain
  · exact .of_noIndent fun member => by cases (real _ member).1

theorem step (silent : reader.Silent) (unread : reader.rest ≠ [])
    (only : OnlySplices (reader.run.finish.tokens.map Token.kind)) : reader.step.Unbraced := by
  cases code : Frame.inString reader.frames with
  | true =>
      rcases Frame.exists_of_inString code with ⟨quote, opened, outer, inString⟩
      exact unbraced.step_piece silent inString
  | false =>
      rcases List.exists_cons_of_ne_nil unread with ⟨c, rest, same⟩
      rcases lexeme_cases silent code same with ⟨trivia, found⟩ | ⟨kind, found⟩
      · exact unbraced.step_trivia code same found
      · exact unbraced.step_token silent code same found only

/-- By induction on the run, every state of which is as silent as its end. -/
theorem finish (silent : reader.Silent)
    (only : OnlySplices (reader.run.finish.tokens.map Token.kind)) :
    NoEmptyBlock (reader.run.finish.tokens.map Token.kind) := by
  fun_induction Reader.run reader with
  | case1 reader atEnd =>
      have kinds := (finish_of_mayEnd (silent.mayEnd (List.isEmpty_iff.mp atEnd))).1
      rw [kinds]
      refine (unbraced.apart.append (.of_noIndent fun member => ?_) unbraced.noIndent).noEmptyBlock
      rcases List.mem_append.mp member with outdent | ending
      · cases List.eq_of_mem_replicate outdent
      · cases List.mem_singleton.mp ending
  | case2 reader more inductionHypothesis =>
      rw [List.isEmpty_iff] at more
      exact inductionHypothesis (unbraced.step silent more (by rw [run_of_unread more]; exact only))
        (silent.step more) only

end Unbraced

end Reader

/-! ## Enclosures -/

/-- What stands around a piece are blocks and the groups of other brackets. -/
theorem Arrangement.Behind.noCurly {kinds : List TokenKind} {arrangement : Arrangement}
    (behind : Behind kinds arrangement) (only : OnlySplices kinds) (multiline : Bool) :
    Enclosure.curly multiline ∉ arrangement.enclosures := by
  induction behind with
  | start => exact List.not_mem_nil
  | @pass kinds arrangement kind behind noReal inductionHypothesis =>
      have before := inductionHypothesis only.of_append
      cases kind with
      | indent =>
          intro member
          rcases List.mem_cons.mp member with same | outer
          · cases same
          · exact before outer
      | outdent =>
          rcases arrangement with ⟨enclosures, level, broken, previous⟩
          cases enclosures with
          | nil => exact before
          | cons enclosure enclosures =>
              cases enclosure with
              | indented => exact fun member => before (List.mem_cons_of_mem _ member)
              | _ => exact before
      | _ => exact before
  | @place kinds arrangement kind behind real newlineBehind inductionHypothesis =>
      have before := inductionHypothesis only.of_append
      have outside : Enclosure.curly multiline ∉ (arrangement.inside kind).enclosures := by
        unfold inside
        split
        · exact fun member => before (List.mem_of_mem_tail member)
        · exact before
      have grouped : Enclosure.curly multiline ∉
          Enclosure.group :: (arrangement.inside kind).enclosures := by
        intro member
        rcases List.mem_cons.mp member with same | outer
        · cases same
        · exact outside outer
      have splice : ∀ bracket : Bracket, Bracket.ofKind? kind = some bracket →
          bracket.closer = .curly →
          ((arrangement.inside kind).previous == some (.punctuation .dollar)) = true := by
        intro bracket opens isCurly
        have dollar := @OnlySplices.dollar _ _ kind only (by
          unfold TokenKind.opensCurly
          rw [opens]
          exact beq_iff_eq.mpr isCurly)
        rw [inside_previous, behind.previous dollar rfl]
        rfl
      unfold Arrangement.behind Arrangement.enter
      cases opens : Bracket.ofKind? kind with
      | none => exact outside
      | some bracket =>
          have splice := splice bracket opens
          cases bracket with
          | round => exact grouped
          | square => exact grouped
          | curly =>
              dsimp only
              rw [if_pos (splice rfl)]
              exact grouped
          | hashCurly =>
              dsimp only
              rw [if_pos (splice rfl)]
              exact grouped

theorem Arrangement.inMultiline_of_noCurly {arrangement : Arrangement}
    (noCurly : ∀ multiline, Enclosure.curly multiline ∉ arrangement.enclosures) :
    arrangement.inMultiline = false := by
  apply Bool.eq_false_iff.mpr
  intro several
  exact noCurly true (List.mem_of_head? (beq_iff_eq.mp several))

/-- Where no group is enclosed by curly brackets, no curly bracket is open. -/
theorem Mirrors.plain {width level : Nat} {frames others : List Frame}
    {enclosures : List Enclosure} (mirrors : Mirrors width frames others enclosures level)
    (noCurly : ∀ multiline, Enclosure.curly multiline ∉ enclosures) : Frame.Plain frames := by
  induction mirrors with
  | nil => exact .blocks (List.forall_mem_nil _)
  | indent column active mirrors inductionHypothesis =>
      have plain := inductionHypothesis fun multiline member =>
        noCurly multiline (List.mem_cons_of_mem _ member)
      exact .blocks (List.forall_mem_cons.mpr ⟨rfl, plain.of_active active⟩)
  | curly multiline opened openedThere isCurly mirrors inductionHypothesis =>
      exact absurd List.mem_cons_self (noCurly multiline)
  | @group _ _ _ _ bracket opened openedThere other mirrors inductionHypothesis =>
      have plain := inductionHypothesis fun multiline member =>
        noCurly multiline (List.mem_cons_of_mem _ member)
      cases bracket with
      | round => exact .cons plain rfl
      | square => exact .cons plain rfl
      | curly => exact absurd rfl other
      | hashCurly => exact absurd rfl other
  | splice opened openedThere mirrors inductionHypothesis =>
      exact .cons (inductionHypothesis fun multiline member =>
        noCurly multiline (List.mem_cons_of_mem _ member)) rfl
  | string quote opened openedThere mirrors inductionHypothesis =>
      exact .cons (inductionHypothesis noCurly) rfl

/-! ## Tokens that can be read again -/

def TriviaKind.isComment : TriviaKind → Bool
  | lineComment | blockComment => true
  | whitespace | newline => false

/-- No comment stands in front of any of some tokens. -/
def NoComments (tokens : List Token) : Prop :=
  ∀ token ∈ tokens, ∀ trivia ∈ token.leading, trivia.kind.isComment = false

instance (tokens : List Token) : Decidable (NoComments tokens) :=
  inferInstanceAs (Decidable (∀ token ∈ tokens, _))

/-- Trivia that begins with no blank is a comment. -/
theorem Lexeme.isComment_of_solid [XidStart] {operandBefore : Bool} {c : Char} {rest : List Char}
    {kind : TriviaKind} (found : (scan operandBefore c rest).lexeme = .trivia kind)
    (solid : isBlank c = false) : kind.isComment = true := by
  have comment : startsComment (c :: rest) = true := by
    rcases blank_or_comment found with blank | comment
    · rw [solid] at blank
      cases blank
    · exact comment
  have slash : c = '/' := by
    rw [startsComment_cons, Bool.and_eq_true, beq_iff_eq] at comment
    exact comment.1
  subst slash
  rw [scan_comment _ comment] at found
  split at found
  · cases found
    rfl
  · unfold blockComment at found
    split at found <;> cases found
    rfl

namespace Reader

variable {reader : Reader} {kind : TokenKind} {next : Option Char} {span : Span} {c : Char}
  {rest : List Char}

/-- Behind other tokens of its line nothing is inserted in front of a token. -/
theorem emit_kinds_inLine (inLine : reader.atLineStart = false)
    (noCloser : ClosingBracket.ofKind? kind = none) :
    (reader.emit kind span next).kinds = reader.kinds ++ [kind] := by
  rw [(emit_of_noCloser reader noCloser span next).1, (applyLayout_inLine inLine kind next).kinds,
    List.append_nil]

theorem step_atLineStart [XidStart] (code : Frame.inString reader.frames = false)
    (unread : reader.rest = c :: rest)
    (found : (reader.lexeme c rest).lexeme.kind? = some kind) :
    reader.step.atLineStart = false := by
  have opened : ∀ (after : Reader) (offset : Nat),
      (after.openString kind offset).atLineStart = after.atLineStart := by
    intro after offset
    cases kind <;> rfl
  rw [step_eq_emit code unread found rfl rfl]
  exact (opened _ _).trans (congrArg Stance.atLineStart (emit_stance _ _ _ _))

/-- In a line without comments the next token stands right behind the last one, unless a blank
does. -/
theorem joined_ahead [XidStart] (readable : reader.Readable)
    (code : Frame.inString reader.frames = false)
    (plain : Frame.Plain reader.frames) (inLine : reader.atLineStart = false)
    (noTrivia : reader.trivia = #[]) (noComments : NoComments reader.ahead)
    (solid : reader.rest.head?.any (fun c => !isBlank c) = true) :
    ∀ first ∈ reader.ahead.head?, first.leading = [] ∧ first.kind.isReal = true := by
  cases same : reader.rest with
  | nil =>
      rw [same] at solid
      cases solid
  | cons c rest =>
      have unread : reader.rest ≠ [] := by
        rw [same]
        exact List.cons_ne_nil _ _
      rw [same] at solid
      have noBlank : isBlank c = false := by simpa using solid
      rcases lexeme_cases readable.silent code same with ⟨trivia, found⟩ | ⟨kind, found⟩
      · exfalso
        have waiting := step_waits code same found
        rcases waiting.waits with ⟨span, pushed⟩
        rcases trivia_ahead (readable.step unread) (by rw [waiting.frames]; exact code) with
          ⟨token, member, leading⟩
        have ahead := @ahead_step reader [] _ unread (by rw [waiting.tokens, List.append_nil])
        rw [ahead] at noComments
        have comment := Lexeme.isComment_of_solid found noBlank
        rw [noComments token member ⟨trivia, span⟩
          (leading (by rw [pushed, Array.toList_push]; simp))] at comment
        cases comment
      · rcases step_takes readable code same found with ⟨inserted, token, around, takes, _⟩
        have none : inserted.map Token.kind = [] := by
          cases closing : ClosingBracket.ofKind? kind with
          | some closer =>
              exact takes.emission.none_of_closer plain (congrArg Option.isSome closing)
          | none =>
              rcases exists_emit_of_step code same found with ⟨span, next, kinds, _⟩
              rw [emit_kinds_inLine inLine closing, kinds_of_tokens takes.tokens, List.map_append,
                List.map_singleton, takes.kind] at kinds
              exact @List.append_cancel_right _ _ [kind] _ (List.append_cancel_left kinds)
        rw [ahead_step unread takes.tokens, List.map_eq_nil_iff.mp none]
        rintro first isFirst
        cases isFirst
        refine ⟨takes.leading.trans (leading_eq_nil noTrivia), ?_⟩
        rw [takes.kind]
        exact isReal_of_lexeme found

/-- Without comments and curly brackets every token can be read again. -/
theorem repeatable_of_onlySplices [XidStart] {width : Nat} {begins : Token → Bool}
    {tokens : List Token} (positive : 0 < width) (only : OnlySplices (tokens.map Token.kind))
    (noComments : NoComments tokens) : Repeatable width begins tokens := by
  intro arrangement reader other c rest kind inserted token around retraces readable same code
    unread found takes
  have unreadStill : reader.rest ≠ [] := by
    rw [unread]
    exact List.cons_ne_nil _ _
  have noCurly := retraces.behind.noCurly (by
    rw [← same, kinds_append_ahead] at only
    exact only.of_append)
  refine ⟨fun separated isPrefix behind behindStep first isFirst => ?_, fun _ several => ?_⟩
  · have mirrors := retraces.follows.frames
    have noString : ∀ quote, kind ≠ .stringStart quote := by
      rintro quote rfl
      cases isPrefix
    have noCloser : kind.isCloser = false := by
      cases kind <;> first | rfl | cases isPrefix
    have opens : Frame.opening? kind reader.offset = none := by
      cases kind <;> first | rfl | cases isPrefix
    have plain : Frame.Plain reader.step.frames := by
      rw [takes.frames, opens]
      exact takes.emission.plain (mirrors.plain noCurly)
    have starts : kind.canStartStatement reader.step.rest.head? = true := by
      have emission := takes.emission
      generalize inserted.map Token.kind = marks, reader.frames = frames at emission separated
      cases emission with
      | @settles blocks around isSeparated noCloser closed begins goesOn =>
          cases isSeparated with
          | true => exact (begins rfl).2.1
          | false =>
              rw [separator_false, List.append_nil] at separated
              cases List.eq_of_mem_replicate separated
      | deepens level noCloser active opens => cases List.mem_singleton.mp separated
      | closes same closed fits => cases List.eq_of_mem_replicate separated
    rw [TokenKind.canStartStatement_of_prefix isPrefix] at starts
    have whole := tokens_append_ahead reader.step
    rw [← run_of_unread unreadStill, same] at whole
    rw [whole] at only noComments
    have joined := joined_ahead (readable.step unreadStill)
      (takes.code positive mirrors code noCloser noString) plain
      (step_atLineStart code unread found) takes.trivia
      (fun token member => noComments token (List.mem_append_right _ member)) starts first isFirst
    rw [List.map_append] at only
    refine ⟨joined.1, ?_, ?_⟩
    · apply Bool.eq_false_iff.mpr
      intro layout
      rw [TokenKind.isReal_of_isLayout layout] at joined
      cases joined.2
    · rw [Arrangement.inMultiline_of_noCurly (behindStep.noCurly only.of_append), Bool.and_false]
  · rw [Arrangement.inMultiline_of_noCurly noCurly] at several
    cases several

end Reader

/-- A source without curly brackets, but for those of splices, is readable. -/
theorem readable_of_onlySplices [XidStart] {source : String} {tabWidth : Nat}
    (silent : (lex source tabWidth).diagnostics = [])
    (only : OnlySplices ((lex source tabWidth).tokens.map Token.kind)) :
    (Reader.start tabWidth source.toList).Readable :=
  ⟨silent, (Reader.start_unbraced tabWidth source.toList).finish silent only⟩

end Offside
