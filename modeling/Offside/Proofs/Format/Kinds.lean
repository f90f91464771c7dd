import Offside.Formatted
import Offside.Proofs.Format.Rereading
import Offside.Proofs.Format.Texts
import Offside.Proofs.Parsing.Reports
import Offside.Text.XidStart

namespace Offside

/-!
# Formatting keeps the tokens

A reader of a source and one of the formatted source take their steps together.  Trivia
is read in the source only, a token and a piece of a string in both, and what was found,
what is open and what is still to come correspond after every step.  So both find the
same tokens, the layout tokens among them.
-/

/-- What a token opens mirrors what it opens in the source. -/
theorem Follows.enter {reader other : Reader} {width offset offsetThere : Nat}
    {inside : Arrangement} {kind : TokenKind} {around stays : List Frame}
    (newlineBehind : Bool) (kinds : other.kinds = reader.kinds)
    (silent : other.diagnostics = #[]) (last : reader.kinds.getLast? = some kind)
    (noDollar : kind ≠ .punctuation .dollar)
    (mirrors : Mirrors width around stays inside.enclosures inside.level)
    (previous : inside.previous ≠ some (.punctuation .dollar))
    (frames : reader.frames = (Frame.opening? kind offset).toList ++ around)
    (framesThere : other.frames = (Frame.opening? kind offsetThere).toList ++ stays)
    (lineIndent : other.lineIndent ≤ inside.level * width) :
    Follows width reader other (inside.behind kind newlineBehind) := by
  have entered := @Mirrors.enter width _ _ { inside with broken := false } mirrors previous kind
    newlineBehind offset offsetThere
  refine ⟨kinds, silent, ?_, inside.behind_broken kind newlineBehind, last.symm, ?_, ?_⟩
  · rw [frames, framesThere]
    exact entered.1
  · intro dollar
    exact noDollar (Option.some.inj dollar)
  · exact Nat.le_trans lineIndent (Nat.mul_le_mul_right width entered.2)

/-! ## Pieces of strings -/

theorem Mirrors.of_string {width level opened : Nat} {quote : QuoteForm}
    {outer others : List Frame} {enclosures : List Enclosure}
    (mirrors : Mirrors width (.string quote opened :: outer) others enclosures level) :
    ∃ openedThere stays, others = .string quote openedThere :: stays ∧
      Mirrors width outer stays enclosures level := by
  cases mirrors with
  | string _ _ openedThere mirrors => exact ⟨openedThere, _, rfl, mirrors⟩

/-- What a piece of a string opens and closes mirrors what it does in the source. -/
theorem Mirrors.piece {width opened openedThere : Nat} {quote : QuoteForm}
    {outer stays : List Frame} {arrangement : Arrangement}
    (mirrors : Mirrors width outer stays arrangement.enclosures arrangement.level)
    (piece : StringText.Piece) (text : List Char) (offset offsetThere : Nat) :
    Mirrors width (piece.frames offset (.string quote opened) outer)
      (piece.frames offsetThere (.string quote openedThere) stays)
      ((piece.kinds quote text).foldl Arrangement.glue arrangement).enclosures
      ((piece.kinds quote text).foldl Arrangement.glue arrangement).level ∧
    ((piece.kinds quote text).foldl Arrangement.glue arrangement).level = arrangement.level := by
  cases piece with
  | closing => exact ⟨mirrors, rfl⟩
  | spliceOpening => exact ⟨.splice _ _ (.string _ _ _ mirrors), rfl⟩
  | name length => exact ⟨.string _ _ _ mirrors, rfl⟩
  | text length => exact ⟨.string _ _ _ mirrors, rfl⟩
  | cutOff length => exact ⟨.string _ _ _ mirrors, rfl⟩

/-- The only bracket that a piece of a string opens is that of a splice, which is no group of
its own for the layout. -/
theorem SpreadAlike.piece {arrangement : Arrangement} {spreads : List Bool} {new : List Token}
    {quote : QuoteForm} {text : List Char} (alike : SpreadAlike arrangement.enclosures spreads)
    (piece : StringText.Piece) (kinds : new.map Token.kind = piece.kinds quote text)
    (next : Token) :
    SpreadAlike ((piece.kinds quote text).foldl Arrangement.glue arrangement).enclosures
      (openSpreads spreads new next) := by
  have inert : ∀ token next, token.kind.isOpener = false → token.kind.isCloser = false →
      spreadsBehind spreads token next = spreads := fun _ _ => spreadsBehind_of_inert
  cases piece with
  | cutOff length =>
      rw [List.map_eq_nil_iff.mp kinds]
      exact alike
  | closing =>
      rcases List.map_eq_singleton_iff.mp kinds with ⟨mark, rfl, isMark⟩
      show SpreadAlike arrangement.enclosures (spreadsBehind spreads mark next)
      rw [inert mark next (by rw [isMark]; rfl) (by rw [isMark]; rfl)]
      exact alike
  | text length =>
      rcases List.map_eq_singleton_iff.mp kinds with ⟨middle, rfl, isMiddle⟩
      show SpreadAlike arrangement.enclosures (spreadsBehind spreads middle next)
      rw [inert middle next (by rw [isMiddle]; rfl) (by rw [isMiddle]; rfl)]
      exact alike
  | spliceOpening =>
      rcases List.map_eq_cons_iff.mp kinds with ⟨dollar, _, rfl, isDollar, behind⟩
      rcases List.map_eq_singleton_iff.mp behind with ⟨brace, rfl, isBrace⟩
      show SpreadAlike (.group :: arrangement.enclosures)
        (spreadsBehind (spreadsBehind spreads dollar brace) brace next)
      rw [inert dollar brace (by rw [isDollar]; rfl) (by rw [isDollar]; rfl)]
      unfold spreadsBehind
      rw [isBrace]
      exact .group _ alike
  | name length =>
      rcases List.map_eq_cons_iff.mp kinds with ⟨dollar, _, rfl, isDollar, behind⟩
      rcases List.map_eq_singleton_iff.mp behind with ⟨name, rfl, isName⟩
      show SpreadAlike arrangement.enclosures
        (spreadsBehind (spreadsBehind spreads dollar name) name next)
      rw [inert dollar name (by rw [isDollar]; rfl) (by rw [isDollar]; rfl),
        inert name next (by rw [isName]; rfl) (by rw [isName]; rfl)]
      exact alike

theorem StringText.Piece.isReal_of_mem (piece : StringText.Piece) (quote : QuoteForm)
    (text : List Char) :
    ∀ kind ∈ piece.kinds quote text, kind.isReal = true ∧ kind.isCloser = false := by
  cases piece with
  | closing => exact List.forall_mem_singleton.mpr ⟨rfl, rfl⟩
  | spliceOpening =>
      exact List.forall_mem_cons.mpr ⟨⟨rfl, rfl⟩, List.forall_mem_singleton.mpr ⟨rfl, rfl⟩⟩
  | name length =>
      exact List.forall_mem_cons.mpr ⟨⟨rfl, rfl⟩, List.forall_mem_singleton.mpr ⟨rfl, rfl⟩⟩
  | text length => exact List.forall_mem_singleton.mpr ⟨rfl, rfl⟩
  | cutOff length => exact List.forall_mem_nil _

/-- The splice mark is never the last token of a piece. -/
theorem StringText.Piece.kinds_eq_append {piece : StringText.Piece}
    (whole : ∀ length, piece ≠ .cutOff length) (quote : QuoteForm) (text : List Char) :
    ∃ front last, piece.kinds quote text = front ++ [last] ∧ last ≠ .punctuation .dollar := by
  cases piece with
  | closing => exact ⟨[], _, rfl, nofun⟩
  | spliceOpening => exact ⟨[_], _, rfl, nofun⟩
  | name length => exact ⟨[_], _, rfl, nofun⟩
  | text length => exact ⟨[], _, rfl, nofun⟩
  | cutOff length => exact absurd rfl (whole length)

/-- What may be open at the end of the source may be open there in the formatted source. -/
theorem Mirrors.ends {width level : Nat} {frames others : List Frame} {enclosures : List Enclosure}
    (mirrors : Mirrors width frames others enclosures level)
    (mayEnd : ∀ frame ∈ frames, frame.mayEnd = true) :
    (∀ frame ∈ others, frame.mayEnd = true) ∧
      others.countP Frame.isBlock = frames.countP Frame.isBlock := by
  induction mirrors with
  | nil => exact ⟨List.forall_mem_nil _, rfl⟩
  | indent column active mirrors inductionHypothesis =>
      have inner := inductionHypothesis (List.forall_mem_cons.mp mayEnd).2
      refine ⟨List.forall_mem_cons.mpr ⟨rfl, inner.1⟩, ?_⟩
      rw [List.countP_cons_of_pos rfl, List.countP_cons_of_pos rfl, inner.2]
  | splice opened openedThere mirrors inductionHypothesis =>
      have inner := inductionHypothesis (List.forall_mem_cons.mp mayEnd).2
      refine ⟨List.forall_mem_cons.mpr ⟨rfl, inner.1⟩, ?_⟩
      rw [List.countP_cons_of_neg Bool.false_ne_true, List.countP_cons_of_neg Bool.false_ne_true,
        inner.2]
  | curly => cases (List.forall_mem_cons.mp mayEnd).1
  | group => cases (List.forall_mem_cons.mp mayEnd).1
  | string => cases (List.forall_mem_cons.mp mayEnd).1

namespace Reader

open StringText

variable {reader other ready : Reader} {width : Nat} {arrangement behind : Arrangement}
  {begins : Token → Bool} {kind : TokenKind} {c : Char} {rest : List Char}
  {quote : QuoteForm} {opened : Nat} {outer : List Frame}

/-- A reader of the formatted source retraces the reader of the source: it has found the
same, and stands in front of the pieces of the tokens that are still to come. -/
structure Retraces [XidStart] (width : Nat) (begins : Token → Bool) (arrangement : Arrangement)
    (reader other : Reader) : Prop where
  follows : Follows width reader other arrangement
  behind : Arrangement.Behind reader.kinds arrangement
  awaits : Awaits width (arrangement.pieces begins reader.ahead) reader other
  spreads : ∀ next ∈ reader.ahead.head?,
    SpreadAlike arrangement.enclosures (openSpreads [] reader.tokens.toList next)
  waits : Frame.inString reader.frames = true → reader.trivia = #[]
  fits : other.rest.length < Column.wordSize

/-- How a reader of the formatted source goes on while the reader of the source takes a step.
Where a token begins a line, the line is indented as its level says. -/
inductive Regains [XidStart] (width : Nat) (arrangement : Arrangement) (other : Reader) :
    Reader → Prop
  | stays : Regains width arrangement other other
  | token {middle : Reader} {c : Char} {rest : List Char} {kind : TokenKind}
      {inserted : List TokenKind} (skips : other.Skips middle)
      (code : Frame.inString middle.frames = false) (unread : middle.rest = c :: rest)
      (found : (middle.lexeme c rest).lexeme.kind? = some kind)
      (kinds : middle.step.kinds = middle.kinds ++ (inserted ++ [kind]))
      (column : middle.atLineStart = true →
        middle.column = ((arrangement.through inserted).inside kind).level * width) :
      Regains width arrangement other middle.step
  | piece (inString : Frame.inString other.frames = true) (unread : other.rest ≠ []) :
      Regains width arrangement other other.step

theorem Regains.run [XidStart] (regains : other.Regains width arrangement ready) :
    other.run = ready.run := by
  cases regains with
  | stays => rfl
  | token skips code unread =>
      exact skips.run.trans (run_of_unread (by rw [unread]; exact List.cons_ne_nil _ _))
  | piece inString unread => exact run_of_unread unread

/-- Trivia of the source is passed over. -/
theorem Retraces.step_trivia [XidStart] (retraces : Retraces width begins arrangement reader other)
    (code : Frame.inString reader.frames = false) (unread : reader.rest = c :: rest)
    {trivia : TriviaKind} (found : (reader.lexeme c rest).lexeme = .trivia trivia) :
    Retraces width begins arrangement reader.step other := by
  have waiting := step_waits code unread found
  have kinds : reader.step.kinds = reader.kinds :=
    congrArg (fun tokens : Array Token => tokens.toList.map Token.kind) waiting.tokens
  have ahead := @ahead_step reader [] _ (by rw [unread]; exact List.cons_ne_nil _ _)
    (by rw [waiting.tokens, List.append_nil])
  rw [List.nil_append] at ahead
  have follows := retraces.follows
  refine ⟨⟨follows.kinds.trans kinds.symm, follows.silent, ?_, follows.settled, ?_,
    follows.noDollar, follows.lineIndent⟩, ?_, ?_, ?_, fun inString => ?_, retraces.fits⟩
  · rw [waiting.frames]
    exact follows.frames
  · rw [kinds]
    exact follows.previous
  · rw [kinds]
    exact retraces.behind
  · rw [← ahead]
    cases retraces.awaits with
    | inLine inLine some shows =>
        refine .inLine inLine ?_ shows
        rw [kinds]
        exact some
    | start begins column none noFrames shows =>
        refine .start begins column (kinds.trans none) (waiting.frames.trans noFrames) shows
  · rw [← ahead, waiting.tokens]
    exact retraces.spreads
  · rw [waiting.frames, code] at inString
    cases inString

theorem openString_becomes {middle : Reader} {offset indentation : Nat} {stays : List Frame}
    {inserted : List TokenKind}
    (became : ready.Becomes inserted
      (((Bracket.ofKind? kind).map (Frame.group · offset)).toList ++ stays) indentation middle)
    (text beyond : List Char) :
    ready.Becomes inserted ((Frame.opening? kind offset).toList ++ stays) indentation
      ((middle.openString kind offset).advance text beyond) := by
  cases kind with
  | stringStart quote => exact (became.openFrame (.string quote offset)).advance text beyond
  | _ => exact became.advance text beyond

variable [XidStart]

/-- Behind a token both readers have the same brackets open, and the same of them have a line
break behind them. -/
theorem Retraces.spreads_token {next : Option Char} {inserted : List Token} {token : Token}
    {around : List Frame} (positive : 0 < width)
    (retraces : Retraces width begins arrangement reader other) (unread : reader.rest ≠ [])
    (takes : reader.Takes kind next inserted token around reader.step) :
    ∀ follower ∈ reader.step.ahead.head?,
      SpreadAlike (((arrangement.through (inserted.map Token.kind)).inside kind).behind kind
          (reader.step.ahead.head?.any Token.hasNewlineBefore)).enclosures
        (openSpreads [] reader.step.tokens.toList follower) := by
  intro follower isFollower
  have first : inserted.headD token ∈ reader.ahead.head? := by
    rw [ahead_step unread takes.tokens]
    cases inserted <;> rfl
  have isFirst : (inserted ++ [token]).headD follower = inserted.headD token := by
    cases inserted <;> rfl
  have layout : ∀ token ∈ inserted, token.kind.isLayout = true := fun token member =>
    takes.emission.isLayout _ (List.mem_map_of_mem member)
  rw [takes.tokens, openSpreads_append, isFirst, openSpreads_append,
    openSpreads_of_isLayout layout, Option.mem_def.mp isFollower]
  exact (retraces.spreads _ first).place positive retraces.follows.frames takes.emission takes.kind

/-- A reader of the formatted source that stands as it should in front of a token of the source
finds the token again, behind the same layout tokens. -/
theorem Takes.again {inserted : List Token} {token : Token} {around : List Frame}
    {beyond : List Char} {inside : Arrangement} {newlineBehind : Bool} (positive : 0 < width)
    (readable : reader.Readable) (code : Frame.inString reader.frames = false)
    (unread : reader.rest = c :: rest)
    (found : (reader.lexeme c rest).lexeme.kind? = some kind)
    (takes : reader.Takes kind reader.step.rest.head? inserted token around reader.step)
    (left : reader.step.rest = rest.drop (reader.lexeme c rest).more)
    (follows : Follows width reader ready arrangement)
    (stands : Offside.Stands width ready arrangement (inserted.map Token.kind) kind)
    (isInside : (arrangement.through (inserted.map Token.kind)).inside kind = inside)
    (joined : .autoSemicolon ∈ inserted.map Token.kind → kind.isPrefixOperator = true →
      ∀ first ∈ reader.step.ahead.head?, (inside.behind kind newlineBehind).Joins first)
    (restThere : ready.rest = kind.text.toList ++ beyond)
    (shows : Piece.Shows width ((inside.behind kind newlineBehind).pieces begins
      reader.step.ahead) beyond) :
    ∃ d front stays indentation, ready.rest = d :: (front ++ beyond) ∧
      (ready.lexeme d (front ++ beyond)).lexeme.kind? = some kind ∧
      ready.step.rest = beyond ∧
      ready.Becomes (inserted.map Token.kind ++ [kind])
        ((Frame.opening? kind ready.offset).toList ++ stays) indentation ready.step ∧
      Mirrors width around stays inside.enclosures inside.level ∧
      indentation ≤ inside.level * width := by
  have settled := inside.behind_broken kind newlineBehind
  have stepReadable := readable.step (by rw [unread]; exact List.cons_ne_nil _ _)
  have codeBehind : kind.isPrefixOperator = true → Frame.inString reader.step.frames = false := by
    intro isPrefix
    refine takes.code positive follows.frames code ?_ ?_
    · cases kind <;> first | rfl | cases isPrefix
    · rintro quote rfl
      cases isPrefix
  rcases lexeme_again positive readable follows.frames code unread found takes left settled rfl
    shows with ⟨d, front, spelled, again, more⟩
  rw [← lexeme_of_kinds follows.kinds] at again more
  rcases emit_follows positive follows takes.emission stands
    (fun separated => starts_again stepReadable codeBehind settled (joined separated) shows)
    (goesOn_again stepReadable codeBehind rfl shows) (ready.spanOf (d :: front)) with
    ⟨stays, indentation, became, mirrors, lineIndent⟩
  rw [isInside] at mirrors lineIndent
  have whole : ready.rest = d :: (front ++ beyond) := by
    rw [restThere, spelled]
    rfl
  have step := step_eq_emit (follows.frames.inString.trans code) whole again
    (by rw [more, List.take_left]) (by rw [more, List.drop_left])
  refine ⟨d, front, stays, indentation, whole, again, ?_, ?_, mirrors, lineIndent⟩
  · rw [step]
    rfl
  · rw [step]
    exact openString_becomes became (d :: front) beyond

/-- A token is found by both readers, behind the same layout tokens. -/
theorem Retraces.step_token (positive : 0 < width)
    (retraces : Retraces width begins arrangement reader other) (readable : reader.Readable)
    (code : Frame.inString reader.frames = false) (unread : reader.rest = c :: rest)
    (found : (reader.lexeme c rest).lexeme.kind? = some kind)
    (repeats : ∀ inserted token around,
      reader.Takes kind reader.step.rest.head? inserted token around reader.step →
      reader.Repeats arrangement kind inserted) :
    ∃ behind ready, Retraces width begins behind reader.step ready ∧
      other.Regains width arrangement ready := by
  have unreadStill : reader.rest ≠ [] := by
    rw [unread]
    exact List.cons_ne_nil _ _
  have codeThere : Frame.inString other.frames = false :=
    retraces.follows.frames.inString.trans code
  rcases step_takes readable code unread found with ⟨inserted, token, around, takes, left⟩
  have repeats := repeats inserted token around takes
  have spreads := retraces.spreads_token positive unreadStill takes
  have awaits := retraces.awaits
  rw [takes.pieces unreadStill (isReal_of_lexeme found)] at awaits
  generalize reader.step.ahead.head?.any Token.hasNewlineBefore = newlineBehind at awaits spreads
  have text : ((arrangement.through (inserted.map Token.kind)).place token (begins token)
      newlineBehind).1.text = kind.text := congrArg TokenKind.text takes.kind
  rcases awaits.skips codeThere
      (fun beyond => by rw [text]; exact headIs_of_headIs_not (solid_text found beyond))
      retraces.fits with
    ⟨ready, beyond, skips, restThere, shorter, reaches, breaks, shows⟩
  rw [text] at restThere
  have follows := retraces.follows.of_skips skips
  have stands := stands_of_reaches follows code takes repeats.noEmptyCase reaches breaks
  have kinds : reader.step.kinds = reader.kinds ++ (inserted.map Token.kind ++ [kind]) := by
    rw [kinds_of_tokens takes.tokens, List.map_append, List.map_singleton, takes.kind]
  have behind : Arrangement.Behind reader.step.kinds
      (((arrangement.through (inserted.map Token.kind)).inside kind).behind kind
        newlineBehind) := by
    rw [kinds, ← List.append_assoc]
    exact (retraces.behind.through takes.emission.isLayout).place (isReal_of_lexeme found)
      newlineBehind
  rw [Arrangement.place_snd, takes.kind] at shows
  rcases takes.again positive readable code unread found left follows stands rfl
      (fun separated isPrefix => repeats.joined separated isPrefix _ behind) restThere shows with
    ⟨d, front, stays, indentation, whole, again, restBehind, became, mirrors, lineIndent⟩
  have last : reader.step.kinds.getLast? = some kind := by
    rw [kinds, ← List.append_assoc, List.getLast?_concat]
  have sameKinds : ready.step.kinds = reader.step.kinds := by
    rw [became.kinds, follows.kinds, kinds]
  have noDollar : ((arrangement.through (inserted.map Token.kind)).inside kind).previous ≠
      some (.punctuation .dollar) := by
    rw [Arrangement.inside_previous, Arrangement.through_previous]
    exact follows.noDollar
  have column : ready.atLineStart = true →
      ready.column =
        ((arrangement.through (inserted.map Token.kind)).inside kind).level * width := by
    intro begin
    cases stands with
    | inLine inLine none noMultiline =>
        rw [inLine] at begin
        cases begin
    | begins begin column quiet => exact column
  refine ⟨_, ready.step, ⟨?_, behind, ?_, spreads, fun _ => takes.trivia, ?_⟩,
    .token skips (by rw [skips.frames]; exact codeThere) whole again became.kinds column⟩
  · exact .enter newlineBehind sameKinds (became.diagnostics.trans follows.silent) last
      (Lexeme.ne_dollar_of_scan found) mirrors noDollar takes.frames became.frames
      (by rw [became.lineIndent]; exact lineIndent)
  · refine .inLine became.atLineStart (fun none => ?_) (by rw [restBehind]; exact shows)
    rw [none] at last
    cases last
  · have long : beyond.length ≤ ready.rest.length := by
      rw [restThere, List.length_append]
      exact Nat.le_add_left _ _
    have fits := retraces.fits
    rw [restBehind]
    omega

/-- Behind a piece of a string the same brackets are open as behind a token. -/
theorem Retraces.spreads_piece {piece : StringText.Piece} {new : List Token}
    (retraces : Retraces width begins arrangement reader other) (unread : reader.rest ≠ [])
    (takes : reader.TakesPiece quote opened outer piece new reader.step) :
    ∀ follower ∈ reader.step.ahead.head?,
      SpreadAlike ((piece.kinds quote reader.rest).foldl Arrangement.glue arrangement).enclosures
        (openSpreads [] reader.step.tokens.toList follower) := by
  intro follower isFollower
  have first : new.headD follower ∈ reader.ahead.head? := by
    rw [ahead_step unread takes.tokens]
    cases new with
    | nil => exact isFollower
    | cons token new => rfl
  rw [takes.tokens, openSpreads_append]
  exact (retraces.spreads _ first).piece piece takes.kinds follower

/-- A piece of a string is the same piece for both readers. -/
theorem Retraces.step_piece (retraces : Retraces width begins arrangement reader other)
    (readable : reader.Readable) (inString : reader.frames = .string quote opened :: outer) :
    ∃ behind ready, Retraces width begins behind reader.step ready ∧
      other.Regains width arrangement ready := by
  have isString : Frame.inString reader.frames = true := by
    rw [inString]
    rfl
  have follows := retraces.follows
  have noTrivia := retraces.waits isString
  rcases takesPiece_of_silent readable.silent inString with ⟨unread, whole, new, takes⟩
  generalize found : scanPiece quote reader.rest = piece at takes whole
  cases retraces.awaits with
  | start begins column none noFrames shows =>
      rw [noFrames] at isString
      cases isString
  | inLine inLine some shows =>
      rcases scanPiece_again readable inString noTrivia follows.settled found shows with
        ⟨again, kindsThere, showsBehind⟩
      have mirrors := follows.frames
      rw [inString] at mirrors
      rcases mirrors.of_string with ⟨openedThere, stays, inStringThere, mirrors⟩
      rcases step_takesPiece inStringThere shows.ne_nil again whole with ⟨newThere, takesThere⟩
      have kinds : reader.step.kinds = reader.kinds ++ piece.kinds quote reader.rest := by
        rw [kinds_of_tokens takes.tokens, takes.kinds]
      have sameKinds : other.step.kinds = reader.step.kinds := by
        rw [kinds_of_tokens takesThere.tokens, takesThere.kinds, kindsThere, follows.kinds, kinds]
      have mirrored := @Mirrors.piece width opened openedThere quote outer stays arrangement
        mirrors piece reader.rest reader.offset other.offset
      rcases StringText.Piece.kinds_eq_append whole quote reader.rest with
        ⟨front, last, ends, noDollar⟩
      have previous : ((piece.kinds quote reader.rest).foldl Arrangement.glue
          arrangement).previous = Option.some last := by
        rw [ends, List.foldl_append]
        rfl
      have isLast : reader.step.kinds.getLast? = Option.some last := by
        rw [kinds, ends, ← List.append_assoc, List.getLast?_concat]
      refine ⟨(piece.kinds quote reader.rest).foldl Arrangement.glue arrangement, other.step,
        ⟨⟨sameKinds, takesThere.diagnostics.trans follows.silent, ?_,
          (Arrangement.glue_broken _ _).trans follows.settled, previous.trans isLast.symm, ?_, ?_⟩,
          ?_, ?_, retraces.spreads_piece unread takes, fun _ => takes.trivia, ?_⟩,
        .piece (follows.frames.inString.trans isString) shows.ne_nil⟩
      · rw [takes.frames, takesThere.frames]
        exact mirrored.1
      · rw [previous]
        exact fun dollar => noDollar (Option.some.inj dollar)
      · rw [takesThere.lineIndent, mirrored.2]
        exact follows.lineIndent
      · rw [kinds]
        exact retraces.behind.glue follows.settled (piece.isReal_of_mem quote reader.rest)
      · refine .inLine (takesThere.atLineStart.trans inLine) (fun none => ?_) ?_
        · rw [none] at isLast
          cases isLast
        · rw [takesThere.rest]
          exact showsBehind
      · have fits := retraces.fits
        rw [takesThere.rest, List.length_drop]
        omega

/-- Where a reader that finds some tokens in the end is retraced, it finds each of them so that
it can be read again. -/
def Repeatable (width : Nat) (begins : Token → Bool) (tokens : List Token) : Prop :=
  ∀ arrangement reader other c rest kind inserted token around,
    Retraces width begins arrangement reader other → reader.Readable →
    reader.run.finish.tokens = tokens → Frame.inString reader.frames = false →
    reader.rest = c :: rest → (reader.lexeme c rest).lexeme.kind? = some kind →
    reader.Takes kind reader.step.rest.head? inserted token around reader.step →
    reader.Repeats arrangement kind inserted

/-- The readers take their steps together. -/
theorem Retraces.step (positive : 0 < width)
    (retraces : Retraces width begins arrangement reader other) (readable : reader.Readable)
    (repeatable : Repeatable width begins reader.run.finish.tokens) (unread : reader.rest ≠ []) :
    ∃ behind ready, Retraces width begins behind reader.step ready ∧
      other.Regains width arrangement ready := by
  rcases List.exists_cons_of_ne_nil unread with ⟨c, rest, same⟩
  cases code : Frame.inString reader.frames with
  | false =>
      rcases lexeme_cases readable.silent code same with ⟨trivia, found⟩ | ⟨kind, found⟩
      · exact ⟨arrangement, other, retraces.step_trivia code same found, .stays⟩
      · exact retraces.step_token positive readable code same found fun _ _ _ takes =>
          repeatable _ _ _ _ _ _ _ _ _ retraces readable rfl code same found takes
  | true =>
      rcases Frame.exists_of_inString code with ⟨quote, opened, outer, inString⟩
      exact retraces.step_piece readable inString

/-! ## The end of the source -/

/-- At the end of the source the formatted source is at its end, but for the line break
behind the last line. -/
theorem Retraces.ends (retraces : Retraces width begins arrangement reader other)
    (readable : reader.Readable) (read : reader.rest = []) :
    ∃ ended : Reader, other.Skips ended ∧ ended.rest = [] := by
  have code : Frame.inString reader.frames = false := by
    cases inString : Frame.inString reader.frames with
    | false => rfl
    | true => exact absurd read (readable.silent.unread inString)
  cases retraces.awaits with
  | inLine inLine some shows =>
      have left := shows_of_read readable.silent read shows
      have skips := skips_newline (retraces.follows.frames.inString.trans code) left
      exact ⟨other.step, skips.1, skips.2.1⟩
  | start begins column none noFrames shows =>
      rw [pieces_of_read readable.silent read] at shows
      generalize same : other.rest = rest at shows
      cases shows
      exact ⟨other, .refl other, same⟩

/-- A reader that retraces another one finds the same tokens and reports nothing. -/
theorem Retraces.finish_repeatable (positive : 0 < width)
    (retraces : Retraces width begins arrangement reader other) (readable : reader.Readable)
    (repeatable : Repeatable width begins reader.run.finish.tokens) :
    other.run.finish.diagnostics = [] ∧
      other.run.finish.tokens.map Token.kind = reader.run.finish.tokens.map Token.kind := by
  fun_induction run reader generalizing other arrangement with
  | case1 reader atEnd =>
      have read := List.isEmpty_iff.mp atEnd
      have mayEnd := readable.silent.mayEnd read
      rcases retraces.ends readable read with ⟨ended, skips, readThere⟩
      have follows := retraces.follows.of_skips skips
      have mirrored := follows.frames.ends mayEnd
      have finished := finish_of_mayEnd mayEnd
      have finishedThere := finish_of_mayEnd mirrored.1
      rw [skips.run, run_of_read readThere, finishedThere.1, finishedThere.2, finished.1,
        mirrored.2, follows.kinds, follows.silent]
      exact ⟨rfl, rfl⟩
  | case2 reader unread inductionHypothesis =>
      have unreadStill : reader.rest ≠ [] := fun read => unread (List.isEmpty_iff.mpr read)
      rcases retraces.step positive readable
          (by rw [run_of_unread unreadStill]; exact repeatable) unreadStill with
        ⟨behind, ready, retracesStill, regains⟩
      rw [regains.run]
      exact inductionHypothesis retracesStill (readable.step unreadStill) repeatable

theorem Retraces.finish (positive : 0 < width)
    (retraces : Retraces width begins arrangement reader other) (readable : reader.Readable)
    (reproducible : Reproducible reader.run.finish.tokens) :
    other.run.finish.diagnostics = [] ∧
      other.run.finish.tokens.map Token.kind = reader.run.finish.tokens.map Token.kind :=
  retraces.finish_repeatable positive readable
    fun _ _ _ _ _ _ _ _ _ retraced _ same _ unread _ takes => takes.repeats
      (by rw [unread]; exact List.cons_ne_nil _ _) (by rw [same]; exact reproducible)
      retraced.follows.previous retraced.spreads

/-- In front of both sources nothing was found. -/
theorem Retraces.start {source text : List Char} (tabWidth tabWidthThere : Nat)
    (begins : Token → Bool)
    (shows : Piece.Begins width
      (Arrangement.start.pieces begins (Reader.start tabWidth source).run.finish.tokens) text)
    (fits : text.length < Column.wordSize) :
    Retraces width begins .start (.start tabWidth source) (.start tabWidthThere text) where
  follows := ⟨rfl, rfl, .nil, rfl, rfl, nofun, Nat.zero_le _⟩
  behind := .start
  awaits := by
    have ahead := tokens_append_ahead (Reader.start tabWidth source)
    rw [ahead] at shows
    exact .start rfl rfl rfl rfl shows
  spreads := fun _ _ => .nil
  waits := fun _ => rfl
  fits := fits

end Reader

/-! ## Sources -/

/-- Which tokens of a source are taken for the beginning of a definition. -/
def FormatOptions.begins [XidStart] (options : FormatOptions) (source : String) (token : Token) :
    Bool :=
  options.blankLines && (parse source .default).root.laterStarts.contains token.span.start

theorem format_root [XidStart] (source : String) (options : FormatOptions) :
    (parse source .default).root.format options =
      (Page.ofPieces options.indentWidth (Arrangement.start.pieces (options.begins source)
        (lex source defaultTabWidth).tokens)).text := by
  unfold Node.format Node.pieces
  rw [tokens_parse]
  rfl

/-- What is printed shows the tokens of a source that has no faults. -/
theorem format_prints [XidStart] {source formatted : String} {options : FormatOptions}
    (formats : format source options = .ok formatted) :
    (parse source .default).hasErrors = false ∧
      formatted = (Page.ofPieces options.indentWidth (Arrangement.start.pieces
        (options.begins source) (lex source defaultTabWidth).tokens)).text := by
  unfold format at formats
  dsimp only at formats
  split at formats
  · cases formats
  · rename_i noErrors
    exact ⟨Bool.eq_false_iff.mpr noErrors,
      (Except.ok.inj formats).symm.trans (format_root source options)⟩

theorem format_begins [XidStart] {source formatted : String} {options : FormatOptions}
    (formats : format source options = .ok formatted) :
    (lex source defaultTabWidth).diagnostics = [] ∧
      ∃ begins : Token → Bool, formatted = (Page.ofPieces options.indentWidth
        (Arrangement.start.pieces begins (lex source defaultTabWidth).tokens)).text := by
  rcases format_prints formats with ⟨noErrors, printed⟩
  refine ⟨?_, _, printed⟩
  by_contra told
  rw [(hasErrors_parse source .default).mpr (.inl told)] at noErrors
  cases noErrors

/-- Formatting keeps the tokens: a formatted source has no lexical faults, and it has the
tokens of the source, with the same texts and behind the same layout tokens, whatever the
tab width.  The three forms are left out in which a layout token or a bracket loses its
place. -/
theorem lex_format [XidStart] {source formatted : String} {options : FormatOptions} (tabWidth : Nat)
    (formats : format source options = .ok formatted)
    (reproducible : Reproducible (lex source defaultTabWidth).tokens)
    (fits : formatted.length < Column.wordSize) :
    (lex formatted tabWidth).diagnostics = [] ∧
      (lex formatted tabWidth).tokens.map Token.kind =
        (lex source defaultTabWidth).tokens.map Token.kind := by
  rcases format_begins formats with ⟨silent, begins, printed⟩
  have readable : (Reader.start defaultTabWidth source.toList).Readable :=
    ⟨silent, reproducible.noEmptyBlocks⟩
  have empty : (Reader.start defaultTabWidth source.toList).Legible :=
    ⟨List.forall_mem_nil _, fun _ => nofun⟩
  have legible := empty.finish readable
  have shows := @Page.ofPieces_begins options.indentWidth
    (Arrangement.start.pieces begins (lex source defaultTabWidth).tokens)
    (Arrangement.text_ne_of_legible legible) (Arrangement.endsSolid_of_legible legible)
  rw [← printed] at shows
  have retraces := Reader.Retraces.start defaultTabWidth tabWidth begins shows
    (by rw [String.length_toList]; exact fits)
  exact retraces.finish options.indentWidth_pos readable reproducible

theorem ok_of_toOption {ε α : Type} {result : Except ε α} {value : α}
    (some : result.toOption = Option.some value) : result = .ok value := by
  cases result with
  | error fault => cases some
  | ok other => exact congrArg Except.ok (Option.some.inj some)

/-- A comment goes and two lines are joined, but the line behind them begins a statement. -/
theorem lex_format_joined_lines :
    format "def f() =\n  g(1, // one\n    2)\n  -x\n" .default =
      .ok "def f() =\n    g(1, 2)\n    -x\n" ∧
    Reproducible (lex "def f() =\n  g(1, // one\n    2)\n  -x\n" defaultTabWidth).tokens ∧
    (lex "def f() =\n    g(1, 2)\n    -x\n" 8).diagnostics = [] ∧
    (lex "def f() =\n    g(1, 2)\n    -x\n" 8).tokens.map Token.kind =
      (lex "def f() =\n  g(1, // one\n    2)\n  -x\n" defaultTabWidth).tokens.map Token.kind := by
  have formats : format "def f() =\n  g(1, // one\n    2)\n  -x\n" .default =
      .ok "def f() =\n    g(1, 2)\n    -x\n" := ok_of_toOption (by decide +kernel)
  have reproducible : Reproducible
      (lex "def f() =\n  g(1, // one\n    2)\n  -x\n" defaultTabWidth).tokens := by
    decide +kernel
  exact ⟨formats, reproducible, lex_format 8 formats reproducible (by decide +kernel)⟩

/-- An empty block in a match of one line is printed in its place. -/
example : Reproducible
    (lex "def f() = match x \x7b case 0 => \x7d\n" defaultTabWidth).tokens := by
  decide +kernel

end Offside
