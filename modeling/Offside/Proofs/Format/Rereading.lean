import Offside.Proofs.Format.Retrace

namespace Offside

/-!
# Reading the tokens again

Where a reader of the source finds a token, a reader of the formatted source finds the
same lexeme, and what decides about the layout tokens in front of it is the same as well.
-/

namespace Reader

open CharClass

variable {reader other after ready : Reader} {width level : Nat} {arrangement : Arrangement}
  {begins : Token → Bool} {kind : TokenKind} {next : Option Char} {inserted : List Token}
  {token : Token} {around others : List Frame} {enclosures : List Enclosure}
  {c : Char} {rest text beyond : List Char}

/-! ## What is left out comes nowhere -/

theorem Emission.exists_separator {kinds kindsInserted : List TokenKind} {frames : List Frame}
    (emission : Emission kinds kind next frames kindsInserted around)
    (separated : .autoSemicolon ∈ kindsInserted) :
    ∃ front, kindsInserted = front ++ [.autoSemicolon] := by
  have noOutdent : ∀ blocks, TokenKind.autoSemicolon ∉ outdents blocks := by
    intro blocks member
    cases List.eq_of_mem_replicate member
  cases emission with
  | @settles blocks around isSeparated noCloser closed begins goesOn =>
      cases isSeparated with
      | true => exact ⟨outdents blocks, rfl⟩
      | false =>
          rw [separator_false, List.append_nil] at separated
          exact absurd separated (noOutdent blocks)
  | deepens level noCloser active opens => cases List.mem_singleton.mp separated
  | closes same closed fits => exact absurd separated (noOutdent _)

theorem Takes.tokens_eq [XidStart]
    (takes : reader.Takes kind next inserted token around reader.step)
    (unread : reader.rest ≠ []) :
    reader.run.finish.tokens =
      reader.tokens.toList ++ (inserted ++ token :: reader.step.ahead) := by
  rw [run_of_unread unread, tokens_append_ahead, takes.tokens]
  simp only [List.append_assoc, List.cons_append, List.nil_append]

/-- Behind a prefix operator that begins a statement the next token is glued to it. -/
theorem Takes.glued [XidStart] (takes : reader.Takes kind next inserted token around reader.step)
    (unread : reader.rest ≠ []) (reproducible : Reproducible reader.run.finish.tokens)
    (separated : .autoSemicolon ∈ inserted.map Token.kind)
    (isPrefix : kind.isPrefixOperator = true) :
    ∀ first ∈ reader.step.ahead.head?, first.Glued := by
  intro first isFirst
  rcases takes.emission.exists_separator separated with ⟨_, kinds⟩
  rcases List.map_eq_append_iff.mp kinds with ⟨front, last, split, _, single⟩
  rcases List.map_eq_singleton_iff.mp single with ⟨semicolon, isLast, isSemicolon⟩
  rcases List.head?_eq_some_iff.mp isFirst with ⟨back, ahead⟩
  have whole := takes.tokens_eq unread
  rw [split, isLast, ahead] at whole
  have triple := @mem_zip_tails Token reader.run.finish.tokens (reader.tokens.toList ++ front)
    back semicolon token first (by
      rw [whole]
      simp only [List.append_assoc, List.cons_append, List.nil_append])
  refine reproducible.glued _ triple isSemicolon ?_
  show token.kind.isPrefixOperator = true
  rw [takes.kind]
  exact isPrefix

/-- Right behind a token that opens blocks no curly bracket closes a group whose contents begin
on a new line. -/
theorem Takes.noEmptyCase [XidStart]
    (takes : reader.Takes kind next inserted token around reader.step)
    (unread : reader.rest ≠ []) (reproducible : Reproducible reader.run.finish.tokens)
    (none : inserted = []) (opens : reader.kinds.getLast?.any TokenKind.opensBlock = true)
    (spread : (openSpreads [] reader.tokens.toList token).head? = some true) :
    kind ≠ .punctuation .rightBrace := by
  have whole := takes.tokens_eq unread
  rw [none, List.nil_append] at whole
  rw [← takes.kind]
  refine reproducible.noEmptyCase _ (mem_zip_inits whole) ?_ spread
  unfold Reader.kinds at opens
  rw [List.getLast?_map, Option.any_map] at opens
  exact opens

/-- What is left out, told of a token that a reader finds behind some layout tokens: behind a
prefix operator that begins a statement the next token is joined to it, and directly behind a
token that opens blocks no curly bracket closes a group over several lines. -/
structure Repeats [XidStart] (reader : Reader) (arrangement : Arrangement) (kind : TokenKind)
    (inserted : List Token) : Prop where
  joined : .autoSemicolon ∈ inserted.map Token.kind → kind.isPrefixOperator = true →
    ∀ behind, Arrangement.Behind reader.step.kinds behind →
      ∀ first ∈ reader.step.ahead.head?, behind.Joins first
  noEmptyCase : inserted = [] → arrangement.inMultiline = true →
    arrangement.afterOpener = true → kind ≠ .punctuation .rightBrace

theorem Takes.repeats [XidStart] (takes : reader.Takes kind next inserted token around reader.step)
    (unread : reader.rest ≠ []) (reproducible : Reproducible reader.run.finish.tokens)
    (previous : arrangement.previous = reader.kinds.getLast?)
    (spreads : ∀ first ∈ reader.ahead.head?,
      SpreadAlike arrangement.enclosures (openSpreads [] reader.tokens.toList first)) :
    reader.Repeats arrangement kind inserted where
  joined := fun separated isPrefix _ _ first isFirst =>
    Arrangement.joins_of_glued (takes.glued unread reproducible separated isPrefix first isFirst)
  noEmptyCase := by
    intro none several opens
    unfold Arrangement.afterOpener at opens
    rw [previous] at opens
    have isNext : reader.ahead.head? = some token := by
      rw [ahead_step unread takes.tokens, none]
      rfl
    exact takes.noEmptyCase unread reproducible none opens
      ((spreads token isNext).multiline several)

/-! ## The lexeme -/

theorem lexeme_of_kinds [XidStart] (kinds : other.kinds = reader.kinds) :
    other.lexeme = reader.lexeme := by
  have last : other.lastKind? = reader.lastKind? := by
    rw [lastKind?_eq, lastKind?_eq, kinds]
  funext c rest
  unfold lexeme
  rw [last]

theorem inString_opening (noString : ∀ quote, kind ≠ .stringStart quote)
    (code : Frame.inString around = false) (offset : Nat) :
    Frame.inString ((Frame.opening? kind offset).toList ++ around) = false := by
  have opening : Frame.opening? kind offset =
      (Bracket.ofKind? kind).map (Frame.group · offset) := by
    cases kind with
    | stringStart quote => exact absurd rfl (noString quote)
    | _ => rfl
  rw [opening]
  cases Bracket.ofKind? kind with
  | none => exact code
  | some bracket => rfl

/-- Only the marks of a string and a closing bracket lead into a string. -/
theorem Takes.code (takes : reader.Takes kind next inserted token around after)
    (positive : 0 < width)
    (mirrors : Mirrors width reader.frames others arrangement.enclosures arrangement.level)
    (code : Frame.inString reader.frames = false) (noCloser : kind.isCloser = false)
    (noString : ∀ quote, kind ≠ .stringStart quote) : Frame.inString after.frames = false := by
  rw [takes.frames]
  exact inString_opening noString (takes.emission.code positive mirrors code noCloser) _

/-- A reader of the formatted source stands at the lexeme that the source has there, given
what is shown behind it. -/
theorem lexeme_again [XidStart] {behind : Arrangement} (positive : 0 < width)
    (readable : reader.Readable)
    (mirrors : Mirrors width reader.frames others arrangement.enclosures arrangement.level)
    (code : Frame.inString reader.frames = false) (unread : reader.rest = c :: rest)
    (found : (reader.lexeme c rest).lexeme.kind? = some kind)
    (takes : reader.Takes kind next inserted token around reader.step)
    (left : reader.step.rest = rest.drop (reader.lexeme c rest).more)
    (settled : behind.broken = false) (previous : behind.previous.isSome = true)
    (shows : Piece.Shows width (behind.pieces begins reader.step.ahead) beyond) :
    ∃ d front, kind.text.toList = d :: front ∧
      (reader.lexeme d (front ++ beyond)).lexeme.kind? = some kind ∧
      (reader.lexeme d (front ++ beyond)).more = front.length := by
  have stepReadable := readable.step (by rw [unread]; exact List.cons_ne_nil _ _)
  cases closing : kind.isCloser with
  | true =>
      rcases kind_of_isCloser closing with ⟨closer, isMark⟩
      subst isMark
      have again : reader.lexeme closer.char ([] ++ beyond) =
          ⟨.token (.punctuation closer.mark), 0⟩ := Lexeme.scan_closer closer beyond
      refine ⟨closer.char, [], by cases closer <;> rfl, ?_, ?_⟩
      · rw [again]
        rfl
      · rw [again]
        rfl
  | false =>
      have fits := Lexeme.fits_scan (reader.lastKind?.any TokenKind.endsOperand) c rest
      unfold Lexeme.Found.Fits at fits
      cases isLexeme : (reader.lexeme c rest).lexeme with
      | trivia trivia =>
          rw [isLexeme] at found
          cases found
      | faulty fault =>
          rw [isLexeme] at found
          cases found
      | token kindThere =>
          rw [isLexeme] at found
          cases found
          rw [show (Lexeme.scan (reader.lastKind?.any TokenKind.endsOperand) c rest).lexeme =
            .token kind from isLexeme] at fits
          have noString : ∀ quote, kind ≠ .stringStart quote := by
            rintro quote rfl
            cases fits with
            | token lexical spells => cases lexical
          have codeBehind := takes.code positive mirrors code closing noString
          have further := noFurther_ahead stepReadable codeBehind previous shows
          rw [left] at further
          have whole : Lexeme.scan (reader.lastKind?.any TokenKind.endsOperand) c rest =
              ⟨.token kind, (reader.lexeme c rest).more⟩ := by
            rw [← isLexeme]
            rfl
          rcases Lexeme.scan_text whole further with ⟨d, front, spelled, again⟩
          have again : reader.lexeme d (front ++ beyond) = ⟨.token kind, front.length⟩ := again
          refine ⟨d, front, spelled, ?_, ?_⟩
          · rw [again]
            rfl
          · rw [again]
      | stringOpening quote =>
          rw [isLexeme] at found
          cases found
          have inString : reader.step.frames = .string quote reader.offset :: around :=
            takes.frames
          have sight := (sight_ahead stepReadable inString takes.trivia settled shows).2
          rcases Lexeme.scan_opening isLexeme with ⟨splices, again⟩
          rw [left] at sight
          rcases again beyond (sight.trans splices) with ⟨front, spelled, again⟩
          have again : reader.lexeme '"' (front ++ beyond) =
              ⟨.stringOpening quote, front.length⟩ := again
          refine ⟨'"', front, spelled, ?_, ?_⟩
          · rw [again]
            rfl
          · rw [again]

/-! ## What decides about separators -/

/-- A token that could not start a statement in the source cannot do so in the formatted
source. -/
theorem goesOn_again [XidStart] (readable : reader.Readable)
    (code : kind.isPrefixOperator = true → Frame.inString reader.frames = false)
    (previous : arrangement.previous.isSome = true)
    (shows : Piece.Shows width (arrangement.pieces begins reader.ahead) text)
    (goesOn : kind.canStartStatement reader.rest.head? = false) :
    kind.canStartStatement text.head? = false := by
  cases isPrefix : kind.isPrefixOperator with
  | false => exact (TokenKind.canStartStatement_of_not_prefix isPrefix).trans goesOn
  | true =>
      rw [TokenKind.canStartStatement_of_prefix isPrefix] at goesOn ⊢
      cases resembles_ahead readable (code isPrefix) previous shows with
      | blank blank =>
          cases text with
          | nil => rfl
          | cons d text =>
              have headBlank : isBlank d = true := blank
              show (!isBlank d) = false
              rw [headBlank]
              rfl
      | same split splitThere letter solid noComment =>
          rw [split] at goesOn
          have blank : (!isBlank _) = false := goesOn
          rw [solid] at blank
          cases blank

/-- A token that could start a statement in the source can do so in the formatted source,
as long as what is joined to it stays so. -/
theorem starts_again [XidStart] (readable : reader.Readable)
    (code : kind.isPrefixOperator = true → Frame.inString reader.frames = false)
    (settled : arrangement.broken = false)
    (joined : kind.isPrefixOperator = true →
      ∀ first ∈ reader.ahead.head?, arrangement.Joins first)
    (shows : Piece.Shows width (arrangement.pieces begins reader.ahead) text)
    (starts : kind.canStartStatement reader.rest.head? = true) :
    kind.canStartStatement text.head? = true := by
  cases isPrefix : kind.isPrefixOperator with
  | false => exact (TokenKind.canStartStatement_of_not_prefix isPrefix).trans starts
  | true =>
      rw [TokenKind.canStartStatement_of_prefix isPrefix] at starts ⊢
      exact solid_ahead readable (code isPrefix) settled starts (joined isPrefix) shows

end Reader
end Offside
