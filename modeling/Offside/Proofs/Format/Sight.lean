import Offside.Proofs.Format.Mirror
import Offside.Proofs.Format.Page
import Offside.Proofs.Lexing.Boundary

namespace Offside

/-!
# What is in sight of a token

Whether a token is read again depends on what comes to stand behind it.  Where the
formatted source leaves no gap, the source has none either, so the next piece begins with
the character that stands behind the token in the source.  Where there is a gap, nothing
can be added to the token.
-/

/-- A token that is glued to the one before, with no layout in between. -/
structure Token.Glued (token : Token) : Prop where
  leading : token.leading = []
  noLayout : token.kind.isLayout = false
  noCloser : token.kind.isCloser = false

instance (token : Token) : Decidable token.Glued :=
  decidable_of_iff
    (token.leading = [] ∧ token.kind.isLayout = false ∧ token.kind.isCloser = false)
    ⟨fun glued => ⟨glued.1, glued.2.1, glued.2.2⟩,
      fun glued => ⟨glued.leading, glued.noLayout, glued.noCloser⟩⟩

namespace Arrangement

variable {arrangement : Arrangement} {token : Token} {beginsDefinition closesMultiline : Bool}

/-- What asks for a line break. -/
theorem of_breaks {breaks : List Char}
    (gap : (arrangement.gapBefore token beginsDefinition closesMultiline).Breaks breaks) :
    arrangement.broken = true ∨ arrangement.afterOpener = false ∧
      (closesMultiline = true ∨ arrangement.inCurly = true ∨
        arrangement.afterSemicolon = true) := by
  unfold gapBefore at gap
  split at gap
  · exact Or.inl ‹_›
  · refine Or.inr ?_
    split at gap
    · rename_i closes
      simp only [Bool.and_eq_true, Bool.not_eq_true'] at closes
      exact ⟨closes.2, Or.inl closes.1⟩
    · split at gap
      · rename_i asks
        simp only [Bool.and_eq_true, Bool.or_eq_true, Bool.not_eq_true'] at asks
        exact ⟨asks.2, Or.inr asks.1.1⟩
      · split at gap <;> cases gap

/-- What asks for no line break. -/
theorem of_not_breaks
    (gap : arrangement.gapBefore token beginsDefinition closesMultiline = .none ∨
      arrangement.gapBefore token beginsDefinition closesMultiline = .space) :
    arrangement.broken = false ∧ (closesMultiline = true → arrangement.afterOpener = true) := by
  unfold gapBefore at gap
  split at gap
  · split at gap <;> rcases gap with none | space <;> contradiction
  · rename_i joined
    refine ⟨Bool.eq_false_iff.mpr joined, fun closes => ?_⟩
    split at gap
    · rcases gap with none | space <;> contradiction
    · rename_i inside
      rw [closes, Bool.true_and, Bool.not_eq_true', Bool.not_eq_false] at inside
      exact inside

/-- Where no gap is left, there was no trivia. -/
theorem hasTriviaBefore_of_none
    (gap : arrangement.gapBefore token beginsDefinition closesMultiline = .none)
    (previous : arrangement.previous.isSome = true) : token.hasTriviaBefore = false := by
  unfold gapBefore at gap
  split at gap
  · split at gap <;> cases gap
  · split at gap
    · cases gap
    · split at gap
      · cases gap
      · split at gap
        · cases gap
        · rename_i none
          rw [previous, Bool.and_true] at none
          exact Bool.eq_false_iff.mpr none

/-- A token without trivia is joined to the one before, unless a line was to end. -/
theorem gapBefore_of_leading (settled : arrangement.broken = false)
    (noTrivia : token.leading = []) :
    arrangement.gapBefore token beginsDefinition false = .none := by
  have noNewline : token.hasNewlineBefore = false := by
    unfold Token.hasNewlineBefore
    rw [noTrivia]
    rfl
  have noTriviaBefore : token.hasTriviaBefore = false := by
    unfold Token.hasTriviaBefore
    rw [noTrivia]
    rfl
  unfold gapBefore
  rw [settled, noNewline, noTriviaBefore, Bool.and_false, Bool.false_and]
  rfl

/-- A token that is joined to the one before: no trivia and no layout token stands in front of
it, and it closes no group that goes over several lines. -/
structure Joins (arrangement : Arrangement) (token : Token) : Prop where
  leading : token.leading = []
  noLayout : token.kind.isLayout = false
  noMultiline : (token.kind.isCloser && arrangement.inMultiline) = false

theorem joins_of_glued (glued : token.Glued) : arrangement.Joins token :=
  ⟨glued.leading, glued.noLayout, by rw [glued.noCloser, Bool.false_and]⟩

/-- No gap is left in front of a token that is joined to the one before. -/
theorem gap_of_joins (settled : arrangement.broken = false) (joins : arrangement.Joins token)
    (beginsDefinition newlineBehind : Bool) :
    (arrangement.place token beginsDefinition newlineBehind).1.gap = .none := by
  have inside : (arrangement.inside token.kind).broken = false := by
    unfold inside
    split <;> exact settled
  show ((arrangement.inside token.kind).gapBefore token beginsDefinition
    (token.kind.isCloser && arrangement.inMultiline)) = .none
  rw [joins.noMultiline]
  exact gapBefore_of_leading inside joins.leading

/-- Tokens that are not real become no pieces. -/
theorem pieces_eq_nil {begins : Token → Bool} {rest : List Token}
    (none : ∀ token ∈ rest, token.kind.isReal = false) : arrangement.pieces begins rest = [] := by
  induction rest generalizing arrangement with
  | nil => rfl
  | cons token rest inductionHypothesis =>
      rw [List.forall_mem_cons] at none
      rw [pieces_of_not_real none.1]
      exact inductionHypothesis none.2

end Arrangement

namespace Reader.Emission

variable {kinds inserted : List TokenKind} {kind : TokenKind} {next : Option Char}
  {frames around : List Frame}

/-- Only layout tokens are inserted. -/
theorem isLayout (emission : Emission kinds kind next frames inserted around) :
    ∀ kind ∈ inserted, kind.isLayout = true := by
  cases emission with
  | settles separated noCloser closed begins goesOn => exact isLayout_of_mem_marks
  | deepens level noCloser active opens => exact List.forall_mem_singleton.mpr rfl
  | closes same closed fits => exact fun _ => isLayout_of_mem_outdents

end Reader.Emission

namespace Piece.Shows

variable {width : Nat} {arrangement : Arrangement} {begins : Token → Bool}
  {inserted rest : List Token} {token : Token} {text : List Char}

/-- A token is shown behind the blanks that its place asks for. -/
theorem of_token (layout : ∀ token ∈ inserted, token.kind.isLayout = true)
    (real : token.kind.isReal = true)
    (shows : Piece.Shows width (arrangement.pieces begins (inserted ++ token :: rest)) text) :
    ∃ newlineBehind blanks beyond,
      text = blanks ++ (token.kind.text.toList ++ beyond) ∧
      ((arrangement.through (inserted.map Token.kind)).place token (begins token)
        newlineBehind).1.Blanks width blanks ∧
      Piece.Shows width
        (((arrangement.through (inserted.map Token.kind)).place token (begins token)
          newlineBehind).2.pieces begins rest) beyond := by
  rw [Arrangement.pieces_of_isLayout layout, Arrangement.pieces_of_isReal real] at shows
  cases shows with
  | @cons _ _ blanks beyond apart shows => exact ⟨_, blanks, beyond, rfl, apart, shows⟩

end Piece.Shows

namespace Reader

open CharClass

variable {reader : Reader} {width : Nat} {arrangement : Arrangement} {begins : Token → Bool}
  {kind : TokenKind} {next : Option Char} {inserted : List Token} {token : Token}
  {around : List Frame} {text : List Char} {c : Char} {rest : List Char}

/-- A lexeme that becomes a token becomes a piece. -/
theorem isReal_of_lexeme [XidStart] (found : (reader.lexeme c rest).lexeme.kind? = some kind) :
    kind.isReal = true := by
  have fits := Lexeme.fits_scan (reader.lastKind?.any TokenKind.endsOperand) c rest
  unfold Lexeme.Found.Fits at fits
  unfold lexeme at found
  generalize (Lexeme.scan (reader.lastKind?.any TokenKind.endsOperand) c rest).lexeme =
    lexeme at found fits
  cases lexeme with
  | trivia trivia => cases found
  | faulty fault => cases found
  | stringOpening quote =>
      cases found
      rfl
  | token kindThere =>
      cases found
      cases fits with
      | token lexical spells => cases kind <;> first | rfl | cases lexical

/-- What is shown where a token is read. -/
theorem Takes.shows [XidStart] (takes : reader.Takes kind next inserted token around reader.step)
    (unread : reader.rest ≠ []) (real : kind.isReal = true)
    (shows : Piece.Shows width (arrangement.pieces begins reader.ahead) text) :
    ∃ newlineBehind blanks beyond,
      text = blanks ++ (kind.text.toList ++ beyond) ∧
      ((arrangement.through (inserted.map Token.kind)).place token (begins token)
        newlineBehind).1.Blanks width blanks ∧
      Piece.Shows width
        (((arrangement.through (inserted.map Token.kind)).place token (begins token)
          newlineBehind).2.pieces begins reader.step.ahead) beyond := by
  have ahead := ahead_step unread takes.tokens
  rw [List.append_assoc] at ahead
  rw [ahead] at shows
  have layout : ∀ token ∈ inserted, token.kind.isLayout = true := fun token member =>
    takes.emission.isLayout _ (List.mem_map_of_mem member)
  rw [← takes.kind] at real ⊢
  exact shows.of_token layout real

/-- At the end of a source no pieces are still to come. -/
theorem pieces_of_read [XidStart] (silent : reader.Silent) (read : reader.rest = []) :
    arrangement.pieces begins reader.ahead = [] := by
  refine Arrangement.pieces_eq_nil fun token member => ?_
  have kinds := List.mem_map_of_mem (f := Token.kind) member
  rw [ahead_of_read silent read] at kinds
  rcases List.mem_append.mp kinds with outdent | ending
  · rw [List.eq_of_mem_replicate outdent]
    rfl
  · rw [List.mem_singleton.mp ending]
    rfl

theorem shows_of_read [XidStart] (silent : reader.Silent) (read : reader.rest = [])
    (shows : Piece.Shows width (arrangement.pieces begins reader.ahead) text) :
    text = ['\n'] := by
  rw [pieces_of_read silent read] at shows
  cases shows
  rfl

theorem blank_of_blanks {piece : Piece} {blanks : List Char} (apart : piece.Blanks width blanks)
    (gap : piece.gap ≠ .none) (text : List Char) : headIs isBlank (blanks ++ text) = true := by
  cases apart with
  | none none => exact absurd none gap
  | space space => exact isBlank_space
  | line breaks =>
      generalize piece.gap = gap at breaks
      cases breaks <;> exact isBlank_newline

theorem nil_of_blanks {piece : Piece} {blanks : List Char} (apart : piece.Blanks width blanks)
    (gap : piece.gap = .none) : blanks = [] := by
  cases apart with
  | none none => rfl
  | space space =>
      rw [gap] at space
      cases space
  | line breaks =>
      rw [gap] at breaks
      cases breaks

/-- Where no blank is shown, no gap was left. -/
theorem gap_of_solid {piece : Piece} {blanks : List Char} (apart : piece.Blanks width blanks)
    {text : List Char} (solid : headIs isBlank (blanks ++ text) = false) :
    blanks = [] ∧ piece.gap = .none := by
  by_cases gap : piece.gap = .none
  · exact ⟨nil_of_blanks apart gap, gap⟩
  · rw [blank_of_blanks apart gap] at solid
    cases solid

/-- Where trivia waits for its token, a gap is left in front of it. -/
theorem blank_ahead [XidStart] (readable : reader.Readable)
    (code : Frame.inString reader.frames = false)
    (waits : reader.trivia ≠ #[]) (previous : arrangement.previous.isSome = true)
    (shows : Piece.Shows width (arrangement.pieces begins reader.ahead) text) :
    headIs isBlank text = true := by
  fun_induction run reader with
  | case1 reader atEnd =>
      rw [shows_of_read readable.silent (List.isEmpty_iff.mp atEnd) shows]
      exact isBlank_newline
  | case2 reader unread inductionHypothesis =>
      have unreadStill : reader.rest ≠ [] := fun read => unread (List.isEmpty_iff.mpr read)
      rcases List.exists_cons_of_ne_nil unreadStill with ⟨c, rest, same⟩
      rcases lexeme_cases readable.silent code same with ⟨trivia, found⟩ | ⟨kind, found⟩
      · have waiting := step_waits code same found
        refine inductionHypothesis (readable.step unreadStill) ?_ waiting.trivia ?_
        · rw [waiting.frames]
          exact code
        · have ahead := @ahead_step reader [] _ unreadStill
            (by rw [waiting.tokens, List.append_nil])
          rw [List.nil_append] at ahead
          rw [← ahead]
          exact shows
      · rcases step_takes readable code same found with ⟨inserted, token, around, takes, _⟩
        rcases takes.shows unreadStill (isReal_of_lexeme found) shows with
          ⟨newlineBehind, blanks, beyond, whole, apart, _⟩
        rw [whole]
        refine blank_of_blanks apart (fun none => ?_) _
        have known : ((arrangement.through (inserted.map Token.kind)).inside
            token.kind).previous.isSome = true := by
          rw [Arrangement.inside_previous, Arrangement.through_previous]
          exact previous
        have noTrivia := Arrangement.hasTriviaBefore_of_none none known
        unfold Token.hasTriviaBefore at noTrivia
        rw [takes.leading, Bool.not_eq_false', List.isEmpty_iff,
          Array.toList_eq_nil_iff] at noTrivia
        exact waits noTrivia

/-! ## Resemblance -/

/-- In front of a text the formatted source has a blank, or the character that the source
has there, except that one word may be spelled in another way. -/
inductive Resembles (text other : List Char) : Prop
  | blank (blank : headIs isBlank other = true)
  | same {c d : Char} {rest more : List Char} (split : text = c :: rest)
      (splitThere : other = d :: more) (letter : d = c ∨ c = 'n' ∧ d = 'm')
      (solid : isBlank c = false) (noComment : Lexeme.startsComment (c :: rest) = false)

theorem Resembles.headIs {test : Char → Bool} {text other : List Char}
    (resembles : Resembles text other) (noBlank : ∀ c, test c = true → isBlank c = false)
    (mod : test 'm' = true → test 'n' = true) (passes : headIs test other = true) :
    headIs test text = true := by
  cases resembles with
  | blank blank =>
      cases other with
      | nil => cases passes
      | cons d other =>
          have solid : isBlank d = false := noBlank d passes
          rw [show isBlank d = true from blank] at solid
          cases solid
  | same split splitThere letter solid noComment =>
      subst split
      subst splitThere
      rcases letter with same | ⟨isN, isM⟩
      · rw [← same]
        exact passes
      · rw [isN]
        rw [isM] at passes
        exact mod passes

theorem resembles_of_spelled [XidStart] {blanks beyond : List Char} {piece : Piece}
    (found : (reader.lexeme c rest).lexeme.kind? = some kind)
    (apart : piece.Blanks width blanks) :
    Resembles (c :: rest) (blanks ++ (kind.text.toList ++ beyond)) := by
  have solid := Lexeme.solid_of_scan found
  cases apart with
  | space gap => exact .blank isBlank_space
  | line breaks =>
      refine .blank (blank_of_blanks (.line breaks) (fun none => ?_) _)
      rw [none] at breaks
      cases breaks
  | none gap =>
      rcases Lexeme.text_of_scan found with shown | ⟨isMod, second⟩
      · rw [shown]
        exact .same rfl rfl (Or.inl rfl) solid.1 solid.2
      · rw [isMod]
        exact .same rfl rfl (Or.inr ⟨(List.cons.inj second).1, rfl⟩) solid.1 solid.2

/-- A token does not begin with a blank. -/
theorem solid_text [XidStart] (found : (reader.lexeme c rest).lexeme.kind? = some kind)
    (beyond : List Char) :
    headIs (fun c => !isBlank c) (kind.text.toList ++ beyond) = true := by
  have solid := (Lexeme.solid_of_scan found).1
  rcases Lexeme.text_of_scan found with shown | ⟨isMod, second⟩
  · rw [shown]
    show (!isBlank c) = true
    rw [solid]
    rfl
  · rw [isMod]
    show (!isBlank 'm') = true
    rw [isBlank_of_visible (by decide)]
    rfl

/-- What is shown of the tokens ahead resembles the text ahead. -/
theorem resembles_ahead [XidStart] (readable : reader.Readable)
    (code : Frame.inString reader.frames = false)
    (previous : arrangement.previous.isSome = true)
    (shows : Piece.Shows width (arrangement.pieces begins reader.ahead) text) :
    Resembles reader.rest text := by
  cases same : reader.rest with
  | nil =>
      rw [shows_of_read readable.silent same shows]
      exact .blank isBlank_newline
  | cons c rest =>
      have unread : reader.rest ≠ [] := by
        rw [same]
        exact List.cons_ne_nil _ _
      rcases lexeme_cases readable.silent code same with ⟨trivia, found⟩ | ⟨kind, found⟩
      · have waiting := step_waits code same found
        have ahead := @ahead_step reader [] _ unread (by rw [waiting.tokens, List.append_nil])
        rw [List.nil_append] at ahead
        rw [ahead] at shows
        refine .blank (blank_ahead (readable.step unread) ?_ waiting.trivia previous shows)
        rw [waiting.frames]
        exact code
      · rcases step_takes readable code same found with ⟨inserted, token, around, takes, _⟩
        rcases takes.shows unread (isReal_of_lexeme found) shows with
          ⟨newlineBehind, blanks, beyond, whole, apart, _⟩
        rw [whole]
        exact resembles_of_spelled found apart

/-- Without a digit behind it a point is a token of its own. -/
theorem scan_dot [XidStart] {operandBefore : Bool} (noDigit : headIs isDigit rest = false) :
    Lexeme.scan operandBefore '.' rest = ⟨.token (.punctuation .dot), 0⟩ := by
  have noComment : Lexeme.startsComment ('.' :: rest) = false := by
    rw [Lexeme.startsComment_cons]
    rfl
  have noNumeral : Lexeme.startsNumeral operandBefore '.' rest = false := by
    unfold Lexeme.startsNumeral
    rw [noDigit]
    rfl
  rw [Lexeme.scan_eq_scanSolid (isBlank_of_visible (by decide)) noComment, noNumeral]
  rfl

theorem inString_of_layoutActive {frames : List Frame}
    (active : Frame.layoutActive frames = true) : Frame.inString frames = false := by
  cases frames with
  | nil => rfl
  | cons frame frames =>
      cases frame with
      | string quote opened => cases active
      | _ => rfl

/-- A token that is no closing bracket leaves the reader outside of strings. -/
theorem Emission.code {kinds inserted : List TokenKind} {frames others : List Frame}
    (emission : Emission kinds kind next frames inserted around) (positive : 0 < width)
    (mirrors : Mirrors width frames others arrangement.enclosures arrangement.level)
    (code : Frame.inString frames = false) (noCloser : kind.isCloser = false) :
    Frame.inString around = false := by
  cases emission with
  | @settles blocks around separated _ closed begins goesOn =>
      cases blocks with
      | nil => exact code
      | cons block blocks =>
          rcases mirrors.leave positive closed with ⟨_, _, _, _, _, _, isActive⟩
          exact inString_of_layoutActive (isActive (List.cons_ne_nil _ _))
  | deepens level noCloser active opens => rfl
  | @closes blocks around target closer same closed fits =>
      rw [same] at noCloser
      cases closer <;> cases noCloser

theorem Emission.around_eq {kinds : List TokenKind} {frames : List Frame}
    (emission : Emission kinds kind next frames [] around) (noCloser : kind.isCloser = false) :
    around = frames := by
  generalize none : ([] : List TokenKind) = inserted at emission
  cases emission with
  | @settles blocks around separated _ closed begins goesOn =>
      have noBlocks := outdents_eq_nil (List.append_eq_nil_iff.mp none.symm).1
      rw [noBlocks]
      rfl
  | deepens level noCloser active opens => cases none
  | @closes blocks around target closer same closed fits =>
      rw [same] at noCloser
      cases closer <;> cases noCloser

/-- A piece without a gap has no layout tokens in front of it. -/
theorem Emission.none_of_gap {kinds kindsInserted : List TokenKind} {frames : List Frame}
    {newlineBehind : Bool} (emission : Emission kinds kind next frames kindsInserted around)
    (gap : ((arrangement.through kindsInserted).place token (begins token)
      newlineBehind).1.gap = .none) : kindsInserted = [] := by
  cases kindsInserted with
  | nil => rfl
  | cons first others =>
      have broken : ((arrangement.through (first :: others)).inside token.kind).broken = true := by
        unfold Arrangement.inside
        split <;> exact Arrangement.broken_of_emission emission (List.cons_ne_nil _ _)
      have joined : ((arrangement.through (first :: others)).inside token.kind).broken = false :=
        (Arrangement.of_not_breaks (Or.inl gap)).1
      rw [broken] at joined
      cases joined

theorem isBlank_of_mem (marks : List Char)
    (visible : marks.all isVisible = true) {c : Char} (isMark : c ∈ marks) : isBlank c = false :=
  isBlank_of_visible (List.all_eq_true.mp visible c isMark)

/-- What the formatted source has in front of a text has nothing to add where the source
has nothing to add. -/
theorem Resembles.noFurther [XidStart] {text other : List Char} (resembles : Resembles text other)
    (fraction : 0 < Numeral.fractionLength other → 0 < Numeral.fractionLength text) :
    NoFurther text other where
  word := resembles.headIs (fun _ => isBlank_of_isIdentContinue) 
    (fun _ => isIdentContinue_of_isLetter (by decide))
  digit := resembles.headIs
    (fun _ digit => isBlank_of_isIdentContinue (isIdentContinue_of_isDigit digit))
    (fun digit => absurd digit (by decide))
  fraction := fraction
  operators := by
    intro positive
    have operator : Offside.headIs isOperatorSymbol other = true := by
      cases other with
      | nil => cases positive
      | cons d other =>
          rw [Lexeme.operatorRunLength_cons] at positive
          split at positive
          · rename_i goesOn
            exact (Bool.and_eq_true_iff.mp goesOn).1
          · cases positive
    have operatorHere := resembles.headIs (fun _ => isBlank_of_isOperatorSymbol)
      (fun symbol => absurd symbol (by decide +kernel)) operator
    cases resembles with
    | blank blank =>
        cases other with
        | nil => cases blank
        | cons d other =>
            have solid : isBlank d = false := isBlank_of_isOperatorSymbol operator
            rw [show isBlank d = true from blank] at solid
            cases solid
    | @same c d rest more split splitThere letter solid noComment =>
        subst split
        have symbol : isOperatorSymbol c = true := operatorHere
        rw [Lexeme.operatorRunLength_cons, symbol, noComment]
        exact Nat.succ_pos _
  comment := resembles.headIs
    (fun c mark => isBlank_of_mem ['/', '*'] (by decide) (by simpa using mark))
    (fun mark => absurd mark (by decide))
  brace := resembles.headIs
    (fun c mark => isBlank_of_mem ['{'] (by decide) (by simpa using mark))
    (fun mark => absurd mark (by decide))
  quote := resembles.headIs
    (fun c mark => isBlank_of_mem ['"'] (by decide) (by simpa using mark))
    (fun mark => absurd mark (by decide))

theorem fractionLength_pos_cases (positive : 0 < Numeral.fractionLength text) :
    ∃ more, text = '.' :: more ∧ headIs isDigit more = true := by
  cases text with
  | nil => cases positive
  | cons c more =>
      rw [Numeral.fractionLength_cons] at positive
      split at positive
      · rename_i point
        rw [Bool.and_eq_true, beq_iff_eq] at point
        exact ⟨more, by rw [point.1], point.2⟩
      · cases positive

variable [XidStart]

/-- Nothing can be added in the formatted source where nothing can be added in the
source. -/
theorem noFurther_ahead (readable : reader.Readable)
    (code : Frame.inString reader.frames = false)
    (previous : arrangement.previous.isSome = true)
    (shows : Piece.Shows width (arrangement.pieces begins reader.ahead) text) :
    NoFurther reader.rest text := by
  have resembles := resembles_ahead readable code previous shows
  refine resembles.noFurther fun positive => ?_
  rcases fractionLength_pos_cases positive with ⟨more, isPoint, digits⟩
  have point : headIs (· == '.') reader.rest = true := by
    refine resembles.headIs (fun c mark => ?_) (fun mark => absurd mark (by decide)) ?_
    · exact isBlank_of_mem ['.'] (by decide) (by simpa using mark)
    · rw [isPoint]
      rfl
  cases same : reader.rest with
  | nil =>
      rw [same] at point
      cases point
  | cons c rest =>
      rw [same] at point
      have isDot : c = '.' := beq_iff_eq.mp point
      subst isDot
      -- A point without a digit would be a token, and the next token would begin with a
      -- digit in the formatted source only.
      have digitsHere : headIs isDigit rest = true := by
        cases noDigit : headIs isDigit rest with
        | true => rfl
        | false =>
            have found : reader.lexeme '.' rest = ⟨.token (.punctuation .dot), 0⟩ :=
              scan_dot noDigit
            have becomes : (reader.lexeme '.' rest).lexeme.kind? = some (.punctuation .dot) := by
              rw [found]
              rfl
            have unread : reader.rest ≠ [] := by
              rw [same]
              exact List.cons_ne_nil _ _
            rcases step_takes readable code same becomes with
              ⟨inserted, token, around, takes, behind⟩
            rcases takes.shows unread rfl shows with
              ⟨newlineBehind, blanks, beyond, whole, apart, showsBeyond⟩
            rw [found, List.drop_zero] at behind
            have solid : headIs isBlank
                (blanks ++ ((TokenKind.punctuation .dot).text.toList ++ beyond)) = false := by
              rw [← whole, isPoint]
              exact isBlank_of_visible (by decide)
            rcases gap_of_solid apart solid with ⟨none, gap⟩
            have noTokens := takes.emission.none_of_gap gap
            have emission := takes.emission
            rw [noTokens] at emission
            have codeBeyond : Frame.inString reader.step.frames = false := by
              rw [takes.frames, emission.around_eq rfl]
              exact code
            have later := resembles_ahead (readable.step unread) codeBeyond
              (by rfl) showsBeyond
            rw [none, isPoint] at whole
            have moreIs : more = beyond := (List.cons.inj whole).2
            rw [moreIs] at digits
            have digitsBehind := later.headIs
              (fun _ digit => isBlank_of_isIdentContinue (isIdentContinue_of_isDigit digit))
              (fun digit => absurd digit (by decide)) digits
            rw [behind, noDigit] at digitsBehind
            exact digitsBehind
      rw [Numeral.fractionLength_cons, digitsHere]
      exact Nat.succ_pos _

/-! ## Tokens that are glued to the one before -/

/-- The mark of the end takes the trivia that waits there. -/
theorem exists_ahead_of_read (read : reader.rest = []) : ∃ inserted,
    reader.ahead = inserted ++ [⟨.endOfFile, .empty reader.offset, reader.trivia.toList⟩] := by
  have ended := Inserts.foldl Inserts.closeAtEnd reader.frames reader
  rcases ended.tokens with ⟨inserted, added, _⟩
  have whole := tokens_append_ahead reader
  rw [run_of_read read] at whole
  have finished : reader.finish.tokens = reader.tokens.toList ++ (inserted ++
      [⟨.endOfFile, .empty reader.offset, reader.trivia.toList⟩]) := by
    rw [← List.append_assoc, ← added, ← ended.trivia]
    exact Array.toList_push
  exact ⟨inserted, (List.append_cancel_left (finished.symm.trans whole)).symm⟩

/-- Trivia that waits does not wait in front of nothing: a layout token comes first, or
the trivia is taken. -/
theorem leading_ahead (readable : reader.Readable) (code : Frame.inString reader.frames = false)
    (waits : reader.trivia ≠ #[]) :
    ∃ first back, reader.ahead = first :: back ∧
      (first.kind.isLayout = true ∨ first.leading ≠ []) := by
  fun_induction run reader with
  | case1 reader atEnd =>
      have read := List.isEmpty_iff.mp atEnd
      have kinds := ahead_of_read readable.silent read
      rcases exists_ahead_of_read read with ⟨inserted, ahead⟩
      rw [ahead] at kinds ⊢
      cases inserted with
      | nil =>
          exact ⟨_, [], rfl, Or.inr fun none => waits (Array.toList_eq_nil_iff.mp none)⟩
      | cons first inserted =>
          refine ⟨first, _, rfl, Or.inl ?_⟩
          cases count : reader.frames.countP Frame.isBlock with
          | zero =>
              rw [count] at kinds
              have lengths := congrArg List.length kinds
              simp at lengths
          | succ count =>
              rw [count] at kinds
              rw [(List.cons.inj kinds).1]
              rfl
  | case2 reader unread inductionHypothesis =>
      have unreadStill : reader.rest ≠ [] := fun read => unread (List.isEmpty_iff.mpr read)
      rcases List.exists_cons_of_ne_nil unreadStill with ⟨c, rest, same⟩
      rcases lexeme_cases readable.silent code same with ⟨trivia, found⟩ | ⟨kind, found⟩
      · have waiting := step_waits code same found
        have ahead := @ahead_step reader [] _ unreadStill
          (by rw [waiting.tokens, List.append_nil])
        rw [ahead]
        refine inductionHypothesis (readable.step unreadStill) ?_ waiting.trivia
        rw [waiting.frames]
        exact code
      · rcases step_takes readable code same found with ⟨inserted, token, around, takes, _⟩
        rw [ahead_step unreadStill takes.tokens]
        cases inserted with
        | nil =>
            refine ⟨token, _, rfl, Or.inr fun none => waits ?_⟩
            rw [takes.leading] at none
            exact Array.toList_eq_nil_iff.mp none
        | cons first inserted =>
            exact ⟨first, _, rfl, Or.inl (takes.emission.isLayout _ List.mem_cons_self)⟩

/-- Trivia that waits comes to stand in front of some token. -/
theorem trivia_ahead (readable : reader.Readable) (code : Frame.inString reader.frames = false) :
    ∃ token ∈ reader.ahead, reader.trivia.toList ⊆ token.leading := by
  fun_induction run reader with
  | case1 reader atEnd =>
      rcases exists_ahead_of_read (List.isEmpty_iff.mp atEnd) with ⟨inserted, ahead⟩
      rw [ahead]
      exact ⟨_, List.mem_append_right _ List.mem_cons_self, List.Subset.refl _⟩
  | case2 reader unread inductionHypothesis =>
      have unreadStill : reader.rest ≠ [] := fun read => unread (List.isEmpty_iff.mpr read)
      rcases List.exists_cons_of_ne_nil unreadStill with ⟨c, rest, same⟩
      rcases lexeme_cases readable.silent code same with ⟨trivia, found⟩ | ⟨kind, found⟩
      · have waiting := step_waits code same found
        rcases waiting.waits with ⟨span, pushed⟩
        rcases inductionHypothesis (readable.step unreadStill)
          (by rw [waiting.frames]; exact code) with ⟨token, member, leading⟩
        refine ⟨token, ?_, fun other waits => leading ?_⟩
        · rw [@ahead_step reader [] _ unreadStill (by rw [waiting.tokens, List.append_nil])]
          exact member
        · rw [pushed, Array.toList_push]
          exact List.mem_append_left _ waits
      · rcases step_takes readable code same found with ⟨inserted, token, around, takes, _⟩
        refine ⟨token, ?_, fun other waits => ?_⟩
        · rw [ahead_step unreadStill takes.tokens]
          simp
        · rw [takes.leading]
          exact waits

/-- What is joined to a token in the source is joined to it in the formatted source. -/
theorem solid_ahead (readable : reader.Readable) (code : Frame.inString reader.frames = false)
    (settled : arrangement.broken = false)
    (solid : headIs (fun c => !isBlank c) reader.rest = true)
    (joined : ∀ first ∈ reader.ahead.head?, arrangement.Joins first)
    (shows : Piece.Shows width (arrangement.pieces begins reader.ahead) text) :
    headIs (fun c => !isBlank c) text = true := by
  cases same : reader.rest with
  | nil =>
      rw [same] at solid
      cases solid
  | cons c rest =>
      have unread : reader.rest ≠ [] := by
        rw [same]
        exact List.cons_ne_nil _ _
      rcases lexeme_cases readable.silent code same with ⟨trivia, found⟩ | ⟨kind, found⟩
      · exfalso
        have waiting := step_waits code same found
        have ahead := @ahead_step reader [] _ unread (by rw [waiting.tokens, List.append_nil])
        rcases leading_ahead (readable.step unread) (by rw [waiting.frames]; exact code)
          waiting.trivia with ⟨first, back, whole, waits⟩
        rw [ahead, whole] at joined
        have joins := joined first rfl
        rcases waits with layout | some
        · rw [joins.noLayout] at layout
          cases layout
        · exact some joins.leading
      · rcases step_takes readable code same found with ⟨inserted, token, around, takes, _⟩
        have ahead := ahead_step unread takes.tokens
        rcases takes.shows unread (isReal_of_lexeme found) shows with
          ⟨newlineBehind, blanks, beyond, whole, apart, _⟩
        cases inserted with
        | cons first inserted =>
            rw [ahead] at joined
            have layout := takes.emission.isLayout first.kind List.mem_cons_self
            rw [(joined first rfl).noLayout] at layout
            cases layout
        | nil =>
            rw [ahead] at joined
            have gap : (arrangement.place token (begins token) newlineBehind).1.gap = .none :=
              Arrangement.gap_of_joins settled (joined token rfl) _ _
            rw [whole, nil_of_blanks apart gap]
            exact solid_text found beyond

end Reader

/-! ## Strings -/

namespace Arrangement

/-- Behind a token that is glued to the one before. -/
def glue (arrangement : Arrangement) (kind : TokenKind) : Arrangement :=
  { arrangement.enter kind false with previous := some kind }

variable {arrangement : Arrangement} {token : Token} {kind : TokenKind}

theorem glue_broken (arrangement : Arrangement) (kinds : List TokenKind) :
    (kinds.foldl glue arrangement).broken = arrangement.broken := by
  induction kinds generalizing arrangement with
  | nil => rfl
  | cons kind kinds inductionHypothesis =>
      rw [List.foldl_cons, inductionHypothesis]
      exact enter_broken arrangement kind false

theorem Behind.glue {kinds new : List TokenKind} (behind : Behind kinds arrangement)
    (settled : arrangement.broken = false)
    (each : ∀ kind ∈ new, kind.isReal = true ∧ kind.isCloser = false) :
    Behind (kinds ++ new) (new.foldl glue arrangement) := by
  induction new generalizing kinds arrangement with
  | nil =>
      rw [List.append_nil]
      exact behind
  | cons kind new inductionHypothesis =>
      rw [List.forall_mem_cons] at each
      have same : ({ arrangement with broken := false } : Arrangement) = arrangement := by
        rw [← settled]
      have placed := behind.place each.1.1 false
      rw [inside_of_not_closer each.1.2] at placed
      have glued : arrangement.behind kind false = arrangement.glue kind := by
        unfold Arrangement.behind
        rw [same]
        rfl
      rw [glued] at placed
      rw [List.append_cons, List.foldl_cons]
      exact inductionHypothesis placed ((glue_broken arrangement [kind]).trans settled) each.2

/-- The only bracket in a string is that of a splice. -/
theorem place_of_leading (settled : arrangement.broken = false) (leading : token.leading = [])
    (noCloser : token.kind.isCloser = false)
    (noBracket : Bracket.ofKind? token.kind = none ∨ token.kind = .punctuation .leftBrace ∧
      arrangement.previous = some (.punctuation .dollar))
    (beginsDefinition newlineBehind : Bool) :
    (arrangement.place token beginsDefinition newlineBehind).1 =
        ⟨.none, arrangement.level, token.text⟩ ∧
      (arrangement.place token beginsDefinition newlineBehind).2 = arrangement.glue token.kind := by
  have same : ({ arrangement with broken := false } : Arrangement) = arrangement := by
    rw [← settled]
  have enters : arrangement.enter token.kind newlineBehind =
      arrangement.enter token.kind false := by
    unfold enter
    rcases noBracket with none | ⟨isBrace, dollar⟩
    · rw [none]
    · rw [isBrace, dollar]
      rfl
  unfold place
  dsimp only
  rw [noCloser, Bool.false_and]
  simp only [Bool.false_eq_true, if_false]
  rw [gapBefore_of_leading settled leading, same, enters]
  exact ⟨rfl, rfl⟩

end Arrangement

theorem Piece.Shows.of_glued {width : Nat} {arrangement : Arrangement} {begins : Token → Bool}
    {rest : List Token} {token : Token} {text : List Char} (settled : arrangement.broken = false)
    (leading : token.leading = []) (real : token.kind.isReal = true)
    (noCloser : token.kind.isCloser = false)
    (noBracket : Bracket.ofKind? token.kind = none ∨ token.kind = .punctuation .leftBrace ∧
      arrangement.previous = some (.punctuation .dollar))
    (shows : Piece.Shows width (arrangement.pieces begins (token :: rest)) text) :
    ∃ beyond, text = token.kind.text.toList ++ beyond ∧
      Piece.Shows width ((arrangement.glue token.kind).pieces begins rest) beyond := by
  rcases @Piece.Shows.of_token width arrangement begins [] rest token text
    (List.forall_mem_nil _) real shows with ⟨newlineBehind, blanks, beyond, whole, apart, behind⟩
  have placed := arrangement.place_of_leading settled leading noCloser noBracket (begins token)
    newlineBehind
  have apart : ((arrangement.place token (begins token) newlineBehind).1).Blanks width blanks :=
    apart
  have behind : Piece.Shows width
    ((arrangement.place token (begins token) newlineBehind).2.pieces begins rest) beyond := behind
  rw [placed.1] at apart
  rw [placed.2] at behind
  rw [Reader.nil_of_blanks apart rfl] at whole
  exact ⟨beyond, whole, behind⟩

namespace StringText

variable {quote : QuoteForm} {text : List Char} {piece : Piece}

/-- The text of some tokens, one behind the other. -/
def spelled (kinds : List TokenKind) : List Char := kinds.flatMap fun kind => kind.text.toList

/-- The tokens of a piece show the text that it takes. -/
theorem spelled_of_scanPiece [XidStart] (found : scanPiece quote text = piece)
    (whole : ∀ length, piece ≠ .cutOff length) :
    spelled (piece.kinds quote text) = text.take (piece.reach quote) := by
  have fits := fits_scanPiece quote text
  rw [found] at fits
  cases fits with
  | closing spells nonempty =>
      rcases spells with shown | ⟨isMod, _⟩
      · show quote.spelling.toList ++ [] = text.take (marksLength quote)
        have marks : quote.spelling = String.ofList (text.take (marksLength quote)) := shown
        rw [marks, String.toList_ofList, List.append_nil]
      · cases isMod
  | spliceOpening same =>
      rw [same]
      rfl
  | @name c beyond length same positive =>
      rw [same]
      show '$' :: ((String.ofList ((c :: beyond).take length)).toList ++ []) =
        '$' :: (c :: beyond).take length
      rw [String.toList_ofList, List.append_nil]
  | @text length nonempty =>
      show (String.ofList (text.take length)).toList ++ [] = text.take length
      rw [String.toList_ofList, List.append_nil]
  | cutOff length => exact absurd rfl (whole length)

/-- Where one text has a stop, the other one has the same stop. -/
structure SeesStop [XidStart] (quote : QuoteForm) (text other : List Char) : Prop where
  same : SameSight quote text other
  stops : stops quote other = true
  notCutOff : isCutOff quote other = false
  splice : hasSplice quote other = hasSplice quote text

/-- What is not plain text is a stop, whatever comes behind it. -/
theorem seesStop_of_scanPiece [XidStart] (found : scanPiece quote text = piece)
    (whole : ∀ length, piece ≠ .cutOff length) (noText : ∀ length, piece ≠ .text length)
    (beyond : List Char) :
    SeesStop quote text (spelled (piece.kinds quote text) ++ beyond) := by
  have fits := fits_scanPiece quote text
  rw [found] at fits
  cases fits with
  | closing spells nonempty =>
      have closes : closesWith quote text = true := by
        cases closes : closesWith quote text with
        | true => rfl
        | false =>
            unfold scanPiece at found
            rw [closes, if_neg Bool.false_ne_true] at found
            split at found
            · split at found <;> cases found
            · dsimp only at found
              split at found <;> cases found
      have marks := eq_append_of_closesWith closes
      generalize text.drop (marksLength quote) = rest at marks
      subst marks
      show SeesStop quote (quote.spelling.toList ++ rest) (quote.spelling.toList ++ [] ++ beyond)
      rw [List.append_nil]
      have closesThere := closesWith_append quote beyond
      exact ⟨.of_marks quote rest beyond, stops_of_closesWith closesThere,
        isCutOff_of_closesWith closesThere,
        by rw [hasSplice_of_closesWith closes, hasSplice_of_closesWith closesThere]⟩
  | @spliceOpening rest same =>
      subst same
      have splice : ∀ rest, startsSplice ('$' :: '{' :: rest) = true := fun _ => rfl
      show SeesStop quote (['$', '{'] ++ rest) (['$', '{'] ++ beyond)
      exact ⟨@SameSight.of_append quote ['$', '{'] (List.cons_ne_nil _ _) (fun _ => Nat.le_refl 2)
          rest beyond,
        stops_of_startsSplice (splice beyond), isCutOff_of_startsSplice (splice beyond),
        (hasSplice_of_startsSplice (splice beyond)).trans
          (hasSplice_of_startsSplice (splice rest)).symm⟩
  | @name c rest length same positive =>
      subst same
      cases length with
      | zero => cases positive
      | succ length =>
          have spelling : spelled (Piece.kinds quote ('$' :: c :: rest) (.name (length + 1))) ++
              beyond = ['$', c] ++ (rest.take length ++ beyond) := by
            show '$' :: ((String.ofList ((c :: rest).take (length + 1))).toList ++ [] ++ beyond) = _
            rw [String.toList_ofList, List.append_nil]
            rfl
          have splice : startsSplice ('$' :: c :: rest) = true := by
            cases splice : startsSplice ('$' :: c :: rest) with
            | true => rfl
            | false =>
                unfold scanPiece at found
                rw [splice, if_neg Bool.false_ne_true] at found
                split at found
                · cases found
                · dsimp only at found
                  split at found <;> cases found
          have spliceThere : startsSplice ('$' :: c :: (rest.take length ++ beyond)) = true := by
            rw [startsSplice_cons_cons] at splice ⊢
            exact splice
          rw [spelling]
          exact ⟨@SameSight.of_append quote ['$', c] (List.cons_ne_nil _ _) (fun _ => Nat.le_refl 2)
              rest _,
            stops_of_startsSplice spliceThere, isCutOff_of_startsSplice spliceThere,
            (hasSplice_of_startsSplice spliceThere).trans
              (hasSplice_of_startsSplice splice).symm⟩
  | @text length nonempty => exact absurd rfl (noText length)
  | cutOff length => exact absurd rfl (whole length)

end StringText

namespace Reader

variable {reader after : Reader} {width : Nat} {arrangement : Arrangement} {begins : Token → Bool}
  {quote : QuoteForm} {opened : Nat} {outer : List Frame} {piece : StringText.Piece}
  {new : List Token} {text : List Char}

open StringText CharClass

theorem exists_of_map_singleton {kind : TokenKind} (kinds : new.map Token.kind = [kind]) :
    ∃ token, new = [token] ∧ token.kind = kind := by
  rcases List.map_eq_singleton_iff.mp kinds with ⟨token, same, isKind⟩
  exact ⟨token, same, isKind⟩

theorem exists_of_map_pair {first second : TokenKind}
    (kinds : new.map Token.kind = [first, second]) :
    ∃ token other, new = [token, other] ∧ token.kind = first ∧ other.kind = second := by
  rcases List.map_eq_cons_iff.mp kinds with ⟨token, others, same, isFirst, rest⟩
  rcases exists_of_map_singleton rest with ⟨other, isOther, isSecond⟩
  exact ⟨token, other, by rw [same, isOther], isFirst, isSecond⟩

variable [XidStart]

/-- What is shown where a piece of a string is read. -/
theorem TakesPiece.shows (takes : reader.TakesPiece quote opened outer piece new reader.step)
    (unread : reader.rest ≠ []) (none : reader.trivia = #[])
    (settled : arrangement.broken = false)
    (shows : Piece.Shows width (arrangement.pieces begins reader.ahead) text) :
    ∃ beyond, text = spelled (piece.kinds quote reader.rest) ++ beyond ∧
      Piece.Shows width (((piece.kinds quote reader.rest).foldl Arrangement.glue
        arrangement).pieces begins reader.step.ahead) beyond := by
  rw [ahead_step unread takes.tokens] at shows
  have leading := takes.leading none
  have kinds := takes.kinds
  have single : ∀ kind : TokenKind, piece.kinds quote reader.rest = [kind] →
      kind.isReal = true → kind.isCloser = false → Bracket.ofKind? kind = .none →
      ∃ beyond, text = spelled [kind] ++ beyond ∧
        Piece.Shows width ((arrangement.glue kind).pieces begins reader.step.ahead) beyond := by
    intro kind only real noCloser noBracket
    rw [only] at kinds
    rcases exists_of_map_singleton kinds with ⟨token, same, isKind⟩
    subst same
    subst isKind
    rcases shows.of_glued settled (leading token List.mem_cons_self) real noCloser
      (Or.inl noBracket) with ⟨beyond, whole, behind⟩
    refine ⟨beyond, ?_, behind⟩
    rw [whole]
    exact congrArg (· ++ beyond) (List.append_nil _).symm
  have double : ∀ kind : TokenKind,
      piece.kinds quote reader.rest = [.punctuation .dollar, kind] →
      kind.isReal = true → kind.isCloser = false →
      (Bracket.ofKind? kind = .none ∨ kind = .punctuation .leftBrace) →
      ∃ beyond, text = spelled [.punctuation .dollar, kind] ++ beyond ∧
        Piece.Shows width (((arrangement.glue (.punctuation .dollar)).glue kind).pieces begins
          reader.step.ahead) beyond := by
    intro kind both real noCloser noBracket
    rw [both] at kinds
    rcases exists_of_map_pair kinds with ⟨token, other, same, isDollar, isKind⟩
    subst same
    subst isKind
    rw [List.forall_mem_cons] at leading
    rcases shows.of_glued settled leading.1 (by rw [isDollar]; rfl) (by rw [isDollar]; rfl)
      (Or.inl (by rw [isDollar]; rfl)) with ⟨middle, whole, behind⟩
    rw [isDollar] at whole behind
    have stillSettled : (arrangement.glue (.punctuation .dollar)).broken = false := settled
    rcases Piece.Shows.of_glued stillSettled (leading.2 other List.mem_cons_self) real noCloser
      (noBracket.imp_right fun brace => ⟨brace, rfl⟩) behind with ⟨beyond, wholeMiddle, behind⟩
    refine ⟨beyond, ?_, behind⟩
    rw [whole, wholeMiddle, ← List.append_assoc]
    unfold spelled
    rw [List.flatMap_cons, List.flatMap_cons, List.flatMap_nil, List.append_nil]
  cases piece with
  | closing => exact single _ rfl rfl rfl rfl
  | text length => exact single _ rfl rfl rfl rfl
  | spliceOpening => exact double _ rfl rfl rfl (Or.inr rfl)
  | name length => exact double _ rfl rfl rfl (Or.inl rfl)
  | cutOff length =>
      have noTokens : new = [] := List.map_eq_nil_iff.mp kinds
      rw [noTokens] at shows
      exact ⟨text, rfl, shows⟩

/-- A reader in a string stands at one of its pieces. -/
theorem takesPiece_of_silent (silent : reader.Silent)
    (inString : reader.frames = .string quote opened :: outer) :
    reader.rest ≠ [] ∧ (∀ length, scanPiece quote reader.rest ≠ .cutOff length) ∧
      ∃ new, reader.TakesPiece quote opened outer (scanPiece quote reader.rest) new
        reader.step := by
  have isString : Frame.inString reader.frames = true := by
    rw [inString]
    rfl
  have unread := silent.unread isString
  have whole := scanPiece_of_silent silent inString unread
  exact ⟨unread, whole, step_takesPiece inString unread rfl whole⟩

theorem seesStop_ahead (readable : reader.Readable)
    (inString : reader.frames = .string quote opened :: outer) (none : reader.trivia = #[])
    (settled : arrangement.broken = false)
    (noText : ∀ length, scanPiece quote reader.rest ≠ .text length)
    (shows : Piece.Shows width (arrangement.pieces begins reader.ahead) text) :
    SeesStop quote reader.rest text := by
  rcases takesPiece_of_silent readable.silent inString with ⟨unread, whole, new, takes⟩
  rcases takes.shows unread none settled shows with ⟨beyond, same, _⟩
  rw [same]
  exact seesStop_of_scanPiece rfl whole noText beyond

/-- Plain text is followed by a stop, in the source and in the formatted source. -/
theorem seesStop_behind_text (readable : reader.Readable)
    (inString : reader.frames = .string quote opened :: outer)
    {length : Nat} (found : scanPiece quote reader.rest = .text length)
    (takes : reader.TakesPiece quote opened outer (.text length) new reader.step)
    (settled : arrangement.broken = false)
    (shows : Piece.Shows width (arrangement.pieces begins reader.step.ahead) text) :
    SeesStop quote reader.step.rest text := by
  have unread := readable.silent.unread (by rw [inString]; rfl)
  have measured := scanPiece_eq_text found
  refine seesStop_ahead (readable.step unread) takes.frames takes.trivia settled ?_ shows
  intro again foundAgain
  have stop : stops quote reader.step.rest = true := by
    rw [takes.rest]
    show stops quote (reader.rest.drop length) = true
    rw [← measured.1]
    apply stops_drop_length
    rw [measured.1]
    exact measured.2
  have positive := pos_of_scanPiece_text foundAgain
  rw [← (scanPiece_eq_text foundAgain).1, length_of_stops stop] at positive
  cases positive

/-- In front of a string the formatted source shows the same character and the same
splices. -/
theorem sight_ahead (readable : reader.Readable)
    (inString : reader.frames = .string quote opened :: outer) (none : reader.trivia = #[])
    (settled : arrangement.broken = false)
    (shows : Piece.Shows width (arrangement.pieces begins reader.ahead) text) :
    text.head? = reader.rest.head? ∧ hasSplice quote text = hasSplice quote reader.rest := by
  by_cases isText : ∃ length, scanPiece quote reader.rest = .text length
  · rcases isText with ⟨length, found⟩
    rcases takesPiece_of_silent readable.silent inString with ⟨unread, whole, new, takes⟩
    rw [found] at takes
    rcases takes.shows unread none settled shows with ⟨beyond, shown, behind⟩
    have settledBehind := Arrangement.glue_broken arrangement
      (StringText.Piece.kinds quote reader.rest (.text length))
    have sees := seesStop_behind_text readable inString found takes
      (settledBehind.trans settled) behind
    have measured := scanPiece_eq_text found
    have positive := pos_of_scanPiece_text found
    have plainIs : spelled (StringText.Piece.kinds quote reader.rest (.text length)) =
        reader.rest.take length :=
      spelled_of_scanPiece found nofun
    have long : (reader.rest.take length).length = length := by
      apply List.length_take_of_le
      rw [← measured.1]
      exact length_le _
    have split : reader.rest = reader.rest.take length ++ reader.step.rest := by
      rw [takes.rest]
      exact (List.take_append_drop length reader.rest).symm
    rw [plainIs] at shown
    generalize reader.rest.take length = plain at shown long split
    have passed : StringText.length quote (plain ++ reader.step.rest) = plain.length := by
      rw [← split, long]
      exact measured.1
    have notCutOff : isCutOff quote reader.step.rest = false := by
      rw [takes.rest]
      exact measured.2
    have passedThere := length_append sees.same sees.stops plain passed
    rw [shown, split]
    refine ⟨?_, ?_⟩
    · cases plain with
      | nil =>
          rw [← long] at positive
          cases positive
      | cons c plain => rfl
    · rw [hasSplice_append sees.notCutOff plain passedThere,
        hasSplice_append notCutOff plain passed, sees.splice]
  · have sees := seesStop_ahead readable inString none settled
      (fun length found => isText ⟨length, found⟩) shows
    exact ⟨sees.same.head.symm, sees.splice⟩

theorem runLength_of_scanPiece {text : List Char} {c : Char} {rest : List Char} {length : Nat}
    (split : text = '$' :: c :: rest) (found : scanPiece quote text = .name length) :
    runLength isIdentContinue (c :: rest) = length := by
  subst split
  unfold scanPiece at found
  split at found
  · cases found
  · split at found
    · rw [List.drop_succ_cons, List.drop_zero] at found
      split at found
      · cases found
      · exact StringText.Piece.name.inj found
    · dsimp only at found
      split at found <;> cases found

/-- The name of a splice is read again in front of anything that does not continue it. -/
theorem scanPiece_name_again {source behind beyond : List Char} {length : Nat}
    (found : scanPiece quote source = .name length)
    (split : source = spelled (StringText.Piece.kinds quote source (.name length)) ++ behind)
    (further : headIs isIdentContinue beyond = true → headIs isIdentContinue behind = true) :
    scanPiece quote (spelled (StringText.Piece.kinds quote source (.name length)) ++ beyond) =
        .name length ∧
      StringText.Piece.kinds quote
          (spelled (StringText.Piece.kinds quote source (.name length)) ++ beyond)
          (.name length) =
        StringText.Piece.kinds quote source (.name length) := by
  have fits := fits_scanPiece quote source
  have taken := spelled_of_scanPiece found nofun
  rw [found] at fits
  cases fits with
  | @name c rest length same positive =>
      have measured := runLength_of_scanPiece same found
      have spelling : spelled (StringText.Piece.kinds quote source (.name length)) =
          '$' :: (c :: rest).take length := by
        rw [taken, same]
        rfl
      have kindsHere : StringText.Piece.kinds quote source (.name length) =
          [.punctuation .dollar, .identifier (String.ofList ((c :: rest).take length))] := by
        rw [same]
        rfl
      have long : ((c :: rest).take length).length = length := by
        apply List.length_take_of_le
        rw [← measured]
        exact runLength_le _ _
      have nonempty : (c :: rest).take length ≠ [] := by
        rw [← List.length_pos_iff, long]
        exact positive
      rw [spelling] at split ⊢
      rw [kindsHere]
      generalize (c :: rest).take length = name at split long nonempty
      subst long
      rw [split] at found
      refine ⟨scanPiece_name_append nonempty found further, ?_⟩
      show [_, TokenKind.identifier (String.ofList ((name ++ beyond).take name.length))] = _
      rw [List.take_left]

/-- Plain text is read again in front of the same stop. -/
theorem scanPiece_text_again {source behind beyond : List Char} {length : Nat}
    (found : scanPiece quote source = .text length)
    (split : source = spelled (StringText.Piece.kinds quote source (.text length)) ++ behind)
    (sees : SeesStop quote behind beyond) :
    scanPiece quote (spelled (StringText.Piece.kinds quote source (.text length)) ++ beyond) =
        .text length ∧
      StringText.Piece.kinds quote
          (spelled (StringText.Piece.kinds quote source (.text length)) ++ beyond)
          (.text length) =
        StringText.Piece.kinds quote source (.text length) := by
  have fits := fits_scanPiece quote source
  have spelling : spelled (StringText.Piece.kinds quote source (.text length)) =
      source.take length := spelled_of_scanPiece found nofun
  have measured := scanPiece_eq_text found
  rw [found] at fits
  cases fits with
  | @text length nonempty =>
      have long : (source.take length).length = length := by
        apply List.length_take_of_le
        rw [← measured.1]
        exact length_le _
      have kindsHere : StringText.Piece.kinds quote source (.text length) =
          [.stringMiddle (String.ofList (source.take length))] := rfl
      rw [spelling] at split ⊢
      rw [kindsHere]
      generalize source.take length = plain at split long nonempty
      subst long
      rw [split] at found
      refine ⟨scanPiece_text_append nonempty found sees.same sees.stops sees.notCutOff, ?_⟩
      show [TokenKind.stringMiddle (String.ofList ((plain ++ beyond).take plain.length))] = _
      rw [List.take_left]

/-- A piece of a string is the same piece of the formatted source. -/
theorem scanPiece_again (readable : reader.Readable)
    (inString : reader.frames = .string quote opened :: outer) (none : reader.trivia = #[])
    (settled : arrangement.broken = false) (found : scanPiece quote reader.rest = piece)
    (shows : Piece.Shows width (arrangement.pieces begins reader.ahead) text) :
    scanPiece quote text = piece ∧ piece.kinds quote text = piece.kinds quote reader.rest ∧
      Piece.Shows width (((piece.kinds quote reader.rest).foldl Arrangement.glue
        arrangement).pieces begins reader.step.ahead) (text.drop (piece.reach quote)) := by
  rcases takesPiece_of_silent readable.silent inString with ⟨unread, whole, new, takes⟩
  rw [found] at takes whole
  rcases takes.shows unread none settled shows with ⟨beyond, shown, behind⟩
  have settledBehind := (Arrangement.glue_broken arrangement
    (piece.kinds quote reader.rest)).trans settled
  have split : reader.rest =
      spelled (piece.kinds quote reader.rest) ++ reader.step.rest := by
    rw [spelled_of_scanPiece found whole, takes.rest, List.take_append_drop]
  have again : scanPiece quote text = piece ∧
      piece.kinds quote text = piece.kinds quote reader.rest := by
    rw [shown]
    cases piece with
    | closing =>
        refine ⟨scanPiece_of_closesWith ?_, rfl⟩
        show closesWith quote (quote.spelling.toList ++ [] ++ beyond) = true
        rw [List.append_nil]
        exact closesWith_append quote beyond
    | spliceOpening => exact ⟨scanPiece_brace quote beyond, rfl⟩
    | name length =>
        refine scanPiece_name_again found split ?_
        unfold headIs
        rw [(sight_ahead (readable.step unread) takes.frames takes.trivia settledBehind
          behind).1]
        exact id
    | text length =>
        exact scanPiece_text_again found split
          (seesStop_behind_text readable inString found takes settledBehind behind)
    | cutOff length => exact absurd rfl (whole length)
  refine ⟨again.1, again.2, ?_⟩
  have takenThere := spelled_of_scanPiece again.1 whole
  have splitThere := List.take_append_drop (piece.reach quote) text
  rw [← takenThere, again.2] at splitThere
  rw [List.append_cancel_left (splitThere.trans shown)]
  exact behind

end Reader
end Offside
