import Offside.Proofs.Grammar.Endings
import Offside.Proofs.Parsing.Outlook

namespace Offside

/-!
# Streams that go on

Where the tokens of one source end, those of another one may follow.  If the first source
is in order and the second one begins with a definition, then a parse in front of that
place cannot tell whether something follows: every question has the same answer, whether
the source ends there, a separator follows, or a definition.

What follows does not count as a name, a bracket or the start of an expression, and a
group that is open is closed before.  Only a dot or a modifier in front of it could make
a difference, and nothing that is in order ends so.
-/

namespace TokenKind

/-- Whether the token may stand behind the end of a source: the mark at its end, a
separator between two lines, or the start of a definition. -/
def Follows (kind : TokenKind) : Prop :=
  kind = .endOfFile ∨ kind = .autoSemicolon ∨ kind.startsDefinition = true

/-- Nothing of the sort may stand behind the end of a source. -/
def Halts (holds : TokenKind → Bool) : Prop :=
  ∀ kind : TokenKind, kind.Follows → holds kind = false

/-- To show that a sort of token cannot follow, it is enough to go through the kinds. -/
theorem halts_of_cases {holds : TokenKind → Bool} (atEnd : holds .endOfFile = false)
    (separator : holds .autoSemicolon = false)
    (starts : ∀ word, (TokenKind.keyword word).startsDefinition = true →
      holds (.keyword word) = false) : Halts holds := by
  intro kind follows
  rcases follows with rfl | rfl | definition
  · exact atEnd
  · exact separator
  · cases kind with
    | keyword word => exact starts word definition
    | _ => cases definition

@[simp]
theorem halts_isMark (mark : Punctuation) : Halts (isMark mark) :=
  halts_of_cases rfl rfl fun _ _ => rfl

@[simp]
theorem halts_isIdentifier : Halts isIdentifier := halts_of_cases rfl rfl fun _ _ => rfl

@[simp]
theorem halts_isOperator : Halts isOperator := halts_of_cases rfl rfl fun _ _ => rfl

theorem halts_isKeyword {word : Keyword}
    (other : (TokenKind.keyword word).startsDefinition = false) : Halts (isKeyword word) := by
  refine halts_of_cases rfl rfl fun found starts => ?_
  show (TokenKind.keyword found == TokenKind.keyword word) = false
  rw [beq_eq_false_iff_ne]
  intro same
  rw [same, other] at starts
  cases starts

theorem halts_or {first second : TokenKind → Bool} (one : Halts first) (two : Halts second) :
    Halts fun kind => first kind || second kind := by
  intro kind follows
  show (first kind || second kind) = false
  rw [one kind follows, two kind follows]
  rfl

@[simp]
theorem halts_isName : Halts isName := halts_or halts_isIdentifier halts_isOperator

@[simp]
theorem halts_isBinder : Halts isBinder := halts_or halts_isName (halts_isMark _)

theorem halts_isPlainString : Halts isPlainString := halts_of_cases rfl rfl fun _ _ => rfl

@[simp]
theorem halts_isStringStart : Halts isStringStart := halts_of_cases rfl rfl fun _ _ => rfl

theorem halts_isPlainLiteral : Halts isPlainLiteral :=
  halts_of_cases rfl rfl fun _ _ => rfl

theorem halts_isBoolean : Halts isBoolean :=
  halts_or (halts_isKeyword rfl) (halts_isKeyword rfl)

@[simp]
theorem halts_isLiteral : Halts isLiteral :=
  halts_or (halts_or halts_isPlainLiteral halts_isBoolean) (halts_isKeyword rfl)

theorem halts_isPrefixOperator : Halts isPrefixOperator :=
  halts_of_cases rfl rfl fun _ _ => rfl

theorem halts_indent : Halts (· == .indent) := halts_of_cases rfl rfl fun _ _ => rfl

theorem halts_isOpener : Halts isOpener := halts_of_cases rfl rfl fun _ _ => rfl

@[simp]
theorem halts_startsSimpleType : Halts startsSimpleType :=
  halts_or halts_isBinder (halts_isMark _)

@[simp]
theorem halts_startsPattern : Halts startsPattern :=
  halts_or (halts_or (halts_or halts_isBinder halts_isLiteral) (halts_isMark _))
    (halts_isMark _)

theorem halts_startsSimpleExpression : Halts startsSimpleExpression := by
  refine halts_of_cases rfl rfl fun word starts => ?_
  cases word <;> first | rfl | cases starts

end TokenKind
namespace TokenStream

/-! ## The end of a stream -/

theorem kindAhead_ended (stream : TokenStream) {offset : Nat}
    (beyond : stream.body.size ≤ stream.position + offset) :
    stream.kindAhead offset = .endOfFile := by
  unfold TokenStream.kindAhead TokenStream.ahead
  rw [stream.tokenAt_of_size_le _ beyond]
  exact stream.ending_kind

theorem kind_ended (stream : TokenStream) (ended : stream.position = stream.body.size) :
    stream.kind = .endOfFile := stream.kindAhead_ended (Nat.le_of_eq ended.symm)

theorem definitionStartsAt_ended (stream : TokenStream) {offset : Nat}
    (beyond : stream.body.size ≤ stream.position + offset) :
    stream.definitionStartsAt offset = false := by
  have none : stream.modifiersAhead offset = 0 := by
    rw [TokenStream.modifiersAhead, if_neg (Nat.not_lt.mpr beyond)]
  unfold TokenStream.definitionStartsAt
  dsimp only
  rw [none, Nat.add_zero, stream.kindAhead_ended beyond]
  rfl

/-- Behind the tokens of a source that is in order, in front of the mark at its end, other
tokens follow in another stream, which begin with a definition.  A separator stands in
between if the last token may end a statement. -/
structure Continues (stream other : TokenStream) : Prop where
  position : other.position = stream.position
  size : stream.body.size < other.body.size
  tokens : ∀ position, position < stream.body.size →
    other.tokenAt position = stream.tokenAt position
  starts : (other.tokenAt stream.body.size).kind.startsDefinition = true ∨
    (other.tokenAt stream.body.size).kind = .autoSemicolon ∧
      (other.tokenAt (stream.body.size + 1)).kind.startsDefinition = true
  separated : ∀ position, position + 1 = stream.body.size →
    (stream.tokenAt position).kind.canEndStatement = true →
      (other.tokenAt stream.body.size).kind = .autoSemicolon
  endsOnce : stream.EndsOnce
  groupsClose : stream.GroupsClose
  sound : ¬ stream.HasErrorToken
  /-- Nothing has to follow the last token. -/
  settled : ∀ position, position + 1 = stream.body.size →
    (stream.tokenAt position).kind.dangles = false

namespace Continues

variable {stream other : TokenStream} {offset : Nat}

theorem moveTo (continues : stream.Continues other) (position : Nat) :
    (stream.moveTo position).Continues (other.moveTo position) where
  position := rfl
  size := continues.size
  tokens := continues.tokens
  starts := continues.starts
  separated := continues.separated
  endsOnce := continues.endsOnce
  groupsClose := continues.groupsClose.moveTo position
  sound := continues.sound
  settled := continues.settled

/-! ## Tokens ahead -/

theorem ahead_eq (continues : stream.Continues other)
    (inside : stream.position + offset < stream.body.size) :
    other.ahead offset = stream.ahead offset := by
  unfold TokenStream.ahead
  rw [continues.position]
  exact continues.tokens _ inside

theorem kindAhead_eq (continues : stream.Continues other)
    (inside : stream.position + offset < stream.body.size) :
    other.kindAhead offset = stream.kindAhead offset :=
  congrArg Token.kind (continues.ahead_eq inside)

theorem current_eq (continues : stream.Continues other)
    (inside : stream.position < stream.body.size) : other.current = stream.current :=
  continues.ahead_eq inside

theorem kind_eq (continues : stream.Continues other)
    (inside : stream.position < stream.body.size) : other.kind = stream.kind :=
  continues.kindAhead_eq inside

theorem ending_follows (stream : TokenStream) :
    (stream.tokenAt stream.body.size).kind.Follows := by
  rw [stream.tokenAt_of_size_le _ (Nat.le_refl _)]
  exact .inl stream.ending_kind

theorem follows (continues : stream.Continues other) :
    (other.tokenAt stream.body.size).kind.Follows := by
  rcases continues.starts with starts | ⟨separator, _⟩
  · exact .inr (.inr starts)
  · exact .inr (.inl separator)

/-- Up to the place where the streams part, a sort of token that cannot follow there
stands ahead in both of them or in neither. -/
theorem halts_tokenAt (continues : stream.Continues other) {holds : TokenKind → Bool}
    (halts : TokenKind.Halts holds) {position : Nat} (within : position ≤ stream.body.size) :
    holds (other.tokenAt position).kind = holds (stream.tokenAt position).kind := by
  rcases Nat.lt_or_eq_of_le within with inside | there
  · rw [continues.tokens position inside]
  · rw [there, halts _ continues.follows, halts _ (ending_follows stream)]

theorem halts_ahead (continues : stream.Continues other) {holds : TokenKind → Bool}
    (halts : TokenKind.Halts holds) (within : stream.position + offset ≤ stream.body.size) :
    holds (other.kindAhead offset) = holds (stream.kindAhead offset) := by
  unfold TokenStream.kindAhead TokenStream.ahead
  rw [continues.position]
  exact continues.halts_tokenAt halts within

/-- A sort of token that cannot follow stands ahead only before the streams part. -/
theorem inside_of_halts {holds : TokenKind → Bool} (halts : TokenKind.Halts holds)
    (found : holds (stream.kindAhead offset) = true) :
    stream.position + offset < stream.body.size := by
  rcases Nat.lt_or_ge (stream.position + offset) stream.body.size with inside | beyond
  · exact inside
  · have shown := stream.kindAhead_ended beyond
    rw [shown, halts .endOfFile (.inl rfl)] at found
    cases found

/-- Where the source ends, something follows in both streams. -/
theorem kind_follows (continues : stream.Continues other)
    (there : stream.position = stream.body.size) :
    stream.kind.Follows ∧ other.kind.Follows := by
  refine ⟨?_, ?_⟩
  · show (stream.tokenAt (stream.position + 0)).kind.Follows
    rw [Nat.add_zero, there]
    exact ending_follows stream
  · show (other.tokenAt (other.position + 0)).kind.Follows
    rw [Nat.add_zero, continues.position, there]
    exact continues.follows

/-- A dot is followed by another token of the source. -/
theorem dot_followed (continues : stream.Continues other)
    (dot : (stream.kindAhead offset).isMark .dot = true) :
    stream.position + (offset + 1) < stream.body.size := by
  have inside := inside_of_halts (TokenKind.halts_isMark .dot) dot
  by_cases last : stream.position + offset + 1 = stream.body.size
  · have plain := continues.settled _ last
    unfold TokenKind.dangles at plain
    rw [show (stream.tokenAt (stream.position + offset)).kind.isMark .dot = true from dot,
      Bool.true_or] at plain
    cases plain
  · omega

/-! ## Walks -/

/-- Modifiers stand in front of something else, by induction on the tokens that are left. -/
theorem modifiersAhead (continues : stream.Continues other)
    (inside : stream.position + offset < stream.body.size) :
    other.modifiersAhead offset = stream.modifiersAhead offset ∧
      stream.position + (offset + stream.modifiersAhead offset) < stream.body.size := by
  induction left : stream.body.size - (stream.position + offset) generalizing offset with
  | zero => omega
  | succ left inductionHypothesis =>
      have insideThere : other.position + offset < other.body.size := by
        rw [continues.position]
        exact Nat.lt_trans inside continues.size
      rw [TokenStream.modifiersAhead, TokenStream.modifiersAhead.eq_def stream, if_pos inside,
        if_pos insideThere, continues.kindAhead_eq inside]
      by_cases modifier : (stream.kindAhead offset).isModifier = true
      · have further : stream.position + (offset + 1) < stream.body.size := by
          by_cases last : stream.position + offset + 1 = stream.body.size
          · have plain := continues.settled _ last
            unfold TokenKind.dangles at plain
            rw [show (stream.tokenAt (stream.position + offset)).kind.isModifier = true from
              modifier, Bool.or_true] at plain
            cases plain
          · omega
        have rest := inductionHypothesis further (by omega)
        rw [if_pos modifier, if_pos modifier, rest.1]
        exact ⟨rfl, by have := rest.2; omega⟩
      · rw [if_neg modifier, if_neg modifier]
        exact ⟨rfl, inside⟩

/-- Whether a path names a type, by induction on the tokens that are left. -/
theorem pathNamesType (continues : stream.Continues other)
    (within : stream.position + offset ≤ stream.body.size) :
    other.pathNamesType offset = stream.pathNamesType offset := by
  induction left : stream.body.size - (stream.position + offset) using Nat.strongRecOn
    generalizing offset with
  | ind left inductionHypothesis =>
      have dots := continues.halts_ahead (TokenKind.halts_isMark .dot) within
      have insideThere : other.position + offset < other.body.size := by
        rw [continues.position]
        exact Nat.lt_of_le_of_lt within continues.size
      rw [TokenStream.pathNamesType, TokenStream.pathNamesType.eq_def stream,
        if_pos insideThere, dots]
      by_cases dot : (stream.kindAhead offset).isMark .dot = true
      · have inside := inside_of_halts (TokenKind.halts_isMark .dot) dot
        have further := continues.dot_followed dot
        rw [if_pos dot, if_pos inside, if_pos dot, continues.kindAhead_eq further,
          inductionHypothesis _ (by omega) (by omega) rfl]
      · rw [if_neg dot, if_neg dot, ite_self]

/-- A group that is closed in the one stream is closed at the same place in the other
one.  By induction on the tokens that are left. -/
theorem closeFrom (continues : stream.Continues other) {depth position close : Nat}
    (found : stream.closeFrom depth position = some close) :
    other.closeFrom depth position = some close ∧ close ≤ stream.body.size := by
  induction left : stream.body.size - position generalizing depth position with
  | zero =>
      rw [TokenStream.closeFrom, if_neg (by omega)] at found
      cases found
  | succ left inductionHypothesis =>
      have inside : position < stream.body.size := by omega
      rw [TokenStream.closeFrom, if_pos inside] at found
      rw [TokenStream.closeFrom.eq_def other, if_pos (Nat.lt_trans inside continues.size),
        continues.tokens position inside]
      dsimp only at found ⊢
      generalize (if (stream.tokenAt position).kind.isOpener = true then depth + 1
        else if (stream.tokenAt position).kind.isCloser = true then depth - 1
          else depth) = inner at found ⊢
      rw [if_neg (continues.endsOnce.kind_ne inside)] at found ⊢
      split at found
      · rename_i closed
        rw [if_pos closed]
        cases found
        exact ⟨rfl, inside⟩
      · rename_i opened
        rw [if_neg opened]
        exact inductionHypothesis found (by omega)

theorem kindAfterGroup? (continues : stream.Continues other) {holds : TokenKind → Bool}
    (halts : TokenKind.Halts holds) (within : stream.position + offset ≤ stream.body.size) :
    (other.kindAfterGroup? offset).map holds = (stream.kindAfterGroup? offset).map holds := by
  have same := continues.halts_tokenAt TokenKind.halts_isOpener within
  unfold TokenStream.kindAfterGroup? TokenStream.matchingClose?
  rw [continues.position, same]
  split
  · rename_i opener
    have closes := continues.groupsClose _ opener
    unfold TokenStream.matchingClose? at closes
    rw [if_pos opener] at closes
    rcases Option.isSome_iff_exists.mp closes with ⟨close, found⟩
    have there := continues.closeFrom found
    rw [found, there.1]
    exact congrArg some (continues.halts_tokenAt halts there.2)
  · rfl

/-! ## Questions -/

theorem isAtMark (continues : stream.Continues other)
    (inside : stream.position < stream.body.size) (mark : Punctuation) :
    other.isAtMark mark = stream.isAtMark mark :=
  congrArg (TokenKind.isMark mark) (continues.kind_eq inside)

theorem isAtKeyword (continues : stream.Continues other)
    (inside : stream.position < stream.body.size) (word : Keyword) :
    other.isAtKeyword word = stream.isAtKeyword word :=
  congrArg (TokenKind.isKeyword word) (continues.kind_eq inside)

theorem atEnd (continues : stream.Continues other)
    (inside : stream.position < stream.body.size) : other.atEnd = stream.atEnd :=
  congrArg (· == TokenKind.endOfFile) (continues.kind_eq inside)

theorem onSameLine (continues : stream.Continues other)
    (inside : stream.position < stream.body.size) : other.onSameLine = stream.onSameLine :=
  congrArg (fun token : Token => !token.hasNewlineBefore) (continues.current_eq inside)

theorem isAtDot (continues : stream.Continues other)
    (inside : stream.position < stream.body.size) {follower : TokenKind → Bool}
    (halts : TokenKind.Halts follower) : other.isAtDot follower = stream.isAtDot follower := by
  unfold TokenStream.isAtDot
  rw [continues.isAtMark inside, continues.halts_ahead halts inside]

theorem startsTemplateBody (continues : stream.Continues other)
    (within : stream.position + offset ≤ stream.body.size) :
    other.startsTemplateBody offset = stream.startsTemplateBody offset := by
  have colons := continues.halts_ahead (TokenKind.halts_isMark .colon) within
  unfold TokenStream.startsTemplateBody
  rw [continues.halts_ahead (TokenKind.halts_isMark .leftBrace) within, colons]
  cases colon : (stream.kindAhead offset).isMark .colon with
  | true =>
      have inside := inside_of_halts (TokenKind.halts_isMark .colon) colon
      rw [continues.halts_ahead TokenKind.halts_indent inside]
  | false => rfl

theorem fatArrowAfterParameters? (continues : stream.Continues other)
    (within : stream.position + offset ≤ stream.body.size) :
    other.fatArrowAfterParameters? offset = stream.fatArrowAfterParameters? offset := by
  have binders := continues.halts_ahead TokenKind.halts_isBinder within
  unfold TokenStream.fatArrowAfterParameters?
  dsimp only
  rw [continues.halts_ahead (TokenKind.halts_isMark .leftBrace) within, binders,
    continues.halts_ahead (TokenKind.halts_isMark .leftParen) within,
    continues.kindAfterGroup? (TokenKind.halts_isMark .fatArrow) within]
  cases binder : (stream.kindAhead offset).isBinder with
  | true =>
      have inside := inside_of_halts TokenKind.halts_isBinder binder
      rw [continues.halts_ahead (TokenKind.halts_isMark .fatArrow) inside]
  | false => rfl

theorem forLetAhead? (continues : stream.Continues other)
    (inside : stream.position < stream.body.size) :
    other.forLetAhead? = stream.forLetAhead? := by
  have halts := TokenKind.halts_or (TokenKind.halts_isMark .equals)
    (TokenKind.halts_isMark .colon)
  unfold TokenStream.forLetAhead?
  dsimp only
  rw [continues.halts_ahead TokenKind.halts_indent inside,
    continues.halts_ahead (TokenKind.halts_isMark .leftParen) inside,
    continues.kindAfterGroup? halts inside]

theorem prefixOperatorAt (continues : stream.Continues other)
    (within : stream.position + offset ≤ stream.body.size) :
    other.prefixOperatorAt offset = stream.prefixOperatorAt offset := by
  unfold TokenStream.prefixOperatorAt
  rw [continues.halts_ahead TokenKind.halts_isPrefixOperator within]
  cases operator : (stream.kindAhead offset).isPrefixOperator with
  | true =>
      have inside := inside_of_halts TokenKind.halts_isPrefixOperator operator
      rw [continues.halts_ahead TokenKind.halts_startsSimpleExpression inside]
  | false => rfl

theorem operandStartsAt (continues : stream.Continues other)
    (within : stream.position + offset ≤ stream.body.size) :
    other.operandStartsAt offset = stream.operandStartsAt offset := by
  unfold TokenStream.operandStartsAt
  rw [continues.halts_ahead (TokenKind.halts_isMark .colon) within,
    continues.halts_ahead TokenKind.halts_startsSimpleExpression within,
    continues.prefixOperatorAt within]
  split
  · rename_i colon
    have inside := inside_of_halts (TokenKind.halts_isMark .colon) colon
    rw [continues.fatArrowAfterParameters? inside]
  · rfl

/-- Modifiers count only in front of a definition keyword, and that stands before the
streams part. -/
theorem definitionStartsAt (continues : stream.Continues other)
    (inside : stream.position + offset < stream.body.size) :
    other.definitionStartsAt offset = stream.definitionStartsAt offset := by
  have walked := continues.modifiersAhead inside
  unfold TokenStream.definitionStartsAt
  rw [continues.kindAhead_eq inside, walked.1]
  dsimp only
  rw [continues.kindAhead_eq walked.2, continues.forLetAhead? (by omega)]

theorem atJoiningOperator (continues : stream.Continues other)
    (inside : stream.position < stream.body.size) {operand : TokenKind → Bool}
    (halts : TokenKind.Halts operand) :
    other.atJoiningOperator operand = stream.atJoiningOperator operand := by
  unfold TokenStream.atJoiningOperator
  rw [continues.kind_eq inside, continues.onSameLine inside,
    continues.halts_ahead halts inside]

theorem atInterpolator (continues : stream.Continues other)
    (inside : stream.position < stream.body.size) :
    other.atInterpolator = stream.atInterpolator := by
  have strings := TokenKind.halts_or TokenKind.halts_isPlainString
    TokenKind.halts_isStringStart
  have next : stream.position + 1 ≤ stream.body.size := inside
  have same := continues.halts_ahead strings next
  unfold TokenStream.atInterpolator
  rw [continues.kind_eq inside, same]
  cases found : (stream.kindAhead 1).isPlainString || (stream.kindAhead 1).isStringStart with
  | true => rw [continues.ahead_eq (inside_of_halts strings found)]
  | false => rw [Bool.and_false, Bool.and_false]

theorem atExpressionOperator (continues : stream.Continues other)
    (inside : stream.position < stream.body.size) :
    other.atExpressionOperator = stream.atExpressionOperator := by
  unfold TokenStream.atExpressionOperator
  rw [continues.kind_eq inside, continues.onSameLine inside, continues.atInterpolator inside]

theorem bodyGoesOn (continues : stream.Continues other)
    (inside : stream.position < stream.body.size) (previous : Option NodeKind) :
    other.bodyGoesOn previous = stream.bodyGoesOn previous := by
  have halts : TokenKind.Halts fun kind =>
      kind.startsItem && !(kind.startsDefinition || kind.isMark .atSign) := by
    refine TokenKind.halts_of_cases rfl rfl fun word starts => ?_
    show (_ && !(_ || _)) = false
    rw [starts, Bool.true_or, Bool.not_true, Bool.and_false]
  have next : stream.position + 1 ≤ stream.body.size := inside
  have same := continues.halts_ahead halts next
  unfold TokenStream.bodyGoesOn
  dsimp only at same ⊢
  rw [Bool.and_assoc, same, Bool.and_assoc]

/-- Ambiguities are settled alike. -/
theorem resolve (continues : stream.Continues other)
    (inside : stream.position < stream.body.size) (previous : Option NodeKind)
    (ambiguity : Ambiguity) :
    other.resolve previous ambiguity = stream.resolve previous ambiguity := by
  have arrows := TokenKind.halts_isMark .arrow
  cases ambiguity with
  | bindingOrExpression =>
      show other.bindingAhead? = stream.bindingAhead?
      unfold TokenStream.bindingAhead?
      rw [continues.kind_eq inside, continues.isAtMark inside,
        continues.halts_ahead arrows inside, continues.kindAfterGroup? arrows (by omega)]
  | tupleOrParameterTypes =>
      have here : stream.position + 0 ≤ stream.body.size := Nat.le_of_lt inside
      have groups := continues.kindAfterGroup? arrows here
      have negated := congrArg (Option.map (!·)) groups
      rw [Option.map_map, Option.map_map] at negated
      exact negated
  | whileHeader =>
      show other.groupedConditionAhead? = stream.groupedConditionAhead?
      have halts : TokenKind.Halts (TokenKind.isKeyword .doKw) := TokenKind.halts_isKeyword rfl
      have next : stream.position + 1 ≤ stream.body.size := inside
      have groups := continues.kindAfterGroup? halts next
      have negated := congrArg (Option.map (!·)) groups
      rw [Option.map_map, Option.map_map] at negated
      unfold TokenStream.groupedConditionAhead?
      rw [continues.halts_ahead (TokenKind.halts_isMark .leftParen) inside]
      split
      · exact negated
      · rfl
  | typeOrValuePath => exact congrArg some (continues.pathNamesType inside)
  | instanceBody => exact congrArg some (continues.startsTemplateBody (by omega))
  | moduleBody =>
      show some other.moduleBodyAhead = some stream.moduleBodyAhead
      unfold moduleBodyAhead
      rw [continues.kind_eq inside, continues.startsTemplateBody (by split <;> omega)]
  | colonCallOrAscription => exact continues.fatArrowAfterParameters? inside
  | caseBlockOrBlock =>
      exact congrArg some (continues.halts_ahead (TokenKind.halts_isKeyword rfl) inside)
  | forLetOrComprehension => exact continues.forLetAhead? inside
  | bodySequence => exact congrArg some (continues.bodyGoesOn inside previous)

/-! ## Where the streams part -/

/-- A separator there stands in front of a definition. -/
theorem starts_ahead (continues : stream.Continues other)
    (there : stream.position = stream.body.size) (separator : other.kind.isSeparator = true) :
    (other.kindAhead 1).startsDefinition = true := by
  have same : other.kind = (other.tokenAt stream.body.size).kind := by
    rw [← there, ← continues.position]
    rfl
  rcases continues.starts with starts | ⟨_, starts⟩
  · rw [← same] at starts
    generalize other.kind = kind at starts separator
    cases kind <;> first | cases starts | cases separator
  · unfold TokenStream.kindAhead TokenStream.ahead
    rw [continues.position, there]
    exact starts

/-- Neither a module nor the last item of a body goes on there. -/
theorem moduleBodyAhead_eq_false (continues : stream.Continues other)
    (there : stream.position = stream.body.size) :
    stream.moduleBodyAhead = false ∧ other.moduleBodyAhead = false := by
  have asks : ∀ (stream : TokenStream) (offset : Nat), (stream.kindAhead offset).Follows →
      stream.startsTemplateBody offset = false := by
    intro stream offset follows
    unfold TokenStream.startsTemplateBody
    rw [TokenKind.halts_isMark .leftBrace _ follows, TokenKind.halts_isMark .colon _ follows]
    rfl
  have follows := continues.kind_follows there
  refine ⟨?_, ?_⟩
  · have none : stream.kind.isSeparator = false := by
      rw [stream.kind_ended there]
      rfl
    unfold moduleBodyAhead
    rw [none]
    exact asks stream 0 follows.1
  · unfold moduleBodyAhead
    split
    · rename_i separator
      exact asks other 1 (.inr (.inr (continues.starts_ahead there separator)))
    · exact asks other 0 follows.2

theorem bodyGoesOn_eq_false (continues : stream.Continues other)
    (there : stream.position = stream.body.size) (separator : other.kind.isSeparator = true)
    (previous : Option NodeKind) : other.bodyGoesOn previous = false := by
  unfold TokenStream.bodyGoesOn
  dsimp only
  rw [continues.starts_ahead there separator, Bool.true_or, Bool.not_true, Bool.and_false]

end Continues
end TokenStream
end Offside
