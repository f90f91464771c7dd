import Offside.Proofs.Parsing.Contract

namespace Offside

/-!
# Neutral rules

A rule is neutral when it closes exactly what it opens.  Nearly every rule of the
grammar is: what it takes by itself are plain tokens, and where it takes an opening
token it goes on to take the closing one.  The part in between is the only place
where a rule is not neutral, so there are rules that close one delimiter which was
opened in front of them.

Many rules are only used behind a question about the tokens ahead, and are neutral
only there.  So what is said of a rule has a test of the stream on either side.
A rule that leaves the loop around it leaves it with everything closed that was
opened in the same round.
-/

/-! ## Plain tokens -/

namespace TokenKind

variable {kind : TokenKind}

theorem isInert_of_isPlain (plain : kind.isPlain = true) : kind.isInert = true :=
  (Bool.and_eq_true_iff.mp (Bool.and_eq_true_iff.mp plain).1).1

theorem isError_of_isPlain (plain : kind.isPlain = true) : kind.isError = false := by
  have sound := (Bool.and_eq_true_iff.mp (Bool.and_eq_true_iff.mp plain).1).2
  simpa using sound

theorem ne_endOfFile_of_isPlain (plain : kind.isPlain = true) : kind ≠ .endOfFile := by
  simpa using (Bool.and_eq_true_iff.mp plain).2

theorem eq_of_isKeyword {word : Keyword} (found : kind.isKeyword word = true) :
    kind = .keyword word :=
  beq_iff_eq.mp found

theorem eq_of_isMark {mark : Punctuation} (found : kind.isMark mark = true) :
    kind = .punctuation mark :=
  beq_iff_eq.mp found

theorem isPlain_of_isKeyword {word : Keyword} (found : kind.isKeyword word = true) :
    kind.isPlain = true := by
  rw [eq_of_isKeyword found]
  rfl

theorem isPlain_of_isIdentifier (found : kind.isIdentifier = true) : kind.isPlain = true := by
  cases kind <;> first | rfl | cases found

theorem isPlain_of_isOperator (found : kind.isOperator = true) : kind.isPlain = true := by
  cases kind <;> first | rfl | cases found

theorem isPlain_of_isName (found : kind.isName = true) : kind.isPlain = true := by
  rcases Bool.or_eq_true_iff.mp found with identifier | operator
  · exact isPlain_of_isIdentifier identifier
  · exact isPlain_of_isOperator operator

theorem isPlain_of_isModifier (found : kind.isModifier = true) : kind.isPlain = true := by
  cases kind <;> first | rfl | cases found

theorem isPlain_of_isSeparator (found : kind.isSeparator = true) : kind.isPlain = true := by
  cases kind with
  | punctuation mark => cases mark <;> first | rfl | cases found
  | autoSemicolon => rfl
  | _ => cases found

theorem isPlain_of_isStringMiddle (found : kind.isStringMiddle = true) :
    kind.isPlain = true := by
  cases kind <;> first | rfl | cases found

theorem isPlain_of_isPlainString (found : kind.isPlainString = true) :
    kind.isPlain = true := by
  cases kind <;> first | rfl | cases found

theorem isPlain_of_isPlainLiteral (found : kind.isPlainLiteral = true) :
    kind.isPlain = true := by
  cases kind <;> first | rfl | cases found

theorem isPlain_of_isBoolean (found : kind.isBoolean = true) : kind.isPlain = true := by
  rcases Bool.or_eq_true_iff.mp found with yes | no
  · exact isPlain_of_isKeyword yes
  · exact isPlain_of_isKeyword no

theorem isPlain_of_isLiteral (found : kind.isLiteral = true) : kind.isPlain = true := by
  rcases Bool.or_eq_true_iff.mp found with literal | null
  · rcases Bool.or_eq_true_iff.mp literal with plain | boolean
    · exact isPlain_of_isPlainLiteral plain
    · exact isPlain_of_isBoolean boolean
  · exact isPlain_of_isKeyword null

end TokenKind

namespace TokenStream

theorem atEnd_eq_false_iff {stream : TokenStream} :
    stream.atEnd = false ↔ stream.kind ≠ .endOfFile := by
  unfold atEnd
  exact beq_eq_false_iff_ne

/-- Taking a token brings the next one to the front. -/
theorem kind_advance {stream : TokenStream} (before : stream.atEnd = false) :
    stream.advance.kind = stream.kindAhead 1 := by
  rw [advance_eq_moveTo before]
  rfl

theorem length_left_advance_lt {stream : TokenStream} (before : stream.atEnd = false) :
    stream.advance.left.length < stream.left.length := by
  rw [left_eq_cons before]
  exact Nat.lt_succ_self _

/-- The test that every stream passes. -/
def Anywhere : TokenStream → Prop := fun _ => True

end TokenStream

/-- Where the test is passed, the current token is plain. -/
def FindsPlain (test : TokenStream → Prop) : Prop :=
  ∀ stream, test stream → stream.kind.isPlain = true

namespace FindsPlain

theorem keyword {word : Keyword} : FindsPlain ((Condition.atKeyword word).Shows true) :=
  fun _ => TokenKind.isPlain_of_isKeyword

theorem mark {mark : Punctuation} (plain : (TokenKind.punctuation mark).isPlain = true) :
    FindsPlain ((Condition.atMark mark).Shows true) := by
  intro stream shown
  rw [TokenKind.eq_of_isMark shown]
  exact plain

theorem marks {marks : List Punctuation}
    (plain : ∀ mark ∈ marks, (TokenKind.punctuation mark).isPlain = true) :
    FindsPlain ((Condition.atMarks marks).Shows true) := by
  intro stream shown
  rcases List.any_eq_true.mp shown with ⟨mark, member, found⟩
  rw [TokenKind.eq_of_isMark found]
  exact plain mark member

theorem kind {holds : TokenKind → Bool}
    (plain : ∀ {kind : TokenKind}, holds kind = true → kind.isPlain = true) :
    FindsPlain ((Condition.atKind holds).Shows true) :=
  fun _ => plain

/-- A dot with a name or a bracket behind it is plain whatever follows. -/
theorem dot {follower : TokenKind → Bool} :
    FindsPlain ((Condition.ahead fun stream => stream.isAtDot follower).Shows true) := by
  intro stream shown
  rw [TokenKind.eq_of_isMark (Bool.and_eq_true_iff.mp shown).1]
  rfl

theorem left {first second : TokenStream → Prop} (plain : FindsPlain first) :
    FindsPlain fun stream => first stream ∧ second stream :=
  fun stream passed => plain stream passed.1

theorem right {first second : TokenStream → Prop} (plain : FindsPlain second) :
    FindsPlain fun stream => first stream ∧ second stream :=
  fun stream passed => plain stream passed.2

end FindsPlain

namespace Rule

open Assertion TokenStream

/-! ## Keeping the delimiters that are open -/

/-- The rule leaves the open delimiters as they are.  In front of it the stream
passes one test and behind it another one; if the rule leaves the loop around it,
then as `leaves` says. -/
def Keeps (leaves : List Delimiter → Assertion) (before after : TokenStream → Prop)
    (rule : Rule) : Prop :=
  ∀ stack, rule.Contract (levelWhen before stack) (levelWhen after stack) (leaves stack)

/-- The rule is neutral where the stream passes a test. -/
abbrev NeutralWhen (test : TokenStream → Prop) (rule : Rule) : Prop :=
  Keeps (fun _ => never) test Anywhere rule

/-- The rule closes what it opens and leaves no loop around it. -/
abbrev Neutral (rule : Rule) : Prop := NeutralWhen Anywhere rule

/-- The rule closes what it opens, whether it is done or leaves the loop around it. -/
abbrev Round (rule : Rule) : Prop := Keeps level Anywhere Anywhere rule

/-- Where the stream passes a test, the rule opens one delimiter. -/
def Opens (delimiter : Delimiter) (before : TokenStream → Prop) (rule : Rule) : Prop :=
  ∀ stack, rule.Contract (levelWhen before stack) (level (delimiter :: stack)) never

/-- The rule closes one delimiter that was opened in front of it. -/
def Closes (delimiter : Delimiter) (rule : Rule) : Prop :=
  ∀ stack, rule.Contract (level (delimiter :: stack)) (level stack) never

variable {leaves : List Delimiter → Assertion} {before middle after : TokenStream → Prop}
  {rule first second : Rule} {condition : Condition} {delimiter : Delimiter}

namespace Keeps

theorem weaken {before' after' : TokenStream → Prop} (keeps : Keeps leaves before after rule)
    (need : ∀ stream, before' stream → before stream)
    (done : ∀ stream, after stream → after' stream) : Keeps leaves before' after' rule :=
  fun stack => (keeps stack).weaken (fun _ _ holds => ⟨holds.1, need _ holds.2⟩)
    (fun _ _ holds => ⟨holds.1, done _ holds.2⟩) (fun _ _ => id)

theorem mono {before' : TokenStream → Prop} (keeps : Keeps leaves before after rule)
    (need : ∀ stream, before' stream → before stream) : Keeps leaves before' after rule :=
  keeps.weaken need fun _ => id

/-- Only the open delimiters matter. -/
theorem forget (keeps : Keeps leaves Anywhere after rule) : Keeps leaves before after rule :=
  keeps.mono fun _ _ => True.intro

/-- A rule that leaves no loop may stand in any loop. -/
theorem ofWhen (neutral : NeutralWhen before rule) : Keeps leaves before Anywhere rule :=
  fun stack => (neutral stack).weaken (fun _ _ => id) (fun _ _ => id)
    fun _ _ impossible => False.elim impossible

/-- A neutral rule may stand anywhere. -/
theorem of (neutral : Neutral rule) : Keeps leaves before Anywhere rule :=
  (ofWhen neutral).forget

/-! ## One lemma for each form of rule -/

theorem done : Keeps leaves before before Rule.done :=
  fun _ => Contract.done

theorem skip : Keeps leaves before Anywhere Rule.done :=
  done.weaken (fun _ => id) fun _ _ => True.intro

/-- Two rules of which the second relies on where the first has led. -/
theorem seqWhen (one : Keeps leaves before middle first)
    (two : Keeps leaves middle after second) :
    Keeps leaves before after (Rule.seq first second) :=
  fun stack => .seq (one stack) (two stack)

/-- The usual sequence: the second rule relies on nothing. -/
theorem seq (one : Keeps leaves before Anywhere first)
    (two : Keeps leaves Anywhere after second) :
    Keeps leaves before after (Rule.seq first second) :=
  seqWhen one two

/-- Behind a plain token the stream has moved on by one. -/
theorem takeTo (plain : FindsPlain before)
    (ahead : ∀ stream, before stream → stream.atEnd = false → after stream.advance) :
    Keeps leaves before after Rule.take := by
  intro stack
  refine .take fun stream opened holds => ?_
  have found := plain stream holds.2
  have inside := atEnd_eq_false_iff.mpr (TokenKind.ne_endOfFile_of_isPlain found)
  refine ⟨inside, TokenKind.isError_of_isPlain found, opened, ?_, holds.1, ?_⟩
  · exact Nesting.step_of_inert _ (TokenKind.isInert_of_isPlain found)
  · exact ahead stream holds.2 inside

theorem take (plain : FindsPlain before) : Keeps leaves before Anywhere Rule.take :=
  takeTo plain fun _ _ _ => True.intro

theorem call (nonterminal : Nonterminal) :
    Keeps leaves before Anywhere (Rule.call nonterminal) :=
  fun stack => (Contract.call nonterminal stack).weaken (fun _ _ holds => holds.1)
    (fun _ _ same => ⟨same, True.intro⟩) (fun _ _ => id)

theorem node {part : Option FieldName} {kind : NodeKind}
    (keeps : Keeps leaves before after rule) :
    Keeps leaves before after (Rule.node part kind rule) :=
  fun stack => .node part (keeps stack)

theorem become {kind : NodeKind} : Keeps leaves before before (Rule.become kind) :=
  fun _ => .become kind

theorem nameFirst {part : FieldName} : Keeps leaves before before (Rule.nameFirst part) :=
  fun _ => .nameFirst part

theorem wrap {kind : NodeKind} : Keeps leaves before before (Rule.wrap kind) :=
  fun _ => .wrap kind

/-- A choice between two rules that rely on what was known before. -/
theorem chooseWhen
    (whenHeld : Keeps leaves (fun stream => before stream ∧ condition.Shows true stream)
      after first)
    (otherwise : Keeps leaves (fun stream => before stream ∧ condition.Shows false stream)
      after second) :
    Keeps leaves before after (Rule.choose condition first second) := by
  intro stack
  refine .choose ((whenHeld stack).weaken ?_ (fun _ _ => id) (fun _ _ => id))
    ((otherwise stack).weaken ?_ (fun _ _ => id) (fun _ _ => id))
  · exact fun _ _ holds => ⟨holds.1.1, holds.1.2, holds.2⟩
  · exact fun _ _ holds => ⟨holds.1.1, holds.1.2, holds.2⟩

/-- The usual choice: the first rule relies on the condition alone. -/
theorem choose (whenHeld : Keeps leaves (condition.Shows true) after first)
    (otherwise : Keeps leaves before after second) :
    Keeps leaves before after (Rule.choose condition first second) :=
  chooseWhen (whenHeld.mono fun _ shown => shown.2) (otherwise.mono fun _ shown => shown.1)

theorem settle {ambiguity : Ambiguity}
    (settles : ∀ stream previous, before stream → stream.GroupsClose →
      (stream.resolve previous ambiguity).isSome = true)
    (either : Keeps leaves before after first) (or : Keeps leaves before after second) :
    Keeps leaves before after (Rule.settle ambiguity first second) :=
  fun stack => .settle (fun _ _ previous holds => settles _ previous holds.2)
    (either stack) (or stack)

/-- Most ambiguities are settled wherever the groups of the stream are closed. -/
theorem settleAnywhere {ambiguity : Ambiguity} (other : ambiguity ≠ .tupleOrParameterTypes)
    (either : Keeps leaves before after first) (or : Keeps leaves before after second) :
    Keeps leaves before after (Rule.settle ambiguity first second) :=
  .settle (fun _ previous _ close => close.resolve_isSome previous ambiguity
    fun same => absurd same other) either or

/-- A loop whose rounds hand on what they rely on. -/
theorem loopWhile (round : Keeps level before before rule) :
    Keeps leaves before Anywhere (Rule.loop rule) := by
  intro stack
  have loops : (Rule.loop rule).Contract (levelWhen before stack) (level stack)
      (leaves stack) := .loop (round stack) fun _ _ holds => holds.1
  exact loops.weaken (fun _ _ => id) (fun _ _ same => ⟨same, True.intro⟩) (fun _ _ => id)

/-- A loop of rounds is neutral. -/
theorem loop (round : Round rule) : Keeps leaves before Anywhere (Rule.loop rule) :=
  (loopWhile round).forget

theorem leave : Keeps level before after Rule.leave :=
  fun _ => Contract.leave.weaken (fun _ _ => id) (fun _ _ => id) (fun _ _ holds => holds.1)

theorem nested (keeps : Keeps leaves before after rule) :
    Keeps leaves before after (Rule.nested rule) :=
  fun stack => .nested (keeps stack)

theorem chain (keeps : Keeps leaves before after rule) :
    Keeps leaves before after (Rule.chain rule) :=
  fun stack => .chain (keeps stack)

theorem link : Keeps leaves before before Rule.link :=
  fun _ => Contract.link

theorem withBraces {allowed : Bool} (keeps : Keeps leaves before after rule) :
    Keeps leaves before after (Rule.withBraces allowed rule) :=
  fun stack => .withBraces allowed (keeps stack)

theorem recover (keeps : Keeps leaves before Anywhere rule)
    (inside : ∀ stream, before stream → stream.atEnd = false) :
    Keeps leaves before Anywhere (Rule.recover rule) :=
  fun stack => .recover (keeps stack) (fun _ _ holds => inside _ holds.2)
    fun _ _ _ holds => ⟨holds.1, True.intro⟩

theorem reject {expected : List String}
    (inside : ∀ stream, before stream → stream.atEnd = false) :
    Keeps leaves before Anywhere (Rule.reject expected) :=
  fun _ => .reject expected (fun _ _ holds => inside _ holds.2)
    fun _ _ _ holds => ⟨holds.1, True.intro⟩

theorem fail {expected : List String} : Keeps leaves before after (Rule.fail expected) :=
  fun _ => .fail expected

theorem failMissing {kind : NodeKind} {part : FieldName} :
    Keeps leaves before after (Rule.failMissing kind part) :=
  fun _ => .failMissing kind part

end Keeps

/-! ## Opening and closing -/

namespace Opens

/-- A token that opens a delimiter. -/
theorem take (opens : ∀ stream, before stream →
      stream.kind.opens?.map Delimiter.loosen = some delimiter) :
    Opens delimiter before Rule.take := by
  intro stack
  refine .take fun stream opened holds => ?_
  rcases Option.map_eq_some_iff.mp (opens stream holds.2) with ⟨exactly, found, loosened⟩
  refine ⟨?_, ?_, exactly.loosen :: opened, Nesting.step_of_opens _ found, ?_⟩
  · rw [atEnd_eq_false_iff]
    intro ended
    rw [ended] at found
    cases found
  · generalize stream.kind = kind at found
    cases kind <;> first | rfl | cases found
  · rw [loosened, holds.1]
    rfl

/-- A token that has to be there and opens a delimiter. -/
theorem choose {expected : List String} (opens : ∀ stream, condition.Shows true stream →
      stream.kind.opens?.map Delimiter.loosen = some delimiter) :
    Opens delimiter before (Rule.choose condition Rule.take (fail expected)) := by
  intro stack
  refine .choose ((take opens stack).weaken ?_ (fun _ _ => id) (fun _ _ => id))
    (.fail expected)
  exact fun _ _ holds => ⟨holds.1.1, holds.2⟩

end Opens

namespace Closes

/-- What stands between an opening and a closing token is neutral. -/
theorem pass (neutral : Neutral first) (rest : Closes delimiter second) :
    Closes delimiter (Rule.seq first second) := by
  intro stack
  have inside : first.Contract (level (delimiter :: stack)) (level (delimiter :: stack))
      never :=
    (neutral _).weaken (fun _ _ same => ⟨same, True.intro⟩) (fun _ _ holds => holds.1)
      fun _ _ => id
  exact .seq inside (rest stack)

/-- What stands behind the closing token is neutral as well. -/
theorem andThen (closes : Closes delimiter first) (neutral : Neutral second) :
    Closes delimiter (Rule.seq first second) := by
  intro stack
  have behind : second.Contract (level stack) (level stack) never :=
    (neutral _).weaken (fun _ _ same => ⟨same, True.intro⟩) (fun _ _ holds => holds.1)
      fun _ _ => id
  exact .seq (closes stack) behind

/-- A token that closes a delimiter. -/
theorem take {stack : List Delimiter} (closes : ∀ stream, before stream →
      stream.kind.closes?.map Delimiter.loosen = some delimiter) :
    Rule.take.Contract (levelWhen before (delimiter :: stack)) (level stack) never := by
  refine .take fun stream opened holds => ?_
  rcases Option.map_eq_some_iff.mp (closes stream holds.2) with ⟨exactly, found, loosened⟩
  refine ⟨?_, ?_, stack, ?_, rfl⟩
  · rw [atEnd_eq_false_iff]
    intro ended
    rw [ended] at found
    cases found
  · generalize stream.kind = kind at found
    cases kind <;> first | rfl | cases found
  · rw [holds.1, ← loosened]
    exact Nesting.step_of_closes Nesting.loose stack found

/-- A token that has to be there and closes a delimiter. -/
theorem choose {expected : List String} (closes : ∀ stream, condition.Shows true stream →
      stream.kind.closes?.map Delimiter.loosen = some delimiter) :
    Closes delimiter (Rule.choose condition Rule.take (fail expected)) :=
  fun _ => .choose (take closes) (.fail expected)

end Closes

/-- What opens a delimiter and then closes it is neutral. -/
theorem Keeps.opened (opens : Opens delimiter before first)
    (closes : Closes delimiter second) :
    Keeps leaves before Anywhere (Rule.seq first second) := by
  refine .ofWhen fun stack => .seq (opens stack) ?_
  exact (closes stack).weaken (fun _ _ => id) (fun _ _ same => ⟨same, True.intro⟩)
    fun _ _ => id

end Rule
end Offside
