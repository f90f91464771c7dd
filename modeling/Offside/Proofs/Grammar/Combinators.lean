import Offside.Proofs.Grammar.Neutral

namespace Offside
namespace Rule

open Assertion TokenStream

/-!
# Neutral parts of the grammar

The parts from which the rules of the grammar are composed: single tokens, lists,
pairs of brackets, names, literals and strings.  A string with splices is the one
place where a rule has to make progress in order to be neutral.  Its loop must not
run out of rounds in front of the closing marks, so each round has to take a token.
-/

variable {leaves : List Delimiter → Assertion} {before middle after : TokenStream → Prop}
  {rule first second item : Rule} {condition separator ended : Condition}
  {closer : Punctuation}

namespace Keeps

/-! ## Choices and single tokens -/

/-- One of several rules, each behind its own condition. -/
theorem cases {alternatives : List (Condition × Rule)} {otherwise : Rule}
    (each : ∀ alternative ∈ alternatives,
      Keeps leaves (alternative.1.Shows true) after alternative.2)
    (last : Keeps leaves before after otherwise) :
    Keeps leaves before after (Rule.cases alternatives otherwise) := by
  induction alternatives with
  | nil => exact last
  | cons alternative rest inductionHypothesis =>
      rw [List.forall_mem_cons] at each
      exact .choose each.1 (inductionHypothesis each.2)

theorem optional (keeps : Keeps leaves (condition.Shows true) Anywhere rule) :
    Keeps leaves before Anywhere (Rule.optional condition rule) :=
  .choose keeps .skip

theorem whenever (keeps : Keeps level (condition.Shows true) Anywhere rule) :
    Keeps leaves before Anywhere (Rule.whenever condition rule) :=
  .loop (.choose keeps .leave)

/-- Where the loop goes on, the condition for leaving it does not hold. -/
theorem leaveIfWhen : Keeps level before
    (fun stream => before stream ∧ condition.Shows false stream) (Rule.leaveIf condition) :=
  .chooseWhen .leave .done

theorem leaveIf : Keeps level before Anywhere (Rule.leaveIf condition) :=
  .choose .leave .skip

theorem takeOrLeave (plain : FindsPlain (condition.Shows true)) :
    Keeps level before Anywhere (Rule.takeOrLeave condition) :=
  .choose (.take plain) .leave

theorem keyword {word : Keyword} : Keeps leaves before Anywhere (Rule.keyword word) :=
  .choose (.take .keyword) .fail

theorem mark {mark : Punctuation} (plain : (TokenKind.punctuation mark).isPlain = true) :
    Keeps leaves before Anywhere (Rule.mark mark) :=
  .choose (.take (.mark plain)) .fail

/-- A mark that is known to be there, and what follows it. -/
theorem markThen {mark : Punctuation} (plain : (TokenKind.punctuation mark).isPlain = true)
    (rest : Keeps leaves Anywhere Anywhere rule) :
    Keeps leaves ((Condition.atMark mark).Shows true) Anywhere (inOrder [Rule.take, rule]) :=
  .seq (.take (.mark plain)) (.seq rest .done)

theorem separators : Keeps leaves before Anywhere Rule.separators :=
  .whenever (.take (.kind TokenKind.isPlain_of_isSeparator))

/-! ## Lists -/

theorem listUntil (separates : FindsPlain (separator.Shows true)) (one : Neutral item) :
    Keeps leaves before Anywhere (Rule.listUntil closer separator item) :=
  .loop (.seq .leaveIf (.seq (.of one) (.seq (.takeOrLeave separates) .done)))

theorem commaList (one : Neutral item) :
    Keeps leaves before Anywhere (Rule.commaList closer item) :=
  .listUntil (.mark rfl) one

theorem commaListOne (one : Neutral item) :
    Keeps leaves before Anywhere (Rule.commaListOne ended item) := by
  refine .loop (.seq (.of one) (.seq (.takeOrLeave (.mark rfl)) (.seq .leaveIf ?_)))
  exact .skip

/-! ## Names and literals -/

theorem leaf {kind : NodeKind} (plain : FindsPlain before) :
    Keeps leaves before Anywhere (Rule.leaf kind) :=
  .node (.take plain)

theorem leafTo {kind : NodeKind} (plain : FindsPlain before)
    (ahead : ∀ stream, before stream → stream.atEnd = false → after stream.advance) :
    Keeps leaves before after (Rule.leaf kind) :=
  .node (.takeTo plain ahead)

/-- Behind an identifier the stream has moved on by one. -/
theorem identifierTo
    (ahead : ∀ stream, before stream → stream.atEnd = false → after stream.advance) :
    Keeps leaves before after Rule.identifier := by
  refine .chooseWhen (.leafTo ?_ fun stream passed => ahead stream passed.1) .fail
  exact .right (.kind TokenKind.isPlain_of_isIdentifier)

theorem identifier : Keeps leaves before Anywhere Rule.identifier :=
  .choose (.leaf (.kind TokenKind.isPlain_of_isIdentifier)) .fail

/-- Behind a name the stream has moved on by one. -/
theorem nameTo {role : String}
    (ahead : ∀ stream, before stream → stream.atEnd = false → after stream.advance) :
    Keeps leaves before after (Rule.name role) := by
  refine .chooseWhen (.leafTo ?_ fun stream passed => ahead stream passed.1) ?_
  · exact .right (.kind TokenKind.isPlain_of_isIdentifier)
  · refine .chooseWhen (.leafTo ?_ fun stream passed => ahead stream passed.1.1) .fail
    exact .right (.kind TokenKind.isPlain_of_isOperator)

theorem name {role : String} : Keeps leaves before Anywhere (Rule.name role) :=
  .choose (.leaf (.kind TokenKind.isPlain_of_isIdentifier))
    (.choose (.leaf (.kind TokenKind.isPlain_of_isOperator)) .fail)

theorem binder : Keeps leaves before Anywhere Rule.binder :=
  .choose (.leaf (.mark rfl)) .name

/-- A literal is a single token, whichever it is. -/
theorem literal (plain : FindsPlain before) :
    Keeps leaves before Anywhere Rule.literal := by
  refine .chooseWhen (.leaf (.left plain)) ?_
  refine .chooseWhen (.leaf (.left (.left plain))) ?_
  refine .chooseWhen (.leaf (.left (.left (.left plain)))) ?_
  refine .chooseWhen (.leaf (.left (.left (.left (.left plain))))) ?_
  refine .chooseWhen (.leaf (.left (.left (.left (.left (.left plain)))))) ?_
  exact .leaf (.left (.left (.left (.left (.left plain)))))

end Keeps

/-! ## Brackets and blocks -/

theorem opens_of_bracket (bracket : Bracket) {stream : TokenStream}
    (found : stream.isAtMark bracket.mark = true) :
    stream.kind.opens?.map Delimiter.loosen = some (.group bracket.closer) := by
  rw [TokenKind.eq_of_isMark found]
  cases bracket <;> rfl

theorem closes_of_bracket (closer : ClosingBracket) {stream : TokenStream}
    (found : stream.isAtMark closer.mark = true) :
    stream.kind.closes?.map Delimiter.loosen = some (.group closer) := by
  rw [TokenKind.eq_of_isMark found]
  cases closer <;> rfl

theorem Opens.mark (bracket : Bracket) :
    Opens (.group bracket.closer) before (Rule.mark bracket.mark) :=
  .choose fun _ => opens_of_bracket bracket

/-- A bracket whose mark is known to be there. -/
theorem Opens.takeMark (bracket : Bracket)
    (found : ∀ stream, before stream → stream.isAtMark bracket.mark = true) :
    Opens (.group bracket.closer) before Rule.take :=
  .take fun stream passed => opens_of_bracket bracket (found stream passed)

theorem Opens.indent : Opens .block before Rule.indent := by
  refine .choose fun stream shown => ?_
  rw [show stream.kind = .indent from beq_iff_eq.mp shown]
  rfl

theorem Closes.mark (closer : ClosingBracket) :
    Closes (.group closer) (Rule.mark closer.mark) :=
  .choose fun _ => closes_of_bracket closer

theorem Closes.outdent : Closes .block Rule.outdent := by
  refine .choose fun stream shown => ?_
  rw [show stream.kind = .outdent from beq_iff_eq.mp shown]
  rfl

/-- The closing bracket at the end of a rule. -/
theorem Closes.last (closer : ClosingBracket) :
    Closes (.group closer) (Rule.seq (Rule.mark closer.mark) Rule.done) :=
  (Closes.mark closer).andThen .skip

/-- Something neutral between brackets. -/
theorem Keeps.enclosed (bracket : Bracket) (inside : Neutral rule) :
    Keeps leaves before Anywhere
      (inOrder [Rule.mark bracket.mark, rule, Rule.mark bracket.closer.mark]) :=
  .opened (.mark bracket) (.pass inside (.last bracket.closer))

/-- Something neutral in an indented block. -/
theorem Keeps.indented (inside : Neutral rule) :
    Keeps leaves before Anywhere (inOrder [Rule.indent, rule, Rule.outdent]) :=
  .opened .indent (.pass inside (Closes.outdent.andThen .skip))

/-- Two brackets with nothing between them, which are known to be there. -/
theorem Keeps.unit (found : ∀ stream, before stream → stream.isAtMark .leftParen = true)
    (ahead : ∀ stream, before stream → stream.kindAhead 1 = .punctuation .rightParen) :
    Keeps leaves before Anywhere Rule.unit := by
  refine .node (.ofWhen fun stack => ?_)
  have opens : Rule.take.Contract (levelWhen before stack)
      (levelWhen (fun stream => stream.kind = .punctuation .rightParen)
        (.group .round :: stack)) never := by
    refine .take fun stream opened holds => ?_
    have kind : stream.kind = .punctuation .leftParen :=
      TokenKind.eq_of_isMark (found stream holds.2)
    have inside : stream.atEnd = false := by
      rw [atEnd_eq_false_iff, kind]
      exact nofun
    have behind : stream.advance.kind = .punctuation .rightParen := by
      rw [kind_advance inside]
      exact ahead stream holds.2
    rw [kind, holds.1]
    exact ⟨inside, rfl, .group .round :: stack, rfl, rfl, behind⟩
  have closes : Rule.take.Contract
      (levelWhen (fun stream => stream.kind = .punctuation .rightParen)
        (.group .round :: stack)) (level stack) never := by
    refine Closes.take fun stream kind => ?_
    rw [kind]
    rfl
  refine .seq opens (.seq closes (Contract.done.weaken (fun _ _ => id) ?_ fun _ _ => id))
  exact fun _ _ same => ⟨same, True.intro⟩

/-! ## Rules that take a token -/

/-- Where it is done, the rule is neutral and has taken at least one token. -/
def Takes (before : TokenStream → Prop) (rule : Rule) : Prop :=
  ∀ stack bound, rule.Contract ((levelWhen before stack).within bound)
    (fun stream opened => opened = stack ∧ stream.left.length < bound) never

namespace Takes

/-- Taking a token is only more than being neutral. -/
theorem neutral (takes : Takes Anywhere rule) : Neutral rule := by
  intro stack builds call neutralCalls surroundings progress opened holds
  have meets := takes stack progress.stream.left.length builds call neutralCalls surroundings
    progress opened ⟨holds, Nat.le_refl _⟩
  exact meets.weaken (fun _ _ same => ⟨same.1, True.intro⟩) fun _ _ => id

theorem take (plain : FindsPlain before) : Takes before Rule.take := by
  intro stack bound
  refine .take fun stream opened holds => ?_
  have found := plain stream holds.1.2
  have inside := atEnd_eq_false_iff.mpr (TokenKind.ne_endOfFile_of_isPlain found)
  refine ⟨inside, TokenKind.isError_of_isPlain found, opened, ?_, holds.1.1, ?_⟩
  · exact Nesting.step_of_inert _ (TokenKind.isInert_of_isPlain found)
  · exact Nat.lt_of_lt_of_le (length_left_advance_lt inside) holds.2

/-- A rule that takes a token, and one that may take none. -/
theorem andThen (takes : Takes before first) (keeps : Neutral second) :
    Takes before (Rule.seq first second) := by
  intro stack bound builds call neutralCalls surroundings progress opened holds
  rcases Bool.and_eq_true_iff.mp builds with ⟨buildsFirst, buildsSecond⟩
  refine Outcome.Meets.andThen (takes stack bound buildsFirst call neutralCalls surroundings
    progress opened holds) fun inner stackThere reached => ?_
  have rest := (keeps stack).within (bound - 1) buildsSecond call neutralCalls surroundings inner
    stackThere ⟨⟨reached.1, True.intro⟩, by have := reached.2; omega⟩
  refine rest.weaken (fun _ _ ensured => ⟨ensured.1.1, ?_⟩) fun _ _ impossible => impossible.1
  have := ensured.2
  have := reached.2
  omega

/-- A rule that may take no token, and one that takes one. -/
theorem pass (keeps : Keeps (fun _ => never) before after first)
    (takes : Takes after second) : Takes before (Rule.seq first second) := by
  intro stack bound
  have inFront := (keeps stack).within bound
  exact .seq (inFront.weaken (fun _ _ => id) (fun _ _ => id) fun _ _ holds => holds.1)
    (takes stack bound)

theorem choose (whenHeld : Takes (condition.Shows true) first)
    (otherwise : Takes before second) : Takes before (Rule.choose condition first second) := by
  intro stack bound
  refine .choose (((whenHeld stack bound)).weaken ?_ (fun _ _ => id) (fun _ _ => id))
    ((otherwise stack bound).weaken ?_ (fun _ _ => id) (fun _ _ => id))
  · exact fun _ _ holds => ⟨⟨holds.1.1.1, holds.2⟩, holds.1.2⟩
  · exact fun _ _ holds => holds.1

theorem cases {alternatives : List (Condition × Rule)} {otherwise : Rule}
    (each : ∀ alternative ∈ alternatives, Takes (alternative.1.Shows true) alternative.2)
    (last : Takes before otherwise) : Takes before (Rule.cases alternatives otherwise) := by
  induction alternatives with
  | nil => exact last
  | cons alternative rest inductionHypothesis =>
      rw [List.forall_mem_cons] at each
      exact .choose each.1 (inductionHypothesis each.2)

theorem fail {expected : List String} : Takes before (Rule.fail expected) :=
  fun _ _ => .fail expected

theorem node {part : Option FieldName} {kind : NodeKind} (takes : Takes before rule) :
    Takes before (Rule.node part kind rule) :=
  fun stack bound => .node part (takes stack bound)

theorem nested (takes : Takes before rule) : Takes before (Rule.nested rule) :=
  fun stack bound => .nested (takes stack bound)

theorem keyword {word : Keyword} : Takes before (Rule.keyword word) :=
  .choose (.take .keyword) .fail

theorem mark {mark : Punctuation} (plain : (TokenKind.punctuation mark).isPlain = true) :
    Takes before (Rule.mark mark) :=
  .choose (.take (.mark plain)) .fail

end Takes

/-! ## Strings with splices -/

/-- A splice begins with a token of its own. -/
theorem splice_takes : Takes before Rule.splice := by
  refine .nested (.node (.andThen (.mark rfl) ?_))
  exact .seq (.choose (.call _) .identifier) .done

/-- A round inside a string: a piece of text, a splice or the marks at the end. -/
def stringRound : Rule :=
  Rule.cases
    [(.atKind TokenKind.isStringMiddle, take),
     (.atMark .dollar, splice),
     (.atKind TokenKind.isStringEnd, inOrder [take, Rule.leave])]
    (fail ["end of string"])

/-- A string is only ever left behind its closing marks, because no round of the loop
is made in vain. -/
theorem closes_string : Closes (.string .plain) (Rule.loop stringRound) := by
  intro stack
  refine .loop_of_progress fun bound => ?_
  have goesOn : ∀ {test : TokenStream → Prop} {rule : Rule}, Takes test rule →
      rule.Contract
        (fun stream opened =>
          (level (.string .plain :: stack)).within bound stream opened ∧ test stream)
        (fun stream opened => level (.string .plain :: stack) stream opened ∧
          stream.left.length < bound) (level stack) := by
    intro test rule takes
    refine (takes (.string .plain :: stack) bound).weaken ?_ (fun _ _ => id) ?_
    · exact fun _ _ holds => ⟨⟨holds.1.1, holds.2⟩, holds.1.2⟩
    · exact fun _ _ impossible => False.elim impossible
  refine .choose (goesOn (.take (.kind TokenKind.isPlain_of_isStringMiddle))) (.ignore ?_)
  refine .choose (goesOn splice_takes) (.ignore ?_)
  refine .choose (.seq ?_ (.seq .leave .done)) (.fail _)
  have closes : Rule.take.Contract
      (levelWhen ((Condition.atKind TokenKind.isStringEnd).Shows true)
        (.string .plain :: stack)) (level stack) never := by
    refine Closes.take fun stream shown => ?_
    have ended : stream.kind.isStringEnd = true := shown
    generalize stream.kind = kind at ended
    cases kind <;> first | rfl | cases ended
  refine closes.weaken ?_ (fun _ _ => id) ?_
  · exact fun _ _ holds => ⟨holds.1.1, holds.2⟩
  · exact fun _ _ impossible => False.elim impossible

/-- The marks at the front of a string are met by those at its end. -/
theorem spliced_neutral : Neutral Rule.spliced := by
  have opens : Opens (.string .plain)
      ((Condition.atKind TokenKind.isStringStart).Shows true) Rule.take := by
    refine .take fun stream shown => ?_
    have started : stream.kind.isStringStart = true := shown
    generalize stream.kind = kind at started
    cases kind <;> first | rfl | cases started
  refine .node (.choose (.take (.kind TokenKind.isPlain_of_isPlainString)) ?_)
  exact .choose (.opened opens (closes_string.andThen .skip)) .fail

theorem interpolated_neutral : Neutral Rule.interpolated := by
  refine .node (.seq (.node .identifier) (.seq ?_ .done))
  exact spliced_neutral

end Rule
end Offside
