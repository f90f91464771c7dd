import Offside.Proofs.Grammar.Items
import Offside.Proofs.Grammar.Types
import Offside.Grammar.Expressions

namespace Offside
namespace Rule

open Assertion TokenStream

/-!
# Expressions are neutral

The rules for expressions, in the order of the grammar.  What continues an
expression depends on its place and on what has been built so far; neither matters
here, since every continuation is neutral by itself.
-/

variable {leaves : List Delimiter → Assertion} {before after : TokenStream → Prop}

/-! ## Simple expressions -/

theorem braceArgument_neutral : Neutral braceArgument :=
  .settleAnywhere nofun (.call _) (.call _)

theorem condition_neutral : Neutral condition :=
  .withBraces (.node (.enclosed .round (.call _)))

theorem parenthesized_keeps :
    Keeps leaves ((Condition.atMark .leftParen).Shows true) Anywhere parenthesized := by
  refine .chooseWhen (.unit (fun _ passed => passed.1) fun _ passed => ?_) ?_
  · exact TokenKind.eq_of_isMark passed.2
  · refine .withBraces (.node (.opened (.mark .round) ?_))
    refine .pass (.call _) (.pass (.whenever (.seq (.take (.mark rfl)) ?_)) (.last .round))
    exact .seqWhen .become (.seq .leaveIf (.seq (.call _) .done))

theorem instanceExpression_neutral : Neutral instanceExpression := by
  refine .node (.seq .keyword (.seq (.choose (.call _) (.seq ?_ (.seq ?_ .done))) .done))
  · exact constructorApplication_neutral
  · exact .settleAnywhere nofun (.call _) .done

theorem lazyExpression_keeps :
    Keeps leaves ((Condition.atKeyword .lazyKw).Shows true) Anywhere lazyExpression :=
  .node (.seq (.take .keyword) (.seq (.node (.call _)) .done))

theorem primary_neutral : Neutral primary := by
  refine .choose (.of interpolated_neutral) ?_
  refine .choose (.leaf (.kind TokenKind.isPlain_of_isIdentifier)) ?_
  refine .choose (.leaf (.kind TokenKind.isPlain_of_isOperator)) ?_
  refine .choose (.leaf (.mark rfl)) ?_
  refine .choose (.literal (.kind TokenKind.isPlain_of_isLiteral)) ?_
  refine .choose (.of spliced_neutral) (.choose parenthesized_keeps ?_)
  exact .choose (.of instanceExpression_neutral) (.choose lazyExpression_keeps .fail)

theorem simpleStep_round : Round simpleStep := by
  refine .choose (.seqWhen .nameFirst (.seq (.take .dot) (.seq (.node .name) ?_))) ?_
  · exact .seqWhen .wrap .done
  · refine .choose (.seqWhen .wrap (.seqWhen .nameFirst (.seq (.node ?_) ?_))) ?_
    · exact .of typeArguments_neutral
    · exact .seqWhen .wrap .done
    · refine .choose (.seqWhen .nameFirst (.seq (.node (.call _)) (.seqWhen .wrap .done))) ?_
      refine .choose (.choose (.seqWhen .nameFirst (.seq (.node ?_) ?_)) .leave) .leave
      · exact .of braceArgument_neutral
      · exact .seqWhen .wrap .done

theorem simpleExpression_neutral : Neutral simpleExpression :=
  .nested (.node (.seq primary_neutral
    (.seq (.loop (.seq simpleStep_round (.seqWhen .link .done))) .done)))

/-! ## Lambdas -/

theorem binding_neutral : Neutral binding := by
  refine .node (.seq (.node .binder) (.seq (.optional ?_) .done))
  exact .markThen rfl (.node (.call _))

theorem lambdaParameters_neutral : Neutral lambdaParameters :=
  .choose (.node (.enclosed .round (.withBraces (.commaList binding_neutral)))) .binder

theorem lambdaExpression_neutral : Neutral lambdaExpression :=
  .node (.seq (.node lambdaParameters_neutral) (.seq (.mark rfl) (.seq (.call _) .done)))

theorem colonArgument_neutral : Neutral colonArgument := by
  refine .node (.seq (.choose .skip (.seq (.node ?_) (.seq (.mark rfl) .done))) ?_)
  · exact lambdaParameters_neutral
  · exact .seq (.call _) .done

/-! ## Control forms -/

theorem ifExpression_neutral : Neutral ifExpression := by
  refine .node (.seq .keyword (.seq (.node condition_neutral) (.seq (.node (.call _)) ?_)))
  refine .seq (.optional (.seq (.take .keyword) ?_)) .done
  exact .seq (.node (.call _)) .done

theorem matchExpression_neutral : Neutral matchExpression := by
  refine .node (.seq .keyword (.seq (.node (.withBraces (.call _))) ?_))
  exact .seq (.node (.call _)) .done

theorem doExpression_neutral : Neutral doExpression :=
  .node (.seq .keyword (.seq (.node (.call _)) .done))

theorem regionExpression_neutral : Neutral regionExpression :=
  .node (.seq .keyword (.seq (.node .identifier) (.seq (.node (.call _)) .done)))

theorem queryExpression_neutral : Neutral queryExpression := by
  refine .node (.seq .keyword (.seq (.choose .skip (.seq (.call _) ?_)) ?_))
  · exact .seq (.whenever (.markThen rfl (.call _))) .done
  · refine .seq .keyword (.seq (.call _) (.seq .keyword ?_))
    exact .seq (.call _) .done

theorem tryExpression_neutral : Neutral tryExpression := by
  have clause : ∀ {kind : NodeKind} {word : Keyword},
      Keeps (fun _ => never) ((Condition.atKeyword word).Shows true) Anywhere
        (node none kind (inOrder [take, call .body])) :=
    .node (.seq (.take .keyword) (.seq (.call _) .done))
  refine .node (.seq .keyword (.seq (.node (.call _)) ?_))
  exact .seq (.optional clause) (.seq (.optional clause) .done)

theorem whileExpression_neutral : Neutral whileExpression := by
  refine .settleAnywhere nofun (.node (.seq .keyword (.seq (.node condition_neutral) ?_)))
    (.node (.seq .keyword (.seq (.node (.call _)) (.seq .keyword ?_))))
  · exact .seq (.node (.call _)) .done
  · exact .seq (.node (.call _)) .done

theorem enumerator_neutral : Neutral enumerator := by
  refine .node (.choose (.whenever (.of guard_neutral)) ?_)
  refine .seq (.optional (.take .keyword)) (.seq (.call _) (.seq (.choose ?_ .fail) ?_))
  · refine .take (.marks ?_)
    decide
  · exact .seq (.call _) (.seq (.optional (.of guard_neutral)) .done)

/-- Enumerators are followed by the token that closes what they stand in. -/
theorem enumeratorsUntil_closes {delimiter : Delimiter} {closes : Condition} {name : String}
    (closing : ∀ stream, closes.Shows true stream →
      stream.kind.closes?.map Delimiter.loosen = some delimiter) :
    Closes delimiter (enumeratorsUntil closes name) := by
  refine .pass (.withBraces (.loop (.seq (.of enumerator_neutral) ?_)))
    ((Closes.choose closing).andThen .done)
  exact .seq (.choose .separators .leave) (.seq .leaveIf .done)

theorem enumerators_neutral : Neutral enumerators := by
  refine .nested (.node (.choose ?_ ?_))
  · refine .opened (.takeMark .round fun _ => id) (Closes.andThen ?_ .done)
    exact enumeratorsUntil_closes fun _ => closes_of_bracket .round
  · refine .opened .indent (Closes.andThen (enumeratorsUntil_closes ?_) .done)
    intro stream shown
    rw [show stream.kind = .outdent from beq_iff_eq.mp shown]
    rfl

/-- A comprehension begins with a keyword, whichever it is. -/
theorem forExpression_keeps {withoutYield : Rule} (neutral : Neutral withoutYield)
    (plain : FindsPlain before) :
    Keeps leaves before Anywhere (forExpression withoutYield) := by
  refine .node (.node (.seq (.take plain) (.seq (.node (.of enumerators_neutral)) ?_)))
  refine .seq (.choose (.seq (.take .keyword) (.seqWhen .become .done)) neutral.of) ?_
  exact .seq (.node (.call _)) .done

theorem returnExpression_neutral : Neutral returnExpression :=
  .node (.seq .keyword (.seq (.optional (.call _)) .done))

theorem throwExpression_neutral : Neutral throwExpression :=
  .node (.seq .keyword (.seq (.call _) .done))

/-! ## Expressions with operators -/

theorem controlForms_keep : ∀ form ∈ controlForms,
    Keeps leaves (form.1.Shows true) Anywhere form.2 := by
  unfold controlForms
  simp only [List.forall_mem_cons]
  refine ⟨.of ifExpression_neutral, .of matchExpression_neutral, .of doExpression_neutral,
    .of regionExpression_neutral, .of queryExpression_neutral, .of tryExpression_neutral,
    .of whileExpression_neutral, ?_, ?_, ?_, ?_, nofun⟩
  · exact forExpression_keeps .done .keyword
  · exact forExpression_keeps .fail .keyword
  · exact forExpression_keeps .fail .keyword
  · exact forExpression_keeps .fail .keyword

/-- A prefix operator is known to be there. -/
theorem prefixExpression_keeps (plain : FindsPlain before) :
    Keeps leaves before Anywhere prefixExpression :=
  .node (.seq (.take plain) (.seq (.call _) .done))

theorem operand_neutral : Neutral operand := by
  refine .choose (prefixExpression_keeps fun stream shown => ?_) (.call _)
  have found : stream.kind.isPrefixOperator = true := (Bool.and_eq_true_iff.mp shown).1
  generalize stream.kind = kind at found
  cases kind <;> first | rfl | cases found

theorem expressionStart_neutral (place : ExpressionPlace) :
    Neutral (expressionStart place) := by
  refine .cases ?_ ?_
  · rw [List.forall_mem_append]
    constructor
    · split
      · exact controlForms_keep
      · exact nofun
    · simp only [List.forall_mem_cons]
      exact ⟨.of returnExpression_neutral, .of throwExpression_neutral,
        .of braceArgument_neutral, .of relBlock_neutral, .of indentedBlock_neutral, nofun⟩
  · split
    · refine .choose (.settleAnywhere nofun ?_ (.of operand_neutral)) operand_neutral
      exact .of lambdaExpression_neutral
    · exact operand_neutral

theorem assignment_round (place : ExpressionPlace) (plain : FindsPlain before) :
    Keeps level before Anywhere (assignment place) := by
  unfold assignment
  split
  · refine .chooseWhen (.seqWhen .nameFirst (.seq (.take (.left plain)) ?_)) .leave
    exact .seq (.node (.call _)) (.seqWhen .wrap .done)
  · exact .leave

theorem colonStep_round (place : ExpressionPlace) (plain : FindsPlain before) :
    Keeps level before Anywhere (colonStep place) := by
  unfold colonStep
  split
  · refine .settleAnywhere nofun ?_ ?_
    · split
      · refine .seqWhen .nameFirst (.seq (.take plain) (.seq (.node ?_) ?_))
        · exact .of colonArgument_neutral
        · exact .seqWhen .wrap .done
      · exact .leave
    · split
      · refine .seq (.take plain) (.seq (.choose ?_ (.call _)) (.seqWhen .wrap .done))
        exact .of annotationMark_neutral
      · exact .leave
  · exact .leave

theorem infixStep_neutral : Neutral infixStep := by
  refine .seqWhen .nameFirst (.seq (.node .name) (.seq (.choose ?_ ?_) ?_))
  · exact .markThen rfl (.node (.of colonArgument_neutral))
  · exact .node (.call _)
  · exact .seqWhen .wrap .done

theorem postfixStep_neutral : Neutral postfixStep :=
  .seq .name (.seqWhen .wrap .done)

theorem operatorStep_round (place : ExpressionPlace) : Round (operatorStep place) := by
  refine .choose .leave (.choose ?_ ?_)
  · split
    · exact .of infixStep_neutral
    · exact .leave
  · split
    · exact .of postfixStep_neutral
    · exact .leave

theorem expressionStep_round (place : ExpressionPlace) : Round (expressionStep place) := by
  refine .choose .leave (.choose (assignment_round place (.marks ?_)) ?_)
  · decide
  · refine .choose (colonStep_round place (.mark rfl)) (.choose ?_ .leave)
    exact (operatorStep_round place).forget

theorem operators_neutral (place : ExpressionPlace) : Neutral (operators place) := by
  refine .nested (.node (.seq (expressionStart_neutral place) (.seq (.loop ?_) .done)))
  exact .seq (expressionStep_round place) (.seqWhen .link .done)

theorem expression_neutral : Neutral expression :=
  .node (.call _)

end Rule
end Offside
