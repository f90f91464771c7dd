import Offside.Proofs.Grammar.Combinators
import Offside.Grammar.Items

namespace Offside
namespace Rule

open Assertion TokenStream

/-!
# Items, blocks and clauses are neutral

The rules for items, in the order of the grammar.  Where faulty items are gathered
anew there has to be something to gather, so the loops that recover from a failure
have to know that the source does not end there.
-/

variable {leaves : List Delimiter → Assertion} {before after : TokenStream → Prop}

/-! ## Runs of items -/

theorem inside_of_itemsEnd {place : ItemsPlace} {stream : TokenStream}
    (shown : (itemsEnd place).Shows false stream) : stream.atEnd = false := by
  unfold itemsEnd Condition.Shows at shown
  dsimp only at shown
  cases ended : stream.atEnd with
  | false => rfl
  | true =>
      rw [ended] at shown
      cases shown

theorem enumCases_neutral : Neutral enumCases := by
  have one : ∀ {leaves : List Delimiter → Assertion},
      Keeps leaves Anywhere Anywhere (node none .simpleEnumCase <| inOrder
        [Rule.optional (.atKeyword .caseKw) take,
         field .name (call (.pattern .enumCase))]) :=
    .node (.seq (.optional (.take .keyword)) (.seq (.node (.call _)) .done))
  refine .node (.seq one (.seq (.whenever (.seq (.take (.mark rfl)) ?_)) .done))
  exact .seq one .done

theorem item_neutral (place : ItemsPlace) : Neutral (item place) := by
  refine .choose (.settleAnywhere nofun (.call _) (.call _)) (.choose (.call _) ?_)
  split
  · exact .choose (.of enumCases_neutral) (.call _)
  · exact .call _

theorem bareItems_neutral : Neutral bareItems := by
  refine .seq (item_neutral _) (.seq (.loop (.choose ?_ .leave)) .done)
  refine .settleAnywhere nofun ?_ .leave
  refine .seq (.take (.kind TokenKind.isPlain_of_isSeparator)) (.seq ?_ .done)
  exact (item_neutral _).of

/-- What is rejected behind an item is never the end of the source. -/
theorem delimitedItems_neutral (place : ItemsPlace) : Neutral (delimitedItems place) := by
  have recovered : Keeps level
      (fun stream => Anywhere stream ∧ (itemsEnd place).Shows false stream) Anywhere
      (recover (item place)) :=
    .recover (item_neutral place).of fun _ passed => inside_of_itemsEnd passed.2
  refine .loop (.seq .separators (.seqWhen .leaveIfWhen (.seq recovered (.seq ?_ .done))))
  refine .choose .skip (.loop (.seq .leaveIf (.seqWhen .leaveIfWhen ?_)))
  refine .seqWhen .leaveIfWhen (.seq (.reject fun stream passed => ?_) .done)
  exact inside_of_itemsEnd passed.1.2

theorem items_neutral (place : ItemsPlace) : Neutral (items place) := by
  refine .nested (.node ?_)
  split
  · exact bareItems_neutral
  · exact delimitedItems_neutral place

/-! ## Bodies and blocks -/

theorem block_neutral : Neutral block :=
  .nested (.node (.enclosed .curly (.withBraces (.call _))))

theorem indentedBlock_neutral : Neutral indentedBlock :=
  .nested (.node (.indented (.withBraces (.call _))))

theorem body_neutral : Neutral body :=
  .nested (.choose (.call _) (.call _))

theorem enclosedItems_neutral (place : ItemsPlace) : Neutral (enclosedItems place) := by
  refine .choose ?_ (.seq (.mark rfl) (.indented (.call _)))
  exact .opened (.takeMark .curly fun _ => id) (.pass (.call _) (.last .curly))

theorem templateBody_neutral : Neutral templateBody :=
  .nested (.node (enclosedItems_neutral _))

theorem structuralType_neutral : Neutral structuralType :=
  .nested (.node (enclosedItems_neutral _))

theorem enumBody_neutral : Neutral enumBody :=
  .node (enclosedItems_neutral _)

/-! ## Case clauses -/

theorem guard_neutral : Neutral guard :=
  .node (.seq .keyword (.seq (.node (.call _)) .done))

theorem caseClause_neutral : Neutral caseClause := by
  refine .node (.seq .keyword (.seq (.node ?_) (.seq (.choose .skip ?_) .done)))
  · refine .seq (.node (.call _)) (.seq (.optional ?_) (.seq (.mark rfl) .done))
    exact .of guard_neutral
  · exact .node (.call _)

theorem inside_of_atMarkOrEnd {mark : Punctuation} {stream : TokenStream}
    (shown : (Condition.atMarkOrEnd mark).Shows false stream) : stream.atEnd = false :=
  (Bool.or_eq_false_iff.mp shown).2

theorem caseBlock_neutral : Neutral caseBlock := by
  refine .nested (.node (.enclosed .curly (.withBraces (.loop (.seq .separators ?_)))))
  refine .seqWhen .leaveIfWhen (.seq (.chooseWhen (.recover ?_ ?_) (.reject ?_)) .done)
  · exact .of caseClause_neutral
  · exact fun _ passed => inside_of_atMarkOrEnd passed.1.2
  · exact fun _ passed => inside_of_atMarkOrEnd passed.1.2

/-! ## Blocks of relational clauses -/

theorem atom_neutral : Neutral atom := by
  refine .node (.choose (.leaf (.kind TokenKind.isPlain_of_isIdentifier)) ?_)
  refine .choose (.of spliced_neutral) (.choose (.leaf (.mark rfl)) ?_)
  exact .choose (.literal (.kind TokenKind.isPlain_of_isLiteral)) .fail

theorem relFact_neutral : Neutral relFact := by
  refine .node (.seq ?_ (.seq (.node .identifier) ?_))
  · exact .choose (.take .keyword) (.choose (.take .keyword) .done)
  · refine .enclosed .round (.listUntil (.marks ?_) atom_neutral)
    decide

theorem relBody_neutral : Neutral relBody :=
  .node (.seq (.mark rfl) (.seq (.commaListOne relFact_neutral) .done))

theorem relClause_neutral : Neutral relClause := by
  refine .node (.seq (.node relFact_neutral) (.seq (.optional ?_) (.seq ?_ .done)))
  · exact .node (.of relBody_neutral)
  · exact .choose (.leaf (.mark rfl)) .fail

theorem relBlock_neutral : Neutral relBlock := by
  refine .nested (.node (.enclosed .hashCurly (.loop (.seq .separators ?_))))
  refine .seqWhen .leaveIfWhen (.seq (.recover (.of relClause_neutral) ?_) .done)
  exact fun _ passed => inside_of_atMarkOrEnd passed.2

end Rule
end Offside
