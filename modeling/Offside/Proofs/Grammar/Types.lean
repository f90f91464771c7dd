import Offside.Proofs.Grammar.Combinators
import Offside.Grammar.Types

namespace Offside
namespace Rule

open Assertion TokenStream

/-!
# Types are neutral

The rules for types, in the order of the grammar.  Only paths need an invariant: a
path goes on with whatever token stands there, so each round has to know that it
begins at a dot.
-/

variable {leaves : List Delimiter → Assertion} {before after : TokenStream → Prop}

theorem argumentList_neutral : Neutral argumentList :=
  .nested (.node (.enclosed .round (.withBraces (.commaList (.call _)))))

theorem annotationMark_neutral : Neutral annotationMark := by
  refine .node (.seq (.mark rfl) (.seq (.node (.call _)) (.seq ?_ .done)))
  exact .whenever (.node (.call _))

theorem annotations_neutral : Neutral annotations :=
  .whenever (.of annotationMark_neutral)

/-! ## Simple types -/

theorem typeArguments_neutral : Neutral typeArguments :=
  .node (.enclosed .square (.commaListOne (.call _)))

theorem tupleType_neutral : Neutral tupleType :=
  .nested (.node (.enclosed .round (.commaListOne (.call _))))

/-- Whether a path goes on with the dot at the current token. -/
def AtDot (stream : TokenStream) : Prop := stream.kind = .punctuation .dot

theorem atDot_of_pathGoesOn {stream : TokenStream}
    (shown : (pathGoesOn 1).Shows true stream) (inside : stream.atEnd = false) :
    AtDot stream.advance :=
  (kind_advance inside).trans (TokenKind.eq_of_isMark (Bool.and_eq_true_iff.mp shown).1)

theorem findsPlain_atDot : FindsPlain AtDot := by
  intro stream dot
  rw [show stream.kind = .punctuation .dot from dot]
  rfl

/-- A segment that does not end its path stands in front of a dot. -/
theorem segment_keeps : Keeps level Anywhere AtDot segment := by
  have identifierHere : FindsPlain ((Condition.atKind TokenKind.isIdentifier).Shows true) :=
    .kind TokenKind.isPlain_of_isIdentifier
  refine .choose (.chooseWhen ?_ ?_) .fail
  · refine .seqWhen (.leafTo (.left identifierHere) ?_) (.seqWhen .wrap .done)
    exact fun stream passed => atDot_of_pathGoesOn passed.2
  · exact .seq (.leaf (.left identifierHere)) (.seqWhen .wrap (.seqWhen .leave .done))

theorem singletonEnd_keeps {rule : Rule} (otherwise : Keeps level Anywhere AtDot rule) :
    Keeps level Anywhere AtDot (singletonEnd rule) :=
  .choose (.seq (.take .keyword) (.seqWhen .wrap (.seqWhen .leave .done))) otherwise

/-- A path is neutral in front of a name, whatever its last segment may be. -/
theorem typePath_keeps {last : Rule → Rule} (plain : FindsPlain before)
    (round : Keeps level Anywhere AtDot (last segment)) :
    Keeps leaves before Anywhere (typePath last) := by
  have segments : Keeps leaves AtDot Anywhere
      (loop (inOrder [link, take, last segment])) :=
    .loopWhile (.seqWhen .link (.seq (.take findsPlain_atDot) (.seqWhen round .done)))
  refine .chooseWhen (.seqWhen (.nameTo ?_) (.seq segments .done)) (.leaf (.left plain))
  exact fun stream passed => atDot_of_pathGoesOn passed.2

theorem simpleType_neutral : Neutral simpleType := by
  have nameHere : FindsPlain ((Condition.atKind TokenKind.isName).Shows true) :=
    .kind TokenKind.isPlain_of_isName
  refine .chain (.node (.seq ?_ (.seq ?_ .done)))
  · refine .choose (.leaf (.mark rfl)) (.choose (.of tupleType_neutral) ?_)
    refine .choose (.settleAnywhere nofun ?_ ?_) .fail
    · exact typePath_keeps nameHere segment_keeps
    · exact typePath_keeps nameHere (singletonEnd_keeps segment_keeps)
  · refine .whenever (.seqWhen .link (.seqWhen .nameFirst (.seq (.node ?_) (.seqWhen .wrap .done))))
    exact .of typeArguments_neutral

theorem annotatedType_neutral : Neutral annotatedType :=
  .node (.seq (.call _) (.seq (.whenever (.of annotationMark_neutral)) .done))

/-! ## Types that stand alone -/

theorem nativeType_neutral : Neutral nativeType := by
  refine .node (.seq (.mark rfl) (.seq .identifier (.seq ?_ .done)))
  exact .whenever (.seq (.take .dot) (.seq .identifier .done))

theorem rowTail_neutral : Neutral rowTail :=
  .optional (.markThen rfl .identifier)

theorem recordType_neutral : Neutral recordType := by
  refine .nested (.node (.opened (.mark .curly) (.pass ?_ (.pass ?_ (.last .curly)))))
  · exact .commaListOne (.seq .identifier (.seq (.mark rfl) (.seq (.call _) .done)))
  · exact rowTail_neutral

theorem relRecordType_neutral : Neutral relRecordType := by
  refine .nested (.node (.opened (.mark .hashCurly) (.pass ?_ (.pass ?_ (.last .curly)))))
  · refine .loop (.seq .leaveIf (.seq .leaveIf (.seq (.call _) (.seq ?_ .done))))
    exact .takeOrLeave (.mark rfl)
  · exact rowTail_neutral

/-! ## Operators, arrows and effects -/

theorem typeChain_neutral : Neutral typeChain := by
  refine .chain (.seq (.call _) (.seq (.whenever ?_) .done))
  refine .seqWhen .link (.seqWhen .nameFirst (.seq (.node .name) ?_))
  exact .seq (.node (.call _)) (.seqWhen .wrap .done)

theorem functionTypeRest_neutral : Neutral functionTypeRest :=
  .seqWhen .nameFirst (.seq (.mark rfl) (.seq (.node (.call _)) (.seqWhen .wrap .done)))

theorem parameterTypes_neutral : Neutral parameterTypes :=
  .node (.enclosed .round (.commaList (.call _)))

theorem plainType_neutral : Neutral plainType := by
  refine .choose (.of nativeType_neutral) ?_
  refine .choose (.node (.literal fun stream shown => ?_)) ?_
  · rcases Bool.or_eq_true_iff.mp shown with literal | boolean
    · exact TokenKind.isPlain_of_isPlainLiteral literal
    · exact TokenKind.isPlain_of_isBoolean boolean
  · refine .choose (.choose (.of recordType_neutral) (.call _)) ?_
    refine .choose (.call _) (.choose (.of relRecordType_neutral) ?_)
    refine .seq typeChain_neutral (.seq (.optional (.seqWhen .wrap (.seq ?_ .done))) .done)
    exact .of functionTypeRest_neutral

/-- Parameter types are told from a tuple only in front of a round bracket. -/
theorem arrowType_neutral : Neutral arrowType := by
  refine .choose (.settle ?_ (.of plainType_neutral) (.seq ?_ (.seq ?_ .done)))
    plainType_neutral
  · intro stream previous shown close
    exact close.resolve_isSome previous _ fun _ => shown
  · exact .of parameterTypes_neutral
  · exact functionTypeRest_neutral

theorem type_neutral : Neutral type := by
  refine .nested (.node (.seq arrowType_neutral (.seq (.whenever ?_) .done)))
  refine .seqWhen .link (.seqWhen .nameFirst (.seq (.take (.mark rfl)) ?_))
  exact .seq (.node arrowType_neutral.of) (.seqWhen .wrap .done)

theorem parameterType_neutral : Neutral parameterType :=
  .choose (.node (.markThen rfl (.node (.call _)))) (.call _)

/-! ## Names with type parameters -/

theorem typeParametersIfAny_neutral : Neutral typeParametersIfAny :=
  .optional (.node (.call _))

theorem typeParameter_neutral : Neutral typeParameter := by
  refine .node (.seq annotations_neutral (.seq (.node .binder) ?_))
  refine .seq typeParametersIfAny_neutral (.seq (.optional ?_) .done)
  exact .markThen rfl (.node (.call _))

theorem typeParameters_neutral : Neutral typeParameters :=
  .nested (.node (.enclosed .square (.commaListOne typeParameter_neutral)))

theorem constructorApplication_neutral : Neutral constructorApplication :=
  .node (.seq (.call _) (.seq (.optional (.node (.call _))) .done))

end Rule
end Offside
