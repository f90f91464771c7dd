import Offside.Grammar
import Offside.Grammar.Patterns
import Offside.Proofs.Grammar.Combinators
import Offside.Proofs.Grammar.Expressions

namespace Offside

/-!
# Patterns and definitions are neutral

The rules for patterns and for definitions, in the order of the grammar, and with them all
rules.  Where those for patterns take a token without looking at it, the question that led
to them has already told what it is.

A definition begins with a keyword of its own, so besides being neutral it takes at
least one token.  That is why definitions can be read until the source ends.
-/

namespace Rule

open Assertion TokenStream

variable {leaves : List Delimiter → Assertion} {before after : TokenStream → Prop}

/-! ## Patterns -/

theorem constructorArgument_neutral (place : PatternPlace) :
    Neutral (constructorArgument place) := by
  cases place with
  | enumCase => exact .call _
  | anywhere => exact .call _
  | binding => exact .call _

/-- The question whether nothing stands between the brackets has been asked in front
of the opening one. -/
theorem tuplePattern_keeps (place : PatternPlace) :
    Keeps leaves ((Condition.atMark .leftParen).Shows true) Anywhere
      (tuplePattern place) := by
  refine .chooseWhen (.unit (fun _ passed => passed.1) fun _ passed => ?_) ?_
  · exact TokenKind.eq_of_isMark passed.2
  · exact .nested (.node (.enclosed .round (.commaListOne (.call _))))

theorem recordPattern_neutral : Neutral recordPattern := by
  refine .nested (.node (.enclosed .curly (.commaListOne ?_)))
  exact .seq .identifier (.seq (.mark rfl) (.seq (.withBraces (.call _)) .done))

/-- Whether a name stands here with a pattern to capture behind it. -/
def captureAhead : Condition :=
  .ahead fun stream => stream.kind.isIdentifier && (stream.kindAhead 1).isMark .atSign

theorem capturePattern_keeps (place : PatternPlace) :
    Keeps leaves (captureAhead.Shows true) Anywhere (capturePattern place) := by
  have nameThere : Keeps leaves (captureAhead.Shows true)
      ((Condition.atMark .atSign).Shows true) (field .name identifier) := by
    refine .node (.identifierTo fun stream shown inside => ?_)
    show stream.advance.kind.isMark .atSign = true
    rw [kind_advance inside]
    exact (Bool.and_eq_true_iff.mp shown).2
  refine .node (.seqWhen nameThere (.markThen rfl (.node ?_)))
  exact .nested (.call _)

theorem patternSegment_keeps {names wraps : Rule} (plain : FindsPlain before)
    (first : Neutral names) (second : Neutral wraps) :
    Keeps leaves before Anywhere (patternSegment names wraps) := by
  refine .chooseWhen (.seq (.leaf (.left plain)) (.seq first.of .done)) ?_
  exact .seq (.leaf (.left plain)) (.seq second.of .done)

theorem pathPattern_keeps (place : PatternPlace) :
    Keeps leaves ((Condition.atKind TokenKind.isIdentifier).Shows true) Anywhere
      (pathPattern place) := by
  have identifierHere : FindsPlain ((Condition.atKind TokenKind.isIdentifier).Shows true) :=
    .kind TokenKind.isPlain_of_isIdentifier
  have dotHere : Keeps level
      ((Condition.ahead fun stream => stream.isAtDot TokenKind.isIdentifier).Shows true)
      ((Condition.atKind TokenKind.isIdentifier).Shows true) take := by
    refine .takeTo .dot fun stream shown inside => ?_
    show stream.advance.kind.isIdentifier = true
    rw [kind_advance inside]
    exact (Bool.and_eq_true_iff.mp shown).2
  refine .chain (.node (.seq (patternSegment_keeps identifierHere .done .done) ?_))
  refine .seq (.whenever (.seqWhen .link (.seqWhen dotHere (.seq ?_ .done)))) ?_
  · exact patternSegment_keeps identifierHere .wrap .wrap
  · refine .seq (.optional (.seqWhen .nameFirst ?_)) .done
    refine .opened (.mark .round) (.pass (.commaList (.node (.withBraces ?_))) ?_)
    · exact constructorArgument_neutral place
    · exact (Closes.mark .round).andThen (.seqWhen .wrap .done)

theorem primaryPattern_neutral (place : PatternPlace) : Neutral (primaryPattern place) := by
  refine .choose (.of interpolated_neutral) (.choose (capturePattern_keeps place) ?_)
  refine .choose (pathPattern_keeps place) ?_
  refine .choose (.leaf (.kind TokenKind.isPlain_of_isOperator)) ?_
  refine .choose (.leaf (.mark rfl)) (.choose (tuplePattern_keeps place) ?_)
  refine .choose (.of recordPattern_neutral) (.choose (.literal ?_) .fail)
  exact .kind TokenKind.isPlain_of_isLiteral

theorem patternChain_neutral (place : PatternPlace) : Neutral (patternChain place) := by
  refine .chain (.seq (.call _) (.seq (.whenever ?_) .done))
  refine .seqWhen .link (.seqWhen .nameFirst (.seq (.node .name) ?_))
  exact .seq (.node (.call _)) (.seqWhen .wrap .done)

theorem typedPattern_neutral (place : PatternPlace) : Neutral (typedPattern place) := by
  refine .node (.seq (patternChain_neutral place) (.seq ?_ .done))
  split
  · refine .optional (.seqWhen .nameFirst (.seq (.take (.mark rfl)) ?_))
    exact .seq (.node (.call _)) (.seqWhen .wrap .done)
  · exact .done

theorem alternatives_neutral (place : PatternPlace) : Neutral (alternatives place) := by
  refine .chain (.node (.seq (typedPattern_neutral place) (.seq (.whenever ?_) .done)))
  refine .seqWhen .link (.seq (.take (.mark rfl)) (.seq ?_ (.seqWhen .wrap .done)))
  exact (typedPattern_neutral place).of

theorem pattern_neutral (place : PatternPlace) : Neutral (pattern place) :=
  .nested (.call _)

/-! ## Definitions -/

namespace Takes

/-- Behind the change of a kind. -/
theorem become {kind : NodeKind} {rule : Rule} (takes : Takes before rule) :
    Takes before (Rule.seq (.become kind) rule) :=
  .pass .become takes

/-- A keyword that has to be there, and what follows it. -/
theorem keywordThen {word : Keyword} {rule : Rule} (rest : Neutral rule) :
    Takes before (Rule.seq (Rule.keyword word) rule) :=
  .andThen .keyword rest

end Takes

/-! ## Modules and imports -/

theorem templateBodyIfAny_neutral : Neutral templateBodyIfAny :=
  .optional (.node (.call _))

theorem moduleDefinition_takes : Takes before moduleDefinition := by
  refine .become (.keywordThen (.seq (.node (.node (.seq .name (.seq ?_ .done)))) ?_))
  · exact .whenever (.seq (.take .dot) (.seq .name .done))
  · refine .seq (.settleAnywhere nofun (.seq (.optional (.take ?_)) ?_) .done) .done
    · exact .kind TokenKind.isPlain_of_isSeparator
    · exact .seq (.node (.call _)) .done

theorem isPlain_of_isNamespaceWildcard {kind : TokenKind}
    (found : isNamespaceWildcard kind = true) : kind.isPlain = true := by
  rcases Bool.or_eq_true_iff.mp found with star | underscore
  · rw [show kind = .operator "*" from beq_iff_eq.mp star]
    rfl
  · rw [TokenKind.eq_of_isMark underscore]
    rfl

theorem namespaceSelectors_neutral : Neutral namespaceSelectors := by
  refine .node (.enclosed .curly (.commaListOne (.choose (.leaf ?_) .identifier)))
  exact .kind isPlain_of_isNamespaceWildcard

theorem namespaceExpression_neutral : Neutral namespaceExpression := by
  have atWildcard : Keeps level
      ((Condition.ahead fun stream => stream.isAtDot isNamespaceWildcard).Shows true)
      ((Condition.atKind isNamespaceWildcard).Shows true) take := by
    refine .takeTo .dot fun stream shown inside => ?_
    show isNamespaceWildcard stream.advance.kind = true
    rw [kind_advance inside]
    exact (Bool.and_eq_true_iff.mp shown).2
  refine .node (.seq (.node .identifier) (.seq (.loop (.choose ?_ ?_)) .done))
  · refine .seq (.take fun stream shown => ?_) (.seq (.node .identifier) .done)
    rcases Bool.or_eq_true_iff.mp (Bool.and_eq_true_iff.mp shown).1 with dot | slash
    · rw [TokenKind.eq_of_isMark dot]
      rfl
    · rw [show stream.kind = .operator "/" from beq_iff_eq.mp slash]
      rfl
  · refine .choose (.seq (.take .dot) (.seq ?_ (.seqWhen .leave .done))) (.choose ?_ .leave)
    · exact .of namespaceSelectors_neutral
    · refine .seqWhen atWildcard (.seq (.leaf ?_) (.seqWhen .leave .done))
      exact .kind isPlain_of_isNamespaceWildcard

theorem useDeclaration_takes : Takes before useDeclaration := by
  refine .become (.keywordThen (.seq namespaceExpression_neutral (.seq (.whenever ?_) .done)))
  exact .markThen rfl (.of namespaceExpression_neutral)

theorem importDeclaration_takes : Takes before importDeclaration := by
  refine .become (.keywordThen (.seq (.optional (.take .keyword)) (.seq (.call _) ?_)))
  refine .seq (.optional ?_) (.seq (.optional ?_) .done)
  · refine .opened (.takeMark .round fun _ => id) (.pass (.commaList (.call _)) ?_)
    exact .last .round
  · exact .markThen rfl (.call _)

/-! ## Enums, classes, instances, effects and relations -/

theorem withClause_neutral : Neutral withClause := by
  refine .node (.seq .keyword (.seq (.node ?_) (.seq (.whenever ?_) ?_)))
  · exact constructorApplication_neutral
  · exact .markThen rfl (.node (.of constructorApplication_neutral))
  · exact .seq (.optional (.call _)) .done

theorem withClauseIfAny_neutral : Neutral withClauseIfAny :=
  .optional (.node (.of withClause_neutral))

theorem enumDefinition_takes : Takes before enumDefinition := by
  refine .become (.keywordThen (.seq constructorApplication_neutral ?_))
  refine .seq withClauseIfAny_neutral (.seq (.optional (.node ?_)) .done)
  exact .of enumBody_neutral

theorem classConstructor_neutral : Neutral classConstructor := by
  refine .node (.seq (.node .name) (.seq typeParametersIfAny_neutral ?_))
  exact .seq (.optional (.of annotationMark_neutral)) .done

theorem classDefinition_takes : Takes before classDefinition := by
  refine .become (.keywordThen (.seq classConstructor_neutral ?_))
  exact .seq withClauseIfAny_neutral (.seq templateBodyIfAny_neutral .done)

theorem instanceDefinition_takes : Takes before instanceDefinition := by
  refine .become (.keywordThen (.seq classConstructor_neutral ?_))
  refine .seq withClauseIfAny_neutral (.seq (.choose ?_ .failMissing) .done)
  exact .node (.call _)

theorem effDefinition_takes : Takes before effDefinition :=
  .become (.keywordThen (.seq (.call _) (.seq templateBodyIfAny_neutral .done)))

theorem typeConstructor_neutral : Neutral typeConstructor := by
  refine .node (.seq (.node (.choose (.leaf ?_) .fail)) ?_)
  · exact .kind TokenKind.isPlain_of_isName
  · exact .seq typeParametersIfAny_neutral .done

theorem predicateType_neutral : Neutral predicateType := by
  refine .node (.seq (.node typeConstructor_neutral) ?_)
  refine .enclosed .round (.choose .skip (.loop (.seq .identifier (.seq (.mark rfl) ?_))))
  refine .seq (.call _) (.seq (.takeOrLeave (.marks ?_)) .done)
  decide

theorem relDefinition_takes : Takes before relDefinition :=
  .become (.keywordThen (.seq predicateType_neutral .done))

/-! ## Types, bindings and functions -/

theorem typeDefinition_takes : Takes before typeDefinition := by
  refine .become (.keywordThen (.seq (.optional (.leaf .keyword)) ?_))
  refine .seq typeConstructor_neutral (.seq (.optional ?_) .done)
  exact .markThen rfl (.node (.call _))

theorem letDefinition_takes : Takes before letDefinition := by
  have rest : Neutral (inOrder
      [field .pattern (call (.pattern .binding)),
       optional (.atMark .colon) (inOrder [take, field .type (call .type)]),
       choose (.atMark .equals) take
         (fail
           [quoteSpelling Punctuation.equals.spelling,
            quoteSpelling Punctuation.colon.spelling]),
       field .value (call .body)]) := by
    refine .seq (.node (.call _)) (.seq (.optional ?_) (.seq (.choose ?_ .fail) ?_))
    · exact .markThen rfl (.node (.call _))
    · exact .take (.mark rfl)
    · exact .seq (.node (.call _)) .done
  refine .become (.andThen (.choose (.take .keyword) (.choose (.take .keyword) .fail)) ?_)
  exact rest

theorem parameter_neutral : Neutral parameter := by
  refine .node (.seq annotations_neutral (.seq (.node .binder) ?_))
  refine .seq (.optional ?_) (.seq (.optional ?_) .done)
  · exact .markThen rfl (.node (.call _))
  · exact .markThen rfl (.node (.call _))

theorem parameters_neutral : Neutral parameters :=
  .node (.enclosed .round (.withBraces (.commaList parameter_neutral)))

theorem functionConstructor_neutral : Neutral functionConstructor := by
  refine .node (.seq (.node .name) (.seq typeParametersIfAny_neutral ?_))
  refine .seq (.whenever (.node (.of parameters_neutral))) (.seq (.optional ?_) ?_)
  · exact .markThen rfl (.node (.call _))
  · exact .seq withClauseIfAny_neutral .done

theorem functionDefinition_takes : Takes before functionDefinition := by
  refine .keywordThen (.seq functionConstructor_neutral (.seq (.choose ?_ .become) .done))
  exact .seq (.take (.mark rfl)) (.seqWhen .become (.seq (.node (.call _)) .done))

/-! ## All definitions -/

theorem modifiers_neutral : Neutral modifiers :=
  .node (.whenever (.take (.kind TokenKind.isPlain_of_isModifier)))

theorem annotatable_takes : Takes before annotatable := by
  refine .cases ?_ .fail
  simp only [List.forall_mem_cons]
  exact ⟨enumDefinition_takes, classDefinition_takes, instanceDefinition_takes,
    effDefinition_takes, relDefinition_takes, typeDefinition_takes, letDefinition_takes,
    letDefinition_takes, functionDefinition_takes, nofun⟩

/-- Annotations and modifiers may be missing, but not the definition behind them. -/
theorem definition_takes : Takes Anywhere definition := by
  refine .nested (.node (.pass (.whenever ?_) (.pass (.optional ?_) ?_)))
  · refine .seq (.of annotationMark_neutral) (.seq (.optional (.take ?_)) .done)
    intro stream shown
    exact TokenKind.isPlain_of_isSeparator (Bool.and_eq_true_iff.mp shown).1
  · exact .of modifiers_neutral
  · refine .andThen (.choose annotatable_takes (.cases ?_ annotatable_takes)) .done
    simp only [List.forall_mem_cons]
    exact ⟨moduleDefinition_takes, useDeclaration_takes, importDeclaration_takes, nofun⟩

end Rule

/-! ## The whole grammar -/

/-- Every rule of the grammar closes what it opens. -/
theorem Nonterminal.rule_neutral (nonterminal : Nonterminal) : nonterminal.rule.Neutral := by
  cases nonterminal with
  | definition => exact Rule.definition_takes.neutral
  | templateBody => exact Rule.templateBody_neutral
  | typeParameters => exact Rule.typeParameters_neutral
  | type => exact Rule.type_neutral
  | parameterType => exact Rule.parameterType_neutral
  | simpleType => exact Rule.simpleType_neutral
  | annotatedType => exact Rule.annotatedType_neutral
  | structuralType => exact Rule.structuralType_neutral
  | pattern place => exact Rule.pattern_neutral place
  | alternatives place => exact Rule.alternatives_neutral place
  | primaryPattern place => exact Rule.primaryPattern_neutral place
  | body => exact Rule.body_neutral
  | items place => exact Rule.items_neutral place
  | block => exact Rule.block_neutral
  | caseBlock => exact Rule.caseBlock_neutral
  | arguments => exact Rule.argumentList_neutral
  | expression => exact Rule.expression_neutral
  | operators place => exact Rule.operators_neutral place
  | simpleExpression => exact Rule.simpleExpression_neutral

end Offside
