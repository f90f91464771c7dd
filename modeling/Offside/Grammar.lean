import Offside.Grammar.Definitions
import Offside.Grammar.Expressions
import Offside.Grammar.Items
import Offside.Grammar.Patterns
import Offside.Grammar.Types

namespace Offside

/-!
# The grammar

The rule behind every nonterminal.  Only nonterminals tie rules together in
circles, and every circle passes through a rule that charges a level of nesting.
-/

def Nonterminal.rule : Nonterminal → Rule
  | definition => Rule.definition
  | templateBody => Rule.templateBody
  | typeParameters => Rule.typeParameters
  | type => Rule.type
  | parameterType => Rule.parameterType
  | simpleType => Rule.simpleType
  | annotatedType => Rule.annotatedType
  | structuralType => Rule.structuralType
  | pattern place => Rule.pattern place
  | alternatives place => Rule.alternatives place
  | primaryPattern place => Rule.primaryPattern place
  | body => Rule.body
  | items place => Rule.items place
  | block => Rule.block
  | caseBlock => Rule.caseBlock
  | arguments => Rule.argumentList
  | expression => Rule.expression
  | operators place => Rule.operators place
  | simpleExpression => Rule.simpleExpression

/-! ## All of the grammar -/

namespace Nonterminal

/-- The nonterminals, in every place in which they may stand. -/
def all : List Nonterminal :=
  [definition, templateBody, typeParameters, type, parameterType, simpleType, annotatedType,
   structuralType, body, block, caseBlock, arguments, expression, simpleExpression] ++
  [.anywhere, .binding, .enumCase].flatMap (fun place =>
    [pattern place, alternatives place, primaryPattern place]) ++
  [.block, .enumBody, .caseBody, .bare].map items ++
  [.anywhere, .guard, .rightOperand].map operators

theorem mem_all (nonterminal : Nonterminal) : nonterminal ∈ all := by
  cases nonterminal with
  | pattern place => cases place <;> decide
  | alternatives place => cases place <;> decide
  | primaryPattern place => cases place <;> decide
  | items place => cases place <;> decide
  | operators place => cases place <;> decide
  | _ => decide

/-- What can be decided of one rule can be decided of the whole grammar. -/
instance {holds : Nonterminal → Prop} [DecidablePred holds] :
    Decidable (∀ nonterminal, holds nonterminal) :=
  decidable_of_iff (∀ nonterminal ∈ all, holds nonterminal)
    ⟨fun each nonterminal => each nonterminal nonterminal.mem_all,
      fun each nonterminal _ => each nonterminal⟩

end Nonterminal
end Offside
