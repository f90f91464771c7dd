namespace Offside

/-!
# Ambiguities of the grammar

In a few places two rules of the grammar begin alike.  Each such pair is a named
ambiguity, which the parser settles by looking ahead.  Looking ahead can fail to
settle it only when a bracket is never closed; every ambiguity names the
alternative that is taken then.
-/

/-- A pair of grammar rules that begin alike. -/
inductive Ambiguity
  /-- As in `(x: Int32) -> x` against `(x)`. -/
  | bindingOrExpression
  /-- As in `(Int32, Bool)` against `(Int32, Bool) -> Int32`. -/
  | tupleOrParameterTypes
  /-- As in `while (c) body` against `while (c) && d do body`. -/
  | whileHeader
  /-- As in `A.B.C` against `a.b.type`. -/
  | typeOrValuePath
  /-- As in `new C { ... }` against `new C` on its own. -/
  | instanceBody
  /-- As in `mod M; { ... }` against `mod M; def f ...`. -/
  | moduleBody
  /-- As in `f: { ... }` against `e: Type`. -/
  | colonCallOrAscription
  /-- As in `{ case ... }` against `{ ... }`. -/
  | caseBlockOrBlock
  /-- As in `forM x = e` against `forM (x <- xs) yield e`. -/
  | forLetOrComprehension
  /-- Whether a body without brackets goes on after a separator. -/
  | bodySequence
deriving DecidableEq, Repr

namespace Ambiguity

def all : List Ambiguity :=
  [.bindingOrExpression, .tupleOrParameterTypes, .whileHeader, .typeOrValuePath,
   .instanceBody, .moduleBody, .colonCallOrAscription, .caseBlockOrBlock,
   .forLetOrComprehension, .bodySequence]

theorem mem_all (ambiguity : Ambiguity) : ambiguity ∈ all := by
  cases ambiguity <;> decide

def name : Ambiguity → String
  | bindingOrExpression => "BindingVsSimpleExpression"
  | tupleOrParameterTypes => "TupleTypeVsParameterTypes"
  | whileHeader => "WhileVsSimpleExpression"
  | typeOrValuePath => "TypeIdentifierVsIdentifier"
  | instanceBody => "InstanceTemplateBody"
  | moduleBody => "ModDefinitionBody"
  | colonCallOrAscription => "ColonCallVsAscription"
  | caseBlockOrBlock => "CaseBlockVsBlock"
  | forLetOrComprehension => "ForMLetVsComprehension"
  | bodySequence => "BodySequence"

def ofName? (name : String) : Option Ambiguity :=
  all.find? fun ambiguity => ambiguity.name == name

def alternatives : Ambiguity → String × String
  | bindingOrExpression => ("binding", "simple_expression")
  | tupleOrParameterTypes => ("tuple_type", "parameter_types")
  | whileHeader => ("while (condition) body", "while condition do body")
  | typeOrValuePath => ("type_identifier", "identifier")
  | instanceBody => ("instance_expression with template_body", "instance_expression")
  | moduleBody => ("mod_definition with body", "mod_definition")
  | colonCallOrAscription => ("call_expression", "ascription_expression")
  | caseBlockOrBlock => ("case_block", "block")
  | forLetOrComprehension => ("let_definition", "foreach_yield_expression")
  | bodySequence => ("longer body", "shorter body")

def description (ambiguity : Ambiguity) : String :=
  "`" ++ ambiguity.alternatives.1 ++ "` vs `" ++ ambiguity.alternatives.2 ++ "`"

/-- Whether the first alternative is taken when looking ahead settles nothing. -/
def prefersFirst : Ambiguity → Bool
  | bindingOrExpression | instanceBody | colonCallOrAscription => false
  | _ => true

end Ambiguity
end Offside
