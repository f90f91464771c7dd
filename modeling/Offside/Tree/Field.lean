namespace Offside

/-!
# Field names

A node may point out some of its children by name.  A name says what part the
child plays in the node, so the same name recurs in nodes of many kinds.
-/

/-- The name under which a node refers to one of its children. -/
inductive FieldName
  | alternative | arguments | body | condition | consequence | defaultValue | enumerators
  | field | function | functor | head | interpolator | lambdaStart | left | name | operator
  | parameterTypes | parameters | path | pattern | returnType | right | type
  | typeArguments | typeParameters | value | withClause
deriving DecidableEq, Repr

namespace FieldName

def label : FieldName → String
  | alternative => "alternative"
  | arguments => "arguments"
  | body => "body"
  | condition => "condition"
  | consequence => "consequence"
  | defaultValue => "default_value"
  | enumerators => "enumerators"
  | field => "field"
  | function => "function"
  | functor => "functor"
  | head => "head"
  | interpolator => "interpolator"
  | lambdaStart => "lambda_start"
  | left => "left"
  | name => "name"
  | operator => "operator"
  | parameterTypes => "parameter_types"
  | parameters => "parameters"
  | path => "path"
  | pattern => "pattern"
  | returnType => "return_type"
  | right => "right"
  | type => "type"
  | typeArguments => "type_arguments"
  | typeParameters => "type_parameters"
  | value => "value"
  | withClause => "with"

def all : List FieldName :=
  [.alternative, .arguments, .body, .condition, .consequence, .defaultValue, .enumerators,
   .field, .function, .functor, .head, .interpolator, .lambdaStart, .left, .name,
   .operator, .parameterTypes, .parameters, .path, .pattern, .returnType, .right, .type,
   .typeArguments, .typeParameters, .value, .withClause]

theorem mem_all (entry : FieldName) : entry ∈ all := by
  cases entry <;> decide

def ofLabel? (label : String) : Option FieldName :=
  all.find? fun entry => entry.label == label

end FieldName
end Offside
