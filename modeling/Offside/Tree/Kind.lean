namespace Offside

/-!
# Node kinds

The kinds of node that a syntax tree is made of.  A few kinds are hidden: they
group children while a tree is being built and are dissolved into their parent,
so they do not occur in a finished tree.
-/

/-- What a node of the syntax tree is: a whole program or a fault, then what belongs to
definitions, to blocks, to types, to patterns and to expressions, then the leaves, and at last
the helper rules that are hidden. -/
inductive NodeKind
  | compilationUnit | error
  | moduleDefinition | moduleIdentifier | useDeclaration | importDeclaration
  | namespaceWildcard | namespaceSelectors | enumDefinition | enumBody
  | enumCaseDefinitions | simpleEnumCase | classDefinition | instanceDefinition
  | effDefinition | relDefinition | predicateType | typeParameters | typeParameter
  | templateBody | annotationMark | letDefinition | typeDefinition | functionDefinition
  | functionDeclaration | aliasModifier | modifiers | withClause | parameters | parameter
  | block | indentedBlock | relBlock | relClause | relFact | relBody | atom | dot
  | nativeType | functionType | parameterTypes | lazyParameterType | infixType | effectType
  | literalType | recordType | relRecordType | structuralType | tupleType | singletonType
  | qualTypeIdentifier | qualIdentifier | genericType | typeIdentifier | typeArguments
  | enumPattern | infixPattern | capturePattern | typedPattern | alternativePattern
  | tuplePattern | recordPattern
  | expression | lambdaExpression | ifExpression | matchExpression | doExpression
  | regionExpression | queryExpression | tryExpression | catchClause | finallyClause
  | binding | bindings | caseBlock | caseClause | guard | assignmentExpression
  | genericFunction | callExpression | colonArgument | fieldExpression | lazyExpression
  | instanceExpression | ascriptionExpression | infixExpression | postfixExpression
  | prefixExpression | tupleExpression | parenthesizedExpression | arguments
  | returnExpression | throwExpression | whileExpression | forExpression
  | foreachExpression | foreachYieldExpression | enumerators | enumerator
  | interpolatedStringExpression | interpolatedString | interpolation
  | identifier | operatorIdentifier | wildcard | unit | integerLiteral
  | floatingPointLiteral | booleanLiteral | characterLiteral | string | nullLiteral
  | annotatedType | blockItems | classConstructor | typeConstructor | functionConstructor
  | constructorApplication | namespaceExpression | casePattern
deriving DecidableEq, Repr

namespace NodeKind

def name : NodeKind → String
  | compilationUnit => "compilation_unit"
  | error => "ERROR"
  | moduleDefinition => "mod_definition"
  | moduleIdentifier => "mod_identifier"
  | useDeclaration => "use_declaration"
  | importDeclaration => "import_declaration"
  | namespaceWildcard => "namespace_wildcard"
  | namespaceSelectors => "namespace_selectors"
  | enumDefinition => "enum_definition"
  | enumBody => "enum_body"
  | enumCaseDefinitions => "enum_case_definitions"
  | simpleEnumCase => "simple_enum_case"
  | classDefinition => "class_definition"
  | instanceDefinition => "instance_definition"
  | effDefinition => "eff_definition"
  | relDefinition => "rel_definition"
  | predicateType => "predicate_type"
  | typeParameters => "type_parameters"
  | typeParameter => "type_parameter"
  | templateBody => "template_body"
  | annotationMark => "annotation"
  | letDefinition => "let_definition"
  | typeDefinition => "type_definition"
  | functionDefinition => "function_definition"
  | functionDeclaration => "function_declaration"
  | aliasModifier => "alias_modifier"
  | modifiers => "modifiers"
  | withClause => "with_clause"
  | parameters => "parameters"
  | parameter => "parameter"
  | block => "block"
  | indentedBlock => "indented_block"
  | relBlock => "rel_block"
  | relClause => "rel_clause"
  | relFact => "rel_fact"
  | relBody => "rel_body"
  | atom => "atom"
  | dot => "dot"
  | nativeType => "native_type"
  | functionType => "function_type"
  | parameterTypes => "parameter_types"
  | lazyParameterType => "lazy_parameter_type"
  | infixType => "infix_type"
  | effectType => "effect_type"
  | literalType => "literal_type"
  | recordType => "record_type"
  | relRecordType => "rel_record_type"
  | structuralType => "structural_type"
  | tupleType => "tuple_type"
  | singletonType => "singleton_type"
  | qualTypeIdentifier => "qual_type_identifier"
  | qualIdentifier => "qual_identifier"
  | genericType => "generic_type"
  | typeIdentifier => "type_identifier"
  | typeArguments => "type_arguments"
  | enumPattern => "enum_pattern"
  | infixPattern => "infix_pattern"
  | capturePattern => "capture_pattern"
  | typedPattern => "typed_pattern"
  | alternativePattern => "alternative_pattern"
  | tuplePattern => "tuple_pattern"
  | recordPattern => "record_pattern"
  | expression => "expression"
  | lambdaExpression => "lambda_expression"
  | ifExpression => "if_expression"
  | matchExpression => "match_expression"
  | doExpression => "do_expression"
  | regionExpression => "region_expression"
  | queryExpression => "query_expression"
  | tryExpression => "try_expression"
  | catchClause => "catch_clause"
  | finallyClause => "finally_clause"
  | binding => "binding"
  | bindings => "bindings"
  | caseBlock => "case_block"
  | caseClause => "case_clause"
  | guard => "guard"
  | assignmentExpression => "assignment_expression"
  | genericFunction => "generic_function"
  | callExpression => "call_expression"
  | colonArgument => "colon_argument"
  | fieldExpression => "field_expression"
  | lazyExpression => "lazy_expression"
  | instanceExpression => "instance_expression"
  | ascriptionExpression => "ascription_expression"
  | infixExpression => "infix_expression"
  | postfixExpression => "postfix_expression"
  | prefixExpression => "prefix_expression"
  | tupleExpression => "tuple_expression"
  | parenthesizedExpression => "parenthesized_expression"
  | arguments => "arguments"
  | returnExpression => "return_expression"
  | throwExpression => "throw_expression"
  | whileExpression => "while_expression"
  | forExpression => "for_expression"
  | foreachExpression => "foreach_expression"
  | foreachYieldExpression => "foreach_yield_expression"
  | enumerators => "enumerators"
  | enumerator => "enumerator"
  | interpolatedStringExpression => "interpolated_string_expression"
  | interpolatedString => "interpolated_string"
  | interpolation => "interpolation"
  | identifier => "identifier"
  | operatorIdentifier => "operator_identifier"
  | wildcard => "wildcard"
  | unit => "unit"
  | integerLiteral => "integer_literal"
  | floatingPointLiteral => "floating_point_literal"
  | booleanLiteral => "boolean_literal"
  | characterLiteral => "character_literal"
  | string => "string"
  | nullLiteral => "null_literal"
  | annotatedType => "_annotated_type"
  | blockItems => "_block"
  | classConstructor => "_class_constructor"
  | typeConstructor => "_type_constructor"
  | functionConstructor => "_function_constructor"
  | constructorApplication => "_constructor_application"
  | namespaceExpression => "_namespace_expression"
  | casePattern => "_case_pattern"

def all : List NodeKind :=
  [.compilationUnit, .error, .moduleDefinition, .moduleIdentifier, .useDeclaration,
   .importDeclaration, .namespaceWildcard, .namespaceSelectors, .enumDefinition, .enumBody,
   .enumCaseDefinitions, .simpleEnumCase, .classDefinition, .instanceDefinition,
   .effDefinition, .relDefinition, .predicateType, .typeParameters, .typeParameter,
   .templateBody, .annotationMark, .letDefinition, .typeDefinition, .functionDefinition,
   .functionDeclaration, .aliasModifier, .modifiers, .withClause, .parameters, .parameter,
   .block, .indentedBlock, .relBlock, .relClause, .relFact, .relBody, .atom, .dot,
   .nativeType, .functionType, .parameterTypes, .lazyParameterType, .infixType,
   .effectType, .literalType, .recordType, .relRecordType, .structuralType, .tupleType,
   .singletonType, .qualTypeIdentifier, .qualIdentifier, .genericType, .typeIdentifier,
   .typeArguments, .enumPattern, .infixPattern, .capturePattern, .typedPattern,
   .alternativePattern, .tuplePattern, .recordPattern, .expression, .lambdaExpression,
   .ifExpression, .matchExpression, .doExpression, .regionExpression, .queryExpression,
   .tryExpression, .catchClause, .finallyClause, .binding, .bindings, .caseBlock,
   .caseClause, .guard, .assignmentExpression, .genericFunction, .callExpression,
   .colonArgument, .fieldExpression, .lazyExpression, .instanceExpression,
   .ascriptionExpression, .infixExpression, .postfixExpression, .prefixExpression,
   .tupleExpression, .parenthesizedExpression, .arguments, .returnExpression,
   .throwExpression, .whileExpression, .forExpression, .foreachExpression,
   .foreachYieldExpression, .enumerators, .enumerator, .interpolatedStringExpression,
   .interpolatedString, .interpolation, .identifier, .operatorIdentifier, .wildcard, .unit,
   .integerLiteral, .floatingPointLiteral, .booleanLiteral, .characterLiteral, .string,
   .nullLiteral, .annotatedType, .blockItems, .classConstructor, .typeConstructor,
   .functionConstructor, .constructorApplication, .namespaceExpression, .casePattern]

theorem mem_all (kind : NodeKind) : kind ∈ all := by
  cases kind <;> decide

def ofName? (name : String) : Option NodeKind :=
  all.find? fun kind => kind.name == name

/-- Whether nodes of the kind are dissolved into their parent. -/
def isHidden : NodeKind → Bool
  | annotatedType | blockItems | classConstructor | typeConstructor
  | functionConstructor | constructorApplication | namespaceExpression | casePattern => true
  | _ => false

end NodeKind
end Offside
