namespace Offside

/-!
# Precedence

Every construct that could be read in more than one way has a level and an
associativity.  A higher level binds tighter; only the order of the levels
matters.  All infix operators share one level and associate to the left,
whatever their symbols are.
-/

/-- How a construct groups when it is chained. -/
inductive Associativity
  | left
  | right
  | none
deriving DecidableEq, Repr

def Associativity.name : Associativity → String
  | left => "Left"
  | right => "Right"
  | none => "None"

/-- A kind of construct that has a precedence level. -/
inductive Precedence
  /-- Bodies of control keywords (`if`, `match`, `try`, template bodies). -/
  | control
  /-- As in `A.B.C` in type position. -/
  | qualifiedTypePath
  /-- As in `x -> body`. -/
  | lambda
  /-- Binding declarations. -/
  | bindingDeclaration
  /-- As in `while` headers. -/
  | whileHeader
  /-- As in `let` definitions. -/
  | bindingDefinition
  /-- As in `x = e`, `x := e`. -/
  | assignment
  /-- As in `case p => body`. -/
  | caseArm
  /-- As in `a.b.c` in value position. -/
  | qualifiedValuePath
  /-- As in `()`. -/
  | unitLiteral
  /-- As in `e : Type`. -/
  | typeAscription
  /-- As in `e op` (single trailing identifier). -/
  | postfixOperator
  /-- As in `f: { ... }`. -/
  | colonCall
  /-- As in `a op b`. -/
  | infixOperator
  /-- As in `Type(args)` in constructor position. -/
  | constructorApplication
  /-- As in `-e`, `!e`. -/
  | prefixOperator
  /-- As in `f(args)`, `f[T]`. -/
  | call
  /-- As in `e.field`. -/
  | fieldAccess
  /-- Lambda parameter bindings, preferred over expressions. -/
  | localBinding
deriving DecidableEq, Repr

namespace Precedence

/-- The row of a construct in the table. -/
structure Entry where
  /-- The name that tools use for the construct. -/
  name : String
  /-- The name of the row. -/
  rowName : String
  level : Nat
  associativity : Associativity

def entry : Precedence → Entry
  | control => ⟨"Control", "control", 1, .right⟩
  | qualifiedTypePath => ⟨"QualifiedTypePath", "qualified-type-path", 2, .left⟩
  | lambda => ⟨"Lambda", "lambda", 2, .right⟩
  | bindingDeclaration => ⟨"BindingDeclaration", "binding-declaration", 2, .none⟩
  | whileHeader => ⟨"WhileHeader", "while-header", 2, .right⟩
  | bindingDefinition => ⟨"BindingDefinition", "binding-definition", 3, .none⟩
  | assignment => ⟨"Assignment", "assignment", 3, .right⟩
  | caseArm => ⟨"CaseArm", "case-arm", 3, .left⟩
  | qualifiedValuePath => ⟨"QualifiedValuePath", "qualified-value-path", 4, .left⟩
  | unitLiteral => ⟨"UnitLiteral", "unit-literal", 4, .none⟩
  | typeAscription => ⟨"TypeAscription", "type-ascription", 4, .none⟩
  | postfixOperator => ⟨"Postfix", "postfix", 5, .left⟩
  | colonCall => ⟨"ColonCall", "colon-trailing-call", 5, .right⟩
  | infixOperator => ⟨"Infix", "infix-operator", 6, .left⟩
  | constructorApplication => ⟨"ConstructorApplication", "constructor-application", 7, .left⟩
  | prefixOperator => ⟨"Prefix", "prefix-operator", 7, .none⟩
  | call => ⟨"Call", "call", 8, .left⟩
  | fieldAccess => ⟨"FieldAccess", "field-access", 8, .left⟩
  | localBinding => ⟨"LocalBinding", "local-binding", 10, .none⟩

/-- Every construct, from the loosest to the tightest. -/
def all : List Precedence :=
  [.control, .qualifiedTypePath, .lambda, .bindingDeclaration, .whileHeader,
   .bindingDefinition, .assignment, .caseArm, .qualifiedValuePath, .unitLiteral,
   .typeAscription, .postfixOperator, .colonCall, .infixOperator,
   .constructorApplication, .prefixOperator, .call, .fieldAccess, .localBinding]

theorem mem_all (construct : Precedence) : construct ∈ all := by
  cases construct <;> decide

def level (construct : Precedence) : Nat := construct.entry.level

def associativity (construct : Precedence) : Associativity := construct.entry.associativity

def index (construct : Precedence) : Nat := all.idxOf construct

def ofRowName? (rowName : String) : Option Precedence :=
  all.find? fun construct => construct.entry.rowName == rowName

/-- Whether the first construct binds strictly tighter than the second. -/
def bindsTighter (first second : Precedence) : Bool := second.level < first.level

/-- Whether a construct may continue an expression that asks for at least the
binding strength `minimum`. -/
def admits (construct : Precedence) (minimum : Nat) : Bool := minimum ≤ construct.level

/-- The binding strength to ask of the right operand.  Unless the construct
associates to the right, the operand has to bind strictly tighter, so chains
grow to the left. -/
def rightOperandMinimum (construct : Precedence) : Nat :=
  match construct.associativity with
  | .left | .none => construct.level + 1
  | .right => construct.level

end Precedence
end Offside
