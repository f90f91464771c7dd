import Offside.Vocabulary.Layout

namespace Offside

/-!
# Keywords

Every reserved word of the language, with its spelling, the group it belongs to
and its layout roles.  Spellings are case-sensitive.  One keyword has a second
spelling: `namespace` is another way to write `mod`.
-/

/-- What a keyword is about. -/
inductive KeywordCategory
  | moduleLevel
  | definition
  | modifier
  | controlFlow
  | relational
  | literal
deriving DecidableEq, Repr

def KeywordCategory.name : KeywordCategory → String
  | moduleLevel => "Module"
  | definition => "Definition"
  | modifier => "Modifier"
  | controlFlow => "ControlFlow"
  | relational => "Relational"
  | literal => "Literal"

/-- A reserved word. -/
inductive Keyword
  | modKw | useKw | importKw | staticKw | enumKw | caseKw | classKw | instanceKw | effKw
  | relKw | defKw | letKw | typeKw | aliasKw | withKw | derivesKw | lazyKw | lawfulKw
  | sealedKw | overrideKw | pubKw | newKw | ifKw | elseKw | matchKw | doKw | regionKw
  | tryKw | catchKw | finallyKw | returnKw | throwKw | whileKw | forKw | foreachKw
  | forAKw | forMKw | parKw | yieldKw | queryKw | selectKw | fromKw | notKw | fixKw
  | trueKw | falseKw | nullKw
deriving DecidableEq, Repr

namespace Keyword

/-- The entry of a keyword in the vocabulary. -/
structure Entry where
  /-- The name that tools use for the keyword. -/
  name : String
  /-- The spelling that is shown. -/
  spelling : String
  category : KeywordCategory
  layout : List LayoutRole
  /-- Further spellings, which the lexer accepts but nothing prints. -/
  aliases : List String
  stability : Stability

def entry : Keyword → Entry
  | modKw => ⟨"Mod", "mod", .moduleLevel, [], ["namespace"], .stable⟩
  | useKw => ⟨"Use", "use", .moduleLevel, [], [], .stable⟩
  | importKw => ⟨"Import", "import", .moduleLevel, [], [], .stable⟩
  | staticKw => ⟨"Static", "static", .moduleLevel, [], [], .stable⟩
  | enumKw => ⟨"Enum", "enum", .definition, [], [], .stable⟩
  | caseKw => ⟨"Case", "case", .definition, [], [], .stable⟩
  | classKw => ⟨"Class", "class", .definition, [], [], .stable⟩
  | instanceKw => ⟨"Instance", "instance", .definition, [], [], .stable⟩
  | effKw => ⟨"Eff", "eff", .definition, [], [], .stable⟩
  | relKw => ⟨"Rel", "rel", .definition, [], [], .stable⟩
  | defKw => ⟨"Def", "def", .definition, [], [], .stable⟩
  | letKw => ⟨"Let", "let", .definition, [], [], .stable⟩
  | typeKw => ⟨"Type", "type", .definition, [.endsStatement], [], .stable⟩
  | aliasKw => ⟨"Alias", "alias", .definition, [], [], .stable⟩
  | withKw => ⟨"With", "with", .definition, [.continuesLine], [], .stable⟩
  | derivesKw => ⟨"Derives", "derives", .definition, [.continuesLine], [], .stable⟩
  | lazyKw => ⟨"Lazy", "lazy", .modifier, [], [], .stable⟩
  | lawfulKw => ⟨"Lawful", "lawful", .modifier, [], [], .stable⟩
  | sealedKw => ⟨"Sealed", "sealed", .modifier, [], [], .stable⟩
  | overrideKw => ⟨"Override", "override", .modifier, [], [], .stable⟩
  | pubKw => ⟨"Pub", "pub", .modifier, [], [], .stable⟩
  | newKw => ⟨"New", "new", .controlFlow, [], [], .stable⟩
  | ifKw => ⟨"If", "if", .controlFlow, [], [], .stable⟩
  | elseKw => ⟨"Else", "else", .controlFlow, [.opensBlock, .continuesLine], [], .stable⟩
  | matchKw => ⟨"Match", "match", .controlFlow, [], [], .stable⟩
  | doKw => ⟨"Do", "do", .controlFlow, [.opensBlock, .continuesLine], [], .stable⟩
  | regionKw => ⟨"Region", "region", .controlFlow, [], [], .stable⟩
  | tryKw => ⟨"Try", "try", .controlFlow, [.opensBlock], [], .stable⟩
  | catchKw => ⟨"Catch", "catch", .controlFlow, [.opensBlock, .continuesLine], [], .stable⟩
  | finallyKw => ⟨"Finally", "finally", .controlFlow, [.opensBlock, .continuesLine], [], .stable⟩
  | returnKw => ⟨"Return", "return", .controlFlow, [.endsStatement], [], .stable⟩
  | throwKw => ⟨"Throw", "throw", .controlFlow, [], [], .stable⟩
  | whileKw => ⟨"While", "while", .controlFlow, [], [], .stable⟩
  | forKw => ⟨"For", "for", .controlFlow, [], [], .reserved⟩
  | foreachKw => ⟨"Foreach", "foreach", .controlFlow, [.opensBlock], [], .stable⟩
  | forAKw => ⟨"ForA", "forA", .controlFlow, [.opensBlock], [], .stable⟩
  | forMKw => ⟨"ForM", "forM", .controlFlow, [.opensBlock], [], .stable⟩
  | parKw => ⟨"Par", "par", .controlFlow, [.opensBlock], [], .stable⟩
  | yieldKw => ⟨"Yield", "yield", .controlFlow, [.opensBlock, .continuesLine], [], .stable⟩
  | queryKw => ⟨"Query", "query", .relational, [], [], .stable⟩
  | selectKw => ⟨"Select", "select", .relational, [.continuesLine], [], .stable⟩
  | fromKw => ⟨"From", "from", .relational, [.continuesLine], [], .stable⟩
  | notKw => ⟨"Not", "not", .relational, [], [], .stable⟩
  | fixKw => ⟨"Fix", "fix", .relational, [], [], .stable⟩
  | trueKw => ⟨"True", "true", .literal, [.endsStatement], [], .stable⟩
  | falseKw => ⟨"False", "false", .literal, [.endsStatement], [], .stable⟩
  | nullKw => ⟨"Null", "null", .literal, [.endsStatement], [], .stable⟩

def all : List Keyword :=
  [.modKw, .useKw, .importKw, .staticKw, .enumKw, .caseKw, .classKw, .instanceKw, .effKw,
   .relKw, .defKw, .letKw, .typeKw, .aliasKw, .withKw, .derivesKw, .lazyKw, .lawfulKw,
   .sealedKw, .overrideKw, .pubKw, .newKw, .ifKw, .elseKw, .matchKw, .doKw, .regionKw,
   .tryKw, .catchKw, .finallyKw, .returnKw, .throwKw, .whileKw, .forKw, .foreachKw,
   .forAKw, .forMKw, .parKw, .yieldKw, .queryKw, .selectKw, .fromKw, .notKw, .fixKw,
   .trueKw, .falseKw, .nullKw]

theorem mem_all (keyword : Keyword) : keyword ∈ all := by
  cases keyword <;> decide

def name (keyword : Keyword) : String := keyword.entry.name

def spelling (keyword : Keyword) : String := keyword.entry.spelling

def hasRole (keyword : Keyword) (role : LayoutRole) : Bool :=
  keyword.entry.layout.contains role

/-- Whether the keyword may stand in front of a definition as a modifier. -/
def isModifier (keyword : Keyword) : Bool :=
  keyword.entry.category == .modifier

/-- Sample programs for the keyword's documentation; none are recorded so far. -/
def examples (_ : Keyword) : List String := []

/-- The keyword that a word spells, by its shown spelling or else by an alias. -/
def ofSpelling? (word : String) : Option Keyword :=
  (all.find? fun keyword => keyword.spelling == word).or
    (all.find? fun keyword => keyword.entry.aliases.contains word)

def isDefinitionKeyword (keyword : Keyword) : Bool :=
  [defKw, enumKw, classKw, instanceKw, effKw, relKw, typeKw, modKw, useKw, importKw].contains
    keyword

end Keyword
end Offside
