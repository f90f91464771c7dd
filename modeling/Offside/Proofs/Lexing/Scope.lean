import Offside.Proofs.Lexing.Succession

namespace Offside

/-!
# The offside rule, told of tokens

The offside rule compares the first token of a line with what is open around it.  Both
can be read off the tokens: a block begins behind its mark and a group behind its bracket,
they end at the marks and brackets that close them, and the statements of a block begin
where its first token stands.  So the rule can be stated of a row of tokens and the text
that they stand in, with no word about how a reader keeps track of either.  Nor does it
matter to the rule how columns are counted: it only compares them.
-/

/-- What a token can stand in: a group between brackets or an indented block, which is
known by its first token.  A splice is a group between curly brackets.  The string around
it counts for nothing, because no line begins in the text of a string. -/
inductive Scope
  | group
  | block (first : Token)
deriving DecidableEq, Repr

namespace Scope

/-- What is open behind a token that `next` follows, the innermost scope first. -/
def behind (stack : List Scope) (token next : Token) : List Scope :=
  match token.kind with
  | .indent => .block next :: stack
  | .outdent => stack.tail
  | kind =>
    if kind.isOpener then .group :: stack
    else if kind.isCloser then stack.tail
    else stack

/-- What some tokens that `next` follows leave open, given what is open before them. -/
def allBehind (stack : List Scope) : List Token → Token → List Scope
  | [], _ => stack
  | token :: tokens, next => allBehind (behind stack token (tokens.headD next)) tokens next

/-- The scopes of a token that stands behind some others, the innermost first. -/
def ofToken (front : List Token) (token : Token) : List Scope := allBehind [] front token

/-- The column at which the lines of a block begin. -/
def column? (columnOf : Token → Nat) : Scope → Option Nat
  | group => none
  | block first => some (columnOf first)

end Scope

/-- Whether there is a line feed in a stretch of trivia. -/
def Trivia.breaksLine (source : String) (trivia : Trivia) : Bool :=
  ((Utf8.slice source.toList trivia.span.start trivia.span.stop).getD []).contains '\n'

theorem Trivia.breaksLine_of_append {source : String} {front piece beyond : List Char}
    (whole : source.toList = front ++ piece ++ beyond) (kind : TriviaKind) :
    Trivia.breaksLine source
      ⟨kind, ⟨Utf8.byteLength front, Utf8.byteLength front + Utf8.byteLength piece⟩⟩ =
      piece.contains '\n' := by
  unfold breaksLine
  dsimp only
  rw [whole, Utf8.slice_append]
  rfl

namespace Token

/-- Whether a token begins a line. -/
def beginsLine (source : String) (token : Token) : Bool :=
  token.leading.any (Trivia.breaksLine source)

/-- The character of a source right behind a token. -/
def next? (source : String) (token : Token) : Option Char :=
  ((Utf8.dropBytes token.span.stop source.toList).getD []).head?

end Token

/-- The last of some tokens is no separator. -/
def EndsJoined (tokens : List Token) : Prop :=
  tokens.getLast?.map Token.kind ≠ some .autoSemicolon

instance (tokens : List Token) : Decidable (EndsJoined tokens) :=
  inferInstanceAs (Decidable (_ ≠ _))

/-- Some tokens without the separator behind them. -/
def withoutSeparator (tokens : List Token) : List Token :=
  if EndsJoined tokens then tokens else tokens.dropLast

section Rule

variable (columnOf : Token → Nat) (source : String)

/-- Whether a token stands at the column at which statements begin: in the first column
outside of everything, and in a block behind its first token in the column of that token.
Between brackets there is no such column. -/
def AtLevel (front : List Token) (token : Token) : Prop :=
  match (Scope.ofToken front token).head? with
  | none => columnOf token = 0
  | some .group => False
  | some (.block first) => columnOf token = columnOf first ∧
      front.getLast?.map Token.kind ≠ some .indent

/-- Whether a token begins a statement of its own behind some others. -/
structure BeginsStatement (front : List Token) (token : Token) : Prop where
  line : token.beginsLine source = true
  level : AtLevel columnOf front token
  ends : front.getLast?.any (·.kind.canEndStatement) = true
  starts : token.kind.canStartStatement (token.next? source) = true

/-- The offside rule for a token that stands behind some others: the lines of a block
begin no further to the left than the block, and a separator stands in front of a token
exactly if the token begins a statement. -/
structure Onside (front : List Token) (token : Token) : Prop where
  column_le : token.beginsLine source = true → token.kind ≠ .endOfFile → ∀ first,
    (Scope.ofToken front token).head? = some (.block first) →
      columnOf first ≤ columnOf token
  separated : front.getLast?.map Token.kind = some .autoSemicolon ↔
    BeginsStatement columnOf source (withoutSeparator front) token

/-- Every one of some tokens keeps to the offside rule. -/
def AllOnside (tokens : List Token) : Prop :=
  ∀ front token back, tokens = front ++ token :: back → Onside columnOf source front token

end Rule

/-! ## Scopes -/

namespace Scope

theorem allBehind_concat (stack : List Scope) (tokens : List Token) (token next : Token) :
    allBehind stack (tokens ++ [token]) next =
      behind (allBehind stack tokens token) token next := by
  induction tokens generalizing stack with
  | nil => rfl
  | cons first tokens inductionHypothesis =>
      have same : (tokens ++ [token]).headD next = tokens.headD token := by
        cases tokens <;> rfl
      show allBehind (behind stack first ((tokens ++ [token]).headD next)) (tokens ++ [token])
        next = _
      rw [same, inductionHypothesis]
      rfl

variable (columnOf : Token → Nat)

/-- The columns of the scopes of a token. -/
def columns (front : List Token) (token : Token) : List (Option Nat) :=
  (ofToken front token).map (column? columnOf)

variable {columnOf} {front : List Token} {token next : Token}

theorem columns_concat : columns columnOf (front ++ [token]) next =
    (behind (ofToken front token) token next).map (column? columnOf) :=
  congrArg (List.map (column? columnOf)) (allBehind_concat [] front token next)

theorem columns_indent (mark : token.kind = .indent) :
    columns columnOf (front ++ [token]) next =
      some (columnOf next) :: columns columnOf front token := by
  rw [columns_concat]
  unfold behind
  rw [mark]
  rfl

theorem columns_outdent (mark : token.kind = .outdent) :
    columns columnOf (front ++ [token]) next =
      (columns columnOf front token).tail := by
  rw [columns_concat]
  unfold behind
  rw [mark]
  exact List.map_tail

/-- What is behind a token that marks no block. -/
theorem columns_other (noIndent : token.kind ≠ .indent) (noOutdent : token.kind ≠ .outdent) :
    columns columnOf (front ++ [token]) next =
      if token.kind.isOpener then none :: columns columnOf front token
      else if token.kind.isCloser then (columns columnOf front token).tail
      else columns columnOf front token := by
  rw [columns_concat]
  unfold behind
  split
  · exact absurd ‹_› noIndent
  · exact absurd ‹_› noOutdent
  · split
    · rfl
    · split
      · exact List.map_tail
      · rfl

/-- The token that follows is the first of a block only behind the mark of the block. -/
theorem ofToken_eq (noMark : front.getLast?.map Token.kind ≠ some .indent)
    (token other : Token) : ofToken front token = ofToken front other := by
  rcases List.eq_nil_or_concat front with rfl | ⟨front, last, rfl⟩
  · rfl
  · rw [List.concat_eq_append] at noMark ⊢
    rw [List.getLast?_concat] at noMark
    unfold ofToken
    rw [allBehind_concat, allBehind_concat]
    unfold behind
    split
    · exact absurd (congrArg some ‹last.kind = .indent›) noMark
    · rfl
    · rfl

/-- Only the innermost scope can depend on the token that follows. -/
theorem columns_tail (front : List Token) (token other : Token) :
    (columns columnOf front token).tail = (columns columnOf front other).tail := by
  rcases List.eq_nil_or_concat front with rfl | ⟨front, last, rfl⟩
  · rfl
  · rw [List.concat_eq_append]
    by_cases mark : last.kind = .indent
    · rw [columns_indent mark, columns_indent mark]
      rfl
    · by_cases closing : last.kind = .outdent
      · rw [columns_outdent closing, columns_outdent closing]
      · rw [columns_other mark closing, columns_other mark closing]

/-- Marks that close blocks leave the outermost scopes. -/
theorem columns_outdents {marks : List Token} (outdents : ∀ mark ∈ marks, mark.kind = .outdent) :
    columns columnOf (front ++ marks) token =
      (columns columnOf front token).drop marks.length := by
  induction marks generalizing front with
  | nil => rw [List.append_nil]; rfl
  | cons mark marks inductionHypothesis =>
      rw [List.forall_mem_cons] at outdents
      rw [List.append_cons, inductionHypothesis outdents.2, columns_outdent outdents.1,
        columns_tail front mark token, List.drop_tail]
      rfl

theorem head?_columns {first : Token}
    (innermost : (ofToken front token).head? = some (.block first)) :
    (columns columnOf front token).head? = some (some (columnOf first)) := by
  unfold columns
  rw [List.head?_map, innermost]
  rfl

end Scope

/-! ## The rule along a row of tokens -/

section Row

variable {columnOf : Token → Nat} {source : String} {tokens front marks : List Token}
  {token : Token}

theorem withoutSeparator_of_endsJoined (ends : EndsJoined tokens) :
    withoutSeparator tokens = tokens := if_pos ends

theorem withoutSeparator_concat (separator : token.kind = .autoSemicolon) :
    withoutSeparator (tokens ++ [token]) = tokens := by
  have separated : ¬ EndsJoined (tokens ++ [token]) := by
    unfold EndsJoined
    rw [List.getLast?_concat]
    exact fun differs => differs (congrArg some separator)
  unfold withoutSeparator
  rw [if_neg separated, List.dropLast_concat]

theorem endsJoined_concat (noSeparator : token.kind ≠ .autoSemicolon) :
    EndsJoined (tokens ++ [token]) := by
  unfold EndsJoined
  rw [List.getLast?_concat]
  exact fun same => noSeparator (Option.some.inj same)

/-- A separator changes nothing about what is open. -/
theorem Scope.ofToken_withoutSeparator
    (noMark : (withoutSeparator front).getLast?.map Token.kind ≠ some .indent) :
    Scope.ofToken (withoutSeparator front) token = Scope.ofToken front token := by
  rcases List.eq_nil_or_concat front with rfl | ⟨front, last, rfl⟩
  · rfl
  · rw [List.concat_eq_append] at noMark ⊢
    by_cases separates : last.kind = .autoSemicolon
    · rw [withoutSeparator_concat separates] at noMark ⊢
      rw [Scope.ofToken_eq noMark token last]
      unfold Scope.ofToken
      rw [Scope.allBehind_concat]
      unfold Scope.behind
      rw [separates]
      rfl
    · rw [withoutSeparator_of_endsJoined (endsJoined_concat separates)]

/-- A token with nothing in front of it does not begin a line. -/
theorem beginsLine_of_glued (glued : token.leading = []) : token.beginsLine source = false := by
  unfold Token.beginsLine
  rw [glued]
  rfl

/-- A token that can end a statement does not open a block. -/
theorem ne_indent_of_ends (ends : front.getLast?.any (·.kind.canEndStatement) = true) :
    front.getLast?.map Token.kind ≠ some .indent := by
  intro opens
  cases last : front.getLast? with
  | none =>
      rw [last] at opens
      cases opens
  | some token =>
      rw [last] at ends opens
      have mark : token.kind = .indent := Option.some.inj opens
      have canEnd : token.kind.canEndStatement = true := ends
      rw [mark] at canEnd
      cases canEnd

theorem atLevel_iff (noMark : front.getLast?.map Token.kind ≠ some .indent) :
    AtLevel columnOf front token ↔
      (Scope.columns columnOf front token).head?.getD (some 0) =
        some (columnOf token) := by
  unfold AtLevel Scope.columns
  rw [List.head?_map]
  cases (Scope.ofToken front token).head? with
  | none => exact ⟨fun here => congrArg some here.symm, fun same => (Option.some.inj same).symm⟩
  | some scope =>
      cases scope with
      | group => exact ⟨False.elim, nofun⟩
      | block first =>
          exact ⟨fun here => congrArg some here.1.symm,
            fun same => ⟨(Option.some.inj same).symm, noMark⟩⟩

namespace BeginsStatement

/-- A closing bracket begins no statement. -/
theorem noCloser (begins : BeginsStatement columnOf source front token) :
    token.kind.isCloser = false := by
  refine Bool.eq_false_iff.mpr fun closes => ?_
  rcases Reader.kind_of_isCloser closes with ⟨closer, same⟩
  have starts := begins.starts
  rw [same, Reader.canStartStatement_mark] at starts
  cases starts

/-- The end of a source begins no statement. -/
theorem ne_endOfFile (begins : BeginsStatement columnOf source front token) :
    token.kind ≠ .endOfFile := by
  intro same
  have starts := begins.starts
  rw [same] at starts
  cases starts

end BeginsStatement

namespace Onside

/-- Inside a line nothing but a separator is out of place. -/
theorem of_inLine (inLine : token.beginsLine source = false) (ends : EndsJoined front) :
    Onside columnOf source front token where
  column_le := by
    intro line
    rw [inLine] at line
    cases line
  separated := by
    refine ⟨fun separated => absurd separated ends, fun begins => ?_⟩
    have line := begins.line
    rw [inLine] at line
    cases line

/-- A token that starts no statement needs no separator. -/
theorem of_joined (ends : EndsJoined front)
    (column_le : token.beginsLine source = true → token.kind ≠ .endOfFile → ∀ first,
      (Scope.ofToken front token).head? = some (.block first) →
        columnOf first ≤ columnOf token)
    (goesOn : ¬ BeginsStatement columnOf source front token) :
    Onside columnOf source front token where
  column_le := column_le
  separated := by
    rw [withoutSeparator_of_endsJoined ends]
    exact ⟨fun separated => absurd separated ends, fun begins => absurd begins goesOn⟩

/-- A separator is needed where a statement begins. -/
theorem of_separated {separator : Token} (separates : separator.kind = .autoSemicolon)
    (column_le : ∀ first,
      (Scope.ofToken (front ++ [separator]) token).head? = some (.block first) →
        columnOf first ≤ columnOf token)
    (begins : BeginsStatement columnOf source front token) :
    Onside columnOf source (front ++ [separator]) token where
  column_le := fun _ _ => column_le
  separated := by
    rw [withoutSeparator_concat separates, List.getLast?_concat]
    exact ⟨fun _ => begins, fun _ => congrArg some separates⟩

end Onside

/-! ## Two ways of counting columns -/

/-- Two ways of counting columns agree about a token and about the first token of the block
that it stands in. -/
structure CountAlike (columnOf other : Token → Nat) (front : List Token) (token : Token) :
    Prop where
  own : columnOf token = other token
  block : ∀ first, (Scope.ofToken front token).head? = some (.block first) →
    columnOf first = other first

theorem CountAlike.symm {other : Token → Nat} (alike : CountAlike columnOf other front token) :
    CountAlike other columnOf front token where
  own := alike.own.symm
  block := fun first innermost => (alike.block first innermost).symm

theorem BeginsStatement.recount {other : Token → Nat}
    (begins : BeginsStatement columnOf source (withoutSeparator front) token)
    (alike : CountAlike columnOf other front token) :
    BeginsStatement other source (withoutSeparator front) token where
  line := begins.line
  level := by
    have block := alike.block
    rw [← Scope.ofToken_withoutSeparator (ne_indent_of_ends begins.ends)] at block
    have level := begins.level
    unfold AtLevel at level ⊢
    cases innermost : (Scope.ofToken (withoutSeparator front) token).head? with
    | none =>
        rw [innermost] at level
        exact alike.own.symm.trans level
    | some scope =>
        rw [innermost] at level
        cases scope with
        | group => exact level
        | block first =>
            exact ⟨alike.own.symm.trans (level.1.trans (block first innermost)), level.2⟩
  ends := begins.ends
  starts := begins.starts

/-- What the rule asks for depends only on the columns that it compares, and inside a line
it compares none. -/
theorem Onside.recount {other : Token → Nat} (onside : Onside columnOf source front token)
    (alike : token.beginsLine source = true → CountAlike columnOf other front token) :
    Onside other source front token where
  column_le := by
    intro line real first innermost
    rw [← (alike line).own, ← (alike line).block first innermost]
    exact onside.column_le line real first innermost
  separated := onside.separated.trans
    ⟨fun begins => begins.recount (alike begins.line),
      fun begins => begins.recount (alike begins.line).symm⟩

/-! ## The rule for all tokens -/

namespace AllOnside

theorem nil : AllOnside columnOf source [] := by
  intro front token back split
  exact absurd split.symm (List.append_ne_nil_of_right_ne_nil _ (List.cons_ne_nil _ _))

theorem concat (onside : AllOnside columnOf source tokens)
    (last : Onside columnOf source tokens token) :
    AllOnside columnOf source (tokens ++ [token]) := by
  intro front other back split
  rcases split_concat split with ⟨inner, -, before⟩ | ⟨-, rfl, rfl⟩
  · exact onside front other inner before
  · exact last

/-- Marks that are inserted keep to the rule, whatever they mark. -/
theorem append_marks (onside : AllOnside columnOf source tokens) (ends : EndsJoined tokens)
    (inserted : ∀ mark ∈ marks, mark.leading = [])
    (noSeparator : ∀ mark ∈ marks, mark.kind ≠ .autoSemicolon) :
    AllOnside columnOf source (tokens ++ marks) ∧ EndsJoined (tokens ++ marks) := by
  induction marks generalizing tokens with
  | nil =>
      rw [List.append_nil]
      exact ⟨onside, ends⟩
  | cons mark marks inductionHypothesis =>
      rw [List.forall_mem_cons] at inserted noSeparator
      have inLine : mark.beginsLine source = false := beginsLine_of_glued inserted.1
      rw [List.append_cons]
      exact inductionHypothesis (onside.concat (.of_inLine inLine ends))
        (endsJoined_concat noSeparator.1) inserted.2 noSeparator.2

end AllOnside

variable (columnOf source) in
/-- Some tokens keep to the rule, up to a place where a statement can be separated from
them, and leave scopes with some columns open. -/
structure Arranged (tokens : List Token) (left : List (Option Nat)) : Prop where
  onside : AllOnside columnOf source tokens
  ends : EndsJoined tokens
  enclosed : ∀ next, Scope.columns columnOf tokens next = left

/-- What is left open behind a token that marks no block. -/
def columnsBehind (left : List (Option Nat)) (kind : TokenKind) : List (Option Nat) :=
  if kind.isOpener then none :: left else if kind.isCloser then left.tail else left

namespace Arranged

variable {left : List (Option Nat)}

theorem nil : Arranged columnOf source [] [] where
  onside := .nil
  ends := nofun
  enclosed := fun _ => rfl

theorem of_onside (onside : AllOnside columnOf source front)
    (last : Onside columnOf source front token) (real : token.kind.isLayout = false)
    (enclosed : Scope.columns columnOf front token = left) :
    Arranged columnOf source (front ++ [token]) (columnsBehind left token.kind) where
  onside := onside.concat last
  ends := endsJoined_concat fun separator => by rw [separator] at real; cases real
  enclosed := by
    intro next
    rw [Scope.columns_other, enclosed]
    · rfl
    · intro indent
      rw [indent] at real
      cases real
    · intro outdent
      rw [outdent] at real
      cases real

/-- A token with nothing in front of it goes on with the line. -/
theorem push (arranged : Arranged columnOf source tokens left) (glued : token.leading = [])
    (real : token.kind.isLayout = false) :
    Arranged columnOf source (tokens ++ [token]) (columnsBehind left token.kind) := by
  have inLine : token.beginsLine source = false := beginsLine_of_glued glued
  exact of_onside arranged.onside (.of_inLine inLine arranged.ends) real (arranged.enclosed token)

theorem append (arranged : Arranged columnOf source tokens left)
    (glued : ∀ token ∈ front, token.leading = [])
    (real : ∀ kind ∈ front.map Token.kind, kind.isLayout = false) :
    Arranged columnOf source (tokens ++ front)
      ((front.map Token.kind).foldl columnsBehind left) := by
  induction front generalizing tokens left with
  | nil =>
      rw [List.append_nil]
      exact arranged
  | cons token front inductionHypothesis =>
      rw [List.forall_mem_cons] at glued
      rw [List.map_cons, List.forall_mem_cons] at real
      rw [List.append_cons]
      exact inductionHypothesis (arranged.push glued.1 real.1) glued.2 real.2

end Arranged

end Row
end Offside
