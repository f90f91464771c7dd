import Offside.Proofs.Lexing.Nesting

namespace Offside

/-!
# Delimiters in their places

Brackets and strings are opened and closed at places of a list of tokens, and reports
name some of them: a bracket or a string that is never closed, and a closing bracket that
closes nothing.  What was opened is told by the offset at which its token begins.  So the
reports about it can be counted, and a report about one delimiter is none about another.
-/

/-- Whether a fault says that a delimiter is never closed. -/
def Delimiter.isLeftOpenBy : Delimiter → Fault → Bool
  | group _, .lexical (.unterminatedBlock _) => true
  | string _, .lexical .unterminatedString => true
  | _, _ => false

/-- The number of reports that a delimiter opened at some offset is never closed. -/
def Delimiter.complaints (delimiter : Delimiter) (opened : Nat)
    (diagnostics : List Diagnostic) : Nat :=
  diagnostics.countP fun diagnostic =>
    delimiter.isLeftOpenBy diagnostic.fault && diagnostic.span.start == opened

/-- Whether a fault says that a closing bracket closes nothing. -/
def Fault.isMismatch : Fault → Bool
  | .lexical (.unmatchedDelimiter _) => true
  | _ => false

/-- The reports that a closing bracket at some place closes nothing. -/
def Span.mismatches (span : Span) (diagnostics : List Diagnostic) : List Diagnostic :=
  diagnostics.filter fun diagnostic => diagnostic.fault.isMismatch && diagnostic.span == span

/-- At some place of the tokens a bracket or a string is opened that begins at an offset. -/
inductive OpensAt (tokens : List Token) (place : Nat) (delimiter : Delimiter) (opened : Nat) : Prop
  | intro (token : Token) (found : tokens[place]? = some token)
      (opens : token.kind.opens? = some delimiter) (noBlock : delimiter ≠ .block)
      (starts : token.span.start = opened)

/-- At some place of the tokens a bracket or a string is closed. -/
inductive ClosesAt (tokens : List Token) (place : Nat) (delimiter : Delimiter) : Prop
  | intro (token : Token) (found : tokens[place]? = some token)
      (closes : token.kind.closes? = some delimiter) (noBlock : delimiter ≠ .block)

/-- Whether the token at some place stands behind the mark of a splice. -/
def BehindDollar (tokens : List Token) (place : Nat) : Prop :=
  (tokens.take place).getLast?.map Token.kind = some (.punctuation .dollar)

/-- The token at the place of a delimiter that opens and the one at the place of a later one
that closes it. -/
inductive PairsAt (tokens : List Token) (pair : Nat × Nat) : Prop
  | intro {delimiter : Delimiter} {opened : Nat} (later : pair.1 < pair.2)
      (opens : OpensAt tokens pair.1 delimiter opened) (closes : ClosesAt tokens pair.2 delimiter)

variable {tokens more : List Token} {diagnostics : List Diagnostic} {place opened : Nat}
  {delimiter : Delimiter} {token : Token} {pair : Nat × Nat}

/-! ## Tokens that are added -/

theorem OpensAt.append (opens : OpensAt tokens place delimiter opened) (more : List Token) :
    OpensAt (tokens ++ more) place delimiter opened := by
  rcases opens with ⟨token, found, opens, noBlock, starts⟩
  have inside : place < tokens.length := (List.getElem?_eq_some_iff.mp found).1
  exact ⟨token, (List.getElem?_append_left inside).trans found, opens, noBlock, starts⟩

theorem ClosesAt.append (closes : ClosesAt tokens place delimiter) (more : List Token) :
    ClosesAt (tokens ++ more) place delimiter := by
  rcases closes with ⟨token, found, closes, noBlock⟩
  have inside : place < tokens.length := (List.getElem?_eq_some_iff.mp found).1
  exact ⟨token, (List.getElem?_append_left inside).trans found, closes, noBlock⟩

theorem PairsAt.append (pairs : PairsAt tokens pair) (more : List Token) :
    PairsAt (tokens ++ more) pair := by
  rcases pairs with ⟨later, opens, closes⟩
  exact ⟨later, opens.append more, closes.append more⟩

/-- One token opens one thing. -/
theorem OpensAt.unique {other : Delimiter} {start : Nat}
    (opens : OpensAt tokens place delimiter opened) (again : OpensAt tokens place other start) :
    other = delimiter ∧ start = opened := by
  rcases opens with ⟨token, found, opens, _, starts⟩
  rcases again with ⟨token', found', opens', _, starts'⟩
  rw [found] at found'
  cases found'
  rw [opens] at opens'
  cases opens'
  exact ⟨rfl, starts'.symm.trans starts⟩

theorem OpensAt.lt_length (opens : OpensAt tokens place delimiter opened) :
    place < tokens.length := by
  rcases opens with ⟨token, found, _⟩
  exact (List.getElem?_eq_some_iff.mp found).1

theorem ClosesAt.lt_length (closes : ClosesAt tokens place delimiter) : place < tokens.length := by
  rcases closes with ⟨token, found, _⟩
  exact (List.getElem?_eq_some_iff.mp found).1

theorem behindDollar_append (inside : place ≤ tokens.length) (more : List Token) :
    BehindDollar (tokens ++ more) place ↔ BehindDollar tokens place := by
  unfold BehindDollar
  rw [List.take_append_of_le_length inside]

/-- What one more token opens, it opens in the last place. -/
theorem opens_concat (opens : OpensAt (tokens ++ [token]) place delimiter opened) :
    OpensAt tokens place delimiter opened ∨ place = tokens.length ∧
      token.kind.opens? = some delimiter ∧ token.span.start = opened := by
  rcases opens with ⟨found, isFound, opens, noBlock, starts⟩
  rcases Nat.lt_or_ge place tokens.length with inside | outside
  · rw [List.getElem?_append_left inside] at isFound
    exact .inl ⟨found, isFound, opens, noBlock, starts⟩
  · have last : place = tokens.length := by
      have bound := (List.getElem?_eq_some_iff.mp isFound).1
      rw [List.length_append, List.length_singleton] at bound
      omega
    rw [last, List.getElem?_concat_length] at isFound
    cases isFound
    exact .inr ⟨last, opens, starts⟩

theorem closes_concat (closes : ClosesAt (tokens ++ [token]) place delimiter) :
    ClosesAt tokens place delimiter ∨ place = tokens.length ∧
      token.kind.closes? = some delimiter := by
  rcases closes with ⟨found, isFound, closes, noBlock⟩
  rcases Nat.lt_or_ge place tokens.length with inside | outside
  · rw [List.getElem?_append_left inside] at isFound
    exact .inl ⟨found, isFound, closes, noBlock⟩
  · have last : place = tokens.length := by
      have bound := (List.getElem?_eq_some_iff.mp isFound).1
      rw [List.length_append, List.length_singleton] at bound
      omega
    rw [last, List.getElem?_concat_length] at isFound
    cases isFound
    exact .inr ⟨last, closes⟩

/-! ## Reports that are added -/

theorem complaints_concat (delimiter : Delimiter) (opened : Nat)
    (diagnostics : List Diagnostic) (diagnostic : Diagnostic) :
    delimiter.complaints opened (diagnostics ++ [diagnostic]) =
      delimiter.complaints opened diagnostics +
        if delimiter.isLeftOpenBy diagnostic.fault && diagnostic.span.start == opened then 1
        else 0 := by
  unfold Delimiter.complaints
  rw [List.countP_append, List.countP_singleton]

/-- A report about another place is no complaint. -/
theorem complaints_concat_elsewhere {diagnostic : Diagnostic}
    (elsewhere : diagnostic.span.start ≠ opened) :
    delimiter.complaints opened (diagnostics ++ [diagnostic]) =
      delimiter.complaints opened diagnostics := by
  rw [complaints_concat, if_neg, Nat.add_zero]
  rw [beq_eq_false_iff_ne.mpr elsewhere, Bool.and_false]
  exact Bool.false_ne_true

theorem complaints_eq_zero
    (none : ∀ diagnostic ∈ diagnostics, delimiter.isLeftOpenBy diagnostic.fault = true →
      diagnostic.span.start ≠ opened) : delimiter.complaints opened diagnostics = 0 := by
  rw [Delimiter.complaints, List.countP_eq_zero]
  intro diagnostic member both
  rw [Bool.and_eq_true, beq_iff_eq] at both
  exact none diagnostic member both.1 both.2

/-- Whether a fault names a delimiter. -/
def Fault.namesDelimiter : Fault → Bool
  | .lexical (.unterminatedBlock _) | .lexical .unterminatedString
  | .lexical (.unmatchedDelimiter _) => true
  | _ => false

theorem namesDelimiter_of_isLeftOpenBy {fault : Fault}
    (leftOpen : delimiter.isLeftOpenBy fault = true) : fault.namesDelimiter = true := by
  unfold Delimiter.isLeftOpenBy at leftOpen
  split at leftOpen
  · rfl
  · rfl
  · cases leftOpen

theorem complaints_concat_other {diagnostic : Diagnostic}
    (other : diagnostic.fault.namesDelimiter = false) :
    delimiter.complaints opened (diagnostics ++ [diagnostic]) =
      delimiter.complaints opened diagnostics := by
  rw [complaints_concat, if_neg, Nat.add_zero]
  intro both
  rw [namesDelimiter_of_isLeftOpenBy (Bool.and_eq_true_iff.mp both).1] at other
  cases other

theorem mismatches_concat (span : Span) (diagnostics : List Diagnostic)
    (diagnostic : Diagnostic) :
    span.mismatches (diagnostics ++ [diagnostic]) = span.mismatches diagnostics ++
      if diagnostic.fault.isMismatch && diagnostic.span == span then [diagnostic] else [] := by
  unfold Span.mismatches
  rw [List.filter_append, List.filter_cons]
  rfl

theorem mismatches_concat_elsewhere {diagnostic : Diagnostic} {span : Span}
    (elsewhere : diagnostic.span.start ≠ span.start) :
    span.mismatches (diagnostics ++ [diagnostic]) = span.mismatches diagnostics := by
  have unequal : (diagnostic.span == span) = false :=
    beq_eq_false_iff_ne.mpr fun same => elsewhere (congrArg Span.start same)
  rw [mismatches_concat, unequal, Bool.and_false, if_neg Bool.false_ne_true, List.append_nil]

theorem mismatches_concat_other {diagnostic : Diagnostic} {span : Span}
    (other : diagnostic.fault.isMismatch = false) :
    span.mismatches (diagnostics ++ [diagnostic]) = span.mismatches diagnostics := by
  rw [mismatches_concat, other, Bool.false_and, if_neg Bool.false_ne_true, List.append_nil]

theorem namesDelimiter_of_isMismatch {fault : Fault} (mismatch : fault.isMismatch = true) :
    fault.namesDelimiter = true := by
  unfold Fault.isMismatch at mismatch
  split at mismatch
  · rfl
  · cases mismatch

theorem mismatches_eq_nil {span : Span}
    (none : ∀ diagnostic ∈ diagnostics, diagnostic.fault.namesDelimiter = true →
      diagnostic.span ≠ span) : span.mismatches diagnostics = [] := by
  rw [Span.mismatches, List.filter_eq_nil_iff]
  intro diagnostic member both
  rw [Bool.and_eq_true, beq_iff_eq] at both
  exact none diagnostic member (namesDelimiter_of_isMismatch both.1) both.2

theorem isMismatch_of_isLeftOpenBy {fault : Fault}
    (leftOpen : delimiter.isLeftOpenBy fault = true) : fault.isMismatch = false := by
  unfold Delimiter.isLeftOpenBy at leftOpen
  split at leftOpen
  · rfl
  · rfl
  · cases leftOpen

end Offside
