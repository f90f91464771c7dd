import Offside.Proofs.Lexing.Boundary
import Offside.Proofs.Lexing.NumeralShapes
import Offside.Proofs.Lexing.Steps
import Offside.Text.XidStart

namespace Offside

/-!
# What the text of a token can be

A scanner finds a token only in a text of the right form: a numeral or a character literal
has the shape of one, and a name is neither reserved nor the wildcard.

The tokens of a source are found by scanners, but for the parts of strings with splices.
There a name behind the splice mark is taken as it stands.  So what holds of every token
that a scanner finds holds of every token of a source that is no such name.
-/

/-- Whether the text of a token has the form that its kind asks for. -/
def TokenKind.Formed : TokenKind → Prop
  | .integer text => text.toList ∈ Numeral.integers
  | .float text => text.toList ∈ Numeral.floats
  | .character text => text.toList ∈ CharacterLiteral.literals
  | .identifier name => Keyword.ofSpelling? name = none ∧ name ≠ "_"
  | _ => True

namespace Lexeme

variable {operandBefore : Bool} {c : Char} {rest : List Char} {kind : TokenKind}

/-- No keyword is spelled with a mark in front. -/
theorem formed_of_backquoted (found : (backquoted rest).lexeme = .token kind) : kind.Formed := by
  unfold backquoted at found
  dsimp only at found
  split at found
  · rw [← Lexeme.token.inj found]
    generalize rest.take _ = name
    refine ⟨Option.eq_none_iff_forall_ne_some.mpr fun keyword reserved => ?_, fun wildcard => ?_⟩
    · rcases Keyword.spells_of_ofSpelling? reserved with shown | ⟨-, second⟩
      · have letters := congrArg String.toList shown
        rw [String.toList_ofList] at letters
        cases keyword <;> exact absurd (List.cons.inj letters).1 (by decide)
      · exact absurd (List.cons.inj second).1 (by decide)
    · have letters := congrArg String.toList wildcard
      rw [String.toList_ofList] at letters
      exact absurd (List.cons.inj letters).1 (by decide)
  · cases found

theorem wordKind_formed (word : String) : (wordKind word).Formed := by
  unfold wordKind
  split
  · exact trivial
  · rename_i noWildcard
    split
    · exact trivial
    · rename_i noKeyword
      exact ⟨noKeyword, fun same => noWildcard (beq_iff_eq.mpr same)⟩

theorem formed_numeral {isFloat : Bool} {text : String}
    (member : text.toList ∈ Numeral.shape isFloat) :
    TokenKind.Formed (if isFloat then .float text else .integer text) := by
  cases isFloat <;> exact member

theorem formed_of_numeral [XidStart] (starts : startsNumeral operandBefore c rest = true)
    (found : (numeral c rest).lexeme = .token kind) : kind.Formed := by
  have wellFormed : (Numeral.scan (c :: rest)).wellFormed = true := by
    unfold numeral at found
    dsimp only at found
    split at found
    · assumption
    · cases found
  have member := Numeral.take_scan starts wellFormed
  rw [numeral_of_wellFormed wellFormed] at found
  rw [← Lexeme.token.inj found]
  refine formed_numeral ?_
  rw [String.toList_ofList]
  exact member

theorem formed_of_string [XidStart] (found : (string rest).lexeme = .token kind) : kind.Formed := by
  unfold string at found
  dsimp only at found
  generalize (if ['"', '"'].isPrefixOf rest then QuoteForm.triple else .plain) = quote at found
  split at found
  · cases found
  · split at found
    · cases found
    · rw [← Lexeme.token.inj found]
      exact trivial

theorem formed_of_operator (found : (operator c rest).lexeme = .token kind) : kind.Formed := by
  unfold operator at found
  dsimp only at found
  split at found
  · rw [← Lexeme.token.inj found]
    exact trivial
  · split at found <;> rw [← Lexeme.token.inj found] <;> exact trivial

/-- A scanner finds no token of another form. -/
theorem formed_of_scan [XidStart] (found : (scan operandBefore c rest).lexeme = .token kind) :
    kind.Formed := by
  rcases solid_of_scan (congrArg Lexeme.kind? found) with ⟨solid, noComment⟩
  rw [scan_eq_scanSolid solid noComment] at found
  unfold scanSolid at found
  split at found
  · exact formed_of_string found
  · split at found
    · rcases mem_of_character found with ⟨text, rfl, member⟩
      exact member
    · split at found
      · exact formed_of_backquoted found
      · split at found
        · exact formed_of_numeral ‹_› found
        · split at found
          · rw [← Lexeme.token.inj found]
            exact trivial
          · split at found
            · rw [← Lexeme.token.inj found]
              exact wordKind_formed _
            · split at found
              · exact formed_of_operator found
              · cases found

end Lexeme

/-! ## Tokens of a source -/

/-- Whether a scanner finds tokens of the kind. -/
def TokenKind.IsScanned [XidStart] (kind : TokenKind) : Prop :=
  ∃ operandBefore c rest, (Lexeme.scan operandBefore c rest).lexeme = .token kind

/-- A name stands directly behind the mark of a splice. -/
structure NamesSplice (front : List TokenKind) (kind : TokenKind) : Prop where
  name : ∃ name, kind = .identifier name
  behind : front.getLast? = some (.punctuation .dollar)

/-- A sound token is found by a scanner, or it is the mark of a splice or the name behind
such a mark. -/
def Traced [XidStart] (kinds : List TokenKind) : Prop :=
  ∀ front kind back, kinds = front ++ kind :: back → kind.isLexical = true →
    kind.IsScanned ∨ kind = .punctuation .dollar ∨ NamesSplice front kind

namespace Traced

variable [XidStart] {kinds others : List TokenKind}

theorem of_forall (each : ∀ kind ∈ kinds, kind.isLexical = true →
    kind.IsScanned ∨ kind = .punctuation .dollar) : Traced kinds := by
  intro front kind back parts lexical
  rw [parts] at each
  exact (each kind (by simp) lexical).imp_right .inl

theorem of_not_isLexical (each : ∀ kind ∈ kinds, kind.isLexical = false) : Traced kinds :=
  .of_forall fun kind member lexical => absurd lexical (Bool.eq_false_iff.mp (each kind member))

theorem append (traced : Traced kinds) (behind : Traced others) : Traced (kinds ++ others) := by
  intro front kind back parts lexical
  rcases split_append parts with ⟨inner, -, before⟩ | ⟨inner, rfl, after⟩
  · exact traced front kind inner before lexical
  · refine (behind inner kind back after lexical).imp_right
      (·.imp_right fun names => ⟨names.name, ?_⟩)
    rw [List.getLast?_append, names.behind]
    rfl

theorem splice (name : String) : Traced [.punctuation .dollar, .identifier name] := by
  intro front kind back parts lexical
  cases front with
  | nil => exact .inr (.inl (List.cons.inj parts).1.symm)
  | cons first front =>
      cases front with
      | nil =>
          rcases List.cons.inj parts with ⟨mark, behind⟩
          exact .inr (.inr ⟨⟨name, (List.cons.inj behind).1.symm⟩, mark ▸ rfl⟩)
      | cons second front =>
          have behind := (List.cons.inj (List.cons.inj parts).2).2
          exact absurd behind.symm (List.append_ne_nil_of_right_ne_nil _ (List.cons_ne_nil _ _))

end Traced

theorem isScanned_leftBrace [XidStart] : (TokenKind.punctuation .leftBrace).IsScanned := by
  refine ⟨false, '{', [], ?_⟩
  rw [Lexeme.scan_eq_scanSolid (isBlank_of_visible (by decide)) rfl]
  rfl

namespace Reader

variable {reader : Reader} {c : Char} {rest : List Char} {source : String} {tabWidth : Nat}

theorem traced_piece [XidStart] (piece : StringText.Piece) (quote : QuoteForm) (text : List Char) :
    Traced (piece.kinds quote text) := by
  cases piece with
  | name length => exact .splice _
  | spliceOpening =>
      refine .of_forall (List.forall_mem_cons.mpr ⟨fun _ => .inr rfl, ?_⟩)
      exact List.forall_mem_singleton.mpr fun _ => .inl isScanned_leftBrace
  | closing => exact .of_not_isLexical (List.forall_mem_singleton.mpr rfl)
  | text length => exact .of_not_isLexical (List.forall_mem_singleton.mpr rfl)
  | cutOff length => exact .of_not_isLexical (List.forall_mem_nil _)

theorem isLexical_of_isSynthetic {kind : TokenKind} (synthetic : kind.isSynthetic = true) :
    kind.isLexical = false := by
  cases kind <;> first | rfl | cases synthetic

variable [XidStart]

/-- Outside of strings a sound token is found by a scanner. -/
theorem Reads.isScanned {token : Token} (reads : reader.Reads token)
    (code : Frame.inString reader.frames = false) (lexical : token.kind.isLexical = true) :
    token.kind.IsScanned := by
  cases reads with
  | @lexeme c rest kind code unread found =>
      refine ⟨reader.lastKind?.any TokenKind.endsOperand, c, rest,
        Lexeme.eq_token_of_kind? found fun quote opening => ?_⟩
      subst opening
      cases lexical
  | stray closer span => cases lexical
  | faulty code unread found => cases lexical
  | mark inString marks span waiting =>
      rw [inString] at code
      cases code
  | plain inString unclosed noSplice => cases lexical

theorem step_traced_of_inString {quote : QuoteForm} {opened : Nat} {outer : List Frame}
    (inString : reader.frames = .string quote opened :: outer) (unread : reader.rest ≠ []) :
    ∃ new, reader.step.tokens.toList = reader.tokens.toList ++ new ∧
      Traced (new.map Token.kind) := by
  by_cases whole : ∀ length, StringText.scanPiece quote reader.rest ≠ .cutOff length
  · rcases step_takesPiece inString unread rfl whole with ⟨new, takes⟩
    refine ⟨new, takes.tokens, ?_⟩
    rw [takes.kinds]
    exact traced_piece _ _ _
  · rcases not_forall_not.mp whole with ⟨length, found⟩
    rw [step_eq_readPiece inString unread, readPiece_of_cutOff found]
    simp only [advance, insert, report, Array.toList_push]
    unfold addFragment
    split
    · exact ⟨_, rfl, .of_not_isLexical (List.forall_mem_singleton.mpr rfl)⟩
    · simp only [add, Array.toList_push, List.append_assoc]
      refine ⟨_, rfl, .of_not_isLexical (List.forall_mem_cons.mpr ⟨rfl, ?_⟩)⟩
      exact List.forall_mem_singleton.mpr rfl

/-- What a step adds. -/
theorem step_traced (reader : Reader) :
    ∃ new, reader.step.tokens.toList = reader.tokens.toList ++ new ∧
      Traced (new.map Token.kind) := by
  cases code : Frame.inString reader.frames with
  | false =>
      rcases step_adds reader with ⟨new, added, adds⟩
      refine ⟨new, added, .of_forall (List.forall_mem_map.mpr fun token member lexical => ?_)⟩
      rcases adds.each token member with inserted | reads
      · exact absurd lexical
          (Bool.eq_false_iff.mp (isLexical_of_isSynthetic inserted.isSynthetic))
      · exact .inl (reads.isScanned code lexical)
  | true =>
      rcases Frame.exists_of_inString code with ⟨quote, opened, outer, frames⟩
      by_cases unread : reader.rest = []
      · rw [step_of_read unread]
        exact ⟨[], (List.append_nil _).symm, .of_forall (List.forall_mem_nil _)⟩
      · exact step_traced_of_inString frames unread

/-- By induction on the steps. -/
theorem afterSteps_traced (source : String) (tabWidth steps : Nat) :
    Traced (afterSteps source tabWidth steps).kinds := by
  induction steps with
  | zero => exact .of_forall (List.forall_mem_nil _)
  | succ steps inductionHypothesis =>
      rw [afterSteps_succ]
      rcases step_traced (afterSteps source tabWidth steps) with ⟨new, added, traced⟩
      rw [kinds_of_tokens added]
      exact inductionHypothesis.append traced

end Reader

/-- Every sound token of a source is traced. -/
theorem lex_traced [XidStart] (source : String) (tabWidth : Nat) :
    Traced ((lex source tabWidth).tokens.map Token.kind) := by
  rcases Reader.exists_afterSteps_eq_run source tabWidth with ⟨steps, ended⟩
  have traced := Reader.afterSteps_traced source tabWidth steps
  unfold lex Reader.finish
  rw [← ended]
  rcases (Reader.Inserts.foldl Reader.Inserts.closeAtEnd
    (Reader.afterSteps source tabWidth steps).frames _).tokens with ⟨inserted, added, each⟩
  have marks : Traced (inserted.map Token.kind) :=
    .of_not_isLexical (List.forall_mem_map.mpr fun token member =>
      Reader.isLexical_of_isSynthetic (each token member).isSynthetic)
  unfold Reader.add
  dsimp only
  rw [Array.toList_push, added, List.map_append, List.map_append]
  exact (traced.append marks).append (.of_not_isLexical (List.forall_mem_singleton.mpr rfl))

/-- The text of a token has the form that its kind asks for, unless it is a name that stands
behind the mark of a splice. -/
theorem lex_formed [XidStart] {source : String} {tabWidth : Nat} {front back : List Token}
    {token : Token} (parts : (lex source tabWidth).tokens = front ++ token :: back) :
    token.kind.Formed ∨ NamesSplice (front.map Token.kind) token.kind := by
  have split := congrArg (List.map Token.kind) parts
  rw [List.map_append, List.map_cons] at split
  by_cases lexical : token.kind.isLexical = true
  · rcases lex_traced source tabWidth _ _ _ split lexical with
      ⟨operandBefore, c, rest, found⟩ | dollar | names
    · exact .inl (Lexeme.formed_of_scan found)
    · rw [dollar]
      exact .inl trivial
    · exact .inr names
  · refine .inl ?_
    cases kind : token.kind with
    | identifier _ | integer _ | float _ | character _ =>
        rw [kind] at lexical
        exact absurd rfl lexical
    | _ => exact trivial

theorem formed_of_mem_tokens [XidStart] {source : String} {tabWidth : Nat} {token : Token}
    (member : token ∈ (lex source tabWidth).tokens)
    (noName : ∀ name, token.kind ≠ .identifier name) : token.kind.Formed := by
  rcases List.append_of_mem member with ⟨front, back, parts⟩
  rcases lex_formed parts with formed | ⟨⟨name, named⟩, -⟩
  · exact formed
  · exact absurd named (noName name)

/-- No name is reserved, and none is the wildcard, but for the names of splices. -/
theorem lex_reserved [XidStart] {source : String} {tabWidth : Nat} {front back : List Token}
    {token : Token} {name : String} (parts : (lex source tabWidth).tokens = front ++ token :: back)
    (named : token.kind = .identifier name)
    (noSplice : (front.map Token.kind).getLast? ≠ some (.punctuation .dollar)) :
    Keyword.ofSpelling? name = none ∧ name ≠ "_" := by
  rcases lex_formed parts with formed | names
  · rw [named] at formed
    exact formed
  · exact absurd names.behind noSplice

/-- Between backquotes even a reserved word is a name, for they are part of it. -/
theorem lex_reserved_backquoted :
    (lex "def `def`" 4).tokens = [⟨.keyword .defKw, ⟨0, 3⟩, []⟩] ++
        ⟨.identifier "`def`", ⟨4, 9⟩, [⟨.whitespace, ⟨3, 4⟩⟩]⟩ :: [⟨.endOfFile, ⟨9, 9⟩, []⟩] ∧
      Keyword.ofSpelling? "`def`" = none ∧ "`def`" ≠ "_" := by
  have parts : (lex "def `def`" 4).tokens = [⟨.keyword .defKw, ⟨0, 3⟩, []⟩] ++
      ⟨.identifier "`def`", ⟨4, 9⟩, [⟨.whitespace, ⟨3, 4⟩⟩]⟩ :: [⟨.endOfFile, ⟨9, 9⟩, []⟩] := by
    decide +kernel
  exact ⟨parts, lex_reserved parts rfl (by decide)⟩

/-- The name of a splice is not looked up. -/
example : (lex "\"$def\"" 4).tokens.map Token.kind =
    [.stringStart .plain, .punctuation .dollar, .identifier "def", .stringEnd .plain,
      .endOfFile] := by decide +kernel

end Offside
