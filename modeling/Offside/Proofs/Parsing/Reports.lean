import Offside.Proofs.Lexing.Nesting
import Offside.Proofs.Parsing.Lossless
import Offside.Text.XidStart

namespace Offside

/-!
# Reports and faulty input

A source whose lexer is silent has nested tokens, so looking ahead settles every
ambiguity in it, and the parser reports something only where it leaves faulty input
behind.  A source whose lexer is not silent shows that in its tokens.  A tree without
faulty input could not hold them: it would have to be built from sound tokens that
are nested.
-/

/-! ## Silent lexers -/

namespace TokenStream

theorem kindsFrom_zero (stream : TokenStream) :
    stream.kindsFrom 0 = stream.body.toList.map Token.kind := by
  unfold kindsFrom
  rw [List.drop_zero]

/-- The mark at the end leaves every delimiter alone. -/
theorem read_toList (stream : TokenStream) (nesting : Nesting) (stack : List Delimiter) :
    nesting.read stack (stream.toList.map Token.kind) =
      nesting.read stack (stream.body.toList.map Token.kind) := by
  unfold toList
  rw [List.map_append, Nesting.read_append]
  have last : ∀ stack, nesting.read stack ([stream.ending].map Token.kind) =
      some stack := by
    intro stack
    rw [List.map_singleton, stream.ending_kind]
    rfl
  rw [funext last]
  exact Option.bind_fun_some _

theorem hasErrorToken_iff (stream : TokenStream) :
    stream.HasErrorToken ↔ ∃ token ∈ stream.toList, token.kind.isError = true := by
  constructor
  · rintro ⟨token, member, marked⟩
    exact ⟨token, List.mem_append_left _ (Array.mem_toList_iff.mpr member), marked⟩
  · rintro ⟨token, member, marked⟩
    rcases List.mem_append.mp member with inside | last
    · exact ⟨token, Array.mem_toList_iff.mp inside, marked⟩
    · rw [List.mem_singleton.mp last, stream.ending_kind] at marked
      cases marked

end TokenStream

section
variable [XidStart] (source : String) (tabWidth : Nat)

theorem toList_lex :
    (TokenStream.ofList (lex source tabWidth).tokens).toList = (lex source tabWidth).tokens := by
  rw [TokenStream.toList_ofList, completed_lex]

theorem endsOnce_lex : (TokenStream.ofList (lex source tabWidth).tokens).EndsOnce :=
  TokenStream.endsOnce_ofList (lex_early source tabWidth)

variable {source tabWidth}

/-- Where the lexer is silent every group is closed. -/
theorem Lexed.Silent.groupsClose (silent : (lex source tabWidth).Silent) :
    (TokenStream.ofList (lex source tabWidth).tokens).GroupsClose := by
  apply TokenStream.groupsClose_of_nested (endsOnce_lex source tabWidth)
  rw [TokenStream.kindsFrom_zero, ← TokenStream.read_toList, toList_lex]
  exact Nesting.read_loose silent.nested

theorem Lexed.Silent.noErrorToken (silent : (lex source tabWidth).Silent) :
    ¬ (TokenStream.ofList (lex source tabWidth).tokens).HasErrorToken := by
  rw [TokenStream.hasErrorToken_iff, toList_lex]
  rintro ⟨token, member, marked⟩
  rw [silent.sound token member] at marked
  cases marked

theorem lex_silent (nothing : (lex source tabWidth).diagnostics = []) :
    (lex source tabWidth).Silent := by
  rcases lex_honest source tabWidth with silent | faulty
  · exact silent
  · exact absurd nothing faulty.told

end

/-! ## Sources -/

/-- What the parser is told about the lexer of a source. -/
def sessionOf [XidStart] (source : String) (options : ParseOptions) : Session :=
  ⟨options.maxDepth, !(lex source options.tabWidth).diagnostics.isEmpty ||
    (lex source options.tabWidth).tokens.any fun token => token.kind.isError⟩

/-- What the parser makes of a source, without the reports of the lexer. -/
def parsedAlone [XidStart] (source : String) (options : ParseOptions) : Parsed :=
  parseStream (sessionOf source options) (.ofList (lex source options.tabWidth).tokens)

section
variable [XidStart] (source : String) (options : ParseOptions)

theorem root_parse : (parse source options).root = (parsedAlone source options).root := rfl

/-- All reports are there, in some order. -/
theorem diagnostics_perm :
    (parse source options).diagnostics.Perm
      ((lex source options.tabWidth).diagnostics ++ (parsedAlone source options).diagnostics) :=
  List.mergeSort_perm _ _

theorem parsedAlone_covers :
    ∃ held, (parsedAlone source options).Covers (sessionOf source options)
      (.ofList (lex source options.tabWidth).tokens) held :=
  parseStream_covers _ (TokenStream.position_ofList _) (endsOnce_lex source options.tabWidth)

theorem hasErrors_parse :
    (parse source options).hasErrors = true ↔
      (lex source options.tabWidth).diagnostics ≠ [] ∨
        (parsedAlone source options).diagnostics ≠ [] := by
  have same := (diagnostics_perm source options).isEmpty_eq
  unfold Parsed.hasErrors
  rw [same, Bool.not_eq_true', List.isEmpty_eq_false_iff, ne_eq, List.append_eq_nil_iff,
    Decidable.not_and_iff_not_or_not]

variable {source options}

theorem lexerComplained_of_faulty (faulty : (lex source options.tabWidth).Faulty) :
    (sessionOf source options).lexerComplained = true := by
  unfold sessionOf
  rw [List.isEmpty_eq_false_iff.mpr faulty.told]
  rfl

/-- The parser reports no unsettled ambiguity: either there is none, or the lexer has
complained and the parser keeps it to itself. -/
theorem parsedAlone_settled (diagnostic : Diagnostic)
    (member : diagnostic ∈ (parsedAlone source options).diagnostics) :
    ¬ diagnostic.IsUnsettled := by
  intro unsettled
  rcases parsedAlone_covers source options with ⟨held, covers⟩
  have blamed := covers.accounted.blameless diagnostic member unsettled
  rcases lex_honest source options.tabWidth with silent | faulty
  · exact blamed.2 silent.groupsClose
  · have complained := lexerComplained_of_faulty faulty
    rw [blamed.1] at complained
    cases complained

end

/-! ## Ambiguities -/

/-- Unsettled ambiguities are never reported.  Where the lexer is silent there are none:
at any place of the source, whatever was parsed before, looking ahead settles every
ambiguity.  Whether a type is a tuple is only asked in front of a round bracket. -/
theorem parse_settled [XidStart] (source : String) (options : ParseOptions) :
    (∀ diagnostic ∈ (parse source options).diagnostics, ∀ ambiguity,
      diagnostic.fault ≠ .grammatical (.unresolvedAmbiguity ambiguity)) ∧
    ((lex source options.tabWidth).diagnostics = [] →
      ∀ (position : Nat) (previous : Option NodeKind) (ambiguity : Ambiguity)
        (stream : TokenStream),
        stream = (TokenStream.ofList (lex source options.tabWidth).tokens).moveTo position →
        (ambiguity = .tupleOrParameterTypes → stream.isAtMark .leftParen = true) →
        (stream.resolve previous ambiguity).isSome = true) := by
  constructor
  · intro diagnostic member ambiguity unsettled
    have among := (diagnostics_perm source options).mem_iff.mp member
    rcases List.mem_append.mp among with lexical | grammatical
    · have isLexical := lex_reports source options.tabWidth diagnostic lexical
      rw [unsettled] at isLexical
      cases isLexical
    · exact parsedAlone_settled diagnostic grammatical ⟨ambiguity, unsettled⟩
  · -- That the groups close is a fact about all tokens, so it holds at every place.
    intro nothing position previous ambiguity stream same atGroup
    have close := (lex_silent nothing).groupsClose.moveTo position
    rw [← same] at close
    exact close.resolve_isSome previous ambiguity atGroup

/-- The group behind the equals sign is told from a tuple by the arrow behind it. -/
theorem parse_settled_arrow_type :
    (lex "type T = (A) -> B" 4).diagnostics = [] ∧
    ((TokenStream.ofList (lex "type T = (A) -> B" 4).tokens).moveTo 3).isAtMark
      .leftParen = true ∧
    (((TokenStream.ofList (lex "type T = (A) -> B" 4).tokens).moveTo 3).resolve none
      .tupleOrParameterTypes).isSome = true := by
  have silent : (lex "type T = (A) -> B" 4).diagnostics = [] := by decide +kernel
  have atGroup : ((TokenStream.ofList (lex "type T = (A) -> B" 4).tokens).moveTo 3).isAtMark
      .leftParen = true := by decide +kernel
  exact ⟨silent, atGroup,
    (parse_settled "type T = (A) -> B" ⟨4, 128⟩).2 silent 3 none _ _ rfl fun _ => atGroup⟩

/-! ## Faulty input -/

theorem Stretch.sound_mem_of_mem_allTokens {held : List Stretch}
    (sound : anyFaulty held = false) {token : Token} (member : token ∈ allTokens held) :
    Stretch.sound token ∈ held := by
  rcases List.mem_flatMap.mp member with ⟨stretch, among, inside⟩
  cases stretch with
  | sound other =>
      rw [List.mem_singleton.mp inside]
      exact among
  | faulty tokens =>
      have impossible := List.any_eq_false.mp sound _ among
      exact absurd rfl impossible

namespace Parsed.Covers

variable {parsed : Parsed} {session : Session} {stream : TokenStream} {held : List Stretch}

theorem hasError_eq (covers : parsed.Covers session stream held) :
    parsed.root.hasError = Stretch.anyFaulty held := by
  rw [Node.hasError_eq, covers.stretches, Stretch.anyFaulty_append]
  exact Bool.or_false _

/-- A tree without faulty input has sound tokens. -/
theorem noErrorToken (covers : parsed.Covers session stream held)
    (sound : Stretch.anyFaulty held = false) : ¬ stream.HasErrorToken := by
  rintro ⟨token, member, marked⟩
  have taken : token ∈ Stretch.allTokens held := by
    rw [covers.tokens]
    exact Array.mem_toList_iff.mpr member
  rw [covers.sound token (Stretch.sound_mem_of_mem_allTokens sound taken)] at marked
  cases marked

/-- The tokens of a tree without faulty input are nested. -/
theorem read_toList (covers : parsed.Covers session stream held)
    (sound : Stretch.anyFaulty held = false) :
    Nesting.loose.read [] (stream.toList.map Token.kind) = some [] := by
  rw [stream.read_toList, ← covers.tokens, ← Nesting.readHeld_eq_read _ sound]
  exact covers.nested

end Parsed.Covers

/-- Something is reported for a source exactly when its tree has faulty input. -/
theorem hasErrors_eq_hasError [XidStart] (source : String) (options : ParseOptions) :
    (parse source options).hasErrors = (parse source options).root.hasError := by
  rcases parsedAlone_covers source options with ⟨held, covers⟩
  rw [root_parse, covers.hasError_eq, Bool.eq_iff_iff, hasErrors_parse]
  rcases lex_honest source options.tabWidth with silent | faulty
  · -- Only the parser can report something, and only where it leaves faulty input.
    constructor
    · rintro (told | told)
      · exact absurd silent.diagnostics told
      · rcases List.exists_mem_of_ne_nil _ told with ⟨diagnostic, member⟩
        have settled := parsedAlone_settled diagnostic member
        cases found : Stretch.anyFaulty held with
        | true => rfl
        | false => exact absurd (covers.accounted.unsettled found diagnostic member) settled
    · intro found
      rcases covers.accounted.reported found with told | marked
      · exact Or.inr told
      · exact absurd marked silent.noErrorToken
  · -- The lexer has reported something, so it remains to find faulty input.
    apply iff_of_true (Or.inl faulty.told)
    cases sound : Stretch.anyFaulty held with
    | true => rfl
    | false =>
        have nested := covers.read_toList sound
        rw [toList_lex] at nested
        rcases faulty.shown with marked | stuck
        · refine absurd ?_ (covers.noErrorToken sound)
          rw [TokenStream.hasErrorToken_iff, toList_lex]
          exact marked
        · rw [stuck] at nested
          cases nested

end Offside
