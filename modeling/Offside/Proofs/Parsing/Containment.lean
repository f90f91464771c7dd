import Offside.Proofs.Lexing.Pieces
import Offside.Proofs.Parsing.Placed
import Offside.Proofs.Parsing.Reports
import Offside.Text.XidStart

namespace Offside

/-!
# Faulty input is contained

Where the lexer has no complaint, a node of faulty input holds whole groups: what is
opened in it is closed in it and what is closed in it was opened in it.

Gathering counts open groups and knows nothing of what surrounds it.  On nested tokens
the count is right all the same, as it is the number of blocks and groups that were
opened on the way and are still open.  Strings are not counted, but gathering does not
stop in the middle of one, since no recovery point is a piece of a string.  So nothing
stays open that was opened in faulty input.  That nothing is closed in it that was
opened in front of it cannot be seen from the node alone.  It follows from the whole
tree: what the rules take is nested by itself, and so are all tokens together, so there
is nothing that faulty input could close on balance.
-/

namespace Delimiter

/-- Whether the delimiter is a string. -/
def isString : Delimiter → Bool
  | string _ => true
  | _ => false

end Delimiter

open Progress (openBehind depthBehind)

/-! ## Counting open groups -/

namespace TokenKind

variable {kind : TokenKind} {delimiter : Delimiter}

theorem depthBehind_of_opens (depth : Nat) (opens : kind.opens? = some delimiter) :
    depthBehind depth kind = depth + if delimiter.isString then 0 else 1 := by
  cases kind with
  | punctuation mark => cases mark <;> first | (cases opens; rfl) | cases opens
  | _ => first | (cases opens; rfl) | cases opens

theorem depthBehind_of_closes (depth : Nat) (closes : kind.closes? = some delimiter) :
    depthBehind depth kind = depth - if delimiter.isString then 0 else 1 := by
  cases kind with
  | punctuation mark => cases mark <;> first | (cases closes; rfl) | cases closes
  | _ => first | (cases closes; rfl) | cases closes

theorem depthBehind_of_inert (depth : Nat) (inert : kind.isInert = true)
    (sound : kind.isError = false) : depthBehind depth kind = depth := by
  cases kind with
  | punctuation mark => cases mark <;> first | rfl | cases inert
  | error text => cases sound
  | _ => first | rfl | cases inert

end TokenKind

namespace Nesting

/-- The number of blocks and groups on a stack. -/
def groups (stack : List Delimiter) : Nat := stack.countP fun delimiter => !delimiter.isString

theorem groups_cons (delimiter : Delimiter) (stack : List Delimiter) :
    groups (delimiter :: stack) = groups stack + if delimiter.isString then 0 else 1 := by
  unfold groups
  rw [List.countP_cons]
  cases delimiter.isString <;> rfl

/-- What comes of a stack of which only the upper part has been opened on the way: some
of it is left, and perhaps less is left of the lower part. -/
structure Parts (inside outside after : List Delimiter) (depth : Nat)
    (upper : Option (List Delimiter)) (left rest : List Delimiter) : Prop where
  whole : after = left ++ rest
  suffix : rest <:+ outside
  depth : depth = groups left
  /-- While the lower part is whole, it makes no difference. -/
  alone : rest.length = outside.length → upper = some left

variable {inside outside after : List Delimiter} {kind : TokenKind} {kinds : List TokenKind}

theorem step_parts (sound : kind.isError = false)
    (stepped : exact.step (inside ++ outside) kind = some after) :
    ∃ left rest, Parts inside outside after (depthBehind (groups inside) kind)
      (exact.step inside kind) left rest := by
  cases opens : kind.opens? with
  | some delimiter =>
      rw [step_of_opens _ opens] at stepped ⊢
      cases stepped
      refine ⟨delimiter :: inside, outside, rfl, List.suffix_refl _, ?_, fun _ => rfl⟩
      rw [TokenKind.depthBehind_of_opens _ opens, groups_cons]
  | none =>
      cases closes : kind.closes? with
      | none =>
          have inert : kind.isInert = true := by
            unfold TokenKind.isInert
            rw [opens, closes]
            rfl
          rw [step_of_inert _ inert] at stepped ⊢
          cases stepped
          exact ⟨inside, outside, rfl, List.suffix_refl _,
            TokenKind.depthBehind_of_inert _ inert sound, fun _ => rfl⟩
      | some delimiter =>
          have depth := TokenKind.depthBehind_of_closes (groups inside) closes
          unfold step at stepped ⊢
          rw [opens, closes] at stepped ⊢
          rw [depth]
          cases inside with
          | cons top inside =>
              dsimp only [List.cons_append] at stepped ⊢
              split at stepped
              · rename_i same
                cases stepped
                refine ⟨inside, outside, rfl, List.suffix_refl _, ?_, fun _ => if_pos same⟩
                have viewed : top = delimiter := same
                rw [groups_cons, viewed, Nat.add_sub_cancel]
              · cases stepped
          | nil =>
              cases outside with
              | nil => cases stepped
              | cons top outside =>
                  dsimp only [List.nil_append] at stepped ⊢
                  split at stepped
                  · cases stepped
                    refine ⟨[], _, rfl, List.suffix_cons _ _, Nat.zero_sub _, fun same => ?_⟩
                    rw [List.length_cons] at same
                    omega
                  · cases stepped

theorem read_parts (sound : ∀ kind ∈ kinds, kind.isError = false)
    (read : exact.read (inside ++ outside) kinds = some after) :
    ∃ left rest, Parts inside outside after (openBehind (groups inside) kinds)
      (exact.read inside kinds) left rest := by
  induction kinds generalizing inside outside with
  | nil =>
      cases read
      exact ⟨inside, outside, rfl, List.suffix_refl _, rfl, fun _ => rfl⟩
  | cons kind kinds inductionHypothesis =>
      rw [List.forall_mem_cons] at sound
      rw [read_cons] at read ⊢
      rcases Option.bind_eq_some_iff.mp read with ⟨middle, stepped, further⟩
      rcases step_parts sound.1 stepped with ⟨left, rest, first⟩
      rw [first.whole] at further
      rcases inductionHypothesis sound.2 further with ⟨leftAfter, restAfter, second⟩
      refine ⟨leftAfter, restAfter, second.whole, second.suffix.trans first.suffix, ?_, ?_⟩
      · rw [← second.depth, ← first.depth]
        rfl
      · intro same
        have fewer := first.suffix.length_le
        have fewerAfter := second.suffix.length_le
        rw [first.alone (by omega), Option.bind_some]
        exact second.alone (by omega)

/-- What a token does to the number of open delimiters does not depend on how closely
the reading looks at them. -/
theorem length_step {stack stackAfter other otherAfter : List Delimiter}
    (stepped : exact.step stack kind = some stackAfter)
    (steppedLoosely : loose.step other kind = some otherAfter) :
    stackAfter.length + other.length = stack.length + otherAfter.length := by
  cases opens : kind.opens? with
  | some delimiter =>
      rw [step_of_opens _ opens] at stepped steppedLoosely
      cases stepped
      cases steppedLoosely
      simp only [List.length_cons]
      omega
  | none =>
      unfold step at stepped steppedLoosely
      rw [opens] at stepped steppedLoosely
      cases closes : kind.closes? with
      | none =>
          rw [closes] at stepped steppedLoosely
          cases stepped
          cases steppedLoosely
          rfl
      | some delimiter =>
          rw [closes] at stepped steppedLoosely
          dsimp only at stepped steppedLoosely
          cases stack with
          | nil => cases stepped
          | cons top outer =>
              cases other with
              | nil => cases steppedLoosely
              | cons otherTop otherOuter =>
                  dsimp only at stepped steppedLoosely
                  split at stepped <;> cases stepped
                  split at steppedLoosely <;> cases steppedLoosely
                  simp only [List.length_cons]
                  omega

end Nesting

/-! ## One node of faulty input -/

namespace TokenStream

variable {stream : TokenStream}

/-- Definitions start with a keyword or an annotation. -/
theorem definitionStartsAt_eq_false (noKeyword : ∀ word, stream.kind ≠ .keyword word)
    (noSign : stream.isAtMark .atSign = false) : stream.definitionStartsAt 0 = false := by
  have here : stream.kindAhead 0 = stream.kind := rfl
  have noModifiers : stream.modifiersAhead 0 = 0 := by
    have other : stream.kind.isModifier = false := by
      cases found : stream.kind with
      | keyword word => exact absurd found (noKeyword word)
      | _ => rfl
    unfold modifiersAhead
    rw [here, other]
    split <;> rfl
  unfold definitionStartsAt
  rw [here, noModifiers]
  unfold isAtMark at noSign
  rw [noSign]
  dsimp only
  rw [here]
  cases found : stream.kind with
  | keyword word => exact absurd found (noKeyword word)
  | _ => rfl

/-- No piece of a string is a recovery point, and neither is the end of the source. -/
theorem atRecoveryPoint_eq_false (piece : stream.kind.isPiece = true ∨ stream.atEnd = true) :
    stream.atRecoveryPoint = false := by
  have ended : stream.atEnd = true → stream.kind = .endOfFile := beq_iff_eq.mp
  have noDefinition : stream.definitionStartsAt 0 = false := by
    apply definitionStartsAt_eq_false
    · intro word same
      rcases piece with piece | atEnd
      · rw [same] at piece
        cases piece
      · rw [ended atEnd] at same
        cases same
    · unfold isAtMark
      rcases piece with piece | atEnd
      · cases found : stream.kind with
        | punctuation mark => rw [found] at piece; cases mark <;> first | rfl | cases piece
        | _ => rfl
      · rw [ended atEnd]
        rfl
  unfold atRecoveryPoint isAtKeyword
  rw [noDefinition, Bool.or_false]
  rcases piece with piece | atEnd
  · cases found : stream.kind with
    | punctuation mark => rw [found] at piece; cases mark <;> first | rfl | cases piece
    | _ => rw [found] at piece; first | rfl | cases piece
  · rw [ended atEnd]
    rfl

/-- The tokens of a source about which the lexer has no complaint. -/
structure Orderly (stream : TokenStream) : Prop where
  endsOnce : stream.EndsOnce
  sound : ∀ token ∈ stream.body.toList, token.kind.isError = false
  nested : Nesting.exact.read [] (stream.body.toList.map Token.kind) = some []
  /-- Directly in a string stand its pieces. -/
  pieces : ∀ front token back quote outer, stream.body.toList = front ++ token :: back →
    Nesting.exact.read [] (front.map Token.kind) = some (.string quote :: outer) →
    token.kind.isPiece = true

/-- A position at which the stream shows a token of its body. -/
theorem split_of_lt {position : Nat} (inside : position < stream.body.size) :
    stream.body.toList = stream.body.toList.take position ++
      (stream.moveTo position).current :: stream.body.toList.drop (position + 1) := by
  have shown : (stream.moveTo position).current = stream.body[position] :=
    (stream.moveTo position).tokenAt_of_lt inside
  rw [shown, ← Array.getElem_toList, ← List.drop_eq_getElem_cons (by simpa using inside),
    List.take_append_drop]

theorem Orderly.sound_of_gathered (orderly : stream.Orderly) {start : Nat}
    {tokens : List Token} (gathered : stream.Gathered start tokens) :
    ∀ kind ∈ tokens.map Token.kind, kind.isError = false := by
  intro kind member
  rcases List.mem_map.mp member with ⟨token, among, rfl⟩
  exact orderly.sound token (List.mem_of_mem_drop (gathered.taken.subset among))

/-- Nothing that was opened in faulty input is left open behind it: gathering stops where
no group is open, so it could only be a string, and it does not stop in a string. -/
theorem Orderly.nothing_left (orderly : stream.Orderly) {front tokens back : List Token}
    {stack after left rest : List Delimiter} {upper : Option (List Delimiter)}
    (whole : stream.body.toList = front ++ (tokens ++ back))
    (gathered : stream.Gathered front.length tokens)
    (read : Nesting.exact.read [] ((front ++ tokens).map Token.kind) = some after)
    (parts : Nesting.Parts [] stack after (openBehind 0 (tokens.map Token.kind)) upper left
      rest) : left = [] := by
  rcases gathered.stops with atEnd | ⟨level, recovery⟩
  · have endsOnce : (stream.moveTo (front.length + tokens.length)).EndsOnce :=
      orderly.endsOnce
    have ended : stream.body.toList.drop (front.length + tokens.length) = [] :=
      left_of_atEnd endsOnce atEnd
    rw [whole, ← List.append_assoc, ← List.length_append, List.drop_left] at ended
    have nested := orderly.nested
    rw [whole, ended, List.append_nil, read] at nested
    have nothing : left ++ rest = [] := parts.whole.symm.trans (Option.some.inj nested)
    exact (List.append_eq_nil_iff.mp nothing).1
  · cases left with
    | nil => rfl
    | cons delimiter inner =>
        exfalso
        have count := parts.depth
        rw [level, Nesting.groups_cons] at count
        cases delimiter with
        | string quote =>
            have goesOn : (stream.moveTo (front.length + tokens.length)).atEnd = false := by
              cases atEnd : (stream.moveTo (front.length + tokens.length)).atEnd with
              | false => rfl
              | true =>
                  rw [atRecoveryPoint_eq_false (Or.inr atEnd)] at recovery
                  cases recovery
            have inside : front.length + tokens.length < stream.body.size :=
              position_lt_of_not_atEnd _ goesOn
            have opened : Nesting.exact.read []
                ((stream.body.toList.take (front.length + tokens.length)).map Token.kind) =
                  some (.string quote :: (inner ++ rest)) := by
              rw [whole, ← List.append_assoc, ← List.length_append, List.take_left, read,
                parts.whole]
              rfl
            have piece := orderly.pieces _ _ _ _ _ (split_of_lt inside) opened
            rw [atRecoveryPoint_eq_false (Or.inl piece)] at recovery
            cases recovery
        | _ => cases count

/-- Faulty input closes at least what it opens.  If it closes no more than that, it is
nested by itself. -/
theorem Orderly.length_le_of_gathered (orderly : stream.Orderly) {front tokens back : List Token}
    {stack : List Delimiter} (whole : stream.body.toList = front ++ (tokens ++ back))
    (gathered : stream.Gathered front.length tokens)
    (before : Nesting.exact.read [] (front.map Token.kind) = some stack) :
    ∃ after, Nesting.exact.read stack (tokens.map Token.kind) = some after ∧
      after.length ≤ stack.length ∧
      (after.length = stack.length →
        Nesting.exact.read [] (tokens.map Token.kind) = some []) := by
  have nested := orderly.nested
  rw [whole, List.map_append, Nesting.read_append, before, Option.bind_some, List.map_append,
    Nesting.read_append] at nested
  rcases Option.bind_eq_some_iff.mp nested with ⟨after, read, _⟩
  rcases Nesting.read_parts (orderly.sound_of_gathered gathered)
    (show Nesting.exact.read ([] ++ stack) _ = some after from read) with ⟨left, rest, parts⟩
  have readBoth : Nesting.exact.read [] ((front ++ tokens).map Token.kind) = some after := by
    rw [List.map_append, Nesting.read_append, before]
    exact read
  rw [orderly.nothing_left whole gathered readBoth parts] at parts
  have same : after = rest := parts.whole
  rw [← same] at parts
  exact ⟨after, read, parts.suffix.length_le, parts.alone⟩

end TokenStream

/-! ## All nodes of faulty input together -/

/-- What is taken soundly is nested, and so are all tokens, while faulty input closes at
least what it opens.  So it closes exactly that.  By induction on the row of stretches,
of which the tokens in `front` have been read. -/
theorem Stretch.faults_nested {stream : TokenStream} (orderly : stream.Orderly)
    {held : List Stretch} {front : List Token} {stack opened : List Delimiter}
    (whole : stream.body.toList = front ++ allTokens held)
    (gathered : ∀ fault ∈ faults front.length held, stream.Gathered fault.1 fault.2)
    (before : Nesting.exact.read [] (front.map Token.kind) = some stack)
    (taken : Nesting.loose.readHeld opened held = some []) :
    opened.length ≤ stack.length ∧
      (opened.length = stack.length → ∀ fault ∈ faults front.length held,
        Nesting.exact.read [] (fault.2.map Token.kind) = some []) := by
  induction held generalizing front stack opened with
  | nil =>
      cases taken
      exact ⟨Nat.zero_le _, fun _ => List.forall_mem_nil _⟩
  | cons stretch held inductionHypothesis =>
      cases stretch with
      | sound token =>
          have wholeHere : stream.body.toList = (front ++ [token]) ++ allTokens held := by
            rw [whole, List.append_assoc]
            rfl
          rw [Nesting.readHeld] at taken
          rcases Option.bind_eq_some_iff.mp taken with ⟨openedAfter, steppedLoosely, takenAfter⟩
          have stepped : ∃ stackAfter, Nesting.exact.step stack token.kind = some stackAfter := by
            have nested := orderly.nested
            rw [whole, List.map_append, Nesting.read_append, before, Option.bind_some] at nested
            rcases Option.bind_eq_some_iff.mp nested with ⟨stackAfter, stepped, _⟩
            exact ⟨stackAfter, stepped⟩
          rcases stepped with ⟨stackAfter, stepped⟩
          have beforeNext : Nesting.exact.read [] ((front ++ [token]).map Token.kind) =
              some stackAfter := by
            rw [List.map_append]
            exact (Nesting.exact.read_concat before).trans stepped
          have lengths := Nesting.length_step stepped steppedLoosely
          have further := inductionHypothesis wholeHere
            (by rw [List.length_append]; exact gathered) beforeNext takenAfter
          rw [List.length_append] at further
          exact ⟨by omega, fun same => further.2 (by omega)⟩
      | faulty tokens =>
          have wholeHere : stream.body.toList = (front ++ tokens) ++ allTokens held := by
            rw [whole, List.append_assoc]
            rfl
          have gatheredHere : ∀ fault ∈ (front.length, tokens) ::
              faults (front.length + tokens.length) held,
                stream.Gathered fault.1 fault.2 := gathered
          rw [List.forall_mem_cons] at gatheredHere
          rcases orderly.length_le_of_gathered whole gatheredHere.1 before with
            ⟨after, read, fewer, nested⟩
          have beforeNext : Nesting.exact.read [] ((front ++ tokens).map Token.kind) =
              some after := by
            rw [List.map_append, Nesting.read_append, before]
            exact read
          have further := inductionHypothesis wholeHere
            (by rw [List.length_append]; exact gatheredHere.2) beforeNext taken
          rw [List.length_append] at further
          refine ⟨by omega, fun same => ?_⟩
          exact List.forall_mem_cons.mpr ⟨nested (by omega), further.2 (by omega)⟩

/-! ## Sources -/

theorem orderly_lex [XidStart] {source : String} {tabWidth : Nat}
    (nothing : (lex source tabWidth).diagnostics = []) :
    (TokenStream.ofList (lex source tabWidth).tokens).Orderly := by
  have silent := lex_silent nothing
  have all := toList_lex source tabWidth
  unfold TokenStream.toList at all
  refine ⟨endsOnce_lex source tabWidth, fun token member => silent.sound token ?_, ?_, ?_⟩
  · rw [← all]
    exact List.mem_append_left _ member
  · have nested := silent.nested
    rw [← all, List.map_append, Nesting.read_append] at nested
    rcases Option.bind_eq_some_iff.mp nested with ⟨stack, read, last⟩
    rw [List.map_singleton, TokenStream.ending_kind] at last
    cases last
    exact read
  · intro front token back quote outer split opened
    have kinds := congrArg (List.map Token.kind) all
    rw [split, List.append_assoc, List.map_append] at kinds
    exact lex_pieces nothing kinds.symm opened

/-- The order of the reports makes no difference to whether one of them is fatal. -/
theorem isPartial_parse [XidStart] (source : String) (options : ParseOptions) :
    (parse source options).isPartial =
      ((lex source options.tabWidth).diagnostics ++
        (parsedAlone source options).diagnostics).any fun diagnostic =>
          diagnostic.severity == .fatal :=
  (diagnostics_perm source options).any_eq

theorem isPartial_parsedAlone [XidStart] {source : String} {options : ParseOptions}
    (whole : (parse source options).isPartial = false) :
    (parsedAlone source options).isPartial = false := by
  rw [isPartial_parse, List.any_append, Bool.or_eq_false_iff] at whole
  exact whole.2

/-- In a parse that was not ended early, the nodes of faulty input are flat, and their
tokens were gathered where the nodes stand. -/
theorem parse_gathered [XidStart] {source : String} {options : ParseOptions}
    (whole : (parse source options).isPartial = false) :
    ∀ place ∈ (parse source options).root.faults 0, place.2.IsFlat ∧
      (TokenStream.ofList (lex source options.tabWidth).tokens).Gathered place.1
        place.2.tokens :=
  parseStream_gathered _ (TokenStream.position_ofList _) (isPartial_parsedAlone whole)

/-- Recovery is contained.  In a source without lexical faults, and where the parse is
not ended early, the tokens of every node of faulty input are nested by themselves.
Behind its first token, where nothing is open, there is no separator, no `case` and no
start of a definition. -/
theorem parse_contained [XidStart] (source : String) (options : ParseOptions)
    (silent : (lex source options.tabWidth).diagnostics = [])
    (whole : (parse source options).isPartial = false) :
    ∀ start node, (start, node) ∈ (parse source options).root.places 0 →
      node.kind = .error →
      Nesting.exact.read [] (node.tokens.map Token.kind) = some [] ∧
      ∀ front token back, node.tokens = front ++ token :: back → front ≠ [] →
        Nesting.exact.read [] (front.map Token.kind) = some [] →
        token.kind.isSeparator = false ∧ token.kind.isKeyword .caseKw = false ∧
        ((TokenStream.ofList (lex source options.tabWidth).tokens).moveTo
          (start + front.length)).definitionStartsAt 0 = false := by
  intro start node member faulty
  have orderly := orderly_lex silent
  have gathered := parse_gathered whole
  have fault : (start, node) ∈ (parse source options).root.faults 0 :=
    Node.mem_faults_iff.mpr ⟨member, faulty⟩
  have gatheredHere := (gathered _ fault).2
  constructor
  · rcases parsedAlone_covers source options with ⟨held, covers⟩
    have places : Stretch.faults 0 held =
        ((parse source options).root.faults 0).map fun place => (place.1, place.2.tokens) := by
      rw [Node.map_faults fun place among => (gathered place among).1, root_parse,
        covers.stretches, Stretch.faults_append]
      exact (List.append_nil _).symm
    have nothingRead : Nesting.exact.read [] (([] : List Token).map Token.kind) = some [] := rfl
    have nested := (Stretch.faults_nested orderly covers.tokens.symm ?_ nothingRead
      covers.nested).2 rfl
    · refine nested (start, node.tokens) ?_
      rw [List.length_nil, places]
      exact List.mem_map.mpr ⟨_, fault, rfl⟩
    · intro place among
      rw [List.length_nil, places] at among
      rcases List.mem_map.mp among with ⟨other, amongNodes, rfl⟩
      exact (gathered other amongNodes).2
  · intro front token back split nonempty level
    have sound : ∀ kind ∈ front.map Token.kind, kind.isError = false := by
      intro kind among
      apply orderly.sound_of_gathered gatheredHere
      rw [split, List.map_append]
      exact List.mem_append_left _ among
    rcases Nesting.read_parts sound
      (show Nesting.exact.read ([] ++ []) _ = some [] from level) with ⟨left, rest, parts⟩
    have outermost : openBehind 0 (front.map Token.kind) = 0 := by
      rw [show (0 : Nat) = Nesting.groups [] from rfl, parts.depth,
        (List.append_eq_nil_iff.mp parts.whole.symm).1]
    have before : (node.tokens.take front.length) = front := by
      rw [split, List.take_left]
    have inside : front.length < node.tokens.length := by
      rw [split, List.length_append, List.length_cons]
      omega
    have noPoint := gatheredHere.passes front.length inside
      (fun none => absurd (List.length_eq_zero_iff.mp none) nonempty)
      (by rw [before]; exact outermost)
    have here : ((TokenStream.ofList (lex source options.tabWidth).tokens).moveTo
        (start + front.length)).kind = token.kind := by
      rw [split] at gatheredHere
      exact congrArg Token.kind gatheredHere.current
    unfold TokenStream.atRecoveryPoint TokenStream.isAtKeyword at noPoint
    simp only [Bool.or_eq_false_iff, here] at noPoint
    exact ⟨noPoint.1.2, noPoint.1.1.2, noPoint.2⟩

/-- The first definition is faulty, with a whole group in it, and the second is not. -/
theorem parse_contained_group :
    (lex "def f = (.) x\ndef g() = 1\n" 4).diagnostics = [] ∧
    (parse "def f = (.) x\ndef g() = 1\n" ⟨4, 9⟩).isPartial = false ∧
    (parse "def f = (.) x\ndef g() = 1\n" ⟨4, 9⟩).root.hasError = true ∧
    ∀ start node,
      (start, node) ∈ (parse "def f = (.) x\ndef g() = 1\n" ⟨4, 9⟩).root.places 0 →
      node.kind = .error → Nesting.exact.read [] (node.tokens.map Token.kind) = some [] := by
  have silent : (lex "def f = (.) x\ndef g() = 1\n" 4).diagnostics = [] := by decide +kernel
  have whole : (parse "def f = (.) x\ndef g() = 1\n" ⟨4, 9⟩).isPartial = false := by
    decide +kernel
  refine ⟨silent, whole, by decide +kernel, fun start node member faulty => ?_⟩
  exact (parse_contained _ ⟨4, 9⟩ silent whole start node member faulty).1

end Offside
