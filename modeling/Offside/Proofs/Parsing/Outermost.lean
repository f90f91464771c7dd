import Offside.Proofs.Grammar.Continuation
import Offside.Proofs.Parsing.Containment
import Offside.Proofs.Parsing.Productions

namespace Offside

/-!
# The outermost level of a tree

At the outermost level stand definitions, the separators between them and faulty input.
Definitions close whatever they open, so in a tree without faulty input nothing is open in
front of any of them, and each begins with the keyword, the modifier or the annotation that
the parser has found it by.
-/

/-- Whether a definition can begin with the token. -/
def TokenKind.mayBeginDefinition : TokenKind → Bool
  | keyword _ => true
  | kind => kind.isMark .atSign

theorem TokenKind.cases_of_mayBegin {kind : TokenKind} (begins : kind.mayBeginDefinition = true) :
    (∃ word, kind = .keyword word) ∨ kind = .punctuation .atSign := by
  cases kind with
  | keyword word => exact .inl ⟨word, rfl⟩
  | punctuation mark => exact .inr (beq_iff_eq.mp begins)
  | _ => cases begins

theorem TokenStream.mayBegin_of_definitionStartsAt {stream : TokenStream}
    (starts : stream.definitionStartsAt 0 = true) :
    stream.kind.mayBeginDefinition = true := by
  by_contra other
  have noStart : stream.definitionStartsAt 0 = false := by
    apply definitionStartsAt_eq_false
    · intro word same
      rw [same] at other
      exact other rfl
    · refine Bool.eq_false_iff.mpr fun sign => other ?_
      rw [beq_iff_eq.mp sign]
      rfl
  rw [starts] at noStart
  cases noStart

/-- What stands at the outermost level: nothing is left open, and whatever is no faulty input
begins as a definition does. -/
structure Element.Outermost (children : List Element) : Prop where
  closed : ∀ front back, children = front ++ back →
    Nesting.loose.readHeld [] (stretches front) = some []
  begins : ∀ node, .node node ∈ children → Stretch.anyFaulty node.stretches = false →
    ∃ token rest, node.tokens = token :: rest ∧ token.kind.mayBeginDefinition = true

namespace Element.Outermost

variable {children : List Element} {child : Element}

theorem nil : Outermost [] where
  closed front back parts := by
    rw [(List.append_eq_nil_iff.mp parts.symm).1, stretches_nil]
    rfl
  begins _ := nofun

theorem concat (outermost : Outermost children)
    (closed : Nesting.loose.readHeld [] (stretches [child]) = some [])
    (begins : ∀ node, child = .node node → Stretch.anyFaulty node.stretches = false →
      ∃ token rest, node.tokens = token :: rest ∧ token.kind.mayBeginDefinition = true) :
    Outermost (children ++ [child]) where
  closed front back parts := by
    cases back with
    | nil =>
        rw [List.append_nil] at parts
        rw [← parts, stretches_append, Nesting.readHeld_append,
          outermost.closed children [] (List.append_nil _).symm]
        exact closed
    | cons next back =>
        rcases split_concat parts with ⟨inner, -, same⟩ | ⟨-, same, -⟩
        · exact outermost.closed front (next :: inner) same
        · exact outermost.closed front [] (same.symm.trans (List.append_nil _).symm)
  begins node member := by
    rcases List.mem_append.mp member with earlier | last
    · exact outermost.begins node earlier
    · exact begins node (List.mem_singleton.mp last).symm

/-- Faulty input counts as nothing. -/
theorem faulty {before after : Progress} (outermost : Outermost before.builder.children.toList)
    (adds : before.AddsFaulty after) : Outermost after.builder.children.toList := by
  rcases adds.builder with same | ⟨faulty, kind, -, -, -, same⟩
  · rw [same]
    exact outermost
  · have shown : ¬ faulty.kind.isHidden = true := by
      rw [kind]
      exact Bool.false_ne_true
    have held : faulty.stretches = [.faulty faulty.tokens] := Node.stretches_of_error kind
    rw [same, Builder.children_push_of_shown _ shown]
    refine outermost.concat ?_ fun node here sound => ?_
    · rw [stretches_cons_node, stretches_nil, held]
      rfl
    · cases here
      rw [held] at sound
      cases sound

end Element.Outermost

/-- A definition becomes one node, whatever its kind is in the end. -/
theorem Nonterminal.derive_definition_pushes (surroundings : Surroundings)
    (progress : Progress) :
    (Nonterminal.derive surroundings .definition progress).Yields
      (fun after => ∃ node : Node, ¬ node.kind.isHidden = true ∧
        after.builder = progress.builder.push node) (fun _ => False) := by
  refine (Nonterminal.run_makesNode _ surroundings .definition progress rfl).mono
    (fun after makes => ?_) fun _ => id
  rcases makes with ⟨node, shown, -, pushed⟩
  exact ⟨node, shown, pushed⟩

namespace Progress

open Element

variable {session : Session} {progress before after : Progress}

/-- Separators open and close nothing. -/
theorem skipSeparators_outermost (outermost : Outermost progress.builder.children.toList) :
    Outermost progress.skipSeparators.builder.children.toList := by
  fun_induction skipSeparators progress with
  | case1 progress separator atEnd => exact outermost
  | case2 progress separator before inductionHypothesis =>
      have plain := TokenKind.isPlain_of_isSeparator separator
      have taken : progress.take.builder.children.toList =
          progress.builder.children.toList ++ [.token progress.stream.current] :=
        Array.toList_push
      have stepped : Nesting.loose.step [] progress.stream.current.kind = some [] :=
        Nesting.step_of_inert _ (TokenKind.isInert_of_isPlain plain)
      refine inductionHypothesis ?_
      rw [taken]
      refine outermost.concat ?_ fun node same => ?_
      · rw [stretches_cons_token, stretches_nil, Nesting.readHeld, stepped]
        rfl
      · cases same
  | case3 progress other => exact outermost

/-- What the parser has found a definition by is the first token of its node. -/
theorem outermost_of_pushed (outermost : Outermost before.builder.children.toList)
    (starts : before.stream.definitionStartsAt 0 = true)
    (inside : before.stream.atEnd = false)
    (reached : before.Reaches session [] after fun stream opened => opened = [] ∧
      stream.left.length < before.stream.left.length)
    (pushed : ∃ node : Node, ¬ node.kind.isHidden = true ∧
      after.builder = before.builder.push node) :
    Outermost after.builder.children.toList := by
  rcases pushed with ⟨node, shown, same⟩
  rcases reached with ⟨held, opened, step, read, rfl, less⟩
  have stretches : node.stretches = held := by
    have builder := step.builder
    rw [same, Builder.stretches_push] at builder
    exact List.append_cancel_left builder
  rw [same, Builder.children_push_of_shown _ shown]
  refine outermost.concat ?_ fun other here sound => ?_
  · rw [stretches_cons_node, stretches_nil, List.append_nil, stretches]
    exact read
  · cases here
    have tokens := step.tokens
    rw [← stretches, ← Node.tokens_eq] at tokens
    cases first : node.tokens with
    | nil =>
        rw [first, List.nil_append] at tokens
        rw [tokens] at less
        exact absurd less (Nat.lt_irrefl _)
    | cons token rest =>
        rw [first, TokenStream.left_eq_cons inside] at tokens
        refine ⟨token, rest, rfl, ?_⟩
        rw [← (List.cons.inj tokens).1]
        exact TokenStream.mayBegin_of_definitionStartsAt starts

theorem definition_outermost (outermost : Outermost progress.builder.children.toList)
    (inside : progress.stream.atEnd = false) :
    (progress.definition session).Yields (Outermost ·.builder.children.toList)
      (Outermost ·.builder.children.toList) := by
  have meets := Nonterminal.derive_definition ⟨session, true⟩ progress []
  have pushes := Nonterminal.derive_definition_pushes ⟨session, true⟩ progress
  unfold definition
  split
  · rename_i starts
    refine Outcome.Yields.recover ?_ fun failure diagnostics =>
      outermost.faulty (addsFaulty_addFaulty _).of_restarted
    cases comes : Nonterminal.derive ⟨session, true⟩ .definition progress with
    | next after =>
        rw [comes] at meets pushes
        exact outermost_of_pushed outermost starts inside meets pushes
    | leave after =>
        rw [comes] at pushes
        exact pushes.elim
    | failed failure diagnostics => exact True.intro
  · exact outermost.faulty (addsFaulty_reportFailure progress _)

/-- By induction on the number of rounds. -/
theorem definitions_outermost (count : Nat)
    (outermost : Outermost progress.builder.children.toList) :
    Outermost (progress.definitions session count).builder.children.toList := by
  induction count generalizing progress with
  | zero => exact outermost
  | succ count inductionHypothesis =>
      have ready := skipSeparators_outermost outermost
      rw [definitions_succ]
      split
      · exact ready
      · rename_i inside
        have once : (progress.skipSeparators.definition session).Yields _ _ :=
          definition_outermost ready (Bool.eq_false_iff.mpr inside)
        cases comes : progress.skipSeparators.definition session with
        | next done =>
            rw [comes] at once
            exact inductionHypothesis once
        | leave done =>
            rw [comes] at once
            exact inductionHypothesis once
        | failed failure diagnostics =>
            exact ready.faulty (addsFaulty_addRest _).of_restarted

end Progress

/-- In a tree without faulty input nothing is open in front of a definition, which begins with
a token that definitions begin with. -/
theorem parseStream_outermost {session : Session} {stream : TokenStream} {front back : List Element}
    {node : Node} (parts : (parseStream session stream).root.children = front ++ .node node :: back)
    (sound : Stretch.anyFaulty (parseStream session stream).root.stretches = false) :
    Nesting.loose.read [] ((Element.tokens front).map Token.kind) = some [] ∧
      ∃ token rest, node.tokens = token :: rest ∧ token.kind.mayBeginDefinition = true := by
  have started :
      Element.Outermost (Progress.start stream .compilationUnit).builder.children.toList := .nil
  have ended : Element.Outermost ((Progress.start stream .compilationUnit).definitions session
      (stream.size + 1)).builder.children.toList := Progress.definitions_outermost _ started
  have children : (parseStream session stream).root.children = _ ++ [_] := Array.toList_push
  rw [children] at parts
  rcases split_concat parts with ⟨inner, -, inside⟩ | ⟨-, -, same⟩
  · have kind : (parseStream session stream).root.kind ≠ .error := by
      intro error
      rw [Node.stretches_of_error error] at sound
      cases sound
    rw [Node.stretches_of_ne_error kind, children, inside] at sound
    simp only [Element.stretches_append, Element.stretches_cons_node, Stretch.anyFaulty_append,
      Bool.or_eq_false_iff] at sound
    rw [inside] at ended
    refine ⟨?_, ended.begins node (List.mem_append_right _ List.mem_cons_self) sound.1.2.1⟩
    rw [Element.tokens_eq, ← Nesting.readHeld_eq_read _ sound.1.1]
    exact ended.closed front _ rfl
  · cases same

/-- Where nothing is reported there is no faulty input. -/
theorem anyFaulty_parse [XidStart] {source : String} {options : ParseOptions}
    (silent : (parse source options).hasErrors = false) :
    Stretch.anyFaulty (parse source options).root.stretches = false := by
  have untold := Bool.eq_false_iff.mp silent
  rw [ne_eq, hasErrors_parse, not_or, not_not, not_not] at untold
  rcases parsedAlone_covers source options with ⟨held, covers⟩
  rw [root_parse, ← Node.hasError_eq, covers.hasError_eq]
  refine Bool.eq_false_iff.mpr fun found => ?_
  rcases covers.accounted.reported found with told | marked
  · exact told untold.2
  · rcases lex_honest source options.tabWidth with clean | faulty
    · exact clean.noErrorToken marked
    · exact faulty.told untold.1

end Offside
