import Mathlib.Data.Nat.Find
import Offside.Lexed
import Offside.Proofs.Grammar.Neutral
import Offside.Proofs.Tree.Places
import Offside.Text.XidStart

namespace Offside

/-!
# Paths of types

A type may be a path: a name, then a dot and a name over and over.  In front of a path the
parser looks ahead along all of it, to see whether the keyword `type` stands behind the last
dot, and then it goes along the path once more and builds its nodes.  The two walks are
written apart and stop for different reasons.

Here both of them are compared with the longest path at the current token.  Looking ahead
tells whether a dot and the keyword stand behind that path.  The parser takes just that path,
or the path with its dot and the keyword, and it does so without fail, if only the links of
the path can be charged.
-/

namespace TokenStream

variable {stream : TokenStream} {count offset : Nat}

/-- Whether a dot and a name stand a number of places ahead. -/
def dottedName (stream : TokenStream) (offset : Nat) : Bool :=
  (stream.kindAhead offset).isMark .dot && (stream.kindAhead (offset + 1)).isIdentifier

/-- Whether a dot and the keyword `type` stand a number of places ahead. -/
def dottedKeyword (stream : TokenStream) (offset : Nat) : Bool :=
  (stream.kindAhead offset).isMark .dot && (stream.kindAhead (offset + 1)).isKeyword .typeKw

/-- The name at the current token goes on with some dotted names, and not with any more. -/
structure LongestPath (stream : TokenStream) (count : Nat) : Prop where
  goesOn : ∀ segment < count, stream.dottedName (2 * segment + 1) = true
  ends : stream.dottedName (2 * count + 1) = false

theorem kindAhead_of_size_le (beyond : stream.body.size ≤ stream.position + offset) :
    stream.kindAhead offset = .endOfFile := by
  unfold kindAhead ahead
  rw [stream.tokenAt_of_size_le _ beyond, stream.ending_kind]

theorem lt_size_of_isMark {mark : Punctuation}
    (there : (stream.kindAhead offset).isMark mark = true) :
    stream.position + offset < stream.body.size := by
  rcases Nat.lt_or_ge (stream.position + offset) stream.body.size with inside | beyond
  · exact inside
  · rw [kindAhead_of_size_le beyond] at there
    cases there

theorem isMark_of_dottedName (dotted : stream.dottedName offset = true) :
    (stream.kindAhead offset).isMark .dot = true := (Bool.and_eq_true_iff.mp dotted).1

theorem isIdentifier_of_dottedName (dotted : stream.dottedName offset = true) :
    (stream.kindAhead (offset + 1)).isIdentifier = true := (Bool.and_eq_true_iff.mp dotted).2

theorem exists_longestPath (stream : TokenStream) : ∃ count, stream.LongestPath count := by
  have ends : ∃ count, stream.dottedName (2 * count + 1) = false := by
    refine ⟨stream.body.size, Bool.eq_false_iff.mpr fun dotted => ?_⟩
    have inside := lt_size_of_isMark (isMark_of_dottedName dotted)
    omega
  refine ⟨Nat.find ends, fun segment before => ?_, Nat.find_spec ends⟩
  exact Bool.not_eq_false _ ▸ Nat.find_min ends before

theorem LongestPath.unique {other : Nat} (longest : stream.LongestPath count)
    (also : stream.LongestPath other) : other = count := by
  rcases Nat.lt_trichotomy other count with shorter | same | further
  · exact absurd (longest.goesOn other shorter) (Bool.eq_false_iff.mp also.ends)
  · exact same
  · exact absurd (also.goesOn count further) (Bool.eq_false_iff.mp longest.ends)

/-! ## Looking ahead -/

theorem pathNamesType_step (stream : TokenStream) (offset : Nat) :
    stream.pathNamesType offset =
      if stream.dottedName offset then stream.pathNamesType (offset + 2)
      else !stream.dottedKeyword offset := by
  rw [pathNamesType]
  split
  · unfold dottedName dottedKeyword
    cases (stream.kindAhead offset).isMark .dot with
    | false => rfl
    | true =>
        simp only [Bool.true_and, if_true]
        generalize stream.kindAhead (offset + 1) = kind
        cases word : kind.isKeyword .typeKw with
        | true =>
            rw [beq_iff_eq.mp word]
            rfl
        | false => rfl
  · rename_i beyond
    unfold dottedName dottedKeyword
    rw [kindAhead_of_size_le (Nat.le_of_not_lt beyond)]
    rfl

/-- Looking ahead finds out what stands behind the longest path. -/
theorem LongestPath.pathNamesType_eq (longest : stream.LongestPath count) :
    stream.pathNamesType 1 = !stream.dottedKeyword (2 * count + 1) := by
  have along : ∀ segment ≤ count,
      stream.pathNamesType 1 = stream.pathNamesType (2 * segment + 1) := by
    intro segment within
    induction segment with
    | zero => rfl
    | succ segment inductionHypothesis =>
        rw [inductionHypothesis (Nat.le_of_succ_le within), stream.pathNamesType_step,
          if_pos (longest.goesOn segment within)]
        rfl
  rw [along count (Nat.le_refl count), stream.pathNamesType_step, longest.ends]
  rfl

end TokenStream

/-! ## The nodes of a path -/

/-- A path with a dot behind it and what the dot is followed by. -/
def Node.dotted (kind : NodeKind) (path : Node) (dot : Token) (last : Element) : Node :=
  let children := [.node path, .token dot, last]
  .mk kind (Builder.spanOf children) children []

namespace TokenStream

/-- The name at the current token, with some dotted names behind it. -/
def path (stream : TokenStream) : Nat → Node
  | 0 =>
    .leaf (if stream.kind.isIdentifier then .identifier else .operatorIdentifier)
      stream.current
  | count + 1 =>
    .dotted .qualIdentifier (stream.path count) (stream.ahead (2 * count + 1))
      (.node (.leaf .identifier (stream.ahead (2 * count + 2))))

/-- A type that is named by a name and some dotted names behind it. -/
def typeIdentifier (stream : TokenStream) : Nat → Node
  | 0 => .leaf .typeIdentifier stream.current
  | count + 1 =>
    .dotted .qualTypeIdentifier (stream.path count) (stream.ahead (2 * count + 1))
      (.node (.leaf .typeIdentifier (stream.ahead (2 * count + 2))))

/-- The type of the value that is named by a name and some dotted names behind it. -/
def singletonType (stream : TokenStream) (count : Nat) : Node :=
  .dotted .singletonType (stream.path count) (stream.ahead (2 * count + 1))
    (.token (stream.ahead (2 * count + 2)))

theorem isHidden_path (stream : TokenStream) (count : Nat) :
    (stream.path count).kind.isHidden = false := by
  cases count with
  | zero =>
      unfold path
      split <;> rfl
  | succ count => rfl

/-- The first tokens of a stream. -/
def front (stream : TokenStream) (count : Nat) : List Token := (List.range count).map stream.ahead

theorem front_succ (stream : TokenStream) (count : Nat) :
    stream.front (count + 1) = stream.front count ++ [stream.ahead count] := by
  unfold front
  rw [List.range_succ, List.map_append]
  rfl

theorem tokens_dotted {stream : TokenStream} (kind : NodeKind) {path : Node} {last : Element}
    {count : Nat}
    (before : path.tokens = stream.front (2 * count + 1))
    (behind : Element.tokens [last] = [stream.ahead (2 * count + 2)]) :
    (Node.dotted kind path (stream.ahead (2 * count + 1)) last).tokens =
      stream.front (2 * count + 3) := by
  have dot := stream.front_succ (2 * count + 1)
  have whole := stream.front_succ (2 * count + 2)
  show path.tokens ++ stream.ahead (2 * count + 1) :: Element.tokens [last] = _
  rw [before, behind, whole, dot, List.append_assoc]
  rfl

theorem tokens_path (stream : TokenStream) (count : Nat) :
    (stream.path count).tokens = stream.front (2 * count + 1) := by
  induction count with
  | zero => rfl
  | succ count inductionHypothesis => exact tokens_dotted _ inductionHypothesis rfl

theorem tokens_typeIdentifier (stream : TokenStream) (count : Nat) :
    (stream.typeIdentifier count).tokens = stream.front (2 * count + 1) := by
  cases count with
  | zero => rfl
  | succ count => exact tokens_dotted _ (stream.tokens_path count) rfl

theorem tokens_singletonType (stream : TokenStream) (count : Nat) :
    (stream.singletonType count).tokens = stream.front (2 * count + 3) :=
  tokens_dotted _ (stream.tokens_path count) rfl

end TokenStream

/-! ## Going along a path -/

namespace TokenStream

variable {stream : TokenStream} {taken : Nat}

theorem kindAhead_moveTo (stream : TokenStream) (taken offset : Nat) :
    (stream.moveTo (stream.position + taken)).kindAhead offset =
      stream.kindAhead (taken + offset) := by
  unfold kindAhead ahead
  rw [← Nat.add_assoc]
  rfl

theorem dottedName_moveTo (stream : TokenStream) (taken offset : Nat) :
    (stream.moveTo (stream.position + taken)).dottedName offset =
      stream.dottedName (taken + offset) := by
  unfold dottedName
  rw [kindAhead_moveTo, kindAhead_moveTo]
  rfl

theorem dottedKeyword_moveTo (stream : TokenStream) (taken offset : Nat) :
    (stream.moveTo (stream.position + taken)).dottedKeyword offset =
      stream.dottedKeyword (taken + offset) := by
  unfold dottedKeyword
  rw [kindAhead_moveTo, kindAhead_moveTo]
  rfl

theorem advance_moveTo (here : stream.kindAhead taken ≠ .endOfFile) :
    (stream.moveTo (stream.position + taken)).advance =
      stream.moveTo (stream.position + (taken + 1)) :=
  advance_eq_moveTo (atEnd_eq_false_iff.mpr here)

end TokenStream

namespace TokenKind

variable {kind : TokenKind}

theorem ne_endOfFile_of_isMark {mark : Punctuation} (there : kind.isMark mark = true) :
    kind ≠ .endOfFile := by
  rw [beq_iff_eq.mp there]
  exact nofun

theorem ne_endOfFile_of_isKeyword {word : Keyword} (there : kind.isKeyword word = true) :
    kind ≠ .endOfFile := by
  rw [beq_iff_eq.mp there]
  exact nofun

theorem ne_endOfFile_of_isName (there : kind.isName = true) : kind ≠ .endOfFile := by
  rintro rfl
  cases there

theorem isName_of_isIdentifier (there : kind.isIdentifier = true) : kind.isName = true := by
  unfold isName
  rw [there]
  rfl

end TokenKind

namespace Progress

/-- Behind a node that is built from some tokens, with some links charged for it. -/
def behind (progress : Progress) (taken links : Nat) (node : Node) : Progress :=
  { progress with
    stream := progress.stream.moveTo (progress.stream.position + taken)
    depth := progress.depth + links
    builder := progress.builder.push node }

/-- Behind a name and some dotted names. -/
def behindPath (progress : Progress) (count : Nat) : Progress :=
  progress.behind (2 * count + 1) count (progress.stream.path count)

/-- Behind a path and one more dot, with one more link charged. -/
def behindDot (progress : Progress) (count : Nat) : Progress :=
  { progress with
    stream := progress.stream.moveTo (progress.stream.position + (2 * count + 2))
    depth := progress.depth + (count + 1)
    builder := (progress.builder.push (progress.stream.path count)).pushToken
      (progress.stream.ahead (2 * count + 1)) }

/-- Behind a path and a dot with something behind it, which is not yet put into one node. -/
def behindLast (progress : Progress) (count : Nat) (last : Element) : Progress :=
  { progress with
    stream := progress.stream.moveTo (progress.stream.position + (2 * count + 3))
    depth := progress.depth + (count + 1)
    builder :=
      let dotted := (progress.builder.push (progress.stream.path count)).pushToken
        (progress.stream.ahead (2 * count + 1))
      { dotted with children := dotted.children.push last } }

variable {progress : Progress} {kind : NodeKind}

theorem wrap_behindLast (fresh : progress.builder = .new kind) (wrapped : NodeKind) (count : Nat)
    (last : Element) :
    (progress.behindLast count last).wrap wrapped =
      progress.behind (2 * count + 3) (count + 1)
        (.dotted wrapped (progress.stream.path count) (progress.stream.ahead (2 * count + 1))
          last) := by
  unfold wrap behind behindLast
  simp only [fresh]
  rw [Builder.push_of_shown _ (Bool.eq_false_iff.mp (progress.stream.isHidden_path count))]
  rfl

theorem take_behindDot {count : Nat}
    (here : progress.stream.kindAhead (2 * count + 2) ≠ .endOfFile) :
    (progress.behindDot count).take =
      progress.behindLast count (.token (progress.stream.ahead (2 * count + 2))) := by
  unfold take behindDot behindLast
  simp only [TokenStream.advance_moveTo here]
  rfl

end Progress

namespace Rule

open TokenKind

variable {call : Surroundings → Nonterminal → Progress → Outcome} {surroundings : Surroundings}
  {progress : Progress} {kind : NodeKind} {count : Nat} {rule : Rule}

theorem andThen_next (outcome : Outcome) : outcome.andThen .next = outcome := by
  cases outcome <;> rfl

/-- A round of a path goes behind the next dot first. -/
theorem run_round (enough : progress.depth + count < surroundings.session.maxDepth)
    (dot : (progress.stream.kindAhead (2 * count + 1)).isMark .dot = true) :
    (inOrder [link, take, rule]).run call surroundings (progress.behindPath count) =
      rule.run call surroundings (progress.behindDot count) := by
  have charged : (progress.behindPath count).charge surroundings.session =
      .next { progress.behindPath count with depth := progress.depth + count + 1 } :=
    if_neg (Nat.not_le_of_lt enough)
  have taken : ({ progress.behindPath count with depth := progress.depth + count + 1 } :
      Progress).take = progress.behindDot count := by
    unfold Progress.take Progress.behindPath Progress.behind
    simp only [TokenStream.advance_moveTo (ne_endOfFile_of_isMark dot)]
    rfl
  simp only [inOrder, List.foldr_cons, List.foldr_nil, run, charged, Outcome.andThen, taken]
  exact andThen_next _

theorem holds_pathGoesOn (surroundings : Surroundings) (progress : Progress) (offset : Nat) :
    (pathGoesOn offset).holds surroundings progress =
      (progress.stream.dottedName offset || progress.stream.dottedKeyword offset) :=
  Bool.and_or_distrib_left _ _ _

theorem holds_pathGoesOn_behindDot (surroundings : Surroundings) (progress : Progress)
    (count : Nat) :
    (pathGoesOn 1).holds surroundings (progress.behindDot count) =
      (progress.stream.dottedName (2 * (count + 1) + 1) ||
        progress.stream.dottedKeyword (2 * (count + 1) + 1)) := by
  rw [holds_pathGoesOn]
  exact congrArg₂ or (progress.stream.dottedName_moveTo _ _)
    (progress.stream.dottedKeyword_moveTo _ _)

/-- Behind a dot the name of a segment goes into a node of its own. -/
theorem run_leaf_behindDot {leafKind : NodeKind} (visible : leafKind.isHidden = false)
    (here : progress.stream.kindAhead (2 * count + 2) ≠ .endOfFile) :
    (leaf leafKind).run call surroundings (progress.behindDot count) =
      .next (progress.behindLast count
        (.node (.leaf leafKind (progress.stream.ahead (2 * count + 2))))) := by
  have taken := TokenStream.advance_moveTo here
  have shown : ¬ (Node.leaf leafKind
      (progress.stream.ahead (2 * count + 2))).kind.isHidden = true :=
    Bool.eq_false_iff.mp visible
  have pushed := (progress.behindDot count).builder.push_of_shown shown
  unfold Progress.behindDot leaf
  simp only [run, Outcome.map, Progress.openNode, Progress.take, Progress.closeNode, taken]
  exact congrArg (fun builder => Outcome.next { progress.behindLast count
    (.node (.leaf leafKind (progress.stream.ahead (2 * count + 2)))) with builder := builder })
    pushed

/-- A segment in the middle of a path. -/
theorem run_segment_goesOn (fresh : progress.builder = .new kind)
    (name : (progress.stream.kindAhead (2 * count + 2)).isIdentifier = true)
    (goesOn : (progress.stream.dottedName (2 * (count + 1) + 1) ||
      progress.stream.dottedKeyword (2 * (count + 1) + 1)) = true) :
    segment.run call surroundings (progress.behindDot count) =
      .next (progress.behindPath (count + 1)) := by
  have found : (Condition.atKind TokenKind.isIdentifier).holds surroundings
      (progress.behindDot count) = true := name
  have asked := (holds_pathGoesOn_behindDot surroundings progress count).trans goesOn
  have named : (leaf .identifier).run call surroundings (progress.behindDot count) = _ :=
    run_leaf_behindDot rfl (ne_endOfFile_of_isName (isName_of_isIdentifier name))
  have wrapped := Progress.wrap_behindLast fresh .qualIdentifier count
    (.node (.leaf .identifier (progress.stream.ahead (2 * count + 2))))
  unfold segment
  simp only [run, found, asked, if_true, inOrder, List.foldr_cons, List.foldr_nil, named,
    Outcome.andThen, wrapped]
  rfl

/-- The last segment of a path. -/
theorem run_segment_ends (fresh : progress.builder = .new kind)
    (name : (progress.stream.kindAhead (2 * count + 2)).isIdentifier = true)
    (ends : (progress.stream.dottedName (2 * (count + 1) + 1) ||
      progress.stream.dottedKeyword (2 * (count + 1) + 1)) = false) :
    segment.run call surroundings (progress.behindDot count) =
      .leave (progress.behind (2 * (count + 1) + 1) (count + 1)
        (progress.stream.typeIdentifier (count + 1))) := by
  have found : (Condition.atKind TokenKind.isIdentifier).holds surroundings
      (progress.behindDot count) = true := name
  have asked := (holds_pathGoesOn_behindDot surroundings progress count).trans ends
  have named : (leaf .typeIdentifier).run call surroundings (progress.behindDot count) = _ :=
    run_leaf_behindDot rfl (ne_endOfFile_of_isName (isName_of_isIdentifier name))
  have wrapped := Progress.wrap_behindLast fresh .qualTypeIdentifier count
    (.node (.leaf .typeIdentifier (progress.stream.ahead (2 * count + 2))))
  unfold segment
  simp only [run, found, asked, if_true, Bool.false_eq_true, if_false, inOrder, List.foldr_cons,
    List.foldr_nil, named, Outcome.andThen, wrapped]
  rfl

theorem run_singletonEnd_name
    (name : (progress.stream.kindAhead (2 * count + 2)).isIdentifier = true) :
    (singletonEnd rule).run call surroundings (progress.behindDot count) =
      rule.run call surroundings (progress.behindDot count) := by
  have asked : (Condition.atKeyword .typeKw).holds surroundings (progress.behindDot count) =
      false := by
    show (progress.stream.kindAhead (2 * count + 2)).isKeyword .typeKw = false
    generalize progress.stream.kindAhead (2 * count + 2) = kind at name
    cases kind <;> first | rfl | cases name
  unfold singletonEnd
  simp only [run, asked, Bool.false_eq_true, if_false]

/-- The end of a path that names a value. -/
theorem run_singletonEnd_keyword (fresh : progress.builder = .new kind)
    (word : (progress.stream.kindAhead (2 * count + 2)).isKeyword .typeKw = true) :
    (singletonEnd rule).run call surroundings (progress.behindDot count) =
      .leave (progress.behind (2 * count + 3) (count + 1)
        (progress.stream.singletonType count)) := by
  have asked : (Condition.atKeyword .typeKw).holds surroundings (progress.behindDot count) =
      true := word
  have taken := Progress.take_behindDot (ne_endOfFile_of_isKeyword word)
  have wrapped := Progress.wrap_behindLast fresh .singletonType count
    (.token (progress.stream.ahead (2 * count + 2)))
  unfold singletonEnd
  simp only [run, asked, if_true, inOrder, List.foldr_cons, List.foldr_nil, Outcome.andThen, taken,
    wrapped]
  rfl

end Rule

/-- A loop that makes some rounds and is left in the next one. -/
theorem repeatRounds_of_leave {round : Progress → Outcome} {state : Nat → Progress}
    {final : Progress} {last : Nat}
    (goesOn : ∀ index < last, round (state index) = .next (state (index + 1)))
    (ends : round (state last) = .leave final) {rounds : Nat} (enough : last < rounds) :
    repeatRounds round rounds (state 0) = .next final := by
  have onward : ∀ {rounds index : Nat}, index ≤ last → last - index < rounds →
      repeatRounds round rounds (state index) = .next final := by
    intro rounds
    induction rounds with
    | zero => intro index within few; omega
    | succ rounds inductionHypothesis =>
        intro index within few
        unfold repeatRounds
        rcases Nat.lt_or_eq_of_le within with before | rfl
        · rw [goesOn index before]
          exact inductionHypothesis before (by omega)
        · rw [ends]
  exact onward (Nat.zero_le last) (by omega)

namespace Rule

open TokenKind

variable {call : Surroundings → Nonterminal → Progress → Outcome} {surroundings : Surroundings}
  {progress : Progress} {kind : NodeKind} {count : Nat}

theorem run_leaf (leafKind : NodeKind) (here : progress.stream.kind ≠ .endOfFile) :
    (leaf leafKind).run call surroundings progress =
      .next (progress.behind 1 0 (.leaf leafKind progress.stream.current)) := by
  have taken := TokenStream.advance_eq_moveTo (TokenStream.atEnd_eq_false_iff.mpr here)
  unfold leaf Progress.behind
  simp only [run, Outcome.map, Progress.openNode, Progress.take, Progress.closeNode, taken]
  rfl

/-- The name in front of a path. -/
theorem run_name (role : String) (atName : progress.stream.kind.isName = true) :
    (name role).run call surroundings progress = .next (progress.behindPath 0) := by
  have here := ne_endOfFile_of_isName atName
  unfold name cases Progress.behindPath TokenStream.path
  simp only [List.foldr_cons, List.foldr_nil, run, Condition.atKind, Condition.holds,
    run_leaf _ here]
  cases identifier : progress.stream.kind.isIdentifier with
  | true => rfl
  | false =>
      have operator : progress.stream.kind.isOperator = true := by
        unfold isName at atName
        rwa [identifier] at atName
      rw [operator]
      rfl

/-- A single name. -/
theorem run_typePath_ends {last : Rule → Rule} (atName : progress.stream.kind.isName = true)
    (ends : (progress.stream.dottedName 1 || progress.stream.dottedKeyword 1) = false) :
    (typePath last).run call surroundings progress =
      .next (progress.behind 1 0 (progress.stream.typeIdentifier 0)) := by
  have asked := (holds_pathGoesOn surroundings progress 1).trans ends
  unfold typePath
  simp only [run, asked, Bool.false_eq_true, if_false]
  exact run_leaf _ (ne_endOfFile_of_isName atName)

/-- A name with a path behind it. -/
theorem run_typePath_goesOn {last : Rule → Rule} (rounds : Nat)
    (atName : progress.stream.kind.isName = true)
    (goesOn : (progress.stream.dottedName 1 || progress.stream.dottedKeyword 1) = true)
    {final : Progress}
    (along : ∀ index < rounds,
      (inOrder [link, take, last segment]).run call surroundings (progress.behindPath index) =
        .next (progress.behindPath (index + 1)))
    (leaves : (inOrder [link, take, last segment]).run call surroundings
      (progress.behindPath rounds) = .leave final)
    (enough : progress.stream.position + rounds ≤ progress.stream.body.size) :
    (typePath last).run call surroundings progress = .next final := by
  have asked := (holds_pathGoesOn surroundings progress 1).trans goesOn
  have bounded : rounds < (progress.behindPath 0).stream.remaining + 1 := by
    show rounds < progress.stream.body.size + 1 - (progress.stream.position + 1) + 1
    omega
  have looped := repeatRounds_of_leave along leaves bounded
  unfold typePath
  rw [run, if_pos asked]
  show ((name "type").run call surroundings progress).andThen _ = _
  rw [run_name "type" atName]
  show (repeatRounds _ _ _).andThen _ = _
  rw [looped]
  rfl

/-! ## Both walks together -/

theorem run_typePath_of_type (fresh : progress.builder = .new kind)
    (atName : progress.stream.kind.isName = true) (longest : progress.stream.LongestPath count)
    (noKeyword : progress.stream.dottedKeyword (2 * count + 1) = false)
    (enough : progress.depth + count ≤ surroundings.session.maxDepth) :
    (typePath id).run call surroundings progress =
      .next (progress.behind (2 * count + 1) count (progress.stream.typeIdentifier count)) := by
  have behind := Bool.or_eq_false_iff.mpr ⟨longest.ends, noKeyword⟩
  cases count with
  | zero => exact run_typePath_ends atName behind
  | succ middle =>
      have dotted := longest.goesOn
      have last := dotted middle (Nat.lt_succ_self middle)
      have inside := TokenStream.lt_size_of_isMark (TokenStream.isMark_of_dottedName last)
      refine run_typePath_goesOn middle atName ?_ (fun index before => ?_) ?_ (by omega)
      · exact Bool.or_eq_true_iff.mpr (.inl (dotted 0 (Nat.succ_pos middle)))
      · have here := dotted index (Nat.lt_succ_of_lt before)
        have next := dotted (index + 1) (Nat.succ_lt_succ before)
        rw [run_round (by omega) (TokenStream.isMark_of_dottedName here)]
        exact run_segment_goesOn fresh (TokenStream.isIdentifier_of_dottedName here)
          (Bool.or_eq_true_iff.mpr (.inl next))
      · rw [run_round (by omega) (TokenStream.isMark_of_dottedName last)]
        exact run_segment_ends fresh (TokenStream.isIdentifier_of_dottedName last) behind

theorem run_typePath_of_value (fresh : progress.builder = .new kind)
    (atName : progress.stream.kind.isName = true) (longest : progress.stream.LongestPath count)
    (keyword : progress.stream.dottedKeyword (2 * count + 1) = true)
    (enough : progress.depth + (count + 1) ≤ surroundings.session.maxDepth) :
    (typePath singletonEnd).run call surroundings progress =
      .next (progress.behind (2 * count + 3) (count + 1)
        (progress.stream.singletonType count)) := by
  rcases Bool.and_eq_true_iff.mp keyword with ⟨dot, word⟩
  have inside := TokenStream.lt_size_of_isMark dot
  have onward : ∀ index ≤ count, (progress.stream.dottedName (2 * index + 1) ||
      progress.stream.dottedKeyword (2 * index + 1)) = true := by
    intro index within
    rcases Nat.lt_or_eq_of_le within with before | rfl
    · exact Bool.or_eq_true_iff.mpr (.inl (longest.goesOn index before))
    · exact Bool.or_eq_true_iff.mpr (.inr keyword)
  refine run_typePath_goesOn count atName (onward 0 (Nat.zero_le count))
    (fun index before => ?_) ?_ (by omega)
  · have here := longest.goesOn index before
    have named := TokenStream.isIdentifier_of_dottedName here
    rw [run_round (by omega) (TokenStream.isMark_of_dottedName here), run_singletonEnd_name named]
    exact run_segment_goesOn fresh named (onward (index + 1) before)
  · rw [run_round (by omega) dot]
    exact run_singletonEnd_keyword fresh word

/-- In front of a name there is a longest path, and looking ahead tells whether a dot and the
keyword `type` stand behind it.  If so, the parser builds the type of the value that is named by
just this path; otherwise it builds the type that is named by it.  A simple type begins like
this, with nothing built for it yet, and it never fails here as long as there is a level of
nesting left for each of the dots. -/
theorem typePath_agrees (stream : TokenStream) (atName : stream.kind.isName = true) :
    ∃ count, stream.LongestPath count ∧
      stream.pathNamesType 1 = !stream.dottedKeyword (2 * count + 1) ∧
      (stream.typeIdentifier count).tokens = stream.front (2 * count + 1) ∧
      (stream.singletonType count).tokens = stream.front (2 * count + 3) ∧
      ∀ (call : Surroundings → Nonterminal → Progress → Outcome) (surroundings : Surroundings)
        (progress : Progress) (kind : NodeKind),
        progress.stream = stream → progress.builder = .new kind →
        let outcome := (settle .typeOrValuePath (typePath id) (typePath singletonEnd)).run call
          surroundings progress
        (stream.pathNamesType 1 = true →
          progress.depth + count ≤ surroundings.session.maxDepth →
          outcome = .next
            (progress.behind (2 * count + 1) count (stream.typeIdentifier count))) ∧
        (stream.pathNamesType 1 = false →
          progress.depth + (count + 1) ≤ surroundings.session.maxDepth →
          outcome = .next
            (progress.behind (2 * count + 3) (count + 1) (stream.singletonType count))) := by
  rcases stream.exists_longestPath with ⟨count, longest⟩
  refine ⟨count, longest, longest.pathNamesType_eq, stream.tokens_typeIdentifier count,
    stream.tokens_singletonType count, ?_⟩
  rintro call surroundings progress kind rfl fresh
  have settled (first second : Rule) :
      (settle .typeOrValuePath first second).run call surroundings progress =
        if progress.stream.pathNamesType 1 then first.run call surroundings progress
        else second.run call surroundings progress := rfl
  dsimp only
  rw [settled]
  refine ⟨fun namesType enough => ?_, fun namesValue enough => ?_⟩
  · rw [if_pos namesType]
    rw [longest.pathNamesType_eq, Bool.not_eq_true'] at namesType
    exact run_typePath_of_type fresh atName longest namesType enough
  · rw [namesValue, if_neg Bool.false_ne_true]
    rw [longest.pathNamesType_eq, Bool.not_eq_false'] at namesValue
    exact run_typePath_of_value fresh atName longest namesValue enough

/-- The type of a value in a module. -/
theorem typePath_agrees_singleton :
    (TokenStream.ofList (lex "m.x.type" 4).tokens).kind.isName = true ∧
      (settle .typeOrValuePath (typePath id) (typePath singletonEnd)).run
          (fun _ _ progress => .next progress) ⟨⟨2, false⟩, true⟩
          (.start (.ofList (lex "m.x.type" 4).tokens) .blockItems) =
        .next (Progress.behind (.start (.ofList (lex "m.x.type" 4).tokens) .blockItems) 5 2
          (TokenStream.singletonType (.ofList (lex "m.x.type" 4).tokens) 1)) := by
  have atName : (TokenStream.ofList (lex "m.x.type" 4).tokens).kind.isName = true := by
    decide +kernel
  have path : (TokenStream.ofList (lex "m.x.type" 4).tokens).LongestPath 1 :=
    ⟨by decide +kernel, by decide +kernel⟩
  rcases typePath_agrees _ atName with ⟨count, longest, -, -, -, agrees⟩
  cases path.unique longest
  exact ⟨atName, (agrees _ _ _ .blockItems rfl rfl).2 (by decide +kernel) (by decide)⟩

end Rule
end Offside
