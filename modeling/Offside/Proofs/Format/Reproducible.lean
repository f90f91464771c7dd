import Mathlib.Data.List.Infix
import Offside.Grammar.FirstToken
import Offside.Proofs.Format.Sight

namespace Offside

/-!
# What formatting keeps

Three rare forms are lost when a source is formatted: a comment glued to a prefix operator
that begins a statement, a block without a line, and a curly bracket that closes a group over
several lines right behind a token that opens blocks.  Whether a group is laid out over several
lines depends on nothing but the line break behind its opening bracket, so all three can be told
from the tokens of the source.
-/

/-- Of every bracket that is open behind a token, the innermost first, whether its contents
begin on a new line, given those in front of the token and what follows it. -/
def spreadsBehind (spreads : List Bool) (token next : Token) : List Bool :=
  if token.kind.isOpener then next.hasNewlineBefore :: spreads
  else if token.kind.isCloser then spreads.tail
  else spreads

/-- Of every bracket that some tokens leave open in front of a token, the innermost first,
whether its contents begin on a new line. -/
def openSpreads (spreads : List Bool) : List Token → Token → List Bool
  | [], _ => spreads
  | token :: tokens, next =>
      openSpreads (spreadsBehind spreads token (tokens.headD next)) tokens next

/-- Between the tokens of a source nothing stands that is lost when it is formatted. -/
structure Reproducible (tokens : List Token) : Prop where
  /-- What follows a prefix operator at the front of a statement is glued to it. -/
  glued : ∀ triple ∈ tokens.zip (tokens.tail.zip tokens.tail.tail),
    triple.1.kind = .autoSemicolon → triple.2.1.kind.isPrefixOperator = true → triple.2.2.Glued
  /-- No block is closed as soon as it was opened. -/
  noEmptyBlock : ∀ pair ∈ tokens.zip tokens.tail,
    pair.1.kind = .indent → pair.2.kind ≠ .outdent
  /-- Right behind a token that opens blocks no curly bracket closes a group whose contents
  begin on a new line. -/
  noEmptyCase : ∀ pair ∈ tokens.inits.zip tokens,
    pair.1.getLast?.any (·.kind.opensBlock) = true →
      (openSpreads [] pair.1 pair.2).head? = some true → pair.2.kind ≠ .punctuation .rightBrace

instance (tokens : List Token) : Decidable (Reproducible tokens) :=
  decidable_of_iff
    ((∀ triple ∈ tokens.zip (tokens.tail.zip tokens.tail.tail),
        triple.1.kind = .autoSemicolon → triple.2.1.kind.isPrefixOperator = true →
          triple.2.2.Glued) ∧
      (∀ pair ∈ tokens.zip tokens.tail, pair.1.kind = .indent → pair.2.kind ≠ .outdent) ∧
      ∀ pair ∈ tokens.inits.zip tokens, pair.1.getLast?.any (·.kind.opensBlock) = true →
        (openSpreads [] pair.1 pair.2).head? = some true →
          pair.2.kind ≠ .punctuation .rightBrace)
    ⟨fun all => ⟨all.1, all.2.1, all.2.2⟩,
      fun all => ⟨all.glued, all.noEmptyBlock, all.noEmptyCase⟩⟩

theorem mem_zip_inits {α : Type} {items front back : List α} {item : α}
    (split : items = front ++ item :: back) : (front, item) ∈ items.inits.zip items := by
  subst split
  induction front with
  | nil => exact List.mem_cons_self
  | cons first front inductionHypothesis =>
      have behind : (first :: front, item) ∈
          ((front ++ item :: back).inits.map (first :: ·)).zip (front ++ item :: back) := by
        rw [List.zip_map_left]
        exact List.mem_map.mpr ⟨_, inductionHypothesis, rfl⟩
      exact List.mem_cons_of_mem _ behind

theorem mem_zip_tail {α : Type} {items front back : List α} {first second : α}
    (split : items = front ++ first :: second :: back) :
    (first, second) ∈ items.zip items.tail := by
  subst split
  induction front with
  | nil => exact List.mem_cons_self
  | cons item front inductionHypothesis =>
      cases front with
      | nil => exact List.mem_cons_of_mem _ List.mem_cons_self
      | cons other front => exact List.mem_cons_of_mem _ inductionHypothesis

theorem mem_zip_tails {α : Type} {items front back : List α} {first second third : α}
    (split : items = front ++ first :: second :: third :: back) :
    (first, second, third) ∈ items.zip (items.tail.zip items.tail.tail) := by
  subst split
  induction front with
  | nil => exact List.mem_cons_self
  | cons item front inductionHypothesis =>
      cases front with
      | nil => exact List.mem_cons_of_mem _ List.mem_cons_self
      | cons other front =>
          cases front with
          | nil => exact List.mem_cons_of_mem _ (List.mem_cons_of_mem _ List.mem_cons_self)
          | cons another front => exact List.mem_cons_of_mem _ inductionHypothesis

theorem Reproducible.noEmptyBlocks {tokens : List Token} (reproducible : Reproducible tokens) :
    Reader.NoEmptyBlock (tokens.map Token.kind) := by
  intro front back same
  rcases List.map_eq_append_iff.mp same with ⟨earlier, later, split, _, kinds⟩
  rcases List.map_eq_cons_iff.mp kinds with ⟨first, others, splitLater, isIndent, kinds⟩
  rcases List.map_eq_cons_iff.mp kinds with ⟨second, _, splitOthers, isOutdent, _⟩
  rw [splitLater, splitOthers] at split
  exact reproducible.noEmptyBlock _ (mem_zip_tail split) isIndent isOutdent

/-! ## Brackets whose contents begin on a new line -/

section Spreads

variable {spreads : List Bool} {token next : Token} {kind : TokenKind}

theorem spreadsBehind_of_inert (noOpener : token.kind.isOpener = false)
    (noCloser : token.kind.isCloser = false) : spreadsBehind spreads token next = spreads := by
  unfold spreadsBehind
  rw [noOpener, noCloser]
  rfl

theorem openSpreads_append (spreads : List Bool) (front back : List Token) (next : Token) :
    openSpreads spreads (front ++ back) next =
      openSpreads (openSpreads spreads front (back.headD next)) back next := by
  induction front generalizing spreads with
  | nil => rfl
  | cons token front inductionHypothesis =>
      have same : (front ++ back).headD next = front.headD (back.headD next) := by
        cases front <;> rfl
      show openSpreads (spreadsBehind spreads token ((front ++ back).headD next)) (front ++ back)
        next = _
      rw [same, inductionHypothesis]
      rfl

/-- Layout tokens are no brackets. -/
theorem openSpreads_of_isLayout {layout : List Token}
    (isLayout : ∀ token ∈ layout, token.kind.isLayout = true) :
    openSpreads spreads layout next = spreads := by
  induction layout with
  | nil => rfl
  | cons token layout inductionHypothesis =>
      rw [List.forall_mem_cons] at isLayout
      have inert : token.kind.isOpener = false ∧ token.kind.isCloser = false := by
        have layout := isLayout.1
        generalize token.kind = kind at layout
        cases kind <;> first | exact ⟨rfl, rfl⟩ | cases layout
      unfold openSpreads
      rw [spreadsBehind_of_inert inert.1 inert.2]
      exact inductionHypothesis isLayout.2

/-- The enclosures of a piece and the brackets around it agree about which contents begin on a
new line. -/
inductive SpreadAlike : List Enclosure → List Bool → Prop
  | nil : SpreadAlike [] []
  | indented {enclosures : List Enclosure} {spreads : List Bool}
      (alike : SpreadAlike enclosures spreads) : SpreadAlike (.indented :: enclosures) spreads
  | curly {enclosures : List Enclosure} {spreads : List Bool} (multiline : Bool)
      (alike : SpreadAlike enclosures spreads) :
      SpreadAlike (.curly multiline :: enclosures) (multiline :: spreads)
  | group {enclosures : List Enclosure} {spreads : List Bool} (multiline : Bool)
      (alike : SpreadAlike enclosures spreads) :
      SpreadAlike (.group :: enclosures) (multiline :: spreads)

namespace SpreadAlike

variable {arrangement : Arrangement} {inserted : List TokenKind}

theorem multiline (alike : SpreadAlike arrangement.enclosures spreads)
    (several : arrangement.inMultiline = true) : spreads.head? = some true := by
  unfold Arrangement.inMultiline at several
  generalize arrangement.enclosures = enclosures at alike several
  cases alike with
  | nil => cases several
  | indented alike => cases several
  | curly multiline alike =>
      cases multiline with
      | true => rfl
      | false => cases several
  | group multiline alike => cases several

theorem through (alike : SpreadAlike arrangement.enclosures spreads)
    (layout : ∀ kind ∈ inserted, kind.isLayout = true) :
    SpreadAlike (arrangement.through inserted).enclosures spreads := by
  induction inserted generalizing arrangement with
  | nil => exact alike
  | cons kind inserted inductionHypothesis =>
      rw [List.forall_mem_cons] at layout
      refine @inductionHypothesis (arrangement.pass kind) ?_ layout.2
      cases kind with
      | indent => exact .indented alike
      | outdent =>
          rcases arrangement with ⟨enclosures, level, broken, previous⟩
          cases alike with
          | indented alike => exact alike
          | nil => exact .nil
          | curly multiline alike => exact .curly multiline alike
          | group multiline alike => exact .group multiline alike
      | autoSemicolon => exact alike
      | _ => cases layout.1

/-- What a closing bracket leaves is no block. -/
theorem close {width : Nat} {target : Frame} {around others : List Frame}
    {closer : ClosingBracket} (alike : SpreadAlike arrangement.enclosures spreads)
    (mirrors : Mirrors width (target :: around) others arrangement.enclosures arrangement.level)
    (fits : target.isClosedBy closer = true) :
    SpreadAlike arrangement.close.enclosures spreads.tail := by
  rcases arrangement with ⟨enclosures, level, broken, previous⟩
  cases mirrors with
  | indent column active mirrors => cases fits
  | string quote opened openedThere mirrors => cases fits
  | curly multiline opened openedThere isCurly mirrors =>
      cases alike with
      | curly multiline alike => exact alike
  | group opened openedThere noCurly mirrors =>
      cases alike with
      | group multiline alike => exact alike
  | splice opened openedThere mirrors =>
      cases alike with
      | group multiline alike => exact alike

/-- What a token opens. -/
theorem enter (alike : SpreadAlike arrangement.enclosures spreads) (kind : TokenKind)
    (newlineBehind : Bool) :
    SpreadAlike (arrangement.enter kind newlineBehind).enclosures
      (if kind.isOpener then newlineBehind :: spreads else spreads) := by
  unfold Arrangement.enter TokenKind.isOpener
  cases Bracket.ofKind? kind with
  | none => exact alike
  | some bracket =>
      cases bracket with
      | round => exact .group _ alike
      | square => exact .group _ alike
      | curly =>
          dsimp only
          split
          · exact .group _ alike
          · exact .curly _ alike
      | hashCurly =>
          dsimp only
          split
          · exact .group _ alike
          · exact .curly _ alike

/-- Behind a token that closes nothing. -/
theorem behind (alike : SpreadAlike arrangement.enclosures spreads)
    (noCloser : token.kind.isCloser = false) :
    SpreadAlike (arrangement.behind token.kind next.hasNewlineBefore).enclosures
      (spreadsBehind spreads token next) := by
  have settled : SpreadAlike ({ arrangement with broken := false } : Arrangement).enclosures
    spreads := alike
  unfold spreadsBehind
  rw [noCloser]
  exact settled.enter token.kind next.hasNewlineBefore

/-- Behind a token and the layout tokens in front of it. -/
theorem place {width : Nat} {kinds : List TokenKind} {follower : Option Char}
    {frames others around : List Frame} (positive : 0 < width)
    (alike : SpreadAlike arrangement.enclosures spreads)
    (mirrors : Mirrors width frames others arrangement.enclosures arrangement.level)
    (emission : Reader.Emission kinds kind follower frames inserted around)
    (isKind : token.kind = kind) :
    SpreadAlike (((arrangement.through inserted).inside kind).behind kind
        next.hasNewlineBefore).enclosures (spreadsBehind spreads token next) := by
  have through := alike.through emission.isLayout
  subst isKind
  cases closing : token.kind.isCloser with
  | false =>
      rw [Arrangement.inside_of_not_closer closing]
      exact through.behind closing
  | true =>
      rcases Reader.kind_of_isCloser closing with ⟨closer, same⟩
      rw [Arrangement.inside_of_closer closing]
      rw [same] at emission
      rcases emission.of_closer with ⟨blocks, target, split, isInserted, closed, fits⟩
      subst split
      subst isInserted
      rcases mirrors.leave positive closed with ⟨_, _, mirrored, _⟩
      have noBracket : Bracket.ofKind? token.kind = none := by
        rw [same]
        exact Reader.ofKind?_bracket_mark closer
      unfold Arrangement.behind Arrangement.enter spreadsBehind TokenKind.isOpener
      rw [noBracket, closing]
      exact through.close mirrored fits

end SpreadAlike
end Spreads
end Offside
