import Offside.Proofs.Format.Drafts
import Offside.Proofs.Nesting

namespace Offside

/-!
# Delimiters and enclosures

What stands around a piece are the delimiters that are open behind the tokens in front of
it: blocks and groups are enclosures, while strings are none.  The level of indentation
counts the blocks among them, and the curly brackets whose contents began on a new line.
-/

/-- The delimiters that are open, what stands around the next piece and its level. -/
inductive Encloses : List Delimiter → List Enclosure → Nat → Prop
  | nil : Encloses [] [] 0
  | block {opened : List Delimiter} {enclosures : List Enclosure} {level : Nat}
      (encloses : Encloses opened enclosures level) :
      Encloses (.block :: opened) (.indented :: enclosures) (level + 1)
  | group {opened : List Delimiter} {enclosures : List Enclosure} {level : Nat}
      (closer : ClosingBracket) (encloses : Encloses opened enclosures level) :
      Encloses (.group closer :: opened) (.group :: enclosures) level
  | curly {opened : List Delimiter} {enclosures : List Enclosure} {level : Nat}
      (closer : ClosingBracket) (multiline : Bool) (encloses : Encloses opened enclosures level) :
      Encloses (.group closer :: opened) (.curly multiline :: enclosures)
        (if multiline then level + 1 else level)
  | string {opened : List Delimiter} {enclosures : List Enclosure} {level : Nat}
      (quote : QuoteForm) (encloses : Encloses opened enclosures level) :
      Encloses (.string quote :: opened) enclosures level

namespace Encloses

variable {opened inner : List Delimiter} {enclosures : List Enclosure} {level : Nat}
  {arrangement : Arrangement} {kind : TokenKind} {kinds : List TokenKind}

/-- What a bracket opens. -/
theorem enter (encloses : Encloses inner arrangement.enclosures arrangement.level)
    {bracket : Bracket} (found : Bracket.ofKind? kind = some bracket) (newlineBehind : Bool) :
    Encloses (.group bracket.closer :: inner) (arrangement.enter kind newlineBehind).enclosures
      (arrangement.enter kind newlineBehind).level := by
  unfold Arrangement.enter
  rw [found]
  cases bracket with
  | round => exact .group _ encloses
  | square => exact .group _ encloses
  | curly =>
      dsimp only
      split
      · exact .group _ encloses
      · exact .curly _ _ encloses
  | hashCurly =>
      dsimp only
      split
      · exact .group _ encloses
      · exact .curly _ _ encloses

/-- What a closing bracket leaves. -/
theorem close {closer : ClosingBracket}
    (encloses : Encloses (.group closer :: opened) arrangement.enclosures arrangement.level) :
    Encloses opened arrangement.close.enclosures arrangement.close.level := by
  rcases arrangement with ⟨enclosures, level, broken, previous⟩
  cases encloses with
  | group closer encloses => exact encloses
  | curly closer multiline encloses => cases multiline <;> exact encloses

/-- Past a layout token. -/
theorem pass (encloses : Encloses inner arrangement.enclosures arrangement.level)
    (step : Nesting.loose.step inner kind = some opened) (noReal : kind.isReal = false) :
    Encloses opened (arrangement.pass kind).enclosures (arrangement.pass kind).level := by
  rcases arrangement with ⟨enclosures, level, broken, previous⟩
  cases kind with
  | indent =>
      cases step
      exact .block encloses
  | outdent =>
      rw [Nesting.eq_cons_of_closes _ rfl step] at encloses
      cases encloses with
      | block encloses => exact encloses
  | autoSemicolon =>
      cases step
      exact encloses
  | endOfFile =>
      cases step
      exact encloses
  | _ => cases noReal

/-- Behind a token that becomes a piece. -/
theorem place (encloses : Encloses inner arrangement.enclosures arrangement.level)
    (step : Nesting.loose.step inner kind = some opened) (real : kind.isReal = true)
    (newlineBehind : Bool) :
    Encloses opened ((arrangement.inside kind).behind kind newlineBehind).enclosures
      ((arrangement.inside kind).behind kind newlineBehind).level := by
  have settled : Encloses inner ({ arrangement with broken := false } : Arrangement).enclosures
      ({ arrangement with broken := false } : Arrangement).level := encloses
  cases kind with
  | punctuation mark =>
      cases opener : Bracket.ofKind? (.punctuation mark) with
      | some bracket =>
          have opens := Reader.opens_of_ofKind? opener
          have noCloser : (TokenKind.punctuation mark).isCloser = false := by
            cases mark <;> first | rfl | cases opener
          rw [Nesting.step_of_opens _ opens] at step
          rw [Arrangement.inside_of_not_closer noCloser]
          cases step
          exact settled.enter opener newlineBehind
      | none =>
          unfold Arrangement.behind Arrangement.enter
          rw [opener]
          cases closing : (TokenKind.punctuation mark).isCloser with
          | false =>
              have inert : (TokenKind.punctuation mark).isInert = true := by
                cases mark <;> first | rfl | (cases opener; done) | cases closing
              rw [Nesting.step_of_inert _ inert] at step
              rw [Arrangement.inside_of_not_closer closing]
              cases step
              exact encloses
          | true =>
              rcases Reader.kind_of_isCloser closing with ⟨closer, same⟩
              rw [Arrangement.inside_of_closer closing]
              have closes : (TokenKind.punctuation mark).closes? = some (.group closer) := by
                rw [same]
                exact congrArg (Option.map Delimiter.group) (Reader.ofKind?_mark closer)
              rw [Nesting.eq_cons_of_closes _ closes step] at encloses
              exact encloses.close
  | stringStart quote =>
      cases step
      exact .string _ encloses
  | stringEnd quote =>
      rw [Nesting.eq_cons_of_closes _ rfl step] at encloses
      rcases arrangement with ⟨enclosures, level, broken, previous⟩
      cases encloses with
      | string other encloses => exact encloses
  | indent => cases real
  | outdent => cases real
  | _ =>
      cases step
      exact encloses

end Encloses

/-- Behind tokens that are nested, what is open stands around the next piece.  By induction on
the tokens. -/
theorem Arrangement.Behind.encloses {kinds : List TokenKind} {arrangement : Arrangement}
    (behind : Behind kinds arrangement) {opened : List Delimiter}
    (read : Nesting.loose.read [] kinds = some opened) :
    Encloses opened arrangement.enclosures arrangement.level := by
  induction behind generalizing opened with
  | start =>
      cases read
      exact .nil
  | pass behind noReal inductionHypothesis =>
      rcases Nesting.exists_of_read_concat _ read with ⟨inner, before, last⟩
      exact (inductionHypothesis before).pass last noReal
  | place behind real newlineBehind inductionHypothesis =>
      rcases Nesting.exists_of_read_concat _ read with ⟨inner, before, last⟩
      exact (inductionHypothesis before).place last real newlineBehind

end Offside
