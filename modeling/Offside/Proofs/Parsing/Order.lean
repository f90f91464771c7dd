import Offside.Proofs.Lexing.Order
import Offside.Proofs.Parsing.Filling
import Offside.Proofs.Parsing.Lossless

namespace Offside

/-!
# The order of a parse

No node of a tree is empty, and its tokens are those of the source in their order.  So
wherever some tokens stand in a row, the nodes above them are in order, and the other way
around.  The only tokens that stand out of place are the ends of some blocks.
-/

/-- The root of a tree ends where the source does.  In the part of a tree below some node
the children of every node stand in a row that covers the node, just if the tokens of this
part stand in a row.  A token stands behind the beginning of the next one only if that is
the end of a block, and only if it is the beginning of a block itself or a mark that was
left in front of the next token. -/
theorem parse_ordered [XidStart] (source : String) (options : ParseOptions) :
    (parse source options).root.span.stop = source.utf8ByteSize ∧
      (∀ node ∈ (parse source options).root.preorder,
        (∀ below ∈ node.preorder, below.InOrder) ↔
          (node.tokens.map Token.span).IsChain Span.Before) ∧
      (parse source options).root.tokens.IsChain Token.Leads := by
  have tokens : (parse source options).root.tokens = (lex source options.tabWidth).tokens := by
    rw [← completed_lex source options.tabWidth]
    exact parseStream_tokens _ (lex_early source options.tabWidth)
  rcases lex_leads source options.tabWidth with ⟨leads, within, last⟩
  rw [← tokens] at leads within last
  have spanned : ∀ node ∈ (parse source options).root.preorder, node.Spanned :=
    spanned_parseStream _ _
  generalize (parse source options).root = root at tokens leads within last spanned ⊢
  refine ⟨?_, fun node member => ?_, leads⟩
  · rcases lex_ends source options.tabWidth with ⟨others, ending, same, _, _⟩
    rw [← tokens] at same
    have atEnd : ending.span = .empty source.utf8ByteSize :=
      last ending (by rw [same, List.getLast?_concat]; rfl)
    have whole : Span.Reach (root.tokens.map Token.span) source.utf8ByteSize := by
      refine ⟨List.forall_mem_map.mpr fun token inside => (within token inside).2, ending.span,
        List.mem_map_of_mem ?_, congrArg Span.stop atEnd⟩
      rw [same]
      exact List.mem_append_right _ (List.mem_singleton_self _)
    exact (root.reach_tokens spanned).unique whole
  · refine node.inOrder_iff (fun below inside => ?_) fun token inside => ?_
    · exact spanned below (Node.preorder_subset member below inside)
    · exact (within token (Node.tokens_subset member token inside)).1

/-- A closing bracket cuts off the block that it has opened itself. -/
example : ¬ ((parse "def f() =\n  match x \x7b\n    case 0 =>\n      \x7d\n"
    .default).root.tokens.map Token.span).IsChain Span.Before := by decide +kernel

end Offside
