import Offside.Lexed

namespace Offside

/-!
# The layout rules only insert

Whatever the layout rules do, they take nothing from the text: they insert tokens
of width zero, report faults and rearrange the open frames.  Trivia goes on waiting
for the next real token, and the reader stays where it is.  So every token that is
read comes to stand behind some inserted ones, and this is all that the account of
the text has to know about layout.
-/

/-- Whether tokens of the kind are inserted and not read from the text. -/
def TokenKind.isSynthetic (kind : TokenKind) : Bool := kind.isLayout || kind == .error ""

/-- A token that was inserted: it has no width and takes no trivia. -/
inductive Token.IsInserted : Token → Prop
  | intro {kind : TokenKind} (offset : Nat) (synthetic : kind.isSynthetic = true) :
      IsInserted (.bare kind (.empty offset))

namespace Reader

/-- Between two states of a reader some tokens were inserted and some faults reported. -/
structure Inserts (before after : Reader) : Prop where
  tabWidth : after.tabWidth = before.tabWidth
  offset : after.offset = before.offset
  trivia : after.trivia = before.trivia
  tokens : ∃ inserted, after.tokens.toList = before.tokens.toList ++ inserted ∧
    ∀ token ∈ inserted, token.IsInserted
  diagnostics : ∃ reported, after.diagnostics.toList = before.diagnostics.toList ++ reported ∧
    ∀ diagnostic ∈ reported, diagnostic.fault.isLexical = true

namespace Inserts

variable {before middle after : Reader}

/-- Rearranging the frames inserts nothing. -/
theorem of_same (tabWidth : after.tabWidth = before.tabWidth)
    (offset : after.offset = before.offset) (trivia : after.trivia = before.trivia)
    (tokens : after.tokens = before.tokens) (diagnostics : after.diagnostics = before.diagnostics) :
    Inserts before after where
  tabWidth := tabWidth
  offset := offset
  trivia := trivia
  tokens := ⟨[], by rw [tokens, List.append_nil], List.forall_mem_nil _⟩
  diagnostics := ⟨[], by rw [diagnostics, List.append_nil], List.forall_mem_nil _⟩

theorem refl (reader : Reader) : Inserts reader reader := .of_same rfl rfl rfl rfl rfl

theorem trans (first : Inserts before middle) (second : Inserts middle after) :
    Inserts before after where
  tabWidth := second.tabWidth.trans first.tabWidth
  offset := second.offset.trans first.offset
  trivia := second.trivia.trans first.trivia
  tokens := by
    rcases first.tokens with ⟨early, added, insertedEarly⟩
    rcases second.tokens with ⟨late, addedLate, insertedLate⟩
    refine ⟨early ++ late, by rw [addedLate, added, List.append_assoc], ?_⟩
    intro token member
    rcases List.mem_append.mp member with inEarly | inLate
    · exact insertedEarly token inEarly
    · exact insertedLate token inLate
  diagnostics := by
    rcases first.diagnostics with ⟨early, added, lexicalEarly⟩
    rcases second.diagnostics with ⟨late, addedLate, lexicalLate⟩
    refine ⟨early ++ late, by rw [addedLate, added, List.append_assoc], ?_⟩
    intro diagnostic member
    rcases List.mem_append.mp member with inEarly | inLate
    · exact lexicalEarly diagnostic inEarly
    · exact lexicalLate diagnostic inLate

/-- What comes behind a mere rearrangement of the frames. -/
theorem since (inserts : Inserts middle after) (tabWidth : middle.tabWidth = before.tabWidth)
    (offset : middle.offset = before.offset) (trivia : middle.trivia = before.trivia)
    (tokens : middle.tokens = before.tokens)
    (diagnostics : middle.diagnostics = before.diagnostics) : Inserts before after :=
  (of_same tabWidth offset trivia tokens diagnostics).trans inserts

theorem report (reader : Reader) (fault : LexicalFault) (span : Span) :
    Inserts reader (reader.report fault span) where
  tabWidth := rfl
  offset := rfl
  trivia := rfl
  tokens := ⟨[], (List.append_nil _).symm, List.forall_mem_nil _⟩
  diagnostics := by
    refine ⟨[.lexical fault span], Array.toList_push, ?_⟩
    intro diagnostic member
    cases List.mem_singleton.mp member
    rfl

theorem insert (reader : Reader) {kind : TokenKind} (offset : Nat)
    (synthetic : kind.isSynthetic = true) :
    Inserts reader (reader.insert kind offset) where
  tabWidth := rfl
  offset := rfl
  trivia := rfl
  tokens := by
    refine ⟨[.bare kind (.empty offset)], Array.toList_push, ?_⟩
    intro token member
    cases List.mem_singleton.mp member
    exact .intro offset synthetic
  diagnostics := ⟨[], (List.append_nil _).symm, List.forall_mem_nil _⟩

theorem foldl {α : Type} {change : Reader → α → Reader}
    (each : ∀ reader item, Inserts reader (change reader item)) (items : List α)
    (reader : Reader) : Inserts reader (items.foldl change reader) := by
  induction items generalizing reader with
  | nil => exact .refl reader
  | cons item items inductionHypothesis =>
      exact (each reader item).trans (inductionHypothesis (change reader item))

/-! ## The layout rules -/

theorem closeBlocks (reader : Reader) (column : Nat) :
    Inserts reader (reader.closeBlocks column) := by
  have outdent : ∀ (reader : Reader) (_ : Frame),
      Inserts reader (reader.insert .outdent reader.lastEnd) :=
    fun reader _ => .insert reader _ rfl
  exact (foldl outdent _ _).since rfl rfl rfl rfl rfl

theorem beginLine (reader : Reader) (column offset : Nat) (kind : TokenKind)
    (next : Option Char) : Inserts reader (reader.beginLine column offset kind next) := by
  have fitted : Inserts reader { reader.closeBlocks column with lineIndent := column } :=
    (closeBlocks reader column).trans (.of_same rfl rfl rfl rfl rfl)
  refine beginLine_cases (motive := Inserts reader) rfl fitted (fitted.trans (.insert _ _ rfl))
    (fitted.trans (.trans (.report _ _ _) (.insert _ _ rfl))) fun _ => fitted.trans ?_
  have opened : Inserts
      (openFrame { reader.closeBlocks column with lineIndent := column } (.indent column))
      ((openFrame { reader.closeBlocks column with lineIndent := column } (.indent column)).insert
        .indent offset) := .insert _ _ rfl
  exact opened.since rfl rfl rfl rfl rfl

theorem abandon (reader : Reader) (frame : Frame) :
    Inserts reader (abandonGroups.abandon reader frame) := by
  cases frame with
  | group bracket opened => exact .trans (.report _ _ _) (.insert _ _ rfl)
  | indent column => exact .refl reader
  | splice opened => exact .refl reader
  | string quote opened => exact .refl reader

theorem abandonGroups (reader : Reader) : Inserts reader reader.abandonGroups :=
  (foldl abandon _ _).since rfl rfl rfl rfl rfl

theorem applyLayout (reader : Reader) (kind : TokenKind) (next : Option Char) :
    Inserts reader (reader.applyLayout kind next) := by
  have begun : Inserts reader { reader with atLineStart := false } :=
    .of_same rfl rfl rfl rfl rfl
  have outside := begun.trans (abandonGroups { reader with atLineStart := false })
  exact applyLayout_cases (motive := Inserts reader) rfl (fun _ => .refl reader) begun
    (fun _ => begun.trans (.beginLine _ _ _ _ _)) outside
    fun _ => outside.trans (.beginLine _ _ _ _ _)

theorem cutOff (reader : Reader) (frame : Frame) : Inserts reader (reader.cutOff frame) := by
  cases frame with
  | indent column => exact .insert _ _ rfl
  | group bracket opened => exact .report _ _ _
  | splice opened => exact .report _ _ _
  | string quote opened => exact .refl reader

theorem closeAtEnd (reader : Reader) (frame : Frame) :
    Inserts reader (reader.closeAtEnd frame) := by
  cases frame with
  | indent column => exact .insert _ _ rfl
  | group bracket opened => exact .trans (.report _ _ _) (.insert _ _ rfl)
  | splice opened => exact .refl reader
  | string quote opened => exact .trans (.report _ _ _) (.insert _ _ rfl)

end Inserts

/-! ## Tokens behind what was inserted -/

/-- A token that was read comes to stand behind some inserted ones.  It keeps its kind,
unless it is a closing bracket with nothing to close. -/
inductive Emits (before : Reader) (kind : TokenKind) (span : Span) : Reader → Prop
  | kept {placed : Reader} (inserts : before.Inserts placed) :
      Emits before kind span (placed.add kind span)
  | unmatched {placed : Reader} {closer : ClosingBracket} (inserts : before.Inserts placed)
      (closes : kind = .punctuation closer.mark) (reported : placed.diagnostics ≠ #[]) :
      Emits before kind span (placed.add (.error closer.char.toString) span)

theorem kind_of_ofKind? {kind : TokenKind} {closer : ClosingBracket}
    (found : ClosingBracket.ofKind? kind = some closer) : kind = .punctuation closer.mark := by
  unfold ClosingBracket.ofKind? at found
  split at found <;> cases found <;> rfl

theorem report_diagnostics_ne (reader : Reader) (fault : LexicalFault) (span : Span) :
    (reader.report fault span).diagnostics ≠ #[] :=
  Array.push_ne_empty

theorem emit_emits (reader : Reader) (kind : TokenKind) (span : Span) (next : Option Char) :
    reader.Emits kind span (reader.emit kind span next) := by
  have placed := Inserts.applyLayout reader kind next
  unfold emit
  dsimp only
  split
  · rename_i closer found
    cases kind_of_ofKind? found
    unfold addCloser
    dsimp only
    split
    · exact .unmatched (placed.trans (.report _ _ _)) rfl (report_diagnostics_ne _ _ _)
    · refine .kept (placed.trans ?_)
      exact (Inserts.foldl Inserts.cutOff _ _).trans (.of_same rfl rfl rfl rfl rfl)
  · split
    · exact .kept (placed.trans (.of_same rfl rfl rfl rfl rfl))
    · exact .kept placed

end Reader
end Offside
