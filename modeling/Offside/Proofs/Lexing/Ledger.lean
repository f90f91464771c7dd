import Offside.Proofs.Lexing.Delimiters

namespace Offside

/-!
# The ledger of delimiters

Every bracket and every string that the tokens of a source open is waiting to be closed
until one of two things happens: a later token closes it, or it is reported that nothing
does.  The ledger keeps the books on this.  It pairs the places of tokens that open
something with the places of those that close it, and it holds the places of what is
still open, the innermost first.
-/

variable {tokens more : List Token} {diagnostics : List Diagnostic} {place opened : Nat}
  {delimiter : Delimiter} {token : Token}

/-! ## What is open -/

namespace Frame

/-- Whether the frame is the splice of a string. -/
def isSplice : Frame → Bool
  | splice _ => true
  | _ => false

/-- The offset at which the token begins that has opened the frame.  The bracket of a splice
stands behind its dollar sign. -/
def begins : Frame → Nat
  | group _ opened | string _ opened => opened
  | splice opened => opened + 1
  | indent _ => 0

end Frame

/-- The places of the tokens that have opened some frames.  Blocks are left out.  Right
around a splice is its string. -/
inductive Stacked (tokens : List Token) : List Frame → List Nat → Prop
  | nil : Stacked tokens [] []
  | block {frames : List Frame} {opens : List Nat} (column : Nat)
      (outer : Stacked tokens frames opens) : Stacked tokens (.indent column :: frames) opens
  | opened {frame : Frame} {place : Nat} {frames : List Frame} {opens : List Nat}
      (opened : OpensAt tokens place frame.delimiter frame.begins)
      (behind : BehindDollar tokens place ↔ frame.isSplice = true)
      (strung : frame.isSplice = true → frames.head?.any Frame.isString = true)
      (inside : ∀ outer ∈ opens, outer < place)
      (outer : Stacked tokens frames opens) : Stacked tokens (frame :: frames) (place :: opens)

namespace Stacked

variable {frames : List Frame} {opens : List Nat} {frame : Frame}

theorem append (stacked : Stacked tokens frames opens) (more : List Token) :
    Stacked (tokens ++ more) frames opens := by
  induction stacked with
  | nil => exact .nil
  | block column outer inductionHypothesis => exact .block column inductionHypothesis
  | opened opened behind strung inside outer inductionHypothesis =>
      refine .opened (opened.append more) ?_ strung inside inductionHypothesis
      rw [behindDollar_append (Nat.le_of_lt opened.lt_length), behind]

theorem lt_length (stacked : Stacked tokens frames opens) (member : place ∈ opens) :
    place < tokens.length := by
  induction stacked with
  | nil => cases member
  | block column outer inductionHypothesis => exact inductionHypothesis member
  | opened opened behind strung inside outer inductionHypothesis =>
      rcases List.mem_cons.mp member with here | further
      · rw [here]
        exact opened.lt_length
      · exact inductionHypothesis further

/-- What a frame that is no block stands for. -/
theorem uncons (stacked : Stacked tokens (frame :: frames) opens)
    (noBlock : frame.delimiter ≠ .block) :
    ∃ place outer, opens = place :: outer ∧
      OpensAt tokens place frame.delimiter frame.begins ∧
      (BehindDollar tokens place ↔ frame.isSplice = true) ∧
      (frame.isSplice = true → frames.head?.any Frame.isString = true) ∧
      (∀ below ∈ outer, below < place) ∧ Stacked tokens frames outer := by
  cases stacked with
  | block column outer => exact absurd rfl noBlock
  | opened opened behind strung inside outer =>
      exact ⟨_, _, rfl, opened, behind, strung, inside, outer⟩

theorem tail_block {column : Nat} (stacked : Stacked tokens (.indent column :: frames) opens) :
    Stacked tokens frames opens := by
  cases stacked with
  | block column outer => exact outer
  | opened opened behind strung inside outer =>
      rcases opened with ⟨_, _, _, noBlock, _⟩
      exact absurd rfl noBlock

end Stacked

/-! ## The ledger -/

/-- What has become of a bracket or a string so far: it is open, it is paired, it was
reported, or it is a splice that was forgotten since its string was reported. -/
inductive Booked (tokens : List Token) (diagnostics : List Diagnostic)
    (pairs : List (Nat × Nat)) (opens lost : List Nat) (place : Nat) (delimiter : Delimiter)
    (opened : Nat) : Prop
  | waits (waits : place ∈ opens) (unpaired : place ∉ pairs.map Prod.fst)
      (silent : delimiter.complaints opened diagnostics = 0)
  | paired (gone : place ∉ opens) (paired : place ∈ pairs.map Prod.fst)
      (silent : delimiter.complaints opened diagnostics = 0)
  | reported (gone : place ∉ opens) (unpaired : place ∉ pairs.map Prod.fst)
      (noSplice : ¬ BehindDollar tokens place)
      (once : delimiter.complaints opened diagnostics = 1)
  | forgotten (gone : place ∉ opens) (unpaired : place ∉ pairs.map Prod.fst)
      (isLost : place ∈ lost) (splice : BehindDollar tokens place)
      (silent : delimiter.complaints opened diagnostics = 0)

/-- The books on some tokens and reports, when some frames are open.  Everything that names
a delimiter begins in front of the limit. -/
structure Ledger (tokens : List Token) (diagnostics : List Diagnostic) (frames : List Frame)
    (limit : Nat) (pairs : List (Nat × Nat)) (opens lost : List Nat) : Prop where
  stacked : Stacked tokens frames opens
  fits : ∀ pair ∈ pairs, PairsAt tokens pair
  opensOnce : (pairs.map Prod.fst).Nodup
  closesOnce : (pairs.map Prod.snd).Nodup
  /-- Two pairs do not cross. -/
  nested : ∀ outer ∈ pairs, ∀ inner ∈ pairs, outer.1 < inner.1 → inner.1 < outer.2 →
    inner.2 < outer.2
  /-- What is open is not inside of a pair. -/
  apart : ∀ place ∈ opens, ∀ pair ∈ pairs, pair.1 < place → pair.2 < place
  closers : ∀ place delimiter, ClosesAt tokens place delimiter → place ∈ pairs.map Prod.snd
  openers : ∀ place delimiter opened, OpensAt tokens place delimiter opened → opened < limit ∧
    Booked tokens diagnostics pairs opens lost place delimiter opened
  increasing : ∀ early late first second start stop, OpensAt tokens early first start →
    OpensAt tokens late second stop → early < late → start < stop
  told : ∀ diagnostic ∈ diagnostics, diagnostic.fault.namesDelimiter = true →
    diagnostic.span.start < limit
  strays : ∀ token ∈ tokens, ∀ closer : ClosingBracket,
    token.kind = .error closer.char.toString → token.span.start < limit ∧
      token.span.mismatches diagnostics =
        [.lexical (.unmatchedDelimiter closer.char) token.span]

/-- Whether a token is an error that stands for a closing bracket. -/
def TokenKind.isStray : TokenKind → Bool
  | error text => [ClosingBracket.round, .square, .curly].any (·.char.toString == text)
  | _ => false

/-- Whether a token is of no interest to the ledger. -/
def TokenKind.isUnbooked (kind : TokenKind) : Bool :=
  kind.opens?.all (· == .block) && kind.closes?.all (· == .block) && !kind.isStray

theorem isStray_error (closer : ClosingBracket) :
    (TokenKind.error closer.char.toString).isStray = true := by
  cases closer <;> decide +kernel

namespace Booked

variable {pairs : List (Nat × Nat)} {opens lost : List Nat}

/-- Tokens and reports that are added, unless one of them is about the place. -/
theorem append (further : List Diagnostic)
    (booked : Booked tokens diagnostics pairs opens lost place delimiter opened)
    (inside : place ≤ tokens.length) (more : List Token)
    (same : delimiter.complaints opened further = delimiter.complaints opened diagnostics) :
    Booked (tokens ++ more) further pairs opens lost place delimiter opened := by
  cases booked with
  | waits waits unpaired silent => exact .waits waits unpaired (same.trans silent)
  | paired gone paired silent => exact .paired gone paired (same.trans silent)
  | reported gone unpaired noSplice once =>
      refine .reported gone unpaired ?_ (same.trans once)
      rwa [behindDollar_append inside]
  | forgotten gone unpaired isLost splice silent =>
      refine .forgotten gone unpaired isLost ?_ (same.trans silent)
      rwa [behindDollar_append inside]

/-- What the books say about a place stays when another place is taken from what is open. -/
theorem shrink {gone : Nat} {paired : List (Nat × Nat)} {losses : List Nat}
    (booked : Booked tokens diagnostics pairs (gone :: opens) lost place delimiter opened)
    (other : place ≠ gone) (same : place ∈ paired.map Prod.fst ↔ place ∈ pairs.map Prod.fst)
    (keeps : ∀ loss ∈ lost, loss ∈ losses) :
    Booked tokens diagnostics paired opens losses place delimiter opened := by
  cases booked with
  | waits waits unpaired silent =>
      exact .waits ((List.mem_cons.mp waits).resolve_left other) (mt same.mp unpaired) silent
  | paired gone isPaired silent =>
      exact .paired (fun member => gone (List.mem_cons_of_mem _ member)) (same.mpr isPaired) silent
  | reported gone unpaired noSplice once =>
      exact .reported (fun member => gone (List.mem_cons_of_mem _ member)) (mt same.mp unpaired)
        noSplice once
  | forgotten gone unpaired isLost splice silent =>
      exact .forgotten (fun member => gone (List.mem_cons_of_mem _ member))
        (mt same.mp unpaired) (keeps _ isLost) splice silent

theorem grow {new : Nat}
    (booked : Booked tokens diagnostics pairs opens lost place delimiter opened)
    (other : place ≠ new) :
    Booked tokens diagnostics pairs (new :: opens) lost place delimiter opened := by
  have outside : place ∉ opens → place ∉ new :: opens := fun gone member =>
    gone ((List.mem_cons.mp member).resolve_left other)
  cases booked with
  | waits waits unpaired silent => exact .waits (List.mem_cons_of_mem _ waits) unpaired silent
  | paired gone paired silent => exact .paired (outside gone) paired silent
  | reported gone unpaired noSplice once =>
      exact .reported (outside gone) unpaired noSplice once
  | forgotten gone unpaired isLost splice silent =>
      exact .forgotten (outside gone) unpaired isLost splice silent

/-- What is open has neither been closed nor reported. -/
theorem of_mem (booked : Booked tokens diagnostics pairs opens lost place delimiter opened)
    (isOpen : place ∈ opens) :
    place ∉ pairs.map Prod.fst ∧ delimiter.complaints opened diagnostics = 0 := by
  cases booked with
  | waits waits unpaired silent => exact ⟨unpaired, silent⟩
  | paired gone paired silent => exact absurd isOpen gone
  | reported gone unpaired noSplice once => exact absurd isOpen gone
  | forgotten gone unpaired isLost splice silent => exact absurd isOpen gone

end Booked

namespace Ledger

variable {frames : List Frame} {limit : Nat} {pairs : List (Nat × Nat)} {opens lost : List Nat}
  {diagnostic : Diagnostic} {frame : Frame}

/-- In front of a source there is nothing to be booked. -/
theorem empty (limit : Nat) : Ledger [] [] [] limit [] [] [] where
  stacked := .nil
  fits := List.forall_mem_nil _
  opensOnce := .nil
  closesOnce := .nil
  nested := List.forall_mem_nil _
  apart := List.forall_mem_nil _
  closers := fun _ _ closes => absurd closes.lt_length (Nat.not_lt_zero _)
  openers := fun _ _ _ opens => absurd opens.lt_length (Nat.not_lt_zero _)
  increasing := fun _ _ _ _ _ _ opens => absurd opens.lt_length (Nat.not_lt_zero _)
  told := List.forall_mem_nil _
  strays := List.forall_mem_nil _

theorem mono (ledger : Ledger tokens diagnostics frames limit pairs opens lost) {further : Nat}
    (more : limit ≤ further) : Ledger tokens diagnostics frames further pairs opens lost :=
  { ledger with
    openers := fun place delimiter opened isOpened =>
      (ledger.openers place delimiter opened isOpened).imp_left (Nat.lt_of_lt_of_le · more)
    told := fun diagnostic member names =>
      Nat.lt_of_lt_of_le (ledger.told diagnostic member names) more
    strays := fun token member closer kind =>
      (ledger.strays token member closer kind).imp_left (Nat.lt_of_lt_of_le · more) }

theorem enter (ledger : Ledger tokens diagnostics frames limit pairs opens lost) (column : Nat) :
    Ledger tokens diagnostics (.indent column :: frames) limit pairs opens lost :=
  { ledger with stacked := .block column ledger.stacked }

theorem leave {column : Nat}
    (ledger : Ledger tokens diagnostics (.indent column :: frames) limit pairs opens lost) :
    Ledger tokens diagnostics frames limit pairs opens lost :=
  { ledger with stacked := ledger.stacked.tail_block }

/-- What a token opens if it is of no interest. -/
theorem opens_of_isUnbooked (unbooked : token.kind.isUnbooked = true)
    (opens : OpensAt (tokens ++ [token]) place delimiter opened) :
    OpensAt tokens place delimiter opened := by
  rcases opens_concat opens with before | ⟨_, isOpened, _⟩
  · exact before
  · rcases opens with ⟨_, _, _, noBlock, _⟩
    unfold TokenKind.isUnbooked at unbooked
    rw [isOpened, Bool.and_eq_true, Bool.and_eq_true] at unbooked
    exact absurd (beq_iff_eq.mp unbooked.1.1) noBlock

theorem closes_of_isUnbooked (unbooked : token.kind.isUnbooked = true)
    (closes : ClosesAt (tokens ++ [token]) place delimiter) : ClosesAt tokens place delimiter := by
  rcases closes_concat closes with before | ⟨_, isClosed⟩
  · exact before
  · rcases closes with ⟨_, _, _, noBlock⟩
    unfold TokenKind.isUnbooked at unbooked
    rw [isClosed, Bool.and_eq_true, Bool.and_eq_true] at unbooked
    exact absurd (beq_iff_eq.mp unbooked.1.2) noBlock

/-- A token of no interest. -/
theorem push (ledger : Ledger tokens diagnostics frames limit pairs opens lost)
    (unbooked : token.kind.isUnbooked = true) :
    Ledger (tokens ++ [token]) diagnostics frames limit pairs opens lost where
  stacked := ledger.stacked.append _
  fits pair member := (ledger.fits pair member).append _
  opensOnce := ledger.opensOnce
  closesOnce := ledger.closesOnce
  nested := ledger.nested
  apart := ledger.apart
  closers place delimiter closes :=
    ledger.closers place delimiter (closes_of_isUnbooked unbooked closes)
  openers place delimiter opened opens := by
    have before := opens_of_isUnbooked unbooked opens
    rcases ledger.openers place delimiter opened before with ⟨below, booked⟩
    exact ⟨below, booked.append _ (Nat.le_of_lt before.lt_length) _ rfl⟩
  increasing early late first second start stop firstOpens secondOpens :=
    ledger.increasing early late first second start stop
      (opens_of_isUnbooked unbooked firstOpens) (opens_of_isUnbooked unbooked secondOpens)
  told := ledger.told
  strays other member closer kind := by
    rcases List.mem_append.mp member with before | last
    · exact ledger.strays other before closer kind
    · cases List.mem_singleton.mp last
      unfold TokenKind.isUnbooked at unbooked
      rw [kind, isStray_error, Bool.and_eq_true] at unbooked
      cases unbooked.2

/-- A report that names no delimiter. -/
theorem report (ledger : Ledger tokens diagnostics frames limit pairs opens lost)
    (other : diagnostic.fault.namesDelimiter = false) :
    Ledger tokens (diagnostics ++ [diagnostic]) frames limit pairs opens lost :=
  { ledger with
    openers := fun place delimiter opened isOpened => by
      rcases ledger.openers place delimiter opened isOpened with ⟨below, booked⟩
      have kept := booked.append _ (Nat.le_of_lt isOpened.lt_length) []
        (complaints_concat_other other)
      rw [List.append_nil] at kept
      exact ⟨below, kept⟩
    told := fun told member names => by
      rcases List.mem_append.mp member with before | last
      · exact ledger.told told before names
      · cases List.mem_singleton.mp last
        rw [other] at names
        cases names
    strays := fun token member closer kind => by
      rcases ledger.strays token member closer kind with ⟨below, once⟩
      refine ⟨below, ?_⟩
      rwa [mismatches_concat_other]
      refine Bool.eq_false_iff.mpr fun mismatch => ?_
      rw [namesDelimiter_of_isMismatch mismatch] at other
      cases other }

/-- A report about what stands behind everything that the ledger knows. -/
theorem reportAhead (ledger : Ledger tokens diagnostics frames limit pairs opens lost)
    (diagnostic : Diagnostic) (ahead : limit ≤ diagnostic.span.start) :
    Ledger tokens (diagnostics ++ [diagnostic]) frames (diagnostic.span.start + 1) pairs opens
      lost where
  stacked := ledger.stacked
  fits := ledger.fits
  opensOnce := ledger.opensOnce
  closesOnce := ledger.closesOnce
  nested := ledger.nested
  apart := ledger.apart
  closers := ledger.closers
  openers place delimiter opened isOpened := by
    rcases ledger.openers place delimiter opened isOpened with ⟨below, booked⟩
    have kept := booked.append (diagnostics ++ [diagnostic])
      (Nat.le_of_lt isOpened.lt_length) [] (complaints_concat_elsewhere (by omega))
    rw [List.append_nil] at kept
    exact ⟨by omega, kept⟩
  increasing := ledger.increasing
  told told member names := by
    rcases List.mem_append.mp member with before | last
    · have := ledger.told told before names
      omega
    · cases List.mem_singleton.mp last
      omega
  strays token member closer kind := by
    rcases ledger.strays token member closer kind with ⟨below, once⟩
    refine ⟨by omega, ?_⟩
    rwa [mismatches_concat_elsewhere (by omega)]

/-- Two places at which something is opened are told by the offsets. -/
theorem opened_ne (ledger : Ledger tokens diagnostics frames limit pairs opens lost)
    {other : Nat} {another : Delimiter} {start : Nat}
    (first : OpensAt tokens place delimiter opened) (second : OpensAt tokens other another start)
    (unequal : other ≠ place) : opened ≠ start := by
  rcases Nat.lt_or_gt_of_ne unequal with below | above
  · exact Nat.ne_of_gt (ledger.increasing _ _ _ _ _ _ second first below)
  · exact Nat.ne_of_lt (ledger.increasing _ _ _ _ _ _ first second above)

/-- What was opened last is reported. -/
theorem reject (ledger : Ledger tokens diagnostics (frame :: frames) limit pairs opens lost)
    (diagnostic : Diagnostic) (leftOpen : frame.delimiter.isLeftOpenBy diagnostic.fault = true)
    (there : diagnostic.span.start = frame.begins) (noSplice : frame.isSplice = false) :
    ∃ outer, Ledger tokens (diagnostics ++ [diagnostic]) frames limit pairs outer lost := by
  have noBlock : frame.delimiter ≠ .block := by
    intro block
    rw [block] at leftOpen
    cases leftOpen
  rcases ledger.stacked.uncons noBlock with
    ⟨place, outer, rfl, isOpened, behind, _, inside, stacked⟩
  have below := (ledger.openers _ _ _ isOpened).1
  refine ⟨outer, { ledger with
    stacked := stacked
    apart := fun place member => ledger.apart place (List.mem_cons_of_mem _ member)
    openers := fun other delimiter opened isOther => ?_
    told := fun told member names => ?_
    strays := fun token member closer kind => ?_ }⟩
  · rcases ledger.openers other delimiter opened isOther with ⟨below, booked⟩
    refine ⟨below, ?_⟩
    by_cases same : other = place
    · subst same
      rcases isOpened.unique isOther with ⟨rfl, rfl⟩
      rcases booked.of_mem List.mem_cons_self with ⟨unpaired, silent⟩
      refine .reported (fun member => Nat.lt_irrefl _ (inside _ member)) unpaired ?_ ?_
      · rw [behind, noSplice]
        exact Bool.false_ne_true
      · rw [complaints_concat, leftOpen, there, silent, beq_self_eq_true]
        rfl
    · have apart := ledger.opened_ne isOpened isOther same
      have kept := (booked.shrink same Iff.rfl fun _ => id).append
        (diagnostics ++ [diagnostic]) (Nat.le_of_lt isOther.lt_length) []
        (complaints_concat_elsewhere fun same => apart (there.symm.trans same))
      rwa [List.append_nil] at kept
  · rcases List.mem_append.mp member with before | last
    · exact ledger.told told before names
    · cases List.mem_singleton.mp last
      rwa [there]
  · rw [mismatches_concat_other (isMismatch_of_isLeftOpenBy leftOpen)]
    exact ledger.strays token member closer kind

/-- A token that closes something opens nothing. -/
theorem opens?_of_closes? {kind : TokenKind} (closes : kind.closes? = some delimiter) :
    kind.opens? = none := by
  cases kind with
  | punctuation mark => cases mark <;> first | rfl | cases closes
  | _ => first | rfl | cases closes

/-- What was opened last is closed. -/
theorem close (ledger : Ledger tokens diagnostics (frame :: frames) limit pairs opens lost)
    (token : Token) (noBlock : frame.delimiter ≠ .block)
    (closes : token.kind.closes? = some frame.delimiter) :
    ∃ pairs outer, Ledger (tokens ++ [token]) diagnostics frames limit pairs outer lost := by
  rcases ledger.stacked.uncons noBlock with ⟨place, outer, rfl, isOpened, _, _, inside, stacked⟩
  rcases (ledger.openers _ _ _ isOpened).2.of_mem List.mem_cons_self with ⟨unpaired, silent⟩
  have closed : ClosesAt (tokens ++ [token]) tokens.length frame.delimiter :=
    ⟨token, List.getElem?_concat_length, closes, noBlock⟩
  have within : ∀ pair ∈ pairs, pair.1 < pair.2 ∧ pair.2 < tokens.length := by
    intro pair member
    rcases ledger.fits pair member with ⟨later, _, closes⟩
    exact ⟨later, closes.lt_length⟩
  have before : ∀ {place delimiter opened}, OpensAt (tokens ++ [token]) place delimiter opened →
      OpensAt tokens place delimiter opened := by
    intro place delimiter opened opens
    rcases opens_concat opens with before | ⟨_, opensToo, _⟩
    · exact before
    · rw [opens?_of_closes? closes] at opensToo
      cases opensToo
  refine ⟨(place, tokens.length) :: pairs, outer,
    { stacked := stacked.append _
      fits := ?fits
      opensOnce := List.nodup_cons.mpr ⟨unpaired, ledger.opensOnce⟩
      closesOnce := ?closesOnce
      nested := ?nested
      apart := ?apart
      closers := ?closers
      openers := ?openers
      increasing := fun early late first second start stop opens later =>
        ledger.increasing early late first second start stop (before opens) (before later)
      told := ledger.told
      strays := ?strays }⟩
  case fits =>
    refine List.forall_mem_cons.mpr ⟨?_, fun pair member => (ledger.fits pair member).append _⟩
    exact ⟨isOpened.lt_length, isOpened.append _, closed⟩
  case closesOnce =>
    refine List.nodup_cons.mpr ⟨fun member => ?_, ledger.closesOnce⟩
    rcases List.mem_map.mp member with ⟨pair, isPair, same⟩
    exact Nat.lt_irrefl _ (same ▸ (within pair isPair).2)
  case nested =>
    intro first isFirst second isSecond starts within'
    rcases List.mem_cons.mp isFirst with rfl | firstBefore
    · rcases List.mem_cons.mp isSecond with rfl | secondBefore
      · exact absurd starts (Nat.lt_irrefl _)
      · exact (within second secondBefore).2
    · rcases List.mem_cons.mp isSecond with rfl | secondBefore
      · have ended := ledger.apart place List.mem_cons_self first firstBefore starts
        exact absurd within' (Nat.lt_asymm ended)
      · exact ledger.nested first firstBefore second secondBefore starts within'
  case apart =>
    intro waiting isOpen
    refine List.forall_mem_cons.mpr ⟨fun above => ?_, ?_⟩
    · exact absurd above (Nat.lt_asymm (inside waiting isOpen))
    · exact ledger.apart waiting (List.mem_cons_of_mem _ isOpen)
  case closers =>
    intro place delimiter isClosed
    rcases closes_concat isClosed with earlier | ⟨rfl, _⟩
    · exact List.mem_cons_of_mem _ (ledger.closers place delimiter earlier)
    · exact List.mem_cons_self
  case openers =>
    intro other delimiter opened isOther
    rcases ledger.openers other delimiter opened (before isOther) with ⟨below, booked⟩
    refine ⟨below, ?_⟩
    by_cases same : other = place
    · subst same
      rcases isOpened.unique (before isOther) with ⟨rfl, rfl⟩
      exact .paired (fun member => Nat.lt_irrefl _ (inside _ member)) List.mem_cons_self silent
    · refine (booked.shrink same ?_ fun _ => id).append _ (Nat.le_of_lt (before isOther).lt_length)
        _ rfl
      rw [List.map_cons, List.mem_cons]
      exact or_iff_right same
  case strays =>
    intro other member closer kind
    rcases List.mem_append.mp member with earlier | last
    · exact ledger.strays other earlier closer kind
    · cases List.mem_singleton.mp last
      rw [kind] at closes
      cases closes

/-- Something is opened behind everything that the ledger knows. -/
theorem opening (ledger : Ledger tokens diagnostics frames limit pairs opens lost)
    (frame : Frame) (token : Token) (noBlock : frame.delimiter ≠ .block)
    (isOpened : token.kind.opens? = some frame.delimiter)
    (starts : token.span.start = frame.begins) (ahead : limit ≤ frame.begins)
    (behind : BehindDollar tokens tokens.length ↔ frame.isSplice = true)
    (strung : frame.isSplice = true → frames.head?.any Frame.isString = true) :
    Ledger (tokens ++ [token]) diagnostics (frame :: frames) (frame.begins + 1) pairs
      (tokens.length :: opens) lost where
  stacked := by
    refine .opened ⟨token, List.getElem?_concat_length, isOpened, noBlock, starts⟩ ?_ strung
      (fun outer member => ledger.stacked.lt_length member) (ledger.stacked.append _)
    rw [behindDollar_append (Nat.le_refl _), behind]
  fits pair member := (ledger.fits pair member).append _
  opensOnce := ledger.opensOnce
  closesOnce := ledger.closesOnce
  nested := ledger.nested
  apart place member pair isPair above := by
    rcases List.mem_cons.mp member with rfl | before
    · rcases ledger.fits pair isPair with ⟨_, _, closes⟩
      exact closes.lt_length
    · exact ledger.apart place before pair isPair above
  closers place delimiter closes := by
    rcases closes_concat closes with before | ⟨_, closesToo⟩
    · exact ledger.closers place delimiter before
    · rw [opens?_of_closes? closesToo] at isOpened
      cases isOpened
  openers place delimiter opened opens := by
    rcases opens_concat opens with before | ⟨rfl, same, begins⟩
    · rcases ledger.openers place delimiter opened before with ⟨below, booked⟩
      refine ⟨by omega, ?_⟩
      exact (booked.append _ (Nat.le_of_lt before.lt_length) _ rfl).grow
        (Nat.ne_of_lt before.lt_length)
    · refine ⟨by omega, .waits List.mem_cons_self (fun member => ?_) ?_⟩
      · rcases List.mem_map.mp member with ⟨pair, isPair, last⟩
        rcases ledger.fits pair isPair with ⟨_, opens, _⟩
        exact Nat.lt_irrefl _ (last ▸ opens.lt_length)
      · refine complaints_eq_zero fun told member leftOpen => ?_
        have below := ledger.told told member (namesDelimiter_of_isLeftOpenBy leftOpen)
        omega
  increasing early late first second start stop opens opensLater earlier := by
    rcases opens_concat opens with before | ⟨rfl, _, _⟩
    · rcases opens_concat opensLater with beforeToo | ⟨rfl, _, begins⟩
      · exact ledger.increasing early late first second start stop before beforeToo earlier
      · have below := (ledger.openers early first start before).1
        omega
    · have bound := opensLater.lt_length
      rw [List.length_append, List.length_singleton] at bound
      omega
  told told member names := by
    have below := ledger.told told member names
    omega
  strays other member closer kind := by
    rcases List.mem_append.mp member with before | last
    · rcases ledger.strays other before closer kind with ⟨below, once⟩
      exact ⟨by omega, once⟩
    · cases List.mem_singleton.mp last
      rw [kind] at isOpened
      cases isOpened

theorem char_toString_injective {closer other : ClosingBracket}
    (same : closer.char.toString = other.char.toString) : closer = other := by
  revert same
  cases closer <;> cases other <;> decide +kernel

/-- A closing bracket that closes nothing is reported and becomes an error. -/
theorem stray (ledger : Ledger tokens diagnostics frames limit pairs opens lost)
    (token : Token) (closer : ClosingBracket) (kind : token.kind = .error closer.char.toString)
    (ahead : limit ≤ token.span.start) :
    Ledger (tokens ++ [token])
      (diagnostics ++ [.lexical (.unmatchedDelimiter closer.char) token.span]) frames
      (token.span.start + 1) pairs opens lost := by
  have told := ledger.reportAhead (.lexical (.unmatchedDelimiter closer.char) token.span) ahead
  have nothing : token.span.mismatches diagnostics = [] :=
    mismatches_eq_nil fun told member names same => by
      have below := ledger.told told member names
      rw [same] at below
      omega
  exact
    { stacked := told.stacked.append _
      fits := fun pair member => (told.fits pair member).append _
      opensOnce := told.opensOnce
      closesOnce := told.closesOnce
      nested := told.nested
      apart := told.apart
      closers := fun place delimiter closes => by
        rcases closes_concat closes with before | ⟨_, closesToo⟩
        · exact told.closers place delimiter before
        · rw [kind] at closesToo
          cases closesToo
      openers := fun place delimiter opened opens => by
        rcases opens_concat opens with before | ⟨_, opensToo, _⟩
        · rcases told.openers place delimiter opened before with ⟨below, booked⟩
          exact ⟨below, booked.append _ (Nat.le_of_lt before.lt_length) _ rfl⟩
        · rw [kind] at opensToo
          cases opensToo
      increasing := fun early late first second start stop opens opensLater earlier => by
        rcases opens_concat opens with before | ⟨_, opensToo, _⟩
        · rcases opens_concat opensLater with beforeToo | ⟨_, opensToo, _⟩
          · exact told.increasing early late first second start stop before beforeToo earlier
          · rw [kind] at opensToo
            cases opensToo
        · rw [kind] at opensToo
          cases opensToo
      told := told.told
      strays := fun other member another same => by
        rcases List.mem_append.mp member with before | last
        · exact told.strays other before another same
        · cases List.mem_singleton.mp last
          rw [kind] at same
          cases char_toString_injective (TokenKind.error.inj same)
          refine ⟨Nat.lt_succ_self _, ?_⟩
          have here : (token.span == token.span) = true := beq_self_eq_true _
          rw [mismatches_concat, nothing]
          simp [Fault.isMismatch, Diagnostic.lexical] }

/-- A splice is given up without a report.  Right around it is its string. -/
theorem forget {start : Nat}
    (ledger : Ledger tokens diagnostics (.splice start :: frames) limit pairs opens lost) :
    ∃ place outer, Ledger tokens diagnostics frames limit pairs outer (place :: lost) ∧
      ∃ earlier quote stringStart, earlier < place ∧
        OpensAt tokens earlier (.string quote) stringStart ∧
        .string quote stringStart ∈ frames := by
  rcases ledger.stacked.uncons nofun with
    ⟨place, outer, rfl, isOpened, behind, strung, inside, stacked⟩
  refine ⟨place, outer, { ledger with
    stacked := stacked
    apart := fun place member => ledger.apart place (List.mem_cons_of_mem _ member)
    openers := fun other delimiter opened isOther => ?_ }, ?_⟩
  · rcases ledger.openers other delimiter opened isOther with ⟨below, booked⟩
    refine ⟨below, ?_⟩
    by_cases same : other = place
    · subst same
      rcases booked.of_mem List.mem_cons_self with ⟨unpaired, silent⟩
      exact .forgotten (fun member => Nat.lt_irrefl _ (inside _ member)) unpaired
        List.mem_cons_self (behind.mpr rfl) silent
    · exact booked.shrink same Iff.rfl fun _ => List.mem_cons_of_mem _
  · have isString := strung rfl
    cases frames with
    | nil => cases isString
    | cons frame frames =>
        cases frame with
        | string quote stringStart =>
            rcases stacked.uncons nofun with ⟨earlier, others, rfl, opens, _⟩
            exact ⟨earlier, quote, stringStart, inside _ List.mem_cons_self, opens,
              List.mem_cons_self⟩
        | _ => cases isString

end Ledger
end Offside
