import Offside.Proofs.Lexing.Spans
import Offside.Proofs.Parsing.Course
import Offside.Proofs.Parsing.Filling
import Offside.Proofs.Parsing.Reports
import Offside.Text.XidStart

namespace Offside

/-!
# Where the parser points

The parser never looks at the text of a source.  It reports something at a token, or right
behind the token in front of the one at fault, or at the very start if there is none.  So
its reports fit the source if the tokens do, and the same is true of the nodes that it
builds, which are their tokens together.
-/

/-- The spans that a parser of some tokens may report. -/
inductive Span.PointsInto (tokens : List Token) : Span → Prop
  | token {token : Token} (member : token ∈ tokens) : PointsInto tokens token.span
  | behind {token : Token} (member : token ∈ tokens) :
      PointsInto tokens (.empty token.span.stop)
  | start : PointsInto tokens (.empty 0)

namespace TokenStream

theorem tokenAt_mem (stream : TokenStream) (position : Nat) :
    stream.tokenAt position ∈ stream.toList := by
  unfold tokenAt toList Array.getD
  split
  · exact List.mem_append_left _ (Array.mem_toList_iff.mpr (Array.getElem_mem _))
  · exact List.mem_append_right _ (List.mem_singleton.mpr rfl)

theorem toList_advance (stream : TokenStream) : stream.advance.toList = stream.toList := by
  unfold advance
  split <;> rfl

theorem pointsInto_current (stream : TokenStream) :
    stream.current.span.PointsInto stream.toList :=
  .token (stream.tokenAt_mem _)

theorem pointsInto_previousEnd (stream : TokenStream) :
    (Span.empty stream.previousEnd).PointsInto stream.toList := by
  unfold previousEnd previous?
  split
  · exact .start
  · exact .behind (stream.tokenAt_mem _)

end TokenStream

namespace Progress

/-- A parser of some tokens has pointed at nothing else. -/
structure PointsInto (tokens : List Token) (progress : Progress) : Prop where
  stream : progress.stream.toList = tokens
  reports : ∀ diagnostic ∈ progress.diagnostics, diagnostic.span.PointsInto tokens

variable {tokens : List Token} {progress before after : Progress} {failure : Failure}
  {diagnostics : Array Diagnostic}

namespace PointsInto

theorem of_same (points : before.PointsInto tokens) (stream : after.stream = before.stream)
    (reports : after.diagnostics = before.diagnostics) : after.PointsInto tokens where
  stream := stream ▸ points.stream
  reports := reports ▸ points.reports

theorem current (points : progress.PointsInto tokens) :
    progress.stream.current.span.PointsInto tokens :=
  points.stream ▸ progress.stream.pointsInto_current

theorem take (points : progress.PointsInto tokens) : progress.take.PointsInto tokens where
  stream := progress.stream.toList_advance.trans points.stream
  reports := points.reports

/-- A failure is reported where it happened. -/
theorem restarted (points : progress.PointsInto tokens)
    (there : failure.span.PointsInto tokens)
    (reports : ∀ diagnostic ∈ diagnostics, diagnostic.span.PointsInto tokens) :
    (progress.restarted failure diagnostics).PointsInto tokens where
  stream := by rw [stream_restarted, points.stream]
  reports := by
    intro diagnostic member
    rw [← Array.mem_toList_iff, diagnostics_restarted, List.mem_append] at member
    rcases member with earlier | last
    · exact reports diagnostic (Array.mem_toList_iff.mp earlier)
    · split at last
      · cases last
      · cases List.mem_singleton.mp last
        exact there

theorem reportFailure (points : progress.PointsInto tokens)
    (there : failure.span.PointsInto tokens) :
    (progress.reportFailure failure).PointsInto tokens :=
  points.restarted there points.reports

theorem gather (points : progress.PointsInto tokens) (depth : Nat) :
    (progress.gather depth).PointsInto tokens := by
  fun_induction Progress.gather progress depth with
  | case1 progress depth atEnd => exact points
  | case2 progress depth before stops => exact points
  | case3 progress depth before goesOn inductionHypothesis => exact inductionHypothesis points.take

theorem takeAll (points : progress.PointsInto tokens) : progress.takeAll.PointsInto tokens := by
  fun_induction Progress.takeAll progress with
  | case1 progress atEnd => exact points
  | case2 progress before inductionHypothesis => exact inductionHypothesis points.take

theorem addFaulty (points : progress.PointsInto tokens) :
    progress.addFaulty.PointsInto tokens := by
  have opened : (progress.openNode .error).PointsInto tokens := points.of_same rfl rfl
  have gathered := opened.gather 0
  unfold Progress.addFaulty
  dsimp only
  split
  · exact gathered.of_same rfl rfl
  · exact gathered.of_same rfl rfl

theorem addRest (points : progress.PointsInto tokens) : progress.addRest.PointsInto tokens := by
  have opened : (progress.openNode .error).PointsInto tokens := points.of_same rfl rfl
  have gathered := opened.takeAll
  unfold Progress.addRest
  dsimp only
  split
  · exact gathered.of_same rfl rfl
  · exact gathered.of_same rfl rfl

theorem skipSeparators (points : progress.PointsInto tokens) :
    progress.skipSeparators.PointsInto tokens := by
  fun_induction Progress.skipSeparators progress with
  | case1 progress separator atEnd => exact points
  | case2 progress separator before inductionHypothesis => exact inductionHypothesis points.take
  | case3 progress other => exact points

theorem settle (points : progress.PointsInto tokens) (session : Session)
    (ambiguity : Ambiguity) : (progress.settle session ambiguity).2.PointsInto tokens := by
  unfold Progress.settle
  split
  · exact points
  · dsimp only
    split
    · exact points
    · exact ⟨points.stream, Array.forall_mem_push.mpr ⟨points.current, points.reports⟩⟩

end PointsInto
end Progress

/-! ## Running the grammar -/

namespace Outcome

/-- What comes of a rule points into the tokens, and so does the failure of the rule. -/
def PointsInto (tokens : List Token) : Outcome → Prop
  | next after | leave after => after.PointsInto tokens
  | failed failure diagnostics => failure.span.PointsInto tokens ∧
      ∀ diagnostic ∈ diagnostics, diagnostic.span.PointsInto tokens

variable {tokens : List Token} {outcome : Outcome} {progress : Progress}

theorem PointsInto.andThen {rest : Progress → Outcome} (first : outcome.PointsInto tokens)
    (second : ∀ middle : Progress, middle.PointsInto tokens → (rest middle).PointsInto tokens) :
    (outcome.andThen rest).PointsInto tokens := by
  cases outcome with
  | next middle => exact second middle first
  | leave after => exact first
  | failed failure diagnostics => exact first

theorem PointsInto.map {change : Progress → Progress} (points : outcome.PointsInto tokens)
    (changes : ∀ after : Progress, after.PointsInto tokens → (change after).PointsInto tokens) :
    (outcome.map change).PointsInto tokens := by
  cases outcome with
  | next after => exact changes after points
  | leave after => exact changes after points
  | failed failure diagnostics => exact points

theorem PointsInto.recover (before : progress.PointsInto tokens)
    (points : outcome.PointsInto tokens) : (progress.recover outcome).PointsInto tokens := by
  cases outcome with
  | next after => exact points
  | leave after => exact points
  | failed failure diagnostics =>
      unfold Progress.recover
      dsimp only
      split
      · exact points
      · exact (before.restarted points.1 points.2).addFaulty

theorem PointsInto.repeatRounds {round : Progress → Outcome}
    (each : ∀ progress : Progress, progress.PointsInto tokens →
      (round progress).PointsInto tokens) (rounds : Nat) (points : progress.PointsInto tokens) :
    (repeatRounds round rounds progress).PointsInto tokens := by
  induction rounds generalizing progress with
  | zero => exact points
  | succ rounds inductionHypothesis =>
      have once := each progress points
      unfold Offside.repeatRounds
      cases came : round progress with
      | next after =>
          rw [came] at once
          exact inductionHypothesis once
      | leave after =>
          rw [came] at once
          exact once
      | failed failure diagnostics =>
          rw [came] at once
          exact once

end Outcome

variable {tokens : List Token} {progress : Progress}

theorem Progress.PointsInto.charge (points : progress.PointsInto tokens) (session : Session) :
    (progress.charge session).PointsInto tokens := by
  unfold Progress.charge
  split
  · exact ⟨points.current, points.reports⟩
  · exact points.of_same rfl rfl

/-- By induction on the rule, with one case for each of its forms. -/
theorem Rule.run_pointsInto {call : Surroundings → Nonterminal → Progress → Outcome}
    (calls : ∀ surroundings nonterminal (progress : Progress), progress.PointsInto tokens →
      (call surroundings nonterminal progress).PointsInto tokens)
    (rule : Rule) (surroundings : Surroundings) (points : progress.PointsInto tokens) :
    (rule.run call surroundings progress).PointsInto tokens := by
  induction rule generalizing surroundings progress with
  | done => exact points
  | seq first second one two =>
      exact (one surroundings points).andThen fun middle => two surroundings
  | take => exact points.take
  | call nonterminal => exact calls surroundings nonterminal progress points
  | node part kind rule inductionHypothesis =>
      have inside : (progress.openNode kind).PointsInto tokens := points.of_same rfl rfl
      exact (inductionHypothesis surroundings inside).map fun after reached =>
        reached.of_same rfl rfl
  | become kind => exact points.of_same rfl rfl
  | nameFirst part => exact points.of_same rfl rfl
  | wrap kind => exact points.of_same rfl rfl
  | choose condition yes no whenHeld otherwise =>
      unfold run
      split
      · exact whenHeld surroundings points
      · exact otherwise surroundings points
  | settle ambiguity first second either or =>
      have settled := points.settle surroundings.session ambiguity
      unfold run
      dsimp only
      split
      · exact either surroundings settled
      · exact or surroundings settled
  | loop rule inductionHypothesis =>
      exact .repeatRounds (fun middle => inductionHypothesis surroundings) _ points
  | leave => exact points
  | nested rule inductionHypothesis =>
      exact ((points.charge surroundings.session).andThen fun middle =>
        inductionHypothesis surroundings).map fun after reached => reached.of_same rfl rfl
  | chain rule inductionHypothesis =>
      exact (inductionHypothesis surroundings points).map fun after reached =>
        reached.of_same rfl rfl
  | link => exact points.charge surroundings.session
  | withBraces allowed rule inductionHypothesis => exact inductionHypothesis _ points
  | recover rule inductionHypothesis => exact .recover points (inductionHypothesis _ points)
  | reject expected => exact (points.reportFailure points.current).addFaulty
  | fail expected => exact ⟨points.current, points.reports⟩
  | failMissing kind part =>
      exact ⟨points.stream ▸ progress.stream.pointsInto_previousEnd, points.reports⟩

theorem Nonterminal.run_pointsInto (depth : Nat) (surroundings : Surroundings)
    (nonterminal : Nonterminal) (points : progress.PointsInto tokens) :
    (Nonterminal.run depth surroundings nonterminal progress).PointsInto tokens := by
  induction depth generalizing surroundings nonterminal progress with
  | zero => exact ⟨points.current, points.reports⟩
  | succ depth inductionHypothesis =>
      exact Rule.run_pointsInto (fun surroundings nonterminal progress =>
        inductionHypothesis surroundings nonterminal) nonterminal.rule surroundings points

/-! ## The whole source -/

theorem Progress.PointsInto.definition (points : progress.PointsInto tokens)
    (session : Session) : (progress.definition session).PointsInto tokens := by
  unfold Progress.definition
  split
  · exact .recover points (Nonterminal.run_pointsInto _ _ _ points)
  · exact (points.reportFailure points.current).addFaulty

theorem Progress.PointsInto.definitions (points : progress.PointsInto tokens)
    (session : Session) (count : Nat) : (progress.definitions session count).PointsInto tokens := by
  induction count generalizing progress with
  | zero => exact points
  | succ count inductionHypothesis =>
      have ready := points.skipSeparators
      have once := ready.definition session
      unfold Progress.definitions
      dsimp only
      split
      · exact ready
      · generalize progress.skipSeparators.definition session = outcome at once
        cases outcome with
        | next done => exact inductionHypothesis once
        | leave done => exact inductionHypothesis once
        | failed failure diagnostics => exact (ready.restarted once.1 once.2).addRest

/-- Every report of a parser is about a token of its stream or the place right behind one. -/
theorem parseStream_pointsInto (session : Session) (stream : TokenStream) :
    ∀ diagnostic ∈ (parseStream session stream).diagnostics,
      diagnostic.span.PointsInto stream.toList := by
  have started : (Progress.start stream .compilationUnit).PointsInto stream.toList :=
    ⟨rfl, fun _ member => absurd member (Array.not_mem_empty _)⟩
  have ended := (started.definitions session (stream.size + 1)).take
  exact fun diagnostic member => ended.reports diagnostic (Array.mem_toList_iff.mp member)

/-! ## Everything fits the source -/

theorem Span.PointsInto.fits {source : String} {span : Span}
    (each : ∀ token ∈ tokens, token.Fits source) (points : span.PointsInto tokens) :
    span.Fits source := by
  cases points with
  | token member => exact (each _ member).1
  | behind member => exact Span.fits_empty (each _ member).1.stop
  | start =>
      exact Span.fits_empty (Utf8.holdsAt_nil_iff.mp ⟨[], source.toList, rfl, rfl⟩)

/-- Spans that fit a source do so together. -/
theorem Span.Union.fits {source : String} {spans : List Span} {whole : Span}
    (union : Span.Union spans whole) (some : spans ≠ [])
    (each : ∀ span ∈ spans, span.Fits source) : whole.Fits source := by
  rcases union.starts some with ⟨first, member, start⟩
  rcases union.ends some with ⟨last, inside, stop⟩
  refine ⟨start ▸ (each first member).start, stop ▸ (each last inside).stop, ?_⟩
  have ordered := (each first member).ordered
  have within := (union.within first member).2
  omega

section
variable (source : String) (options : ParseOptions)

theorem parse_nodes_fit [XidStart] :
    ∀ node ∈ (parse source options).root.preorder, node.span.Fits source := by
  intro node member
  have spanned : ∀ below ∈ (parse source options).root.preorder, below.Spanned :=
    spanned_parseStream (sessionOf source options) _
  rcases node.union_tokens fun below inside =>
    spanned below (Node.preorder_subset member below inside) with ⟨some, union⟩
  refine union.fits some (List.forall_mem_map.mpr fun token inside => ?_)
  have among := Node.tokens_subset member token inside
  rw [tokens_parse] at among
  exact ((lex_fits source options.tabWidth).1 token among).1

theorem parse_reports_fit [XidStart] :
    ∀ diagnostic ∈ (parse source options).diagnostics, diagnostic.span.Fits source := by
  intro diagnostic member
  rcases lex_fits source options.tabWidth with ⟨tokens, reports⟩
  rcases List.mem_append.mp ((diagnostics_perm source options).mem_iff.mp member) with
    lexical | grammatical
  · exact reports diagnostic lexical
  · have points := parseStream_pointsInto _ _ diagnostic grammatical
    rw [toList_lex] at points
    exact points.fits tokens

end

/-- The spans of a source: those of its tokens with their trivia and of what the lexer
reports, and those of the nodes and tokens of its tree and of all reports together. -/
def spansOf [XidStart] (source : String) (options : ParseOptions) : List Span :=
  let lexed := lex source options.tabWidth
  let parsed := parse source options
  (lexed.tokens ++ parsed.root.tokens).flatMap
      (fun token => token.span :: token.leading.map Trivia.span) ++
    parsed.root.preorder.map Node.span ++
      (lexed.diagnostics ++ parsed.diagnostics).map Diagnostic.span

theorem fits_of_mem_spansOf [XidStart] {source : String} {options : ParseOptions} {span : Span}
    (member : span ∈ spansOf source options) : span.Fits source := by
  rcases lex_fits source options.tabWidth with ⟨tokens, reports⟩
  unfold spansOf at member
  dsimp only at member
  rw [tokens_parse, List.mem_append, List.mem_append] at member
  rcases member with (ofToken | ofNode) | ofReport
  · rcases List.mem_flatMap.mp ofToken with ⟨token, twice, inside⟩
    have fits := tokens token (List.mem_append.mp twice |>.elim id id)
    rcases List.mem_cons.mp inside with rfl | ofTrivia
    · exact fits.1
    · rcases List.mem_map.mp ofTrivia with ⟨trivia, leads, rfl⟩
      exact fits.2 trivia leads
  · rcases List.mem_map.mp ofNode with ⟨node, inside, rfl⟩
    exact parse_nodes_fit source options node inside
  · rcases List.mem_map.mp ofReport with ⟨diagnostic, inside, rfl⟩
    rcases List.mem_append.mp inside with lexical | reported
    · exact reports diagnostic lexical
    · exact parse_reports_fit source options diagnostic reported

/-- All spans of a source fit it, whatever the source and the options are.  The ends of a span
come in their order, lie in the source and cut no character.  So its length is the distance
of its ends, and the text that it names has this length and is found. -/
theorem parse_spans [XidStart] (source : String) (options : ParseOptions) :
    ∀ span ∈ spansOf source options,
      span.start ≤ span.stop ∧ span.stop ≤ source.utf8ByteSize ∧
      String.Pos.Raw.IsValid source ⟨span.start⟩ ∧ String.Pos.Raw.IsValid source ⟨span.stop⟩ ∧
      span.start + span.length = span.stop ∧
      (span.text source).utf8ByteSize = span.length ∧
      (span.isEmpty = false → span.text source ≠ "") := by
  intro span member
  have fits := fits_of_mem_spansOf member
  have ordered := fits.ordered
  have size := fits.utf8ByteSize_text
  have distance : span.start + span.length = span.stop := by
    unfold Span.length
    omega
  refine ⟨ordered, fits.stop_le, fits.start, fits.stop, distance, size, fun wide nothing => ?_⟩
  rw [nothing] at size
  have apart : span.start ≠ span.stop := by simpa [Span.isEmpty] using wide
  have none : span.length = 0 := size.symm
  omega

/-- A string that is not closed, to the end of a source with characters of several bytes. -/
theorem parse_spans_unclosed :
    let source := "def é(\"λ"
    ⟨7, 10⟩ ∈ spansOf source .default ∧ source.utf8ByteSize = 10 ∧
      (Span.mk 7 10).text source = "\"λ" ∧ (Span.mk 7 10).text source ≠ "" ∧
      String.Pos.Raw.IsValid source ⟨7⟩ ∧ ¬ String.Pos.Raw.IsValid source ⟨9⟩ := by
  intro source
  have member : ⟨7, 10⟩ ∈ spansOf source .default := by decide +kernel
  have spans := parse_spans source .default ⟨7, 10⟩ member
  exact ⟨member, rfl, by decide +kernel, spans.2.2.2.2.2.2 rfl, spans.2.2.1, by decide +kernel⟩

end Offside
