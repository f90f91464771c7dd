import Offside.Proofs.Lexing.Succession
import Offside.Proofs.Parsing.Reports
import Offside.Proofs.Parsing.Succession
import Offside.Text.XidStart

namespace Offside

/-!
# Sources in a row

A source about which nothing is reported keeps its definitions when another source
follows that begins with a definition at the margin, and the definitions of the other
source are what they are alone.  So the definitions of two sources in a row are those of
the one and then those of the other, up to their places, with a separator in between
where a statement ends.  The second source may have any faults: they are reported as they
are alone, further on.

The tokens of the sources in a row are known.  What is left is to find the streams of the
two sources in the stream of both.
-/

namespace TokenStream

variable {stream other follower : TokenStream} {front rest separators : List Token}
  {first moved : Token} {distance : Nat}

/-- Behind some tokens a stream shows what stands behind them. -/
theorem tokenAt_append (body : stream.body.toList = front ++ rest) (position : Nat) :
    stream.tokenAt (front.length + position) = rest[position]?.getD stream.ending := by
  rw [tokenAt_eq, body, List.getElem?_append_right (Nat.le_add_right _ _),
    Nat.add_sub_cancel_left]

/-- A stream that begins with another token than the mark at the end. -/
theorem body_of_cons (shown : follower.toList = first :: rest)
    (goesOn : first.kind ≠ .endOfFile) :
    ∃ inner, follower.body.toList = first :: inner ∧ rest = inner ++ [follower.ending] := by
  unfold toList at shown
  cases body : follower.body.toList with
  | nil =>
      rw [body] at shown
      exact absurd ((List.cons.inj shown).1 ▸ follower.ending_kind) goesOn
  | cons token inner =>
      rw [body] at shown
      cases shown
      exact ⟨inner, rfl, rfl⟩

theorem reappears_of_body (here : follower.body.toList = first :: rest)
    (there : other.body.toList = front ++ moved :: rest.map (Token.moved distance))
    (ending : other.ending = follower.ending.moved distance) (kind : moved.kind = first.kind)
    (span : moved.span = first.span.moved distance) :
    follower.Reappears other front.length (.moved distance) := by
  have atFirst : other.tokenAt (front.length + 0) = moved := tokenAt_append there 0
  have first' : follower.tokenAt 0 = first := by rw [tokenAt_eq, here]; rfl
  have further : ∀ position,
      other.tokenAt (front.length + (position + 1)) =
        (follower.tokenAt (position + 1)).moved distance := by
    intro position
    rw [tokenAt_append there, tokenAt_eq, here, ending, List.getElem?_cons_succ,
      List.getElem?_cons_succ, List.getElem?_map]
    cases rest[position]? <;> rfl
  have spans : ∀ position, (other.tokenAt (front.length + position)).span =
      (follower.tokenAt position).span.moved distance := by
    intro position
    cases position with
    | zero => rw [atFirst, first', span]
    | succ position => rw [further]; rfl
  refine ⟨?_, nofun, fun position => ?_, spans, fun position begun => ?_,
    fun position begun => ?_, fun position _ _ _ => ?_⟩
  · rw [← Array.length_toList, ← Array.length_toList, here, there, List.length_append,
      List.length_cons, List.length_cons, List.length_map]
  · cases position with
    | zero => rw [atFirst, first', kind]
    | succ position => rw [further]; rfl
  · obtain ⟨position, rfl⟩ := Nat.exists_eq_succ_of_ne_zero (Nat.ne_of_gt begun)
    have ends := congrArg Span.stop (spans position)
    unfold TokenStream.previousEnd
    rw [previous?_moveTo begun, previous?_moveTo (by omega)]
    exact congrArg Span.empty ends
  · obtain ⟨position, rfl⟩ := Nat.exists_eq_succ_of_ne_zero (Nat.ne_of_gt begun)
    rw [further]
    show _ = ((follower.tokenAt (position + 1)).leading.map (Trivia.moved distance)).any _
    rw [List.any_map]
    rfl
  · rw [further]
    show _ = !((follower.tokenAt (position + 1)).leading.map (Trivia.moved distance)).isEmpty
    rw [List.isEmpty_map]
    rfl

/-- The separator that a new definition puts behind some tokens. -/
theorem separators_cases {separated : Bool}
    (kinds : separators.map Token.kind = Reader.separator separated) :
    separators = [] ∧ separated = false ∨
      ∃ token : Token, separators = [token] ∧ token.kind = .autoSemicolon ∧
        separated = true := by
  cases separated with
  | false => exact .inl ⟨List.map_eq_nil_iff.mp kinds, rfl⟩
  | true =>
      rcases List.map_eq_singleton_iff.mp kinds with ⟨token, single, kind⟩
      exact .inr ⟨token, single, kind, rfl⟩

theorem kind_separator {separated : Bool}
    (there : other.body.toList = stream.body.toList ++ (separators ++ moved :: rest))
    (kinds : separators.map Token.kind = Reader.separator separated)
    (isSeparated : separated = true) :
    (other.tokenAt stream.body.size).kind = .autoSemicolon := by
  have shown := tokenAt_append there 0
  rw [Array.length_toList, Nat.add_zero] at shown
  rcases separators_cases kinds with ⟨_, notSeparated⟩ | ⟨token, single, kind, _⟩
  · rw [isSeparated] at notSeparated
    cases notSeparated
  · rw [shown, single]
    exact kind

theorem continues_of_body
    (there : other.body.toList = stream.body.toList ++ (separators ++ moved :: rest))
    (kinds : separators.map Token.kind =
      Reader.separator (stream.body.toList.getLast?.any (·.kind.canEndStatement)))
    (starts : moved.kind.startsDefinition = true) (position : other.position = stream.position)
    (endsOnce : stream.EndsOnce) (groupsClose : stream.GroupsClose)
    (sound : ¬ stream.HasErrorToken)
    (settled : ∀ position, position + 1 = stream.body.size →
      (stream.tokenAt position).kind.dangles = false) : stream.Continues other where
  position := position
  size := by
    rw [← Array.length_toList, ← Array.length_toList, there, List.length_append,
      List.length_append, List.length_cons]
    omega
  tokens := by
    intro position inside
    rw [← Array.length_toList] at inside
    rw [tokenAt_eq, tokenAt_eq, there, List.getElem?_append_left inside,
      List.getElem?_eq_getElem inside]
    rfl
  starts := by
    have shown := tokenAt_append there
    rw [Array.length_toList] at shown
    rcases separators_cases kinds with ⟨none, _⟩ | ⟨token, single, _, separated⟩
    · refine .inl ?_
      rw [none] at shown
      have next := shown 0
      rw [Nat.add_zero] at next
      rw [next]
      exact starts
    · refine .inr ⟨kind_separator there kinds separated, ?_⟩
      rw [shown 1, single]
      exact starts
  separated := by
    intro position last ends
    have isLast : stream.body.toList.getLast? = some (stream.tokenAt position) := by
      have inside : position < stream.body.toList.length := by
        rw [Array.length_toList]
        omega
      rw [tokenAt_eq, List.getElem?_eq_getElem inside, List.getLast?_eq_getElem?,
        Array.length_toList, ← last, Nat.add_sub_cancel, List.getElem?_eq_getElem inside]
      rfl
    refine kind_separator there kinds ?_
    rw [isLast]
    exact ends
  endsOnce := endsOnce
  groupsClose := groupsClose
  sound := sound
  settled := settled

/-- The definitions of two streams in a row, given the tokens of all three. -/
theorem parseStream_append {session sessionThere : Session} {others : List Token}
    (atStart : stream.position = 0) (atStartAfter : follower.position = 0)
    (atStartBoth : other.position = 0) (endsOnce : stream.EndsOnce)
    (groupsClose : stream.GroupsClose) (sound : ¬ stream.HasErrorToken)
    (blameless : session.lexerComplained = false)
    (sameDepth : sessionThere.maxDepth = session.maxDepth)
    (silent : (parseStream session stream).diagnostics = [])
    (tokensAfter : follower.toList = first :: others)
    (starts : first.kind.startsDefinition = true) (kind : moved.kind = first.kind)
    (span : moved.span = first.span.moved distance)
    (kinds : separators.map Token.kind =
      Reader.separator (stream.body.toList.getLast?.any (·.kind.canEndStatement)))
    (tokensBoth : other.toList =
      stream.body.toList ++ separators ++ moved :: others.map (Token.moved distance)) :
    (parseStream sessionThere other).root.children.map Element.outline =
        (parseStream session stream).root.children.dropLast.map Element.outline ++
          (if stream.body.toList.getLast?.any (·.kind.canEndStatement) then
            [.token (.bare .autoSemicolon (.empty 0))] else []) ++
          (parseStream sessionThere follower).root.children.map Element.outline ∧
      (parseStream sessionThere other).diagnostics =
        (parseStream sessionThere follower).diagnostics.map (Diagnostic.moved distance) := by
  have goesOn : first.kind ≠ .endOfFile := by
    intro ended
    rw [ended] at starts
    cases starts
  rcases body_of_cons tokensAfter goesOn with ⟨inner, here, rfl⟩
  have split : other.body.toList ++ [other.ending] =
      (stream.body.toList ++ separators ++ moved :: inner.map (Token.moved distance)) ++
        [follower.ending.moved distance] := by
    refine tokensBoth.trans ?_
    rw [List.map_append, List.append_assoc, List.append_assoc, List.append_assoc]
    rfl
  rcases List.append_inj' split rfl with ⟨there, last⟩
  have behind := there.trans (List.append_assoc _ _ _)
  have continues : stream.Continues other :=
    continues_of_body behind kinds (kind ▸ starts) (atStartBoth.trans atStart.symm) endsOnce
      groupsClose sound (settled_of_silent atStart endsOnce sound silent)
  have reappears := reappears_of_body here there (List.singleton_inj.mp last) kind span
  have count : (stream.body.toList ++ separators).length = stream.body.size +
      (stream.body.toList.getLast?.any (·.kind.canEndStatement)).toNat := by
    rw [List.length_append, Array.length_toList]
    rcases separators_cases kinds with ⟨none, notSeparated⟩ | ⟨token, single, _, separated⟩
    · rw [none, notSeparated]
      rfl
    · rw [single, separated]
      rfl
  rw [count] at reappears
  have begins : follower.kind = first.kind := by
    unfold TokenStream.kind current ahead
    rw [atStartAfter, tokenAt_eq, here]
    rfl
  exact parseStream_succession atStart continues blameless sameDepth silent
    (kind_separator behind kinds) (begins ▸ starts) atStartAfter reappears

end TokenStream

/-! ## Reports -/

theorem silent_of_parse [XidStart] {source : String} {options : ParseOptions}
    (silent : (parse source options).diagnostics = []) :
    (lex source options.tabWidth).diagnostics = [] ∧
      (parsedAlone source options).diagnostics = [] := by
  have all := diagnostics_perm source options
  rw [silent] at all
  exact List.append_eq_nil_iff.mp all.nil_eq.symm

theorem any_isError_of_silent [XidStart] {source : String} {tabWidth : Nat}
    (silent : (lex source tabWidth).diagnostics = []) :
    ((lex source tabWidth).tokens.any fun token => token.kind.isError) = false := by
  refine List.any_eq_false.mpr fun token member => ?_
  rw [(lex_silent silent).sound token member]
  exact Bool.false_ne_true

theorem lexerComplained_of_silent [XidStart] {source : String} {options : ParseOptions}
    (silent : (lex source options.tabWidth).diagnostics = []) :
    (sessionOf source options).lexerComplained = false := by
  unfold sessionOf
  rw [silent, any_isError_of_silent silent]
  rfl

/-- Reports that all stand equally much further on are in the same order. -/
theorem sortDiagnostics_moved (distance : Nat) (diagnostics : List Diagnostic) :
    sortDiagnostics (diagnostics.map (Diagnostic.moved distance)) =
      (sortDiagnostics diagnostics).map (Diagnostic.moved distance) := by
  refine (List.map_mergeSort fun left _ right _ => ?_).symm
  show decide (left.span.start ≤ right.span.start) =
    decide (left.span.start + distance ≤ right.span.start + distance)
  exact decide_eq_decide.mpr Nat.add_le_add_iff_right.symm

theorem lex_empty [XidStart] (tabWidth : Nat) :
    lex "" tabWidth = ⟨[⟨.endOfFile, .empty 0, []⟩], []⟩ := by
  unfold lex
  rw [Reader.run_of_read rfl]
  rfl

theorem Progress.definitions_of_atEnd {progress : Progress}
    (atEnd : progress.stream.atEnd = true) (session : Session) (count : Nat) :
    progress.definitions session count = progress := by
  have stays : progress.skipSeparators = progress := by
    rw [skipSeparators.eq_def]
    refine if_neg ?_
    rw [show progress.stream.kind = .endOfFile from beq_iff_eq.mp atEnd]
    exact Bool.false_ne_true
  cases count with
  | zero => rfl
  | succ count =>
      rw [definitions_succ, stays]
      exact if_pos atEnd

theorem parse_empty [XidStart] (options : ParseOptions) : (parse "" options).diagnostics = [] := by
  unfold parse
  rw [lex_empty]
  unfold parseStream
  dsimp only
  rw [Progress.definitions_of_atEnd rfl]
  exact List.mergeSort_nil

/-- Only the first token of the second source can tell that there was another one, and not
by its kind. -/
theorem sessionOf_append [XidStart] {before after : String} {options : ParseOptions}
    {first moved : Token} {others separators : List Token} {distance : Nat} {separated : Bool}
    (silent : (lex before options.tabWidth).diagnostics = [])
    (found : (lex after options.tabWidth).tokens = first :: others)
    (kind : moved.kind = first.kind)
    (kinds : separators.map Token.kind = Reader.separator separated)
    (tokens : (lex (before ++ after) options.tabWidth).tokens =
      (lex before options.tabWidth).tokens.dropLast ++ separators ++
        moved :: others.map (Token.moved distance))
    (told : (lex (before ++ after) options.tabWidth).diagnostics =
      (lex after options.tabWidth).diagnostics.map (Diagnostic.moved distance)) :
    sessionOf (before ++ after) options = sessionOf after options := by
  have sound : ((lex before options.tabWidth).tokens.dropLast.any fun token =>
      token.kind.isError) = false := by
    refine List.any_eq_false.mpr fun token member => ?_
    exact List.any_eq_false.mp (any_isError_of_silent silent) token
      ((List.dropLast_sublist _).subset member)
  have noError : (separators.any fun token => token.kind.isError) = false := by
    rcases TokenStream.separators_cases kinds with ⟨none, _⟩ | ⟨token, single, isSeparator, _⟩
    · rw [none]
      rfl
    · rw [single, List.any_cons, isSeparator]
      rfl
  unfold sessionOf
  rw [tokens, told, found, List.isEmpty_map, List.any_append, List.any_append, sound, noError,
    List.any_cons, List.any_cons, List.any_map, kind]
  rfl

/-- The last child of a root is the mark at the end. -/
theorem root_children_concat [XidStart] (source : String) (options : ParseOptions) :
    ∃ ending : Token, ending.kind = .endOfFile ∧
      (parse source options).root.children =
        (parse source options).root.children.dropLast ++ [.token ending] := by
  have endsOnce := endsOnce_lex source options.tabWidth
  have atStart := TokenStream.position_ofList (lex source options.tabWidth).tokens
  generalize shown : TokenStream.ofList (lex source options.tabWidth).tokens = stream
    at endsOnce atStart
  have ended := TokenStream.position_definitions (sessionOf source options) atStart endsOnce
  have course := Progress.definitions_course (sessionOf source options) (stream.size + 1)
    (.start stream .compilationUnit)
  have children : (parse source options).root.children =
      (stream.definitions (sessionOf source options)).builder.children.toList ++
        [.token (stream.definitions (sessionOf source options)).stream.current] := by
    rw [root_parse]
    unfold parsedAlone
    rw [shown]
    exact Array.toList_push
  refine ⟨_, ?_, by rw [children, List.dropLast_concat]⟩
  rw [show (stream.definitions (sessionOf source options)).stream = _ from course.stream]
  show (stream.tokenAt ((stream.definitions (sessionOf source options)).stream.position +
    0)).kind = .endOfFile
  rw [ended, TokenStream.tokenAt_of_size_le _ _ (Nat.le_add_right _ _)]
  exact stream.ending_kind

/-- The definitions of two sources in a row. -/
theorem parse_append [XidStart] {before after : String} {options : ParseOptions} {first : Token}
    {others : List Token}
    (ends : before = "" ∨
      before.toList.getLast? = some '\n' ∧ (parse before options).diagnostics = [])
    (found : (lex after options.tabWidth).tokens = first :: others)
    (starts : first.kind.startsDefinition = true)
    (margin : first.column options.tabWidth after = 0) :
    (∃ ending : Token, ending.kind = .endOfFile ∧
        (parse before options).root.children =
          (parse before options).root.children.dropLast ++ [.token ending]) ∧
      (parse (before ++ after) options).root.children.map Element.outline =
        (parse before options).root.children.dropLast.map Element.outline ++
          (if (lex before options.tabWidth).tokens.dropLast.getLast?.any
              (·.kind.canEndStatement) then
            [.token (.bare .autoSemicolon (.empty 0))] else []) ++
          (parse after options).root.children.map Element.outline ∧
      (parse (before ++ after) options).diagnostics =
        (parse after options).diagnostics.map
          (Diagnostic.moved (Utf8.byteLength before.toList)) := by
  have line : before = "" ∨ before.toList.getLast? = some '\n' :=
    ends.imp_right And.left
  have silent : (lex before options.tabWidth).diagnostics = [] ∧
      (parsedAlone before options).diagnostics = [] := by
    rcases ends with rfl | ⟨_, silent⟩
    · exact silent_of_parse (parse_empty options)
    · exact silent_of_parse silent
  rcases lex_append line silent.1 found starts margin with
    ⟨separators, moved, kind, span, kinds, tokens, told⟩
  have sameSession := sessionOf_append silent.1 found kind kinds tokens told
  have sound := lex_silent silent.1
  have body : (TokenStream.ofList (lex before options.tabWidth).tokens).body.toList =
      (lex before options.tabWidth).tokens.dropLast := by
    conv => rhs; rw [← toList_lex before options.tabWidth]
    exact (List.dropLast_concat).symm
  rw [← body] at kinds tokens
  have sameDepth :
      (sessionOf after options).maxDepth = (sessionOf before options).maxDepth := rfl
  have parsed := TokenStream.parseStream_append (TokenStream.position_ofList _)
    (TokenStream.position_ofList _) (TokenStream.position_ofList _)
    (endsOnce_lex before options.tabWidth) sound.groupsClose sound.noErrorToken
    (lexerComplained_of_silent silent.1) sameDepth silent.2
    ((toList_lex after options.tabWidth).trans found) starts kind span kinds
    ((toList_lex (before ++ after) options.tabWidth).trans tokens)
  rw [body, ← sameSession] at parsed
  have alone : parsedAlone after options = parseStream (sessionOf (before ++ after) options)
      (.ofList (lex after options.tabWidth).tokens) := by
    rw [sameSession]
    rfl
  refine ⟨root_children_concat before options, ?_⟩
  rw [root_parse, root_parse, root_parse, alone]
  refine ⟨parsed.1, ?_⟩
  show sortDiagnostics ((lex (before ++ after) options.tabWidth).diagnostics ++
      (parsedAlone (before ++ after) options).diagnostics) =
    (sortDiagnostics ((lex after options.tabWidth).diagnostics ++
      (parsedAlone after options).diagnostics)).map _
  rw [← sortDiagnostics_moved, List.map_append, told, alone, ← parsed.2]
  rfl

/-- The block of the first definition is closed, a separator follows it, and the group
that is never closed is reported where it stands now. -/
theorem parse_append_block_unclosed :
    ("def f(): Int32 =\n  1\n".toList.getLast? = some '\n' ∧
      (parse "def f(): Int32 =\n  1\n" ⟨4, 128⟩).diagnostics = []) ∧
    (lex "// g\ndef g(x" 4).tokens = ⟨.keyword .defKw, ⟨5, 8⟩,
      [⟨.lineComment, ⟨0, 4⟩⟩, ⟨.newline, ⟨4, 5⟩⟩]⟩ :: (lex "// g\ndef g(x" 4).tokens.tail ∧
    Token.column ⟨.keyword .defKw, ⟨5, 8⟩, [⟨.lineComment, ⟨0, 4⟩⟩, ⟨.newline, ⟨4, 5⟩⟩]⟩ 4
      "// g\ndef g(x" = 0 ∧
    (parse "// g\ndef g(x" ⟨4, 128⟩).hasErrors = true ∧
    (parse ("def f(): Int32 =\n  1\n" ++ "// g\ndef g(x") ⟨4, 128⟩).root.children.map
        Element.outline =
      (parse "def f(): Int32 =\n  1\n" ⟨4, 128⟩).root.children.dropLast.map Element.outline ++
        [.token (.bare .autoSemicolon (.empty 0))] ++
        (parse "// g\ndef g(x" ⟨4, 128⟩).root.children.map Element.outline ∧
    (parse ("def f(): Int32 =\n  1\n" ++ "// g\ndef g(x") ⟨4, 128⟩).diagnostics =
      (parse "// g\ndef g(x" ⟨4, 128⟩).diagnostics.map (Diagnostic.moved 21) := by
  have ends : "def f(): Int32 =\n  1\n".toList.getLast? = some '\n' ∧
      (parse "def f(): Int32 =\n  1\n" ⟨4, 128⟩).diagnostics = [] := by decide +kernel
  have found : (lex "// g\ndef g(x" 4).tokens = ⟨.keyword .defKw, ⟨5, 8⟩,
      [⟨.lineComment, ⟨0, 4⟩⟩, ⟨.newline, ⟨4, 5⟩⟩]⟩ ::
        (lex "// g\ndef g(x" 4).tokens.tail := by decide +kernel
  have margin : Token.column ⟨.keyword .defKw, ⟨5, 8⟩,
      [⟨.lineComment, ⟨0, 4⟩⟩, ⟨.newline, ⟨4, 5⟩⟩]⟩ 4 "// g\ndef g(x" = 0 := by
    decide +kernel
  have separated : ((lex "def f(): Int32 =\n  1\n" 4).tokens.dropLast.getLast?.any
      (·.kind.canEndStatement)) = true := by decide +kernel
  have length : Utf8.byteLength "def f(): Int32 =\n  1\n".toList = 21 := by decide +kernel
  have parsed := @parse_append _ "def f(): Int32 =\n  1\n" "// g\ndef g(x" ⟨4, 128⟩ _ _
    (.inr ends) found rfl margin
  rw [separated, length] at parsed
  exact ⟨ends, found, margin, by decide +kernel, parsed.2.1, parsed.2.2⟩

end Offside
