import HouseStyle.Proofs.Source.IndentReading
import HouseStyle.Proofs.Source.Spelling

namespace HouseStyle

/-!
# Statements by indentation are spelled by their lines

A logical line is spelled by its own tokens, a header line together with the
lines of its suite. The forest of a file is spelled by the tokens of all its
logical lines, and these are all code tokens of the file and some remarks
between them.
-/

/-- All tokens of logical lines. -/
def tokensOf (lines : List LogicalLine) : List Placed :=
  lines.flatMap LogicalLine.tokens

@[simp] theorem tokensOf_nil :
    tokensOf [] = [] :=
  rfl

@[simp] theorem tokensOf_cons
    (line : LogicalLine)
    (rest : List LogicalLine) :
    tokensOf (line :: rest) = line.tokens ++ tokensOf rest :=
  rfl

@[simp] theorem tokensOf_append
    (left right : List LogicalLine) :
    tokensOf (left ++ right) = tokensOf left ++ tokensOf right :=
  List.flatMap_append

/-- A line ends with the last of its tokens. -/
theorem LogicalLine.getLast?_tokens (line : LogicalLine) :
    line.tokens.getLast? = some line.last := by
  simp [LogicalLine.tokens, LogicalLine.last, List.getLast?_cons]

/-- What passes a test lies between the first and the last that do. -/
private theorem exists_between_of_filter
    {accepted : Placed → Bool}
    {tokens : List Placed}
    {first last : Placed}
    (starts : (tokens.filter accepted).head? = some first)
    (ends : (tokens.filter accepted).getLast? = some last) :
    ∃ before between after,
      tokens = before ++ between ++ after ∧
        (∀ token ∈ before, accepted token = false) ∧
        (∀ token ∈ after, accepted token = false) ∧
        between.head? = some first ∧
        between.getLast? = some last := by
  induction tokens generalizing first with
  | nil =>
      simp at starts
  | cons token rest inductionHypothesis =>
      cases isAccepted : accepted token with
      | false =>
          simp only [List.filter_cons, isAccepted, Bool.false_eq_true,
            ↓reduceIte] at starts ends
          obtain ⟨before, between, after, same, refused, others⟩ :=
            inductionHypothesis starts ends
          refine
            ⟨token :: before, between, after, by simp [same], ?_, others⟩
          intro other member
          rcases List.mem_cons.mp member with isToken | inBefore
          · rw [isToken, isAccepted]
          · exact refused other inBefore
      | true =>
          simp only [List.filter_cons, isAccepted, ↓reduceIte,
            List.head?_cons, Option.some.injEq] at starts ends
          subst starts
          cases restStarts : (rest.filter accepted).head? with
          | none =>
              have noneAccepted := List.head?_eq_none_iff.mp restStarts
              rw [noneAccepted] at ends
              refine ⟨[], [token], rest, rfl, by simp, ?_, rfl, ends⟩
              simpa using noneAccepted
          | some second =>
              have restEnds : (rest.filter accepted).getLast? = some last := by
                obtain ⟨others, same⟩ := List.head?_eq_some_iff.mp restStarts
                rw [same] at ends ⊢
                simpa [List.getLast?_cons_cons] using ends
              obtain ⟨before, between, after, same, _, refused, _, finish⟩ :=
                inductionHypothesis restStarts restEnds
              refine
                ⟨[], token :: (before ++ between), after, by simp [same],
                  by simp, refused, rfl, ?_⟩
              rw [← List.cons_append, List.getLast?_append, finish]
              rfl

/-- Tokens without code only separate statements. -/
private theorem separates_of_filter
    {tokens : List Placed}
    (noCode : tokens.filter (fun placed => placed.token.isCode) = []) :
    ∀ token ∈ tokens, token.Separates := by
  intro token member
  have refused := List.filter_eq_nil_iff.mp noCode token member
  exact .inl (by simpa using refused)

/-- Tokens with some code are one statement between remarks. -/
private theorem simple_of_filter
    {tokens : List Placed}
    {first last : Placed}
    (starts :
      (tokens.filter fun placed => placed.token.isCode).head? = some first)
    (ends :
      (tokens.filter fun placed => placed.token.isCode).getLast? =
        some last) :
    SpellsAll .indent [.simple first last] tokens := by
  obtain ⟨before, between, after, same, noneBefore, noneAfter, start, finish⟩ :=
    exists_between_of_filter starts ends
  have front : SpellsAll .indent [] before :=
    .separators fun token member => .inl (noneBefore token member)
  have back : SpellsAll .indent [] after :=
    .separators fun token member => .inl (noneAfter token member)
  rw [same]
  exact
    (front.append (SpellsAll.single (.simple start finish))).append back

/-- Splitting at semicolons spells the tokens that are split. -/
theorem splitSimple_spells
    (depth : Int)
    (pending : List Placed)
    (found : List Node)
    (tokens : List Placed) :
    ∃ nodes,
      splitSimple depth pending found tokens = found.reverse ++ nodes ∧
        SpellsAll .indent nodes (pending.reverse ++ tokens) := by
  -- `pending` holds the tokens behind the last semicolon, the last one first.
  fun_induction splitSimple depth pending found tokens with
  | case1 _ pending found code first last ends starts =>
      refine ⟨[.simple first last], by simp, ?_⟩
      rw [List.append_nil]
      exact simple_of_filter starts ends
  | case2 _ pending found code noStatement =>
      refine ⟨[], by simp, ?_⟩
      rw [List.append_nil]
      refine .separators (separates_of_filter ?_)
      cases codeShape : code with
      | nil =>
          exact codeShape
      | cons first rest =>
          have isSome : (first :: rest).getLast?.isSome = true := by
            simp
          obtain ⟨last, ends⟩ := Option.isSome_iff_exists.mp isSome
          rw [← codeShape] at ends
          exact (noStatement first last (by simp [codeShape]) ends).elim
  | case3 _ _ _ _ _ _ inductionHypothesis =>
      simpa using inductionHypothesis
  | case4 _ _ _ _ _ _ _ inductionHypothesis =>
      simpa using inductionHypothesis
  | case5 _ pending found placed rest _ _ isSeparator empty
        inductionHypothesis =>
      obtain ⟨nodes, same, spelled⟩ := inductionHypothesis
      refine ⟨nodes, same, ?_⟩
      rw [List.getLast?_eq_none_iff.mp empty]
      refine .separator (.inr ?_) spelled
      have isSemicolon := isSeparator.2
      simp only [Token.isDelimiter, Bool.and_eq_true, beq_iff_eq]
        at isSemicolon
      exact isSemicolon.2
  | case6 _ pending found placed rest _ _ _ first starts
        inductionHypothesis =>
      obtain ⟨nodes, same, spelled⟩ := inductionHypothesis
      refine ⟨.simple first placed :: nodes, by simp [same], ?_⟩
      have piece :
          Spells .indent (.simple first placed)
            (pending.reverse ++ [placed]) := by
        refine .simple ?_ (by simp)
        rw [List.head?_append, List.head?_reverse, starts]
        rfl
      simpa using SpellsAll.node piece spelled
  | case7 _ _ _ _ _ _ _ _ inductionHypothesis =>
      simpa using inductionHypothesis

/-- The simple statements among tokens are spelled by the tokens. -/
theorem simpleStatements_spells (tokens : List Placed) :
    SpellsAll .indent (simpleStatements tokens) tokens := by
  obtain ⟨nodes, same, spelled⟩ := splitSimple_spells 0 [] [] tokens
  rw [simpleStatements, same]
  exact spelled

/-- Looking over decorators takes lines from the front. -/
theorem undecorate_takes
    {start line decorated : LogicalLine}
    {rest after : List LogicalLine}
    (undecorated : undecorate start line rest = .ok (decorated, after)) :
    ∃ decorators, line :: rest = decorators ++ decorated :: after := by
  fun_induction undecorate start line rest with
  | case1 =>
      cases undecorated
  | case2 line next beyond _ _ inductionHypothesis =>
      obtain ⟨decorators, same⟩ := inductionHypothesis undecorated
      exact ⟨line :: decorators, by simp [same]⟩
  | case3 =>
      cases undecorated
  | case4 =>
      cases undecorated
      exact ⟨[], rfl⟩

/-- A line without a decorator's mark is looked at itself. -/
theorem undecorate_of_no_mark
    {start line : LogicalLine}
    {rest : List LogicalLine}
    (noMark : line.first.reads "@" = false) :
    undecorate start line rest = .ok (line, rest) := by
  unfold undecorate
  simp [noMark]

/-- Splitting at the header's colon loses no token. -/
theorem splitAtColon_takes
    {depth : Int}
    {tokens inside : List Placed}
    {colon : Placed}
    (split : splitAtColon depth tokens = some (colon, inside)) :
    ∃ before, tokens = before ++ colon :: inside := by
  fun_induction splitAtColon depth tokens with
  | case1 =>
      cases split
  | case2 _ token rest _ inductionHypothesis =>
      obtain ⟨before, same⟩ := inductionHypothesis split
      exact ⟨token :: before, by simp [same]⟩
  | case3 _ token rest _ _ inductionHypothesis =>
      obtain ⟨before, same⟩ := inductionHypothesis split
      exact ⟨token :: before, by simp [same]⟩
  | case4 =>
      cases split
      exact ⟨[], rfl⟩
  | case5 _ token rest _ _ _ inductionHypothesis =>
      obtain ⟨before, same⟩ := inductionHypothesis split
      exact ⟨token :: before, by simp [same]⟩

/-- The header of a line is the end of it behind an `async` in front. -/
theorem headerTokens_suffix (line : LogicalLine) :
    headerTokens line <:+ line.tokens := by
  unfold headerTokens
  split
  · exact
      (List.dropWhile_suffix _).trans
        (List.suffix_cons line.first line.others)
  · exact List.suffix_rfl

/-- A header line is its header, the colon, and what stands behind the colon. -/
theorem suiteHeader?_takes
    {profile : Profile}
    {line : LogicalLine}
    {header : SuiteHeader}
    (isHeader : suiteHeader? profile line = some header) :
    ∃ before, line.tokens = before ++ header.colon :: header.inside := by
  unfold suiteHeader? at isHeader
  split at isHeader
  · cases isHeader
  · next keyword rest same =>
      have isEnd : headerTokens line <:+ line.tokens :=
        headerTokens_suffix line
      obtain ⟨kind, _, isHeader⟩ := Option.bind_eq_some_iff.mp isHeader
      obtain ⟨⟨colon, inside⟩, found, isHeader⟩ :=
        Option.bind_eq_some_iff.mp isHeader
      dsimp only at isHeader
      split at isHeader
      · cases isHeader
      · cases isHeader
        obtain ⟨before, split⟩ := splitAtColon_takes found
        obtain ⟨front, joined⟩ := isEnd
        refine ⟨front ++ before, ?_⟩
        rw [← joined, same, split, List.append_assoc]

/-- The tokens of a line and of the lines that decorate it, with its suite. -/
theorem block_spells
    {profile : Profile}
    {start line : LogicalLine}
    {rest after : List LogicalLine}
    {header : SuiteHeader}
    {body : List Node}
    {inside : List Placed}
    {last : Placed}
    (undecorated : undecorate start start rest = .ok (line, after))
    (isHeader : suiteHeader? profile line = some header)
    (spelled : SpellsAll .indent body (header.inside ++ inside))
    (ends : (header.inside ++ inside).getLast? = some last) :
    ∃ taken,
      start :: rest = taken ++ after ∧
        Spells .indent
          (.block (header.blockHead profile start) body last)
          (tokensOf taken ++ inside) := by
  obtain ⟨decorators, same⟩ := undecorate_takes undecorated
  obtain ⟨before, split⟩ := suiteHeader?_takes isHeader
  refine ⟨decorators ++ [line], by simp [same], ?_⟩
  have tokensSame :
      tokensOf (decorators ++ [line]) ++ inside =
        (tokensOf decorators ++ before) ++
          header.colon :: ((header.inside ++ inside) ++ []) := by
    simp [split]
  have starts :
      ((tokensOf decorators ++ before) ++ [header.colon]).head? =
        some start.first := by
    have wholeStarts : (tokensOf (start :: rest)).head? = some start.first :=
      rfl
    rw [same, tokensOf_append, tokensOf_cons, split] at wholeStarts
    simpa [List.head?_append] using wholeStarts
  rw [tokensSame]
  refine .delimited rfl starts spelled ?_ (by simpa using ends)
  exact ⟨[], [], rfl, by simp [IsClosing], .inl rfl⟩

mutual

/-- A line and its suite are spelled by the lines that their reading takes. -/
theorem ReadsLine.spells
    {profile : Profile}
    {start : LogicalLine}
    {rest after : List LogicalLine}
    {nodes : List Node}
    {last : Placed} :
    ReadsLine profile start rest nodes last after →
    ∃ taken,
      start :: rest = taken ++ after ∧
        SpellsAll .indent nodes (tokensOf taken) ∧
        (tokensOf taken).getLast? = some last
  | .simple undecorated _ noMark => by
      rw [undecorate_of_no_mark noMark] at undecorated
      cases undecorated
      refine ⟨[_], rfl, ?_, ?_⟩
      · simpa using simpleStatements_spells _
      · simpa using LogicalLine.getLast?_tokens _
  | @ReadsLine.inline _ _ line header _ _ undecorated isHeader goesOn => by
      have ends : (header.inside ++ []).getLast? = some line.last := by
        obtain ⟨before, split⟩ := suiteHeader?_takes isHeader
        have whole := line.getLast?_tokens
        rw [split, List.getLast?_append, List.getLast?_cons] at whole
        obtain ⟨first, others, shape⟩ := List.exists_cons_of_ne_nil goesOn
        simpa [shape, List.getLast?_cons] using whole
      obtain ⟨taken, same, spelled⟩ :=
        block_spells undecorated isHeader
          (by simpa using simpleStatements_spells header.inside) ends
      rw [List.append_nil] at spelled
      exact ⟨taken, same, .single spelled, spelled.ends⟩
  | .suite undecorated isHeader ends _ body => by
      obtain ⟨lines, linesSame, spelled, finish⟩ := body.spells
      obtain ⟨taken, same, spelledBlock⟩ :=
        block_spells undecorated isHeader
          (by simpa [ends] using spelled) (by simpa [ends] using finish)
      refine ⟨taken ++ lines, ?_, ?_, ?_⟩
      · rw [same, linesSame, List.append_assoc]
      · simpa using SpellsAll.single spelledBlock
      · rw [tokensOf_append]
        exact spelledBlock.ends

/-- A suite is spelled by the lines that its reading takes. -/
theorem ReadsSuite.spells
    {profile : Profile}
    {indent : Nat}
    {line : LogicalLine}
    {rest after : List LogicalLine}
    {nodes : List Node}
    {last : Placed} :
    ReadsSuite profile indent line rest nodes last after →
    ∃ taken,
      line :: rest = taken ++ after ∧
        SpellsAll .indent nodes (tokensOf taken) ∧
        (tokensOf taken).getLast? = some last
  | .atEnd read =>
      read.spells
  | .dedent read _ =>
      read.spells
  | .next read _ others => by
      obtain ⟨front, frontSame, spelledFront, _⟩ := read.spells
      obtain ⟨taken, same, spelled, ends⟩ := others.spells
      refine ⟨front ++ taken, ?_, ?_, ?_⟩
      · rw [frontSame, same, List.append_assoc]
      · simpa using spelledFront.append spelled
      · rw [tokensOf_append, List.getLast?_append, ends]
        rfl

end

/-- A suite leaves only lines that stand further left. -/
theorem ReadsSuite.shallower
    {profile : Profile}
    {indent : Nat}
    {line : LogicalLine}
    {rest after : List LogicalLine}
    {nodes : List Node}
    {last : Placed} :
    ReadsSuite profile indent line rest nodes last after →
    ∀ next ∈ after.head?, next.indent < indent
  | .atEnd _ => by
      simp
  | .dedent _ shallower => by
      simpa using shallower
  | .next _ _ others =>
      others.shallower

/-- A forest by indentation is spelled by all lines it was read from. -/
theorem readIndented_spells
    {profile : Profile}
    {lines : List LogicalLine}
    {forest : List Node}
    (read : readIndented profile lines = .ok forest) :
    SpellsAll .indent forest (tokensOf lines) := by
  unfold readIndented at read
  split at read
  · cases read
    exact .nil
  · next line rest =>
      split at read
      · split at read
        · cases read
        · next suite readWhole =>
            cases read
            obtain ⟨nodes, value, reading⟩ :=
              ReadsSuite.of_readSuite readWhole
            obtain ⟨taken, same, spelled, _⟩ := reading.spells
            have noneLeft : suite.rest = [] := by
              cases left : suite.rest with
              | nil =>
                  rfl
              | cons next beyond =>
                  rw [left] at reading
                  have negative := reading.shallower next rfl
                  exact (Nat.not_lt_zero _ negative).elim
            rw [noneLeft, List.append_nil] at same
            rw [value, same]
            simpa using spelled
      · cases read

/-- The tokens that an open line has taken, remarks behind them included. -/
def OpenLine.taken (line : OpenLine) : List Placed :=
  line.first :: (line.reversed.reverse ++ line.comments.reverse)

/-- Closing a line drops the remarks behind its last code token. -/
theorem OpenLine.close_keeps
    (lines : Array Line)
    (line : OpenLine)
    (remarks : ∀ placed ∈ line.comments, placed.token.isCode = false) :
    KeepsCode (line.close lines).tokens line.taken := by
  have dropped : KeepsCode [] line.comments.reverse :=
    .drop (by simpa using remarks)
  simpa [OpenLine.close, OpenLine.taken, LogicalLine.tokens] using
    (KeepsCode.refl (line.first :: line.reversed.reverse)).append dropped

/-- Joining lines keeps the code of the open line and of what follows. -/
theorem joinLines_keeps
    (lines : Array Line)
    (finished : List LogicalLine)
    (current : Option OpenLine)
    (tokens : List Placed)
    (remarks :
      ∀ line ∈ current, ∀ placed ∈ line.comments,
        placed.token.isCode = false) :
    ∃ kept,
      tokensOf (joinLines lines finished current tokens) =
          tokensOf finished.reverse ++ kept ∧
        KeepsCode kept (current.elim [] OpenLine.taken ++ tokens) := by
  fun_induction joinLines lines finished current tokens with
  | case1 finished =>
      exact ⟨[], by simp, .refl []⟩
  | case2 finished line =>
      refine ⟨(line.close lines).tokens, by simp, ?_⟩
      simpa using line.close_keeps lines (remarks line rfl)
  | case3 finished placed rest _ inductionHypothesis =>
      exact inductionHypothesis (by simp [OpenLine.start])
  | case4 finished placed rest isRemark inductionHypothesis =>
      obtain ⟨kept, same, keeps⟩ := inductionHypothesis (by simp)
      refine ⟨kept, same, ?_⟩
      have dropped : KeepsCode [] [placed] :=
        .drop (by simpa using isRemark)
      exact dropped.append keeps
  | case5 finished placed rest line isRemark inductionHypothesis =>
      obtain ⟨kept, same, keeps⟩ :=
        inductionHypothesis (by
          have lineRemarks := remarks line rfl
          simpa using ⟨by simpa using isRemark, lineRemarks⟩)
      exact ⟨kept, same, by simpa [OpenLine.taken] using keeps⟩
  | case6 finished placed rest line _ _ inductionHypothesis =>
      obtain ⟨kept, same, keeps⟩ :=
        inductionHypothesis (by simp [OpenLine.start])
      refine ⟨(line.close lines).tokens ++ kept, by simp [same], ?_⟩
      exact (line.close_keeps lines (remarks line rfl)).append keeps
  | case7 finished placed rest line _ _ inductionHypothesis =>
      obtain ⟨kept, same, keeps⟩ :=
        inductionHypothesis (by simp [OpenLine.push])
      refine ⟨kept, same, ?_⟩
      simpa [OpenLine.taken, OpenLine.push] using keeps

/--
What holds of every line that is closed holds of all lines, if what it takes to
close a line is there from its start and kept with every token.
-/
theorem joinLines_forall
    {lines : Array Line}
    {holds : LogicalLine → Prop}
    {isReady : OpenLine → Prop}
    (starts : ∀ placed, placed.token.isCode = true → isReady (.start placed))
    (remarks :
      ∀ line placed,
        isReady line →
        isReady { line with comments := placed :: line.comments })
    (pushes :
      ∀ line placed,
        placed.token.isCode = true →
        isReady line →
        isReady (line.push placed))
    (closes : ∀ line, isReady line → holds (line.close lines))
    {finished : List LogicalLine}
    {current : Option OpenLine}
    {tokens : List Placed}
    (before : ∀ line ∈ finished, holds line)
    (opened : ∀ line ∈ current, isReady line) :
    ∀ line ∈ joinLines lines finished current tokens, holds line := by
  have closed
      {finished : List LogicalLine}
      {current : OpenLine}
      (before : ∀ line ∈ finished, holds line)
      (ready : isReady current) :
      ∀ line ∈ current.close lines :: finished, holds line := by
    intro line member
    rcases List.mem_cons.mp member with rfl | isBefore
    · exact closes current ready
    · exact before line isBefore
  fun_induction joinLines lines finished current tokens with
  | case1 =>
      simpa using before
  | case2 finished current =>
      intro line member
      exact
        closed before (opened current rfl) line (List.mem_reverse.mp member)
  | case3 _ placed _ isCode inductionHypothesis =>
      exact inductionHypothesis before (by simpa using starts placed isCode)
  | case4 _ _ _ _ inductionHypothesis =>
      exact inductionHypothesis before (by simp)
  | case5 _ placed _ current _ inductionHypothesis =>
      have ready := remarks current placed (opened current rfl)
      exact inductionHypothesis before (by simpa using ready)
  | case6 _ placed _ current isCode _ inductionHypothesis =>
      have ready := starts placed (by simpa using isCode)
      exact
        inductionHypothesis
          (closed before (opened current rfl)) (by simpa using ready)
  | case7 _ placed _ current isCode _ inductionHypothesis =>
      have ready :=
        pushes current placed (by simpa using isCode) (opened current rfl)
      exact inductionHypothesis before (by simpa using ready)

/-- The logical lines of a file hold all of its code. -/
theorem logicalLines_keeps
    (lines : Array Line)
    (tokens : Array Token) :
    KeepsCode (tokensOf (logicalLines lines tokens)) (placeTokens tokens) := by
  obtain ⟨kept, same, keeps⟩ :=
    joinLines_keeps lines [] none (placeTokens tokens) (by simp)
  rw [logicalLines, same]
  exact keeps

end HouseStyle
