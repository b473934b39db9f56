import HouseStyle.Proofs.Source.IndentSpelling
import HouseStyle.Proofs.Source.IndentStack

namespace HouseStyle

/-!
# The readers of suites follow the stack

The readers of lines and suites compare an indent with that of their own suite
only, while the pass over the lines keeps all open suites in one stack. Still
they refuse the same files: what a reader leaves is what the pass goes on with
once the reader's suite is taken off the stack.
-/

/-- What lies below the innermost suite lies below a deeper line. -/
theorem below_of_deeper
    {outer : List Nat}
    {innermost indent : Nat}
    (below : ∀ other ∈ outer, other < innermost)
    (deeper : innermost < indent) :
    ∀ other ∈ innermost :: outer, other < indent := by
  intro other member
  rcases List.mem_cons.mp member with rfl | inOuter
  · exact deeper
  · exact Nat.lt_trans (below other inOuter) deeper

/-- A deeper line leaves all suites open. -/
theorem reopen_of_deeper
    {opened : List Nat}
    {indent : Nat}
    (deeper : ∀ outer ∈ opened, outer < indent) :
    reopen opened indent = indent :: opened := by
  cases opened with
  | nil =>
      rfl
  | cons innermost outer =>
      have isDeeper := deeper innermost (by simp)
      simp [reopen, isDeeper]

/-- A line at the indent of the innermost suite goes on in it. -/
theorem reopen_level
    {outer : List Nat}
    {indent : Nat}
    (deeper : ∀ other ∈ outer, other < indent) :
    reopen (indent :: outer) indent = indent :: outer := by
  have dropped : reopen (indent :: outer) indent = reopen outer indent := by
    simp [reopen]
  rw [dropped, reopen_of_deeper deeper]

/-- A line further left closes the innermost suite. -/
theorem reopen_shallower
    {opened : List Nat}
    {innermost indent : Nat}
    (shallower : indent < innermost) :
    reopen (innermost :: opened) indent = reopen opened indent := by
  have isOver : indent ≤ innermost := Nat.le_of_lt shallower
  simp [reopen, isOver]

/-- A suite that the next line closes may be taken off the stack before. -/
theorem IndentState.accepts_dedent
    {profile : Profile}
    {opened : List Nat}
    {indent : Nat}
    {lines : List LogicalLine}
    (shallower : ∀ next ∈ lines.head?, next.indent < indent) :
    (IndentState.mk (indent :: opened) .level).accepts profile lines =
      (IndentState.mk opened .level).accepts profile lines := by
  cases lines with
  | nil =>
      rfl
  | cons next rest =>
      have isShallower : next.indent < indent := shallower next rfl
      simp [accepts, admits, enter, reopen_shallower isShallower,
        Nat.ne_of_lt isShallower]

/-- Whether the pass accepts what is left when a reader is done. -/
def goesOn
    (profile : Profile)
    (opened : List Nat)
    {bound : Nat} :
    Except Fault (SuiteReading bound) →
    Bool
  | .error _ =>
      false
  | .ok reading =>
      (IndentState.mk opened .level).accepts profile reading.rest

section Decorators

variable
  {profile : Profile}
  {start line decorated : LogicalLine}
  {rest after : List LogicalLine}

/-- What is decorated stands at the indent of the decorators. -/
theorem undecorate_level
    (level : line.indent = start.indent)
    (undecorated : undecorate start line rest = .ok (decorated, after)) :
    decorated.indent = start.indent ∧ decorated.isDecorator = false := by
  fun_induction undecorate start line rest with
  | case1 =>
      cases undecorated
  | case2 line next beyond _ sameIndent inductionHypothesis =>
      exact inductionHypothesis sameIndent undecorated
  | case3 =>
      cases undecorated
  | case4 line rest noMark =>
      cases undecorated
      exact ⟨level, by simpa [LogicalLine.isDecorator] using noMark⟩

/-- The pass runs over decorators as the reader does. -/
theorem accepts_undecorate
    {outer : List Nat}
    (below : ∀ indent ∈ outer, indent < start.indent)
    (isDecorator : line.isDecorator = true) :
    (IndentState.mk (start.indent :: outer) .definition).accepts
        profile rest =
      match undecorate start line rest with
      | .error _ =>
          false
      | .ok (decorated, after) =>
          decorated.opensBlock profile &&
            (IndentState.mk
                (start.indent :: outer)
                (decorated.demand profile)).accepts
              profile after := by
  have isMark : line.first.reads "@" = true := isDecorator
  induction rest generalizing line with
  | nil =>
      unfold undecorate
      simp [isMark, IndentState.accepts]
  | cons next beyond inductionHypothesis =>
      unfold undecorate
      simp only [isMark, ↓reduceIte]
      by_cases sameIndent : next.indent = start.indent
      · have entered :
            (IndentState.mk (start.indent :: outer) .definition).enter
                profile next =
              IndentState.mk (start.indent :: outer) (next.demand profile) := by
          rw [IndentState.enter, sameIndent, reopen_level below]
        rw [if_pos sameIndent, IndentState.accepts, entered]
        cases decorates : next.isDecorator with
        | true =>
            rw [LogicalLine.demand_of_isDecorator decorates,
              ← inductionHypothesis decorates decorates]
            simp [IndentState.admits, sameIndent, decorates]
        | false =>
            have stops : undecorate start next beyond = .ok (next, beyond) :=
              undecorate_of_no_mark decorates
            rw [stops]
            simp [IndentState.admits, sameIndent, decorates]
      · have noMatch : (start.indent == next.indent) = false := by
          simpa using Ne.symm sameIndent
        rw [if_neg sameIndent]
        simp [IndentState.accepts, IndentState.admits, noMatch]

variable (profile rest) in
/-- From the first line of a run on, the pass runs as the reader does. -/
theorem accepts_start
    {outer : List Nat}
    (below : ∀ indent ∈ outer, indent < start.indent) :
    (IndentState.mk (start.indent :: outer) (start.demand profile)).accepts
        profile rest =
      match undecorate start start rest with
      | .error _ =>
          false
      | .ok (decorated, after) =>
          (!start.isDecorator || decorated.opensBlock profile) &&
            (IndentState.mk
                (start.indent :: outer)
                (decorated.demand profile)).accepts
              profile after := by
  cases isDecorator : start.isDecorator with
  | true =>
      rw [LogicalLine.demand_of_isDecorator isDecorator,
        accepts_undecorate below isDecorator]
      rfl
  | false =>
      rw [undecorate_of_no_mark isDecorator]
      rfl

end Decorators

/-- A line that is no header opens no suite. -/
theorem LogicalLine.demand_of_noHeader
    {profile : Profile}
    {line : LogicalLine}
    (noDecorator : line.isDecorator = false)
    (noHeader : suiteHeader? profile line = none) :
    line.demand profile = .level :=
  demand_of_other noDecorator (by simp [opensSuite, noHeader])

/-- A header opens a suite if its colon ends the line. -/
theorem LogicalLine.demand_of_isHeader
    {profile : Profile}
    {line : LogicalLine}
    {header : SuiteHeader}
    (noDecorator : line.isDecorator = false)
    (isHeader : suiteHeader? profile line = some header) :
    line.demand profile =
      if header.inside.isEmpty then .suite else .level := by
  simp [demand, noDecorator, opensSuite, isHeader]

mutual

/-- A suite is read as the pass runs over its lines. -/
theorem readSuite_accepts
    (profile : Profile)
    {outer : List Nat}
    {indent : Nat}
    (reversed : List Node)
    (bound : Nat)
    (line : LogicalLine)
    (rest : List LogicalLine)
    (bounded : rest.length ≤ bound)
    (isFirst : line.indent = indent)
    (below : ∀ other ∈ outer, other < indent) :
    (IndentState.mk (indent :: outer) (line.demand profile)).accepts
        profile rest =
      goesOn profile (indent :: outer)
        (readSuite profile indent reversed bound line rest bounded) := by
  have first :
      (IndentState.mk (indent :: outer) (line.demand profile)).accepts
          profile rest =
        goesOn profile (indent :: outer)
          (readLine profile line reversed rest) := by
    subst isFirst
    exact readLine_accepts profile line reversed rest below
  rw [readSuite]
  split
  · next fault refused =>
      rw [first, refused]
      rfl
  · next reading read =>
      rw [first, read]
      dsimp only
      split
      · next atEnd =>
          simp only [goesOn, atEnd]
      · next next beyond same =>
          have shorter : beyond.length < rest.length := by
            have bounded := reading.bounded
            simp only [same, List.length_cons] at bounded
            omega
          split
          · simp only [goesOn, same]
          · next notShallower =>
              split
              · next deeper =>
                  -- A deeper line that no header announced fits no open suite.
                  have notOpen : next.indent ∉ indent :: outer := fun isOpen =>
                    Nat.lt_irrefl _ (below_of_deeper below deeper _ isOpen)
                  simp [goesOn, same, IndentState.accepts,
                    IndentState.admits, notOpen]
              · next notDeeper =>
                  have level : next.indent = indent := by
                    omega
                  rw [← readSuite_accepts profile reading.reversed bound next
                    beyond _ level below]
                  simp [goesOn, same, IndentState.accepts,
                    IndentState.admits, IndentState.enter, level,
                    reopen_level below]
  termination_by (rest.length, 1)

/-- A line with its suite is read as the pass runs over its lines. -/
theorem readLine_accepts
    (profile : Profile)
    {outer : List Nat}
    (start : LogicalLine)
    (reversed : List Node)
    (rest : List LogicalLine)
    (below : ∀ indent ∈ outer, indent < start.indent) :
    (IndentState.mk (start.indent :: outer) (start.demand profile)).accepts
        profile rest =
      goesOn profile (start.indent :: outer)
        (readLine profile start reversed rest) := by
  have first := accepts_start profile rest below
  rw [readLine]
  split
  · next fault refused =>
      rw [refused] at first
      exact first
  · next line after undecorated =>
      obtain ⟨level, noDecorator⟩ := undecorate_level rfl undecorated
      rw [undecorated] at first
      dsimp only at first ⊢
      split
      · next noHeader =>
          rw [first, line.demand_of_noHeader noDecorator noHeader]
          cases isDecorator : start.isDecorator with
          | true =>
              have isMark : start.first.reads "@" = true := isDecorator
              simp [isMark, goesOn, LogicalLine.opensBlock, noHeader]
          | false =>
              have noMark : start.first.reads "@" = false := isDecorator
              simp [noMark, goesOn]
      · next header isHeader =>
          have opens : line.opensBlock profile = true := by
            simp [LogicalLine.opensBlock, isHeader]
          rw [line.demand_of_isHeader noDecorator isHeader, opens,
            Bool.or_true, Bool.true_and] at first
          split
          · next inline =>
              have isInline : header.inside.isEmpty = false := by
                simpa using inline
              rw [first, isInline]
              rfl
          · next ends =>
              have noInline : header.inside.isEmpty = true := by
                simpa using ends
              rw [noInline, if_pos rfl] at first
              rw [first]
              split
              · rfl
              · next next beyond _ _ =>
                  have shorter : beyond.length < rest.length :=
                    length_of_undecorate undecorated
                  split
                  · next notDeeper =>
                      have refused : ¬ start.indent < next.indent := by
                        omega
                      simp [goesOn, IndentState.accepts, IndentState.admits,
                        refused]
                  · next deeper =>
                      have isDeeper : start.indent < next.indent := by
                        omega
                      -- The pass opens the suite just as the reader enters it.
                      have belowNext := below_of_deeper below isDeeper
                      have inside :=
                        readSuite_accepts profile [] beyond.length next beyond
                          (Nat.le_refl _) rfl belowNext
                      rw [IndentState.accepts, IndentState.enter,
                        reopen_of_deeper belowNext, inside]
                      split
                      · next fault refused =>
                          rw [refused]
                          simp [goesOn]
                      · next suite read =>
                          obtain ⟨_, _, reading⟩ :=
                            ReadsSuite.of_readSuite read
                          rw [read]
                          simp [goesOn, IndentState.admits, isDeeper,
                            IndentState.accepts_dedent reading.shallower]
  termination_by (rest.length, 0)

end

/-- Nothing stands further left than the file itself. -/
theorem ReadsSuite.eq_nil_of_zero
    {profile : Profile}
    {line : LogicalLine}
    {rest after : List LogicalLine}
    {nodes : List Node}
    {last : Placed}
    (reading : ReadsSuite profile 0 line rest nodes last after) :
    after = [] := by
  cases after with
  | nil =>
      rfl
  | cons next beyond =>
      have negative := reading.shallower next rfl
      exact (Nat.not_lt_zero _ negative).elim

/-- A file is read exactly if the pass over its lines accepts it. -/
theorem readIndented_accepts
    (profile : Profile)
    (lines : List LogicalLine) :
    IndentState.start.accepts profile lines =
      (readIndented profile lines).isOk := by
  unfold readIndented
  split
  · rfl
  · next line rest =>
      split
      · next isFirst =>
          have inside :=
            readSuite_accepts profile [] rest.length line rest
              (Nat.le_refl _) isFirst (List.forall_mem_nil (· < 0))
          have entered :
              IndentState.start.accepts profile (line :: rest) =
                (IndentState.mk [0] (line.demand profile)).accepts
                  profile rest := by
            simp [IndentState.accepts, IndentState.admits, IndentState.enter,
              IndentState.start, reopen, isFirst]
          rw [entered, inside]
          split
          · next fault refused =>
              rw [refused]
              rfl
          · next suite read =>
              obtain ⟨_, _, reading⟩ := ReadsSuite.of_readSuite read
              have noneLeft : suite.rest = [] :=
                reading.eq_nil_of_zero
              rw [read]
              simp [goesOn, noneLeft, IndentState.accepts, Except.isOk,
                Except.toBool]
      · next notFirst =>
          simp [IndentState.accepts, IndentState.admits, IndentState.start,
            notFirst, Except.isOk, Except.toBool]

end HouseStyle
