import HouseStyle.Source.Indent
import Mathlib.Data.List.Basic

namespace HouseStyle

/-!
# Indentation as a stack

A file by indentation can be checked in one pass over its logical lines that
keeps the indents of the open suites and what the line before asks of the next
one. The pass accepts a file exactly if every line stands where the line before
it allows.
-/

namespace LogicalLine

/-- A line that decorates what is defined below it. -/
def isDecorator (line : LogicalLine) : Bool :=
  line.first.reads "@"

/-- A header, with its body on the same line or below. -/
def opensBlock
    (profile : Profile)
    (line : LogicalLine) :
    Bool :=
  (suiteHeader? profile line).isSome

/-- A header whose colon ends the line. -/
def opensSuite
    (profile : Profile)
    (line : LogicalLine) :
    Bool :=
  (suiteHeader? profile line).any fun header => header.inside.isEmpty

end LogicalLine

/-- What a line asks of the next one. -/
inductive LineDemand
  /-- The next line, if there is one, stands in an open suite. -/
  | level
  /-- The next line starts a deeper suite. -/
  | suite
  /-- The next line is another decorator or the definition itself. -/
  | definition
  deriving Repr, DecidableEq

/-- What the line asks of the next one. -/
def LogicalLine.demand
    (profile : Profile)
    (line : LogicalLine) :
    LineDemand :=
  if line.isDecorator then
    .definition
  else if line.opensSuite profile then
    .suite
  else
    .level

/-- The suites that stay open at an indent, with the one that stands there. -/
def reopen
    (opened : List Nat)
    (indent : Nat) :
    List Nat :=
  indent :: opened.dropWhile (indent ≤ ·)

/--
The indents of the suites still open behind the lines, the innermost first. The
file itself is a suite that stays open.
-/
def openIndents (lines : List LogicalLine) : List Nat :=
  lines.foldl (fun opened line => reopen opened line.indent) [0]

/-- Where a pass over logical lines stands. -/
structure IndentState where
  /-- The indents of the open suites, the innermost first. -/
  opened : List Nat
  demand : LineDemand
  deriving Repr, DecidableEq

namespace IndentState

/-- Before the first line only the file itself is open. -/
def start : IndentState where
  opened := [0]
  demand := .level

/-- Whether the line may come next. -/
def admits
    (profile : Profile)
    (state : IndentState)
    (line : LogicalLine) :
    Bool :=
  match state.demand with
  | .level =>
      state.opened.contains line.indent
  | .suite =>
      state.opened.head?.any (· < line.indent)
  | .definition =>
      state.opened.head?.any (· == line.indent) &&
        (line.isDecorator || line.opensBlock profile)

/-- Where the pass stands behind the line. -/
def enter
    (profile : Profile)
    (state : IndentState)
    (line : LogicalLine) :
    IndentState where
  opened := reopen state.opened line.indent
  demand := line.demand profile

/-- Whether all the lines may come next, and nothing is missing behind them. -/
def accepts
    (profile : Profile)
    (state : IndentState) :
    List LogicalLine →
    Bool
  | [] =>
      state.demand = .level
  | line :: rest =>
      state.admits profile line &&
        (state.enter profile line).accepts profile rest

/-- Where the pass stands behind the lines, if they all may come. -/
def behind
    (profile : Profile)
    (state : IndentState)
    (lines : List LogicalLine) :
    IndentState :=
  lines.foldl (enter profile) state

/-- The pass accepts if it admits each line where it stands before it. -/
theorem accepts_iff
    {profile : Profile}
    {state : IndentState}
    {lines : List LogicalLine} :
    state.accepts profile lines = true ↔
      (∀ earlier line later,
        lines = earlier ++ line :: later →
        (state.behind profile earlier).admits profile line = true) ∧
        (state.behind profile lines).demand = .level := by
  induction lines generalizing state with
  | nil =>
      simp [accepts, behind]
  | cons first rest inductionHypothesis =>
      rw [accepts, Bool.and_eq_true, inductionHypothesis]
      constructor
      · rintro ⟨admitsFirst, admitsRest, ends⟩
        refine ⟨?_, ends⟩
        intro earlier line later same
        cases earlier with
        | nil =>
            obtain ⟨rfl, _⟩ := List.cons.inj same
            exact admitsFirst
        | cons head others =>
            obtain ⟨rfl, sameRest⟩ := List.cons.inj same
            exact admitsRest others line later sameRest
      · rintro ⟨admits, ends⟩
        refine ⟨admits [] first rest rfl, ?_, ends⟩
        intro earlier line later same
        exact admits (first :: earlier) line later (by rw [same]; rfl)

/-- The open suites behind some lines do not depend on what the lines demand. -/
theorem opened_behind
    {profile : Profile}
    {state : IndentState}
    {lines : List LogicalLine} :
    (state.behind profile lines).opened =
      lines.foldl
        (fun opened line => reopen opened line.indent)
        state.opened := by
  induction lines generalizing state with
  | nil =>
      rfl
  | cons line rest inductionHypothesis =>
      exact inductionHypothesis

/-- Behind a last line the pass has entered that line. -/
theorem behind_concat
    {profile : Profile}
    {state : IndentState}
    (earlier : List LogicalLine)
    (line : LogicalLine) :
    state.behind profile (earlier ++ [line]) =
      (state.behind profile earlier).enter profile line := by
  simp [behind, List.foldl_append]

end IndentState

/-- Where each line of a file by indentation stands. -/
structure WellIndented
    (profile : Profile)
    (lines : List LogicalLine) :
    Prop where
  start : ∀ line ∈ lines.head?, line.indent = 0
  /-- A header whose colon ends the line has a suite directly below it. -/
  suite :
    ∀ earlier line later,
      lines = earlier ++ line :: later →
      line.opensSuite profile = true →
      ∃ next ∈ later.head?, line.indent < next.indent
  /-- Every other line goes on in a suite that is open, or ends the file. -/
  level :
    ∀ earlier line next later,
      lines = earlier ++ line :: next :: later →
      line.opensSuite profile = false →
      next.indent ∈ openIndents (earlier ++ [line])
  /-- Decorators stand directly above what opens a block, at the same indent. -/
  decorated :
    ∀ earlier line later,
      lines = earlier ++ line :: later →
      line.isDecorator = true →
      ∃ more opener beyond,
        later = more ++ opener :: beyond ∧
          (∀ other ∈ more,
            other.isDecorator = true ∧ other.indent = line.indent) ∧
          opener.isDecorator = false ∧
          opener.opensBlock profile = true ∧
          opener.indent = line.indent

namespace LogicalLine

variable {profile : Profile} {line : LogicalLine}

theorem opensBlock_of_opensSuite
    (opensSuite : line.opensSuite profile = true) :
    line.opensBlock profile = true := by
  obtain ⟨header, isHeader, _⟩ := (Option.any_eq_true _ _).mp opensSuite
  rw [opensBlock, isHeader]
  rfl

theorem demand_of_isDecorator
    (isDecorator : line.isDecorator = true) :
    line.demand profile = .definition := by
  simp [demand, isDecorator]

theorem demand_of_opensSuite
    (noDecorator : line.isDecorator = false)
    (opensSuite : line.opensSuite profile = true) :
    line.demand profile = .suite := by
  simp [demand, noDecorator, opensSuite]

theorem demand_of_other
    (noDecorator : line.isDecorator = false)
    (noSuite : line.opensSuite profile = false) :
    line.demand profile = .level := by
  simp [demand, noDecorator, noSuite]

end LogicalLine

namespace IndentState

section Admits

variable
  {profile : Profile}
  {state : IndentState}
  {line next : LogicalLine}

/-- Below a decorator there is another one, or what opens a block. -/
theorem admits_of_isDecorator
    (isDecorator : line.isDecorator = true) :
    (state.enter profile line).admits profile next = true ↔
      next.indent = line.indent ∧
        (next.isDecorator = true ∨ next.opensBlock profile = true) := by
  simp [admits, enter, reopen, LogicalLine.demand_of_isDecorator isDecorator,
    @eq_comm Nat line.indent next.indent]

/-- Below a header whose colon ends the line there is a deeper line. -/
theorem admits_of_opensSuite
    (noDecorator : line.isDecorator = false)
    (opensSuite : line.opensSuite profile = true) :
    (state.enter profile line).admits profile next = true ↔
      line.indent < next.indent := by
  simp [admits, enter, reopen,
    LogicalLine.demand_of_opensSuite noDecorator opensSuite]

/-- Below any other line there is a line of an open suite. -/
theorem admits_of_other
    (noDecorator : line.isDecorator = false)
    (noSuite : line.opensSuite profile = false) :
    (state.enter profile line).admits profile next = true ↔
      next.indent ∈ reopen state.opened line.indent := by
  simp [admits, enter, LogicalLine.demand_of_other noDecorator noSuite]

end Admits

end IndentState

/-- Behind a line its own suite is open. -/
theorem openIndents_concat
    (earlier : List LogicalLine)
    (line : LogicalLine) :
    openIndents (earlier ++ [line]) =
      reopen (openIndents earlier) line.indent := by
  simp [openIndents, List.foldl_append]

section WellIndented

variable
  {profile : Profile}
  {lines earlier later : List LogicalLine}
  {line next : LogicalLine}

/-- A line that stands where it should is admitted behind the lines before it. -/
theorem admits_of_wellIndented
    (wellIndented : WellIndented profile lines)
    (same : lines = earlier ++ line :: next :: later) :
    ((IndentState.start.behind profile earlier).enter profile line).admits
        profile next =
      true := by
  cases isDecorator : line.isDecorator with
  | true =>
      rw [IndentState.admits_of_isDecorator isDecorator]
      obtain ⟨more, opener, beyond, split, decorators, _, opens, level⟩ :=
        wellIndented.decorated earlier line _ same isDecorator
      cases more with
      | nil =>
          obtain ⟨rfl, _⟩ := List.cons.inj split
          exact ⟨level, .inr opens⟩
      | cons other others =>
          obtain ⟨rfl, _⟩ := List.cons.inj split
          obtain ⟨decorates, sameIndent⟩ := decorators next (by simp)
          exact ⟨sameIndent, .inl decorates⟩
  | false =>
      cases opensSuite : line.opensSuite profile with
      | true =>
          rw [IndentState.admits_of_opensSuite isDecorator opensSuite]
          obtain ⟨below, isNext, deeper⟩ :=
            wellIndented.suite earlier line _ same opensSuite
          cases isNext
          exact deeper
      | false =>
          rw [IndentState.admits_of_other isDecorator opensSuite,
            IndentState.opened_behind]
          have isOpen :=
            wellIndented.level earlier line next later same opensSuite
          rw [openIndents_concat] at isOpen
          exact isOpen

/-- A last line that stands where it should asks for nothing below it. -/
theorem demand_of_wellIndented
    (wellIndented : WellIndented profile lines)
    (same : lines = earlier ++ [line]) :
    line.demand profile = .level := by
  cases isDecorator : line.isDecorator with
  | true =>
      obtain ⟨more, opener, beyond, split, _⟩ :=
        wellIndented.decorated earlier line [] same isDecorator
      simp at split
  | false =>
      cases opensSuite : line.opensSuite profile with
      | true =>
          obtain ⟨below, isNext, _⟩ :=
            wellIndented.suite earlier line [] same opensSuite
          cases isNext
      | false =>
          exact LogicalLine.demand_of_other isDecorator opensSuite

/-- The pass accepts lines that stand where they should. -/
theorem accepts_of_wellIndented
    (wellIndented : WellIndented profile lines) :
    IndentState.start.accepts profile lines = true := by
  -- What the pass has seen last decides, so both parts look at the last line.
  refine IndentState.accepts_iff.mpr ⟨?_, ?_⟩
  · intro earlier line later same
    rcases List.eq_nil_or_concat' earlier with rfl | ⟨before, previous, rfl⟩
    · have isFirst := wellIndented.start line (by rw [same]; rfl)
      simp [IndentState.admits, IndentState.behind, IndentState.start, isFirst]
    · rw [List.append_assoc, List.singleton_append] at same
      rw [IndentState.behind_concat]
      exact admits_of_wellIndented wellIndented same
  · rcases List.eq_nil_or_concat' lines with rfl | ⟨earlier, line, rfl⟩
    · rfl
    · rw [IndentState.behind_concat]
      exact demand_of_wellIndented wellIndented rfl

section Accepted

variable (accepted : IndentState.start.accepts profile lines = true)

include accepted

/-- Each line but the first is admitted by the line before it. -/
theorem admits_of_accepts
    (same : lines = earlier ++ line :: next :: later) :
    ((IndentState.start.behind profile earlier).enter profile line).admits
        profile next =
      true := by
  rw [← IndentState.behind_concat]
  exact
    (IndentState.accepts_iff.mp accepted).1 (earlier ++ [line]) next later
      (by simp [same])

/-- The last line asks for nothing below it. -/
theorem demand_of_accepts
    (same : lines = earlier ++ [line]) :
    line.demand profile = .level := by
  have ends := (IndentState.accepts_iff.mp accepted).2
  rw [same, IndentState.behind_concat] at ends
  exact ends

/-- Behind a line that opens no suite the next one stands in an open suite. -/
theorem mem_openIndents_of_accepts
    (same : lines = earlier ++ line :: next :: later)
    (noSuite : line.opensSuite profile = false) :
    next.indent ∈ openIndents (earlier ++ [line]) := by
  have admitted := admits_of_accepts accepted same
  rw [openIndents_concat]
  cases isDecorator : line.isDecorator with
  | true =>
      rw [IndentState.admits_of_isDecorator isDecorator] at admitted
      rw [admitted.1]
      exact List.mem_cons_self
  | false =>
      rw [IndentState.admits_of_other isDecorator noSuite,
        IndentState.opened_behind] at admitted
      exact admitted

/-- Below decorators there is, at their indent, what they decorate. -/
theorem exists_opener_of_accepts
    (same : lines = earlier ++ line :: later)
    (isDecorator : line.isDecorator = true) :
    ∃ more opener beyond,
      later = more ++ opener :: beyond ∧
        (∀ other ∈ more,
          other.isDecorator = true ∧ other.indent = line.indent) ∧
        opener.isDecorator = false ∧
        opener.opensBlock profile = true ∧
        opener.indent = line.indent := by
  -- By the lines below: a decorator there passes on what it finds below itself.
  induction later generalizing earlier line with
  | nil =>
      have demand := demand_of_accepts accepted same
      rw [LogicalLine.demand_of_isDecorator isDecorator] at demand
      cases demand
  | cons next later inductionHypothesis =>
      have admitted := admits_of_accepts accepted same
      rw [IndentState.admits_of_isDecorator isDecorator] at admitted
      obtain ⟨level, goesOn⟩ := admitted
      cases nextDecorates : next.isDecorator with
      | true =>
          have sameBelow : lines = (earlier ++ [line]) ++ next :: later := by
            simp [same]
          obtain ⟨more, opener, beyond, split, decorators, opens⟩ :=
            inductionHypothesis sameBelow nextDecorates
          rw [level] at opens decorators
          refine
            ⟨next :: more, opener, beyond, by simp [split], ?_, opens⟩
          simpa [nextDecorates, level] using decorators
      | false =>
          have opens : next.opensBlock profile = true := by
            simpa [nextDecorates] using goesOn
          exact
            ⟨[], next, later, rfl, by simp, nextDecorates, opens, level⟩

end Accepted

variable
  (noMark :
    ∀ line : LogicalLine,
      line.isDecorator = true → line.opensBlock profile = false)

include noMark

/-- Below a header whose colon ends the line there is a deeper line. -/
theorem exists_deeper_of_accepts
    (accepted : IndentState.start.accepts profile lines = true)
    (same : lines = earlier ++ line :: later)
    (opensSuite : line.opensSuite profile = true) :
    ∃ next ∈ later.head?, line.indent < next.indent := by
  have noDecorator : line.isDecorator = false := by
    by_contra isDecorator
    have opens := LogicalLine.opensBlock_of_opensSuite opensSuite
    rw [noMark line (by simpa using isDecorator)] at opens
    cases opens
  cases later with
  | nil =>
      have demand := demand_of_accepts accepted same
      rw [LogicalLine.demand_of_opensSuite noDecorator opensSuite] at demand
      cases demand
  | cons next more =>
      have admitted := admits_of_accepts accepted same
      rw [IndentState.admits_of_opensSuite noDecorator opensSuite] at admitted
      exact ⟨next, rfl, admitted⟩

/-- The lines that the pass accepts stand where they should. -/
theorem wellIndented_of_accepts
    (accepted : IndentState.start.accepts profile lines = true) :
    WellIndented profile lines where
  start := by
    intro line isFirst
    obtain ⟨rest, same⟩ := List.head?_eq_some_iff.mp isFirst
    have admitsFirst :=
      (IndentState.accepts_iff.mp accepted).1 [] line rest same
    simpa [IndentState.admits, IndentState.behind, IndentState.start] using
      admitsFirst
  suite := fun _ _ _ => exists_deeper_of_accepts noMark accepted
  level := fun _ _ _ _ => mem_openIndents_of_accepts accepted
  decorated := fun _ _ _ => exists_opener_of_accepts accepted

/-- The pass accepts exactly the files whose lines stand where they should. -/
theorem accepts_iff_wellIndented :
    IndentState.start.accepts profile lines = true ↔
      WellIndented profile lines :=
  ⟨wellIndented_of_accepts noMark, accepts_of_wellIndented⟩

end WellIndented

end HouseStyle
