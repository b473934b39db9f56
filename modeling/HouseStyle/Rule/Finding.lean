import HouseStyle.Number.Binary64
import HouseStyle.Text.Position

namespace HouseStyle

/-!
# Findings

What a rule has to say about a place in a file, how serious it is, and the
order in which a report shows it.
-/

/-- How serious a violation is. -/
inductive Severity
  | advisory
  | warning
  | error
  deriving Repr, DecidableEq, Inhabited

namespace Severity

/-- Every severity, the lowest first. -/
def all : List Severity :=
  [.advisory, .warning, .error]

/-- The place of a severity among all of them. -/
def rank : Severity → Nat
  | .advisory => 0
  | .warning => 1
  | .error => 2

/-- The name a configuration uses for a severity. -/
def name : Severity → String
  | .advisory => "advisory"
  | .warning => "warning"
  | .error => "error"

/-- The severity of that name. -/
def ofName? (name : String) : Option Severity :=
  all.find? (fun severity => severity.name == name)

/-- The severity itself, but no higher than a ceiling. -/
def atMost (severity ceiling : Severity) : Severity :=
  if severity.rank ≤ ceiling.rank then severity else ceiling

/-- Reading a severity's own name gives the severity back. -/
theorem ofName?_name (severity : Severity) :
    ofName? severity.name = some severity := by
  cases severity <;> rfl

/-- A severity under a ceiling does not exceed it. -/
theorem rank_atMost_le (severity ceiling : Severity) :
    (severity.atMost ceiling).rank ≤ ceiling.rank := by
  unfold atMost
  split
  · assumption
  · exact Nat.le_refl _

end Severity

/-- What a rule has to say about a place in a file. -/
structure Finding where
  place : Position
  /-- The exact column where a limit is no whole number. -/
  decimalColumn : Option Binary64 := none
  severity : Severity
  message : String
  deriving Repr, DecidableEq, Inhabited

/-- A finding signed by its rule; a report takes any numbers for its place. -/
structure Violation where
  ruleId : String
  path : String
  line : Int
  column : Int
  /-- The exact column where a limit is no whole number. -/
  decimalColumn : Option Binary64 := none
  severity : Severity
  message : String
  /-- The rule never makes a run fail. -/
  advisory : Bool
  deriving Repr, DecidableEq, Inhabited

namespace Violation

/-- Whether the violation makes a run fail that fails at a severity. -/
def countsToward
    (violation : Violation)
    (threshold : Severity) :
    Bool :=
  !violation.advisory &&
    violation.severity != .advisory &&
    threshold.rank ≤ violation.severity.rank

/-- The column as a report shows it, as a number. -/
def exactColumn (violation : Violation) : Rat :=
  (violation.decimalColumn.bind Binary64.value?).getD violation.column

/-- Report order: by line, then by column, then by rule. -/
def notAfter (left right : Violation) : Bool :=
  if left.line ≠ right.line then
    left.line < right.line
  else if left.exactColumn ≠ right.exactColumn then
    left.exactColumn < right.exactColumn
  else
    left.ruleId ≤ right.ruleId

/-- Report order, spelled out. -/
theorem notAfter_iff {left right : Violation} :
    left.notAfter right = true ↔
      left.line < right.line ∨
        left.line = right.line ∧
          (left.exactColumn < right.exactColumn ∨
            left.exactColumn = right.exactColumn ∧
              left.ruleId ≤ right.ruleId) := by
  unfold notAfter
  split
  · next linesDiffer => simp [linesDiffer]
  · next sameLine =>
      have sameLine : left.line = right.line := Decidable.not_not.mp sameLine
      split
      · next columnsDiffer => simp [sameLine, columnsDiffer]
      · next sameColumn =>
          have sameColumn : left.exactColumn = right.exactColumn :=
            Decidable.not_not.mp sameColumn
          simp [sameLine, sameColumn]

/-- Of two violations one is not after the other. -/
theorem notAfter_total (left right : Violation) :
    (left.notAfter right || right.notAfter left) = true := by
  rw [Bool.or_eq_true, notAfter_iff, notAfter_iff]
  have ids := String.le_total left.ruleId right.ruleId
  grind

/-- Report order is transitive. -/
theorem notAfter_trans
    {first second third : Violation}
    (before : first.notAfter second = true)
    (after : second.notAfter third = true) :
    first.notAfter third = true := by
  rw [notAfter_iff] at before after ⊢
  have ids :
      first.ruleId ≤ second.ruleId →
        second.ruleId ≤ third.ruleId →
        first.ruleId ≤ third.ruleId :=
    String.le_trans
  grind

/-- Violations in report order; equal places and rules keep their order. -/
def sorted (violations : List Violation) : List Violation :=
  violations.mergeSort notAfter

end Violation

/-- A rule that failed on a file. -/
structure Diagnostic where
  ruleId : String
  path : String
  message : String
  deriving Repr, DecidableEq, Inhabited

/-- Diagnostics by rule; those of one rule keep their order. -/
def Diagnostic.sorted (diagnostics : List Diagnostic) : List Diagnostic :=
  diagnostics.mergeSort fun left right => left.ruleId ≤ right.ruleId

end HouseStyle
