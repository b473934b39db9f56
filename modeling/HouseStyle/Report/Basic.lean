import HouseStyle.Rule.Evaluation

namespace HouseStyle

/-!
# Reports

A report gathers the evaluations of the files of a run, counts what was scanned
and skipped, and says how the run ended. A file is either in it with all that
was found, or not at all.
-/

/-- How a run ended. -/
inductive RunStatus
  | success
  | violationsFound
  | configurationInvalid
  | cancelled
  deriving Repr, DecidableEq, Inhabited

namespace RunStatus

/-- The name a report uses for a status. -/
def name : RunStatus → String
  | .success => "success"
  | .violationsFound => "violations-found"
  | .configurationInvalid => "configuration-invalid"
  | .cancelled => "cancelled"

/-- What the program exits with. -/
def exitCode : RunStatus → Nat
  | .success => 0
  | .violationsFound => 1
  | .configurationInvalid => 2
  | .cancelled => 3

end RunStatus

/-- The results of a run. -/
structure Report where
  /-- The files of the run, in the order in which results are shown. -/
  order : List String := []
  failOn : Severity := .warning
  scanned : Nat := 0
  skipped : Nat := 0
  cancelled : Bool := false
  /-- What was found, by file. -/
  results : List (String × Evaluation) := []
  deriving Repr, Inhabited

namespace Report

/-- Replace the result of a file, or add it. -/
def putResult
    (results : List (String × Evaluation))
    (path : String)
    (evaluation : Evaluation) :
    List (String × Evaluation) :=
  match results with
  | [] => [(path, evaluation)]
  | (present, old) :: rest =>
      if present = path then
        (path, evaluation) :: rest
      else
        (present, old) :: putResult rest path evaluation

/-- Add the result of a file, brought into report order. -/
def add
    (report : Report)
    (path : String)
    (evaluation : Evaluation) :
    Report :=
  let sorted : Evaluation :=
    { violations := Violation.sorted evaluation.violations
      diagnostics := Diagnostic.sorted evaluation.diagnostics }
  { report with
    results := putResult report.results path sorted
    scanned := report.scanned + 1 }

/-- Count a file that could not be read. -/
def skip (report : Report) : Report :=
  { report with skipped := report.skipped + 1 }

/-- Note that a file was dropped because the run was cancelled. -/
def abandon (report : Report) : Report :=
  { report with cancelled := true }

/-- Add the result of a file unless the run was cancelled meanwhile. -/
def addUnless
    (report : Report)
    (cancelled : Bool)
    (path : String)
    (evaluation : Evaluation) :
    Report :=
  if cancelled then
    report.abandon
  else
    report.add path evaluation

/-- The result of a file. -/
def result?
    (report : Report)
    (path : String) :
    Option Evaluation :=
  report.results.lookup path

/-- The files with results, in the order of the run. -/
def files (report : Report) : List String :=
  report.order.filter fun path => (report.result? path).isSome

/-- The results in the order of the run. -/
def inOrder (report : Report) : List Evaluation :=
  report.order.filterMap report.result?

/-- The violations of all files. -/
def violations (report : Report) : List Violation :=
  report.inOrder.flatMap Evaluation.violations

/-- The violations of one file. -/
def violationsIn
    (report : Report)
    (path : String) :
    List Violation :=
  ((report.result? path).map Evaluation.violations).getD []

/-- The diagnostics of all files. -/
def diagnostics (report : Report) : List Diagnostic :=
  report.inOrder.flatMap Evaluation.diagnostics

/-- The violations that make the run fail. -/
def failing (report : Report) : List Violation :=
  report.violations.filter (·.countsToward report.failOn)

/-- How the run ended. -/
def status (report : Report) : RunStatus :=
  if report.cancelled then
    .cancelled
  else if report.failing.isEmpty then
    .success
  else
    .violationsFound

/-- The number of violations of a severity. -/
def count
    (report : Report)
    (severity : Severity) :
    Nat :=
  report.violations.countP (·.severity == severity)

end Report

end HouseStyle
