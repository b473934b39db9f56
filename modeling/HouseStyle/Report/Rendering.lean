import HouseStyle.Json.Basic
import HouseStyle.Report.Basic

namespace HouseStyle

/-!
# Reports as texts

A report is written as JSON, or as plain text with one line a finding. Neither
holds a time or a duration, so equal runs give equal texts.
-/

/-- The record of a violation's column. -/
def Violation.columnRecord (violation : Violation) : Json :=
  match violation.decimalColumn with
  | some column => .decimal column
  | none => .int violation.column

/-- The record of a violation. -/
def Violation.record (violation : Violation) : Json :=
  .object
    [("file", .text violation.path),
      ("line", .int violation.line),
      ("column", violation.columnRecord),
      ("ruleId", .text violation.ruleId),
      ("severity", .text violation.severity.name),
      ("message", .text violation.message)]

/-- The line of a violation. -/
def Violation.textLine (violation : Violation) : String :=
  let mark := if violation.advisory then " (advisory)" else ""
  violation.path ++ ":" ++ toString violation.line ++ ":" ++
    violation.columnRecord.render ++ ": " ++ violation.severity.name ++ mark ++
    " [" ++ violation.ruleId ++ "] " ++ violation.message

/-- The record of a diagnostic. -/
def Diagnostic.record (diagnostic : Diagnostic) : Json :=
  .object
    [("file", .text diagnostic.path),
      ("ruleId", .text diagnostic.ruleId),
      ("message", .text diagnostic.message)]

/-- The line of a diagnostic. -/
def Diagnostic.textLine (diagnostic : Diagnostic) : String :=
  diagnostic.path ++ ": diagnostic [" ++ diagnostic.ruleId ++ "] " ++
    diagnostic.message

namespace Report

/-- The record of a report. -/
def record (report : Report) : Json :=
  .object
    [("status", .text report.status.name),
      ("failOn", .text report.failOn.name),
      ("filesScanned", .int report.scanned),
      ("filesSkipped", .int report.skipped),
      ("cancelled", .bool report.cancelled),
      ("violations", .list (report.violations.map Violation.record)),
      ("diagnostics", .list (report.diagnostics.map Diagnostic.record))]

/-- The report as JSON. -/
def json (report : Report) : String :=
  report.record.render

/-- The lines of the report: the violations, then the diagnostics. -/
def textLines (report : Report) : List String :=
  report.violations.map Violation.textLine ++
    report.diagnostics.map Diagnostic.textLine

/-- The report as plain text. -/
def text (report : Report) : String :=
  "\n".intercalate report.textLines

end Report

end HouseStyle
