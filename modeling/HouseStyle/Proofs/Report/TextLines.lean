import HouseStyle.Proofs.Rule.Wording
import HouseStyle.Proofs.Run.FileByFile
import HouseStyle.Report.Rendering
import Mathlib

namespace HouseStyle

/-!
# The lines of a report

The text of a report has a line for each finding, and one more for each line break
in a message. Where the only line breaks in messages are those of strings that span
lines, and no string of the files does, the lines are those of the findings, and
each begins with the path of its file.
-/

/-! ## Plain findings -/

/-- The violation is told on one line up to strings, and at a whole column. -/
structure Violation.IsPlain
    (tokens : Array Token)
    (violation : Violation) :
    Prop where
  ruleId : IsOneLine violation.ruleId
  message : BreaksInStrings tokens violation.message
  wholeColumn : violation.decimalColumn = none

/-- The diagnostic is told on one line. -/
structure Diagnostic.IsPlain (diagnostic : Diagnostic) : Prop where
  ruleId : IsOneLine diagnostic.ruleId
  message : IsOneLine diagnostic.message

/-- All that is found in a file with these tokens is told so. -/
structure Evaluation.IsPlain
    (tokens : Array Token)
    (evaluation : Evaluation) :
    Prop where
  violations : ∀ violation ∈ evaluation.violations, violation.IsPlain tokens
  diagnostics : ∀ diagnostic ∈ evaluation.diagnostics, diagnostic.IsPlain

/-- The order in which it is shown changes nothing about that. -/
theorem Evaluation.IsPlain.shown
    {tokens : Array Token}
    {produced shown : Evaluation}
    (isPlain : produced.IsPlain tokens)
    (isShown : produced.ShownAs shown) :
    shown.IsPlain tokens where
  violations violation member :=
    isPlain.violations violation (isShown.violations.perm.subset member)
  diagnostics diagnostic member :=
    isPlain.diagnostics diagnostic (isShown.diagnostics.perm.subset member)

/-! ## One finding -/

namespace Violation

variable (violation : Violation)

/-- What stands before the message in the line of a violation. -/
def front : String :=
  let mark := if violation.advisory then " (advisory)" else ""
  violation.path ++ ":" ++ toString violation.line ++ ":" ++
    violation.columnRecord.render ++ ": " ++ violation.severity.name ++ mark ++
    " [" ++ violation.ruleId ++ "] "

theorem textLine_eq : violation.textLine = violation.front ++ violation.message := rfl

theorem path_prefix : violation.path.toList <+: violation.textLine.toList := by
  simp only [textLine, String.toList_append, List.append_assoc]
  exact List.prefix_append _ _

/-- The line of a violation is not empty. -/
theorem textLine_ne_empty : violation.textLine ≠ "" := by
  intro isEmpty
  have noCharacters := congrArg String.toList isEmpty
  simp [textLine] at noCharacters

/-- Up to its message, the line of a plain violation has no break. -/
theorem isOneLine_front
    {violation : Violation}
    {tokens : Array Token}
    (isPlain : violation.IsPlain tokens)
    (onOneLine : IsOneLine violation.path) :
    IsOneLine violation.front := by
  have isMark : IsOneLine (if violation.advisory then " (advisory)" else "") := by
    split <;> decide
  have isSeverity : IsOneLine violation.severity.name := by
    cases violation.severity <;> decide
  have isColumn : IsOneLine violation.columnRecord.render := by
    rw [columnRecord, isPlain.wholeColumn]
    exact isOneLine_int violation.column
  have words : IsOneLine ":" ∧ IsOneLine ": " ∧ IsOneLine " [" ∧ IsOneLine "] " := by
    decide
  simp [front, onOneLine, isMark, isSeverity, isColumn, isPlain.ruleId, words,
    toString]

end Violation

namespace Diagnostic

variable (diagnostic : Diagnostic)

theorem path_prefix : diagnostic.path.toList <+: diagnostic.textLine.toList := by
  simp only [textLine, String.toList_append, List.append_assoc]
  exact List.prefix_append _ _

/-- The line of a diagnostic is not empty. -/
theorem textLine_ne_empty : diagnostic.textLine ≠ "" := by
  intro isEmpty
  have noCharacters := congrArg String.toList isEmpty
  simp [textLine] at noCharacters

/-- The line of a plain diagnostic has no break. -/
theorem isOneLine_textLine
    {diagnostic : Diagnostic}
    (isPlain : diagnostic.IsPlain)
    (onOneLine : IsOneLine diagnostic.path) :
    IsOneLine diagnostic.textLine := by
  have words : IsOneLine ": diagnostic [" ∧ IsOneLine "] " := by
    decide
  simp [textLine, onOneLine, isPlain.ruleId, isPlain.message, words]

end Diagnostic

/-! ## A report -/

namespace Report

/-- The findings of a report are plain, and of files whose paths stand on one line. -/
structure IsPlain
    (tokensAt : String → Array Token)
    (report : Report) :
    Prop where
  violations :
    ∀ violation ∈ report.violations,
      violation.path ∈ report.order ∧
        IsOneLine violation.path ∧ violation.IsPlain (tokensAt violation.path)
  diagnostics :
    ∀ diagnostic ∈ report.diagnostics,
      IsOneLine diagnostic.path ∧ diagnostic.IsPlain

/-- The paths of the findings of a report, in the order of its lines. -/
def foundIn (report : Report) : List String :=
  report.violations.map Violation.path ++ report.diagnostics.map Diagnostic.path

/-- The lines of a report begin with the paths of its findings. -/
theorem textLines_begin (report : Report) :
    List.Forall₂ (fun path line => path.toList <+: line.toList)
      report.foundIn report.textLines := by
  refine List.rel_append ?_ ?_
  · rw [List.forall₂_map_left_iff, List.forall₂_map_right_iff, List.forall₂_same]
    exact fun violation _ => violation.path_prefix
  · rw [List.forall₂_map_left_iff, List.forall₂_map_right_iff, List.forall₂_same]
    exact fun diagnostic _ => diagnostic.path_prefix

/-- Every line of a report is written out. -/
theorem ne_empty_of_mem_textLines (report : Report) :
    ∀ line ∈ report.textLines, line ≠ "" := by
  intro line member
  rcases List.mem_append.mp member with ofViolation | ofDiagnostic
  · obtain ⟨violation, _, rfl⟩ := List.mem_map.mp ofViolation
    exact violation.textLine_ne_empty
  · obtain ⟨diagnostic, _, rfl⟩ := List.mem_map.mp ofDiagnostic
    exact diagnostic.textLine_ne_empty

/-- The line breaks in the messages of a report's violations. -/
def breaks (report : Report) : Nat :=
  (report.violations.map fun violation => violation.message.toList.count '\n').sum

/-- What the text of a report is, line by line, and what may break its lines. -/
structure TellsByLine
    (tokensAt : String → Array Token)
    (report : Report) :
    Prop where
  /-- Only a string that spans lines breaks the message of a violation. -/
  violations :
    ∀ violation ∈ report.violations,
      BreaksInStrings (tokensAt violation.path) violation.message
  diagnostics : ∀ diagnostic ∈ report.diagnostics, IsOneLine diagnostic.message
  /-- There is a line for each finding, and another one for each break. -/
  length :
    (linesOf report.text).length =
      report.violations.length + report.diagnostics.length + report.breaks
  /-- So each finding has one line exactly if no message is broken. -/
  oneEach :
    (linesOf report.text).length =
        report.violations.length + report.diagnostics.length ↔
      ∀ violation ∈ report.violations, IsOneLine violation.message
  /-- Where no string spans lines, the lines begin with the paths of the findings. -/
  begins :
    (∀ path ∈ report.order, ∀ token ∈ tokensAt path,
      token.kind = .string → IsOneLine token.text) →
    List.Forall₂ (fun path line => path.toList <+: line.toList)
      report.foundIn (linesOf report.text)

section Plain

variable
  {tokensAt : String → Array Token}
  {report : Report}
  (isPlain : report.IsPlain tokensAt)

include isPlain

/-- The lines of a plain report are those of its findings and of their breaks. -/
theorem IsPlain.length_linesOf :
    (linesOf report.text).length =
      report.violations.length + report.diagnostics.length + report.breaks := by
  have ofViolation :
      ∀ violation ∈ report.violations,
        violation.textLine.toList.count '\n' =
          violation.message.toList.count '\n' := by
    intro violation member
    obtain ⟨_, onOneLine, isPlain⟩ := isPlain.violations violation member
    have noBreak := Violation.isOneLine_front isPlain onOneLine
    rw [violation.textLine_eq, String.toList_append, List.count_append,
      List.count_eq_zero.mpr noBreak, Nat.zero_add]
  have ofDiagnostic :
      ∀ diagnostic ∈ report.diagnostics,
        diagnostic.textLine.toList.count '\n' = 0 := by
    intro diagnostic member
    obtain ⟨onOneLine, isPlain⟩ := isPlain.diagnostics diagnostic member
    exact List.count_eq_zero.mpr (Diagnostic.isOneLine_textLine isPlain onOneLine)
  have ofViolations :
      (report.violations.map fun violation =>
        violation.textLine.toList.count '\n' + 1).sum =
        report.breaks + report.violations.length := by
    rw [List.sum_map_add, List.map_congr_left ofViolation, breaks]
    simp
  have ofDiagnostics :
      (report.diagnostics.map fun diagnostic =>
        diagnostic.textLine.toList.count '\n' + 1).sum =
        report.diagnostics.length := by
    rw [List.sum_map_add, List.map_congr_left ofDiagnostic]
    simp
  rw [text, length_linesOf_intercalate report.ne_empty_of_mem_textLines, textLines,
    List.map_append, List.map_map, List.map_map, List.sum_append]
  simp only [Function.comp_def, ofViolations, ofDiagnostics]
  omega

/-- Where no message is broken, the lines are those of the findings. -/
theorem IsPlain.linesOf_text
    (unbroken : ∀ violation ∈ report.violations, IsOneLine violation.message) :
    linesOf report.text = report.textLines := by
  refine linesOf_intercalate report.ne_empty_of_mem_textLines fun line member => ?_
  rcases List.mem_append.mp member with inViolations | inDiagnostics
  · obtain ⟨violation, isFound, rfl⟩ := List.mem_map.mp inViolations
    obtain ⟨_, onOneLine, isPlain⟩ := isPlain.violations violation isFound
    rw [violation.textLine_eq]
    exact
      isOneLine_append.mpr
        ⟨Violation.isOneLine_front isPlain onOneLine, unbroken violation isFound⟩
  · obtain ⟨diagnostic, isFound, rfl⟩ := List.mem_map.mp inDiagnostics
    obtain ⟨onOneLine, isPlain⟩ := isPlain.diagnostics diagnostic isFound
    exact Diagnostic.isOneLine_textLine isPlain onOneLine

/-- A plain report is told line by line. -/
theorem IsPlain.tellsByLine : report.TellsByLine tokensAt where
  violations violation member := (isPlain.violations violation member).2.2.message
  diagnostics diagnostic member := (isPlain.diagnostics diagnostic member).2.message
  length := isPlain.length_linesOf
  oneEach := by
    rw [isPlain.length_linesOf, Nat.add_eq_left, breaks, List.sum_eq_zero_iff,
      List.forall_mem_map]
    exact forall₂_congr fun violation _ => List.count_eq_zero
  begins noneSpans := by
    rw [isPlain.linesOf_text fun violation member => ?_]
    · exact report.textLines_begin
    · obtain ⟨inOrder, _, isPlain⟩ := isPlain.violations violation member
      rcases isPlain.message with onOneLine | ⟨token, isToken, isString, spans, _⟩
      · exact onOneLine
      · exact (spans (noneSpans _ inOrder token isToken isString)).elim

end Plain

end Report

end HouseStyle
