import HouseStyle.Proofs.Rule.ReportOrder
import HouseStyle.Proofs.Run.InTurn
import HouseStyle.Report.Rendering

namespace HouseStyle

/-!
# Runs that nobody cancels

A run that is never cancelled ends with the evaluation of every file that can be
read, whichever worker took which file and in whichever order the results came
in. Its report is the one of the run that takes the files in turn, and the part
of a file in it depends on nothing but the file.
-/

namespace Report

/-- The diagnostics of one file. -/
def diagnosticsIn
    (report : Report)
    (path : String) :
    List Diagnostic :=
  ((report.result? path).map Evaluation.diagnostics).getD []

/-- What is gathered from the results stands file by file. -/
theorem flatMap_inOrder
    {Item : Type}
    (report : Report)
    (items : Evaluation → List Item) :
    report.inOrder.flatMap items =
      report.order.flatMap fun path =>
        ((report.result? path).map items).getD [] := by
  rw [inOrder, List.filterMap_eq_flatMap_toList, List.flatMap_assoc]
  refine List.flatMap_congr ?_
  intro path _
  cases report.result? path with
  | none => rfl
  | some evaluation => simp

end Report

namespace Run

variable {check : String → Option Evaluation}

namespace Move

variable
  {run after : Run}
  {taken : Step}
  (move : Move check run taken after)

include move

theorem cancelled_of_ne
    (noCancel : taken ≠ .cancel) :
    after.cancelled = run.cancelled := by
  cases move with
  | cancel => exact (noCancel rfl).elim
  | _ => rfl

/-- As long as nobody cancels, no file is dropped. -/
theorem report_cancelled_of_not
    (notCancelled : run.cancelled = false) :
    after.report.cancelled = run.report.cancelled := by
  have never (isCancelled : run.cancelled = true) :
      after.report.cancelled = run.report.cancelled := by
    rw [notCancelled] at isCancelled
    cases isCancelled
  cases move with
  | drop _ isCancelled => exact never isCancelled
  | refuse _ isCancelled => exact never isCancelled
  | stop _ isCancelled => exact never isCancelled
  | _ => rfl

theorem failOn_after :
    after.report.failOn = run.report.failOn := by
  cases move <;> rfl

end Move

/-- A run that nobody cancels drops no file. -/
theorem report_cancelled_steps
    {run : Run}
    {taken : List Step}
    (noCancel : Step.cancel ∉ taken)
    (notCancelled : run.cancelled = false) :
    (run.steps check taken).report.cancelled = run.report.cancelled := by
  induction taken generalizing run with
  | nil =>
      rfl
  | cons first rest inductionHypothesis =>
      rw [List.mem_cons, not_or] at noCancel
      obtain ⟨notFirst, notInRest⟩ := noCancel
      have move := move_step check run first
      have stillNot : (run.step check first).cancelled = false := by
        rw [move.cancelled_of_ne (Ne.symm notFirst), notCancelled]
      calc
        (run.steps check (first :: rest)).report.cancelled =
            (run.step check first).report.cancelled :=
          inductionHypothesis notInRest stillNot
        _ = run.report.cancelled :=
          move.report_cancelled_of_not notCancelled

/-- No steps change at which severity a run fails. -/
theorem failOn_steps
    (run : Run)
    (taken : List Step) :
    (run.steps check taken).report.failOn = run.report.failOn := by
  induction taken generalizing run with
  | nil =>
      rfl
  | cons first rest inductionHypothesis =>
      exact
        (inductionHypothesis _).trans (move_step check run first).failOn_after

namespace Accounted

variable
  {collected : List String}
  {skippedBefore : Nat}
  {isSkipped : Nat → Prop}
  {run : Run}

/-- A file that is counted as skipped when it is handed in has no evaluation. -/
theorem unread_of_skip
    (accounted : Accounted check collected skippedBefore isSkipped run)
    {file : Nat}
    (skips :
      (run.step check (.handIn file)).report = run.report.skip) :
    ∃ path, collected[file]? = some path ∧ check path = none := by
  have oneMore := congrArg Report.skipped skips
  have move := move_step check run (.handIn file)
  generalize run.step check (.handIn file) = after at move oneMore
  have never (same : after.report.skipped = run.report.skipped) : False := by
    rw [same] at oneMore
    exact Nat.succ_ne_self _ oneMore.symm
  cases move with
  | skip isLooked =>
      obtain ⟨path, isFile, found⟩ := accounted.looked file none isLooked
      exact ⟨path, isFile, found.symm⟩
  | idle => exact (never rfl).elim
  | refuse => exact (never rfl).elim
  | add => exact (never rfl).elim

/-- A file that a run skips has no evaluation. -/
theorem unread_of_skips
    (accounted : Accounted check collected skippedBefore isSkipped run)
    (noDuplicates : collected.Nodup)
    {file : Nat}
    {taken : List Step}
    (skips : run.Skips check file taken) :
    ∃ path, collected[file]? = some path ∧ check path = none := by
  induction taken generalizing run isSkipped with
  | nil =>
      cases skips
  | cons first rest inductionHypothesis =>
      rcases skips with ⟨rfl, isSkip⟩ | inRest
      · exact accounted.unread_of_skip isSkip
      · exact
          inductionHypothesis
            (accounted.accounted_after (move_step check run first)
              noDuplicates)
            inRest

end Accounted

/-- A run over these files has ended with all that can be read. -/
structure Complete
    (check : String → Option Evaluation)
    (collection : Collection)
    (failOn : Severity)
    (run : Run) :
    Prop where
  accounted :
    Accounted check collection.files collection.skipped
      (fun file =>
        ∃ path, collection.files[file]? = some path ∧ check path = none)
      run
  isOver : run.isOver = true
  notCancelled : run.report.cancelled = false
  failOn : run.report.failOn = failOn

/-- A run that nobody cancels is complete when it has ended. -/
theorem complete_of_uncancelled
    {collection : Collection}
    {failOn : Severity}
    {taken : List Step}
    (noDuplicates : collection.files.Nodup)
    (noCancel : Step.cancel ∉ taken)
    (isOver :
      ((initial collection.files failOn collection.skipped).steps
        check taken).isOver = true) :
    Complete check collection failOn
      ((initial collection.files failOn collection.skipped).steps
        check taken) where
  accounted := by
    have start :=
      accounted_initial check collection.files failOn collection.skipped
    refine (start.accounted_steps noDuplicates taken).imp ?_
    intro file isSkipped
    exact start.unread_of_skips noDuplicates (isSkipped.resolve_left id)
  isOver := isOver
  notCancelled := by
    rw [report_cancelled_steps noCancel rfl]
    rfl
  failOn := by
    rw [failOn_steps]
    rfl

namespace Complete

variable
  {collection : Collection}
  {failOn : Severity}
  {run : Run}
  (complete : Complete check collection failOn run)

include complete

/-- A stored result is the sorted evaluation of its file. -/
theorem check_of_result
    {path : String}
    {evaluation : Evaluation}
    (stored : run.report.result? path = some evaluation) :
    (check path).map Evaluation.sorted = some evaluation := by
  obtain ⟨before, after, same, _⟩ := List.lookup_eq_some_iff.mp stored
  have member : (path, evaluation) ∈ run.report.results := by
    simp [same]
  obtain ⟨_, found, _, _, isFound, rfl⟩ :=
    complete.accounted.results path evaluation member
  rw [isFound, Option.map_some]

/-- The result of a file is its sorted evaluation, if it can be read. -/
theorem result?_eq
    {path : String}
    (member : path ∈ collection.files) :
    run.report.result? path = (check path).map Evaluation.sorted := by
  cases stored : run.report.result? path with
  | some evaluation =>
      exact (complete.check_of_result stored).symm
  | none =>
      obtain ⟨file, isFile⟩ := List.mem_iff_getElem?.mp member
      rcases
        complete.accounted.entry_or_skipped
          complete.isOver complete.notCancelled isFile with
        ⟨evaluation, isEntry⟩ | ⟨other, isOther, unread⟩
      · have noEntry := List.lookup_eq_none_iff.mp stored _ isEntry
        simp at noEntry
      · rw [isFile, Option.some.injEq] at isOther
        rw [isOther, unread]
        rfl

/-- As many files were scanned as can be read. -/
theorem scanned_eq
    (noDuplicates : collection.files.Nodup) :
    run.report.scanned =
      collection.files.countP fun path => (check path).isSome := by
  have accounted := complete.accounted
  have ordered : run.report.order.Nodup := by
    rw [accounted.order]
    exact noDuplicates
  have inOrder :
      run.report.results.map Prod.fst ⊆ run.report.order := by
    rw [accounted.order]
    exact fun _ => accounted.mem_collected
  rw [accounted.scanned,
    ← Report.length_files ordered accounted.distinct inOrder, Report.files,
    accounted.order, ← List.countP_eq_length_filter]
  refine List.countP_congr ?_
  intro path member
  rw [complete.result?_eq member, Option.isSome_map]

/-- The violations stand file by file, in the order of the collection. -/
theorem violations_eq :
    run.report.violations =
      collection.files.flatMap run.report.violationsIn := by
  rw [← complete.accounted.order]
  exact run.report.flatMap_inOrder Evaluation.violations

/-- The diagnostics stand file by file, in the order of the collection. -/
theorem diagnostics_eq :
    run.report.diagnostics =
      collection.files.flatMap run.report.diagnosticsIn := by
  rw [← complete.accounted.order]
  exact run.report.flatMap_inOrder Evaluation.diagnostics

end Complete

end Run

namespace Report

/-- The reports show the same. -/
structure Agrees (left right : Report) : Prop where
  order : left.order = right.order
  failOn : left.failOn = right.failOn
  scanned : left.scanned = right.scanned
  skipped : left.skipped = right.skipped
  cancelled : left.cancelled = right.cancelled
  results :
    ∀ path ∈ right.order, left.result? path = right.result? path

/-- Reports that show the same have the same record. -/
theorem Agrees.record_eq
    {left right : Report}
    (agrees : left.Agrees right) :
    left.record = right.record := by
  have sameOrder : left.inOrder = right.inOrder := by
    rw [inOrder, inOrder, agrees.order]
    exact List.filterMap_congr agrees.results
  have sameViolations : left.violations = right.violations := by
    rw [violations, violations, sameOrder]
  have sameDiagnostics : left.diagnostics = right.diagnostics := by
    rw [diagnostics, diagnostics, sameOrder]
  have sameFailing : left.failing = right.failing := by
    rw [failing, failing, sameViolations, agrees.failOn]
  have sameStatus : left.status = right.status := by
    rw [status, status, agrees.cancelled, sameFailing]
  rw [record, record, sameStatus, agrees.failOn, agrees.scanned,
    agrees.skipped, agrees.cancelled, sameViolations, sameDiagnostics]

end Report

namespace Run

variable {check : String → Option Evaluation}

/-- Complete runs over the same files have reports that show the same. -/
theorem Complete.agrees
    {collection : Collection}
    {failOn : Severity}
    {run other : Run}
    (complete : Complete check collection failOn run)
    (otherComplete : Complete check collection failOn other)
    (noDuplicates : collection.files.Nodup) :
    run.report.Agrees other.report where
  order := complete.accounted.order.trans otherComplete.accounted.order.symm
  failOn := complete.failOn.trans otherComplete.failOn.symm
  scanned :=
    (complete.scanned_eq noDuplicates).trans
      (otherComplete.scanned_eq noDuplicates).symm
  skipped := by
    have counts :=
      complete.accounted.counts_add_up complete.isOver complete.notCancelled
    have otherCounts :=
      otherComplete.accounted.counts_add_up
        otherComplete.isOver otherComplete.notCancelled
    have scanned := complete.scanned_eq noDuplicates
    have otherScanned := otherComplete.scanned_eq noDuplicates
    omega
  cancelled := complete.notCancelled.trans otherComplete.notCancelled.symm
  results path member := by
    rw [otherComplete.accounted.order] at member
    rw [complete.result?_eq member, otherComplete.result?_eq member]

end Run

end HouseStyle
