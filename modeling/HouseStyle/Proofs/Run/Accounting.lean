import HouseStyle.Files.Collection
import HouseStyle.Proofs.Run.Move

namespace HouseStyle

/-!
# Reports account for all files

However the steps of a run interleave, its report is right about every file that
was collected: a file has its whole sorted evaluation in the report, was counted
as skipped, or was dropped, and a run that dropped a file is cancelled. The
invariant relates the phases of the files to the results and the counts.
-/

/-- An evaluation in report order. -/
def Evaluation.sorted (evaluation : Evaluation) : Evaluation where
  violations := Violation.sorted evaluation.violations
  diagnostics := Diagnostic.sorted evaluation.diagnostics

namespace Report

/-- The results behind a new one, if there is none of its file yet. -/
theorem putResult_of_not_mem
    {results : List (String × Evaluation)}
    {path : String}
    (isNew : path ∉ results.map Prod.fst)
    (evaluation : Evaluation) :
    putResult results path evaluation = results ++ [(path, evaluation)] := by
  induction results with
  | nil =>
      rfl
  | cons entry rest inductionHypothesis =>
      obtain ⟨present, old⟩ := entry
      simp only [List.map_cons, List.mem_cons, not_or] at isNew
      obtain ⟨isOther, notInRest⟩ := isNew
      simp [putResult, Ne.symm isOther, inductionHypothesis notInRest]

end Report

namespace Run

/-- One of the steps hands the file in and counts it as skipped. -/
def Skips
    (check : String → Option Evaluation)
    (run : Run)
    (file : Nat) :
    List Step →
    Prop
  | [] => False
  | first :: rest =>
      (first = .handIn file ∧
          (run.step check first).report = run.report.skip) ∨
        (run.step check first).Skips check file rest

/-- What holds of a run between any two of its steps. -/
structure Accounted
    (check : String → Option Evaluation)
    (collected : List String)
    (skippedBefore : Nat)
    (isSkipped : Nat → Prop)
    (run : Run) :
    Prop where
  files : run.files = collected.toArray
  order : run.report.order = collected
  size : run.phases.size = collected.length
  looked :
    ∀ (file : Nat) (found : Option Evaluation),
      run.phases[file]? = some (.looked found) →
      ∃ path, collected[file]? = some path ∧ found = check path
  /-- Every result is the whole evaluation of a finished file. -/
  results :
    ∀ (path : String) (evaluation : Evaluation),
      (path, evaluation) ∈ run.report.results →
      ∃ (file : Nat) (found : Evaluation),
        collected[file]? = some path ∧
          run.phases[file]? = some .finished ∧
          check path = some found ∧
          evaluation = found.sorted
  distinct : (run.report.results.map Prod.fst).Nodup
  scanned : run.report.scanned = run.report.results.length
  counted :
    run.report.cancelled = false →
    run.report.scanned + run.report.skipped =
      skippedBefore + run.phases.countP (· == .finished)
  /-- A finished file is in the report, was skipped or was dropped. -/
  finished :
    ∀ (file : Nat) (path : String),
      collected[file]? = some path →
      run.phases[file]? = some .finished →
      run.report.cancelled = true ∨
        (∃ evaluation, (path, evaluation) ∈ run.report.results) ∨
        isSkipped file
  withdrawn :
    ∀ file : Nat,
      run.phases[file]? = some .withdrawn →
      run.report.cancelled = true
  unwatched :
    run.watching = false →
    run.report.cancelled = true ∨ run.allOver = true

/-- A run that has not begun accounts for all files. -/
theorem accounted_initial
    (check : String → Option Evaluation)
    (collected : List String)
    (failOn : Severity)
    (skippedBefore : Nat) :
    Accounted check collected skippedBefore (fun _ => False)
      (initial collected failOn skippedBefore) where
  files := rfl
  order := rfl
  size := by
    simp [initial]
  looked file found isLooked := by
    simp [initial, Array.getElem?_replicate] at isLooked
  results path evaluation member := by
    simp [initial] at member
  distinct := by
    simp [initial]
  scanned := rfl
  counted _ := by
    simp [initial, Array.countP_replicate]
  finished file path _ isFinished := by
    simp [initial, Array.getElem?_replicate] at isFinished
  withdrawn file isWithdrawn := by
    simp [initial, Array.getElem?_replicate] at isWithdrawn
  unwatched notWatching := by
    have noFiles : collected = [] := by
      simpa [initial] using notWatching
    simp [noFiles, initial, allOver]

/-- The number of finished files grows with each file that is finished. -/
theorem countP_setPhase
    {run : Run}
    {file : Nat}
    {earlier : Phase}
    (isPhase : run.phases[file]? = some earlier)
    (notFinished : earlier ≠ .finished)
    (phase : Phase) :
    (run.setPhase file phase).phases.countP (· == .finished) =
      run.phases.countP (· == .finished) +
        if phase == .finished then 1 else 0 := by
  obtain ⟨inBounds, same⟩ := Array.getElem?_eq_some_iff.mp isPhase
  simp [setPhase, Array.setIfInBounds, inBounds, Array.countP_set, same,
    notFinished]

namespace Accounted

variable
  {check : String → Option Evaluation}
  {collected : List String}
  {skippedBefore : Nat}
  {isSkipped : Nat → Prop}
  {run after : Run}
  {taken : Step}
  (accounted : Accounted check collected skippedBefore isSkipped run)

include accounted

theorem file?_eq (file : Nat) :
    run.files[file]? = collected[file]? := by
  rw [accounted.files, List.getElem?_toArray]

/-- A file that is not finished has no result yet. -/
theorem not_mem_results
    (noDuplicates : collected.Nodup)
    {file : Nat}
    {path : String}
    {phase : Phase}
    (isFile : collected[file]? = some path)
    (isPhase : run.phases[file]? = some phase)
    (notFinished : phase ≠ .finished) :
    path ∉ run.report.results.map Prod.fst := by
  intro member
  obtain ⟨⟨_, evaluation⟩, inResults, rfl⟩ := List.mem_map.mp member
  obtain ⟨other, found, isOther, isFinished, _⟩ :=
    accounted.results _ _ inResults
  have inBounds : other < collected.length :=
    (List.getElem?_eq_some_iff.mp isOther).1
  have same : other = file :=
    (List.getElem?_inj inBounds noDuplicates).mp
      (isOther.trans isFile.symm)
  subst same
  rw [isPhase, Option.some.injEq] at isFinished
  exact notFinished isFinished

/-- Adding the result of a file puts it behind the others. -/
theorem results_add
    (noDuplicates : collected.Nodup)
    {file : Nat}
    {path : String}
    {evaluation : Evaluation}
    (isLooked : run.phases[file]? = some (.looked (some evaluation)))
    (isFile : run.files[file]? = some path) :
    (run.report.add path evaluation).results =
      run.report.results ++ [(path, evaluation.sorted)] := by
  rw [accounted.file?_eq] at isFile
  exact
    Report.putResult_of_not_mem
      (accounted.not_mem_results noDuplicates isFile isLooked nofun)
      evaluation.sorted

section Move

variable (move : Move check run taken after)

include move

/-- What has been looked at is still what there is to see. -/
theorem looked_after
    {file : Nat}
    {found : Option Evaluation}
    (isLooked : after.phases[file]? = some (.looked found)) :
    ∃ path, collected[file]? = some path ∧ found = check path := by
  rcases move.of_looked_after isLooked with wasLooked | isNew
  · exact accounted.looked file found wasLooked
  · rw [accounted.file?_eq] at isNew
    exact isNew

/-- Withdrawn files are those of a cancelled report. -/
theorem withdrawn_after
    {file : Nat}
    (isWithdrawn : after.phases[file]? = some .withdrawn) :
    after.report.cancelled = true := by
  refine move.report_cancelled_after ?_
  have carry {other : Nat} {phase : Phase}
      (isPhase : (run.setPhase other phase).phases[file]? = some .withdrawn)
      (isOther : phase ≠ .withdrawn) :
      run.report.cancelled = true :=
    accounted.withdrawn file (of_phase?_setPhase_of_ne isPhase isOther)
  cases move with
  -- Only a scheduler that no longer watches withdraws, and a run in which a
  -- file still waits is not over, so it must have seen that it is cancelled.
  | withdraw notWatching isWaiting =>
      rcases accounted.unwatched notWatching with isCancelled | areOver
      · exact isCancelled
      · have isOver := allOver_iff.mp areOver _ _ isWaiting
        cases isOver
  | idle => exact accounted.withdrawn file isWithdrawn
  | begin => exact carry isWithdrawn nofun
  | drop => exact carry isWithdrawn nofun
  | look => exact carry isWithdrawn nofun
  | skip => exact carry isWithdrawn nofun
  | refuse => exact carry isWithdrawn nofun
  | add => exact carry isWithdrawn nofun
  | cancel => exact accounted.withdrawn file isWithdrawn
  | stop => exact accounted.withdrawn file isWithdrawn
  | settle => exact accounted.withdrawn file isWithdrawn

/-- Nobody stops to watch before the run is cancelled or all is over. -/
theorem unwatched_after
    (notWatching : after.watching = false) :
    after.report.cancelled = true ∨ after.allOver = true := by
  have carry (wasWatching : run.watching = false) :
      after.report.cancelled = true ∨ after.allOver = true := by
    rcases accounted.unwatched wasWatching with isCancelled | areOver
    · exact .inl (move.report_cancelled_after isCancelled)
    · exact .inr (move.allOver_after areOver)
  cases move with
  | stop => exact .inl rfl
  | settle areOver => exact .inr areOver
  | _ => exact carry notWatching

/-- As long as nothing is dropped, the counts are those of finished files. -/
theorem counted_after
    (notCancelled : after.report.cancelled = false) :
    after.report.scanned + after.report.skipped =
      skippedBefore + after.phases.countP (· == .finished) := by
  have counted := accounted.counted
  cases move with
  | idle => exact counted notCancelled
  | begin isWaiting =>
      rw [countP_setPhase isWaiting nofun]
      exact counted notCancelled
  | look isStarted =>
      rw [countP_setPhase isStarted nofun]
      exact counted notCancelled
  | withdraw _ isWaiting =>
      rw [countP_setPhase isWaiting nofun]
      exact counted notCancelled
  | skip isLooked =>
      have before := counted notCancelled
      have oneMore := countP_setPhase isLooked nofun .finished
      simp only [Report.skip, BEq.rfl, if_true] at oneMore ⊢
      omega
  | add isLooked =>
      have before := counted notCancelled
      have oneMore := countP_setPhase isLooked nofun .finished
      simp only [Report.add, BEq.rfl, if_true] at oneMore ⊢
      omega
  | drop => cases notCancelled
  | refuse => cases notCancelled
  | stop => cases notCancelled
  | cancel => exact counted notCancelled
  | settle => exact counted notCancelled

variable (noDuplicates : collected.Nodup)

include noDuplicates

/-- A result that was there is still there. -/
theorem mem_results_after
    {entry : String × Evaluation}
    (member : entry ∈ run.report.results) :
    entry ∈ after.report.results := by
  cases move with
  | add isLooked isFile =>
      rw [accounted.results_add noDuplicates isLooked isFile]
      exact List.mem_append_left _ member
  | _ => exact member

/-- The results are still those of finished files. -/
theorem results_after
    {path : String}
    {evaluation : Evaluation}
    (member : (path, evaluation) ∈ after.report.results) :
    ∃ (file : Nat) (found : Evaluation),
      collected[file]? = some path ∧
        after.phases[file]? = some .finished ∧
        check path = some found ∧
        evaluation = found.sorted := by
  have carry (wasMember : (path, evaluation) ∈ run.report.results) :
      ∃ (file : Nat) (found : Evaluation),
        collected[file]? = some path ∧
          after.phases[file]? = some .finished ∧
          check path = some found ∧
          evaluation = found.sorted := by
    obtain ⟨file, found, isFile, isFinished, facts⟩ :=
      accounted.results path evaluation wasMember
    exact
      ⟨file, found, isFile, move.phase?_of_isOver isFinished rfl, facts⟩
  cases move with
  | @add file _ looked isLooked isFile =>
      rw [accounted.results_add noDuplicates isLooked isFile] at member
      rcases List.mem_append.mp member with wasMember | isNew
      · exact carry wasMember
      · obtain ⟨rfl, rfl⟩ := Prod.mk.inj (List.mem_singleton.mp isNew)
        rw [accounted.file?_eq] at isFile
        obtain ⟨seen, isSeen, found⟩ :=
          accounted.looked file (some looked) isLooked
        rw [isFile, Option.some.injEq] at isSeen
        subst isSeen
        exact
          ⟨file, looked, isFile, phase?_setPhase_self isLooked .finished,
            found.symm, rfl⟩
  | _ => exact carry member

/-- There is still one result a file. -/
theorem distinct_after :
    (after.report.results.map Prod.fst).Nodup := by
  cases move with
  | add isLooked isFile =>
      have notThere :=
        accounted.not_mem_results noDuplicates
          ((accounted.file?_eq _).symm.trans isFile) isLooked nofun
      rw [accounted.results_add noDuplicates isLooked isFile,
        List.map_append, List.nodup_append]
      refine ⟨accounted.distinct, by simp, ?_⟩
      intro path member other isOther
      rw [List.map_singleton, List.mem_singleton] at isOther
      rw [isOther]
      rintro rfl
      exact notThere member
  | _ => exact accounted.distinct

/-- As many files were scanned as there are results. -/
theorem scanned_after :
    after.report.scanned = after.report.results.length := by
  cases move with
  | add isLooked isFile =>
      rw [accounted.results_add noDuplicates isLooked isFile,
        List.length_append, ← accounted.scanned]
      rfl
  | _ => exact accounted.scanned

/-- A file that is finished is still accounted for. -/
theorem finished_after
    {file : Nat}
    {path : String}
    (isFile : collected[file]? = some path)
    (isFinished : after.phases[file]? = some .finished) :
    after.report.cancelled = true ∨
      (∃ evaluation, (path, evaluation) ∈ after.report.results) ∨
      isSkipped file ∨
      (taken = .handIn file ∧ after.report = run.report.skip) := by
  have carry (wasFinished : run.phases[file]? = some .finished) :
      after.report.cancelled = true ∨
        (∃ evaluation, (path, evaluation) ∈ after.report.results) ∨
        isSkipped file ∨
        (taken = .handIn file ∧ after.report = run.report.skip) := by
    rcases accounted.finished file path isFile wasFinished with
      isCancelled | ⟨evaluation, member⟩ | wasSkipped
    · exact .inl (move.report_cancelled_after isCancelled)
    · exact
        .inr
          (.inl
            ⟨evaluation,
              accounted.mem_results_after move noDuplicates member⟩)
    · exact .inr (.inr (.inl wasSkipped))
  cases move with
  | drop => exact .inl rfl
  | refuse => exact .inl rfl
  | stop => exact .inl rfl
  | skip isLooked =>
      rcases of_phase?_setPhase isFinished with ⟨rfl, _⟩ | isOld
      · exact .inr (.inr (.inr ⟨rfl, rfl⟩))
      · exact carry isOld
  | @add other isPath looked isLooked isOther =>
      rcases of_phase?_setPhase isFinished with ⟨rfl, _⟩ | isOld
      · have added :=
          accounted.results_add noDuplicates isLooked isOther
        rw [accounted.file?_eq, isFile, Option.some.injEq] at isOther
        subst isOther
        refine .inr (.inl ⟨looked.sorted, ?_⟩)
        rw [added]
        simp
      · exact carry isOld
  | begin => exact carry (of_phase?_setPhase_of_ne isFinished nofun)
  | look => exact carry (of_phase?_setPhase_of_ne isFinished nofun)
  | withdraw => exact carry (of_phase?_setPhase_of_ne isFinished nofun)
  | idle => exact carry isFinished
  | cancel => exact carry isFinished
  | settle => exact carry isFinished

/-- A move keeps all files accounted for. -/
theorem accounted_after :
    Accounted check collected skippedBefore
      (fun file =>
        isSkipped file ∨
          (taken = .handIn file ∧ after.report = run.report.skip))
      after where
  files := by
    cases move <;> exact accounted.files
  order := by
    cases move <;> exact accounted.order
  size := by
    rw [move.size_phases_after, accounted.size]
  looked _ _ := accounted.looked_after move
  results _ _ := accounted.results_after move noDuplicates
  distinct := accounted.distinct_after move noDuplicates
  scanned := accounted.scanned_after move noDuplicates
  counted := accounted.counted_after move
  finished _ _ := accounted.finished_after move noDuplicates
  withdrawn _ := accounted.withdrawn_after move
  unwatched := accounted.unwatched_after move

end Move

omit accounted in
/-- What is skipped may be told apart in another way. -/
theorem imp
    {isAlsoSkipped : Nat → Prop}
    (accounted : Accounted check collected skippedBefore isSkipped run)
    (implies : ∀ file, isSkipped file → isAlsoSkipped file) :
    Accounted check collected skippedBefore isAlsoSkipped run :=
  { accounted with
    finished := fun file path isFile isFinished =>
      (accounted.finished file path isFile isFinished).imp_right
        (Or.imp_right (implies file)) }

/-- All steps of a run keep its files accounted for. -/
theorem accounted_steps
    (noDuplicates : collected.Nodup)
    (taken : List Step) :
    Accounted check collected skippedBefore
      (fun file => isSkipped file ∨ run.Skips check file taken)
      (run.steps check taken) := by
  induction taken generalizing run isSkipped with
  | nil =>
      exact accounted.imp fun _ => .inl
  | cons first rest inductionHypothesis =>
      have moved :=
        accounted.accounted_after (move_step check run first) noDuplicates
      exact
        (inductionHypothesis moved).imp fun file isSkipped =>
          or_assoc.mp isSkipped

end Accounted

end Run

end HouseStyle
