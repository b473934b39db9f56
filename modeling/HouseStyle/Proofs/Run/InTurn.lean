import HouseStyle.Proofs.Run.Reporting
import HouseStyle.Run.Check

namespace HouseStyle

/-!
# Runs that take their files in turn

The program carries out one of the many runs over its files: it takes one file
after the other. This run ends with every file finished, so what is said of the
reports of ended runs holds of every report that the program gives.
-/

/-- The file that a step is about. -/
def Step.file? : Step → Option Nat
  | .start file => some file
  | .look file => some file
  | .handIn file => some file
  | .withdraw file => some file
  | .cancel => none
  | .poll => none
  | .settle => none

namespace Run

/-- A move leaves the files alone that its step is not about. -/
theorem Move.phase?_of_other
    {check : String → Option Evaluation}
    {run after : Run}
    {taken : Step}
    (move : Move check run taken after)
    {file : Nat}
    (isOther : taken.file? ≠ some file) :
    after.phases[file]? = run.phases[file]? := by
  have differs {about : Nat} (isAbout : some about ≠ some file) :
      about ≠ file := fun same =>
    isAbout (congrArg some same)
  cases move with
  | idle => rfl
  | begin => exact phase?_setPhase_of_ne (differs isOther) run _
  | drop => exact phase?_setPhase_of_ne (differs isOther) run _
  | look => exact phase?_setPhase_of_ne (differs isOther) run _
  | skip => exact phase?_setPhase_of_ne (differs isOther) run _
  | refuse => exact phase?_setPhase_of_ne (differs isOther) run _
  | add => exact phase?_setPhase_of_ne (differs isOther) run _
  | cancel => rfl
  | stop => rfl
  | withdraw => exact phase?_setPhase_of_ne (differs isOther) run _
  | settle => rfl

variable (check : String → Option Evaluation)

/-- Steps leave the files alone that they are not about. -/
theorem phase?_steps_of_other
    {run : Run}
    {file : Nat}
    {taken : List Step}
    (areOther : ∀ step ∈ taken, step.file? ≠ some file) :
    (run.steps check taken).phases[file]? = run.phases[file]? := by
  induction taken generalizing run with
  | nil =>
      rfl
  | cons first rest inductionHypothesis =>
      have move := move_step check run first
      calc
        (run.steps check (first :: rest)).phases[file]? =
            (run.step check first).phases[file]? :=
          inductionHypothesis fun step member =>
            areOther step (List.mem_cons_of_mem first member)
        _ = run.phases[file]? :=
          move.phase?_of_other (areOther first (by simp))

/-- A file to which nothing more happens keeps its phase in all steps. -/
theorem phase?_steps_of_isOver
    {run : Run}
    {file : Nat}
    {phase : Phase}
    (isPhase : run.phases[file]? = some phase)
    (isOver : phase.isOver = true)
    (taken : List Step) :
    (run.steps check taken).phases[file]? = some phase := by
  induction taken generalizing run with
  | nil =>
      exact isPhase
  | cons first rest inductionHypothesis =>
      exact
        inductionHypothesis
          ((move_step check run first).phase?_of_isOver isPhase isOver)

/-- No steps change which files a run has. -/
@[simp] theorem files_steps
    (run : Run)
    (taken : List Step) :
    (run.steps check taken).files = run.files := by
  induction taken generalizing run with
  | nil =>
      rfl
  | cons first rest inductionHypothesis =>
      exact (inductionHypothesis _).trans (files_step check run first)

/-- Every file has one phase after any steps. -/
@[simp] theorem size_phases_steps
    (run : Run)
    (taken : List Step) :
    (run.steps check taken).phases.size = run.phases.size := by
  induction taken generalizing run with
  | nil =>
      rfl
  | cons first rest inductionHypothesis =>
      exact (inductionHypothesis _).trans (size_phases_step check run first)

/-- The steps of one file are about no other. -/
theorem file?_of_mem_fileSteps
    {cancellation : Cancellation}
    {file : Nat}
    {path : String}
    {step : Step}
    (member : step ∈ fileSteps cancellation file path) :
    step.file? = some file ∨ step.file? = none := by
  unfold fileSteps at member
  split at member <;> simp at member <;>
    rcases member with rfl | rfl | rfl | rfl <;> simp [Step.file?]

/-- The steps of a waiting file finish it. -/
theorem phase?_fileSteps
    {run : Run}
    (cancellation : Cancellation)
    {file : Nat}
    {path : String}
    (isFile : run.files[file]? = some path)
    (isWaiting : run.phases[file]? = some .waiting) :
    (run.steps check (fileSteps cancellation file path)).phases[file]? =
      some .finished := by
  let cancels := if cancellation.during path then [Step.cancel] else []
  let started := run.step check (.start file)
  let looked := started.step check (.look file)
  have inSteps :
      run.steps check (fileSteps cancellation file path) =
        (looked.steps check cancels).step check (.handIn file) := by
    simp [fileSteps, steps, looked, started, cancels]
  cases isCancelled : run.cancelled with
  | true =>
      -- A cancelled run drops the file at once, and no later step changes that.
      have isFinished : started.phases[file]? = some .finished := by
        simp only [started, step, start, isWaiting, isCancelled, if_true]
        exact phase?_setPhase_self isWaiting .finished
      exact
        phase?_steps_of_isOver check isFinished rfl
          (.look file :: (cancels ++ [.handIn file]))
  | false =>
      have isStarted : started.phases[file]? = some .started := by
        simp only [started, step, start, isWaiting, isCancelled, if_true]
        exact phase?_setPhase_self isWaiting .started
      have isStartedFile : started.files[file]? = some path := by
        rw [files_step, isFile]
      have isLooked : looked.phases[file]? = some (.looked (check path)) := by
        simp only [looked, step, look, isStarted, isStartedFile]
        exact phase?_setPhase_self isStarted _
      have stillLooked :
          (looked.steps check cancels).phases[file]? =
            some (.looked (check path)) := by
        rw [phase?_steps_of_other check, isLooked]
        intro step member
        have isCancel : step = .cancel := by
          simp only [cancels] at member
          split at member <;> simp at member
          exact member
        simp [isCancel, Step.file?]
      have stillFile :
          (looked.steps check cancels).files[file]? = some path := by
        rw [files_steps, files_step, isStartedFile]
      rw [inSteps]
      simp only [step, handIn, stillLooked, stillFile]
      exact phase?_setPhase_self stillLooked .finished

/-- The steps of waiting files, taken in turn, finish all of them. -/
theorem phase?_steps_in_turn
    {run : Run}
    (cancellation : Cancellation)
    {entries : List (String × Nat)}
    (distinct : (entries.map Prod.snd).Nodup)
    (areFiles : ∀ entry ∈ entries, run.files[entry.2]? = some entry.1)
    (areWaiting : ∀ entry ∈ entries, run.phases[entry.2]? = some .waiting)
    {path : String}
    {file : Nat}
    (member : (path, file) ∈ entries) :
    (run.steps check
        (entries.flatMap fun entry =>
          fileSteps cancellation entry.2 entry.1)).phases[file]? =
      some .finished := by
  induction entries generalizing run with
  | nil =>
      cases member
  | cons first rest inductionHypothesis =>
      obtain ⟨firstPath, firstFile⟩ := first
      simp only [List.map_cons, List.nodup_cons, List.forall_mem_cons]
        at distinct areFiles areWaiting
      obtain ⟨notAgain, distinctRest⟩ := distinct
      obtain ⟨isFile, restAreFiles⟩ := areFiles
      obtain ⟨isWaiting, restAreWaiting⟩ := areWaiting
      rw [List.flatMap_cons, steps_append]
      rcases List.mem_cons.mp member with isFirst | inRest
      · cases isFirst
        exact
          phase?_steps_of_isOver check
            (phase?_fileSteps check cancellation isFile isWaiting) rfl _
      · refine inductionHypothesis distinctRest ?_ ?_ inRest
        · intro entry isEntry
          rw [files_steps, restAreFiles entry isEntry]
        · intro entry isEntry
          -- The steps of the first file are about no later one.
          have isOther : firstFile ≠ entry.2 := by
            rintro rfl
            exact notAgain (List.mem_map_of_mem isEntry)
          rw [phase?_steps_of_other check, restAreWaiting entry isEntry]
          intro step isStep
          rcases file?_of_mem_fileSteps isStep with isAbout | isNone
          · rw [isAbout]
            exact fun same => isOther (Option.some.inj same)
          · simp [isNone]

/-- When all is over, the scheduler sees it and stops to watch. -/
theorem isOver_of_allOver
    {run : Run}
    (areOver : run.allOver = true) :
    (run.steps check [.settle, .poll]).isOver = true := by
  simp [steps, step, settle, poll, areOver, isOver]
  exact areOver

/-- The run that takes its files in turn comes to an end. -/
theorem inTurn_isOver
    (cancellation : Cancellation)
    (files : List String)
    (failOn : Severity)
    (skipped : Nat) :
    ((initial files failOn skipped).steps check
      (inTurn cancellation files)).isOver = true := by
  let opening := if cancellation.atOnce then [Step.cancel] else []
  let start := initial files failOn skipped
  let opened := start.steps check (opening ++ [.poll])
  let entries := files.zipIdx
  have inSteps :
      start.steps check (inTurn cancellation files) =
        (opened.steps check
          (entries.flatMap fun entry =>
            fileSteps cancellation entry.2 entry.1)).steps check
          [.settle, .poll] := by
    rw [inTurn, steps_append, steps_append]
  -- All files still wait when their own steps begin.
  have opensNone : ∀ step ∈ opening ++ [.poll], step.file? = none := by
    intro step member
    simp only [opening] at member
    split at member <;> simp at member
    · rcases member with rfl | rfl <;> rfl
    · rw [member]
      rfl
  have areFiles :
      ∀ entry ∈ entries, opened.files[entry.2]? = some entry.1 := by
    intro entry member
    rw [files_steps]
    simpa [start, initial] using List.mem_zipIdx_iff_getElem?.mp member
  have areWaiting :
      ∀ entry ∈ entries, opened.phases[entry.2]? = some .waiting := by
    intro entry member
    rw [phase?_steps_of_other check]
    · have isFile := List.mem_zipIdx_iff_getElem?.mp member
      have inBounds := (List.getElem?_eq_some_iff.mp isFile).1
      simp [start, initial, inBounds]
    · intro step isStep
      simp [opensNone step isStep]
  have distinct : (entries.map Prod.snd).Nodup := by
    rw [List.zipIdx_map_snd]
    exact List.nodup_range'
  rw [inSteps]
  refine isOver_of_allOver check (allOver_iff.mpr ?_)
  intro file phase isPhase
  have inBounds : file < files.length := by
    have inPhases := (Array.getElem?_eq_some_iff.mp isPhase).1
    simpa [opened, start, initial] using inPhases
  have member : (files[file], file) ∈ entries :=
    List.mem_zipIdx_iff_getElem?.mpr (List.getElem?_eq_getElem inBounds)
  have isFinished :=
    phase?_steps_in_turn check cancellation distinct areFiles areWaiting member
  rw [isPhase, Option.some.injEq] at isFinished
  rw [isFinished]
  rfl

end Run

/-- Every report of a check is that of an ended run over collected files. -/
theorem Checker.check_reportsOn
    {checker : Checker}
    {options : RunOptions}
    {spellings : List String}
    {report : Report}
    (checked : checker.check options spellings = .ok report) :
    ∃ collection taken,
      collect checker.surroundings spellings checker.rules.exclude =
          .ok collection ∧
        let start :=
          Run.initial collection.files checker.rules.failOn collection.skipped
        let run := start.steps checker.checkCollected taken
        run.isOver = true ∧
          run.report = report ∧
          Run.ReportsOn checker.checkCollected collection start taken run := by
  unfold Checker.check at checked
  cases collected :
      collect checker.surroundings spellings checker.rules.exclude with
  | error fault =>
      rw [collected] at checked
      cases checked
  | ok collection =>
      rw [collected] at checked
      simp only [Except.mapError, bind, Except.bind] at checked
      split at checked
      · cases checked
      · cases checked
        exact
          ⟨collection, _, rfl, Run.inTurn_isOver _ _ _ _ _, rfl,
            Run.reportsOn_of_nodup (nodup_files_of_collect collected) _ _ _⟩

end HouseStyle
