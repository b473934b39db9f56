import HouseStyle.Report.Basic

namespace HouseStyle

/-!
# Runs over many files

Workers look at the files of a run in any order and at the same time, while a
scheduler watches for a request to cancel. A run is a sequence of steps, each of
which happens at once: a worker starts on a file, has looked at it, or hands its
result in; someone cancels; the scheduler polls, takes a waiting file back, or
sees that all is done. A step that is not possible changes nothing, so every
sequence of steps is a run.
-/

/-- How far a file has got. -/
inductive Phase
  | waiting
  | started
  /-- Looked at; there is no evaluation if the file cannot be read. -/
  | looked (evaluation : Option Evaluation)
  | finished
  /-- Taken back before a worker started on it. -/
  | withdrawn
  deriving Repr, DecidableEq, Inhabited

/-- Whether nothing more happens to a file. -/
def Phase.isOver : Phase → Bool
  | .finished => true
  | .withdrawn => true
  | _ => false

/-- Something that happens at once; files are told by their index. -/
inductive Step
  | start (file : Nat)
  | look (file : Nat)
  | handIn (file : Nat)
  | cancel
  | poll
  | withdraw (file : Nat)
  | settle
  deriving Repr, DecidableEq

/-- A run on its way. -/
structure Run where
  files : Array String
  phases : Array Phase
  report : Report
  /-- Someone has asked to cancel. -/
  cancelled : Bool
  /-- The scheduler still watches. -/
  watching : Bool
  deriving Repr

namespace Run

/-- A run before its first step. -/
def initial
    (files : List String)
    (failOn : Severity)
    (skipped : Nat) :
    Run :=
  { files := files.toArray
    phases := Array.replicate files.length .waiting
    report := { order := files, failOn, skipped }
    cancelled := false
    watching := !files.isEmpty }

/-- The run with one file in another phase. -/
def setPhase
    (run : Run)
    (file : Nat)
    (phase : Phase) :
    Run :=
  { run with phases := run.phases.setIfInBounds file phase }

/-- Whether nothing more happens to any file. -/
def allOver (run : Run) : Bool :=
  run.phases.all Phase.isOver

/-- Whether the run has ended. -/
def isOver (run : Run) : Bool :=
  !run.watching && run.allOver

/-- A worker starts on a waiting file, or drops it in a cancelled run. -/
def start
    (run : Run)
    (file : Nat) :
    Run :=
  if run.phases[file]? = some .waiting then
    if run.cancelled then
      { run.setPhase file .finished with report := run.report.abandon }
    else
      run.setPhase file .started
  else
    run

/-- A worker has looked at the file that it started on. -/
def look
    (check : String → Option Evaluation)
    (run : Run)
    (file : Nat) :
    Run :=
  match run.phases[file]?, run.files[file]? with
  | some .started, some path => run.setPhase file (.looked (check path))
  | _, _ => run

/-- The report after a worker has handed in what it found. -/
def reportOf
    (run : Run)
    (path : String) :
    Option Evaluation →
    Report
  | none => run.report.skip
  | some evaluation => run.report.addUnless run.cancelled path evaluation

/-- A worker hands in what it found. -/
def handIn
    (run : Run)
    (file : Nat) :
    Run :=
  match run.phases[file]?, run.files[file]? with
  | some (.looked found), some path =>
      { run.setPhase file .finished with report := run.reportOf path found }
  | _, _ => run

/-- The scheduler sees whether someone has cancelled, and then stops to watch. -/
def poll (run : Run) : Run :=
  if run.watching && run.cancelled then
    { run with report := run.report.abandon, watching := false }
  else
    run

/-- A file that no worker has started on is taken back once nobody watches. -/
def withdraw
    (run : Run)
    (file : Nat) :
    Run :=
  if !run.watching && run.phases[file]? == some .waiting then
    run.setPhase file .withdrawn
  else
    run

/-- The scheduler sees whether all files are done. -/
def settle (run : Run) : Run :=
  if run.allOver then { run with watching := false } else run

/-- One step of a run. -/
def step
    (check : String → Option Evaluation)
    (run : Run) :
    Step →
    Run
  | .start file => run.start file
  | .look file => run.look check file
  | .handIn file => run.handIn file
  | .cancel => { run with cancelled := true }
  | .poll => run.poll
  | .withdraw file => run.withdraw file
  | .settle => run.settle

/-- No step changes which files a run has. -/
@[simp] theorem files_step
    (check : String → Option Evaluation)
    (run : Run)
    (taken : Step) :
    (run.step check taken).files = run.files := by
  cases taken <;>
    simp only [step, start, look, handIn, poll, withdraw, settle] <;>
    repeat' split
  all_goals rfl

/-- Every file keeps having one phase. -/
@[simp] theorem size_phases_step
    (check : String → Option Evaluation)
    (run : Run)
    (taken : Step) :
    (run.step check taken).phases.size = run.phases.size := by
  cases taken <;>
    simp only [step, start, look, handIn, poll, withdraw, settle] <;>
    repeat' split
  all_goals simp [setPhase]

/-- Steps of a run, one after the other. -/
def steps
    (check : String → Option Evaluation)
    (run : Run)
    (taken : List Step) :
    Run :=
  taken.foldl (step check) run

/-- Two rows of steps are one row, and then the other. -/
theorem steps_append
    (check : String → Option Evaluation)
    (run : Run)
    (first second : List Step) :
    run.steps check (first ++ second) =
      (run.steps check first).steps check second := by
  simp [steps]

end Run

/-- When someone cancels a run. -/
structure Cancellation where
  /-- Before the first file. -/
  atOnce : Bool := false
  /-- While that file is looked at. -/
  during : String → Bool := fun _ => false

/-- The steps of a run that looks at one file after the other. -/
def fileSteps
    (cancellation : Cancellation)
    (file : Nat)
    (path : String) :
    List Step :=
  let cancel := if cancellation.during path then [Step.cancel] else []
  [.start file, .look file] ++ cancel ++ [.handIn file]

/-- The steps of a run that takes its files in their order. -/
def inTurn
    (cancellation : Cancellation)
    (files : List String) :
    List Step :=
  let cancel := if cancellation.atOnce then [Step.cancel] else []
  cancel ++ [.poll] ++
    files.zipIdx.flatMap (fun (path, file) =>
      fileSteps cancellation file path) ++
    [.settle, .poll]

end HouseStyle
