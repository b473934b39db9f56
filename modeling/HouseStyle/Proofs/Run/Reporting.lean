import HouseStyle.Proofs.Files.Collecting
import HouseStyle.Proofs.Run.Accounting
import Mathlib

namespace HouseStyle

/-!
# What a report says of the collected files

The files of a run come from a collection, which lists no file twice. Of every
such run the report holds whole evaluations of collected files and nothing that
was handed in after someone cancelled. Once the run has ended, a report that is
not marked as cancelled accounts for every single file.
-/

/-- A collection lists no file twice. -/
theorem nodup_files_of_collect
    {surroundings : Surroundings}
    {spellings patterns : List String}
    {collection : Collection}
    (collected : collect surroundings spellings patterns = .ok collection) :
    collection.files.Nodup := by
  unfold collect at collected
  cases admitted : spellings.mapM (admission surroundings patterns) with
  | error fault =>
      rw [admitted] at collected
      cases collected
  | ok admissions =>
      rw [admitted] at collected
      cases collected
      exact nodup_eraseDups _

/-- A path of a known language is listed unless its file is too large. -/
theorem fileAdmission_of_known
    {surroundings : Surroundings}
    {spelling : String}
    {size : Option Nat}
    (isSize : surroundings.size? (Path.ofString spelling) = .ok size)
    (isSmall : size.getD 0 ≤ greatestFileSize)
    (isKnown : (Language.ofPath? spelling).isSome = true) :
    fileAdmission surroundings [] spelling = .ok (.files [spelling]) := by
  have notUnknown : (Language.ofPath? spelling).isNone = false := by
    simpa using isKnown
  have notLarge : ¬ greatestFileSize < size.getD 0 := Nat.not_lt.mpr isSmall
  simp [fileAdmission, isExcluded, notUnknown, isSize, notLarge, Except.map]

/-- A path of a known language at which nothing stands is left to a worker. -/
theorem admission_of_missing
    {surroundings : Surroundings}
    {spelling : String}
    (isMissing :
      surroundings.entry (Path.ofString spelling) = .error .missing)
    (isKnown : (Language.ofPath? spelling).isSome = true) :
    admission surroundings [] spelling = .ok (.files [spelling]) := by
  have noEntry : surroundings.entry? (Path.ofString spelling) = .ok none := by
    rw [Surroundings.entry?, isMissing]
  have noSize : surroundings.size? (Path.ofString spelling) = .ok none := by
    rw [Surroundings.size?, Surroundings.bytes, isMissing]
  simp only [admission, noEntry, bind, Except.bind]
  exact fileAdmission_of_known noSize (Nat.zero_le _) isKnown

/-- A small file of a known language is listed. -/
theorem admission_of_file
    {surroundings : Surroundings}
    {spelling : String}
    {content : ByteArray}
    (isFile :
      surroundings.entry (Path.ofString spelling) = .ok (.file content))
    (isSmall : content.size ≤ greatestFileSize)
    (isKnown : (Language.ofPath? spelling).isSome = true) :
    admission surroundings [] spelling = .ok (.files [spelling]) := by
  have isEntry :
      surroundings.entry? (Path.ofString spelling) =
        .ok (some (.file content)) := by
    rw [Surroundings.entry?, isFile]
  have isSize :
      surroundings.size? (Path.ofString spelling) =
        .ok (some content.size) := by
    rw [Surroundings.size?, Surroundings.bytes, isFile]
  simp only [admission, isEntry, bind, Except.bind]
  exact fileAdmission_of_known isSize isSmall isKnown

/-- Surroundings without any file. -/
def emptyDisk : Surroundings where
  files := .empty
  directory := Path.ofString "/"
  environment := []

namespace Report

theorem mem_files
    {report : Report}
    {path : String} :
    path ∈ report.files ↔
      path ∈ report.order ∧ path ∈ report.results.map Prod.fst := by
  simp [files, result?]

/-- A report shows all of its results when they are of files of its order. -/
theorem length_files
    {report : Report}
    (ordered : report.order.Nodup)
    (distinct : (report.results.map Prod.fst).Nodup)
    (inOrder : report.results.map Prod.fst ⊆ report.order) :
    report.files.length = report.results.length := by
  have same : report.files.Perm (report.results.map Prod.fst) := by
    refine (List.perm_ext_iff_of_nodup (ordered.filter _) distinct).mpr ?_
    intro path
    refine mem_files.trans ⟨And.right, ?_⟩
    exact fun member => ⟨inOrder member, member⟩
  rw [same.length_eq, List.length_map]

end Report

namespace Run

/-- What the report of a run says of the collected files after some steps. -/
structure ReportsOn
    (check : String → Option Evaluation)
    (collection : Collection)
    (start : Run)
    (taken : List Step)
    (run : Run) :
    Prop where
  /-- Every entry is the whole sorted evaluation of a collected file. -/
  whole :
    ∀ (path : String) (evaluation : Evaluation),
      (path, evaluation) ∈ run.report.results →
      path ∈ collection.files ∧
        ∃ found, check path = some found ∧ evaluation = found.sorted
  distinct : (run.report.results.map Prod.fst).Nodup
  scanned : run.report.scanned = run.report.results.length
  shown : run.report.files.length = run.report.results.length
  /-- Nothing is added once someone has cancelled. -/
  inTime :
    ∀ earlier later,
      taken = earlier ++ later →
      (start.steps check earlier).cancelled = true →
      run.report.results = (start.steps check earlier).report.results
  /-- If nothing was dropped, each file is an entry or was skipped. -/
  complete :
    run.isOver = true →
    run.report.cancelled = false →
    ∀ (file : Nat) (path : String),
      collection.files[file]? = some path →
      (∃ evaluation, (path, evaluation) ∈ run.report.results) ∨
        start.Skips check file taken
  counted :
    run.isOver = true →
    run.report.cancelled = false →
    run.report.scanned + run.report.skipped =
      collection.files.length + collection.skipped
  /-- A file that was dropped shows in the status. -/
  dropped :
    run.isOver = true →
    ∀ (file : Nat) (path : String),
      collection.files[file]? = some path →
      (∀ evaluation, (path, evaluation) ∉ run.report.results) →
      ¬ start.Skips check file taken →
      run.report.status = .cancelled

namespace Accounted

variable
  {check : String → Option Evaluation}
  {collected : List String}
  {skippedBefore : Nat}
  {isSkipped : Nat → Prop}
  {run : Run}
  (accounted : Accounted check collected skippedBefore isSkipped run)

include accounted

theorem mem_collected
    {path : String}
    (member : path ∈ run.report.results.map Prod.fst) :
    path ∈ collected := by
  obtain ⟨⟨_, evaluation⟩, inResults, rfl⟩ := List.mem_map.mp member
  obtain ⟨_, _, isFile, _⟩ := accounted.results _ _ inResults
  exact List.mem_of_getElem? isFile

variable
  (isOver : run.isOver = true)
  (notCancelled : run.report.cancelled = false)

include isOver notCancelled

/-- In an ended run that dropped nothing every file is finished. -/
theorem isFinished
    {file : Nat}
    {phase : Phase}
    (isPhase : run.phases[file]? = some phase) :
    phase = .finished := by
  have areOver : run.allOver = true := (Bool.and_eq_true_iff.mp isOver).2
  have phaseOver := allOver_iff.mp areOver file phase isPhase
  cases phase with
  | finished => rfl
  | withdrawn =>
      rw [accounted.withdrawn file isPhase] at notCancelled
      cases notCancelled
  | waiting => cases phaseOver
  | started => cases phaseOver
  | looked => cases phaseOver

/-- In such a run each file is an entry or was skipped. -/
theorem entry_or_skipped
    {file : Nat}
    {path : String}
    (isFile : collected[file]? = some path) :
    (∃ evaluation, (path, evaluation) ∈ run.report.results) ∨
      isSkipped file := by
  have inBounds : file < run.phases.size := by
    rw [accounted.size]
    exact (List.getElem?_eq_some_iff.mp isFile).1
  have isPhase := Array.getElem?_eq_getElem inBounds
  have finished :=
    accounted.isFinished isOver notCancelled isPhase
  rcases accounted.finished file path isFile (finished ▸ isPhase) with
    isCancelled | accountedFor
  · rw [isCancelled] at notCancelled
    cases notCancelled
  · exact accountedFor

/-- In such a run the counts add up to the number of files. -/
theorem counts_add_up :
    run.report.scanned + run.report.skipped =
      collected.length + skippedBefore := by
  have allFinished :
      run.phases.countP (· == .finished) = run.phases.size := by
    rw [Array.countP_eq_size]
    intro phase member
    obtain ⟨file, isPhase⟩ := Array.mem_iff_getElem?.mp member
    simp [accounted.isFinished isOver notCancelled isPhase]
  rw [accounted.counted notCancelled, allFinished, accounted.size,
    Nat.add_comm]

end Accounted

/-- The report of a run over files of which none is listed twice. -/
theorem reportsOn_of_nodup
    {collection : Collection}
    (noDuplicates : collection.files.Nodup)
    (check : String → Option Evaluation)
    (failOn : Severity)
    (taken : List Step) :
    let start := initial collection.files failOn collection.skipped
    ReportsOn check collection start taken (start.steps check taken) := by
  intro start
  have accounted :
      Accounted check collection.files collection.skipped
        (fun file => start.Skips check file taken)
        (start.steps check taken) :=
    ((accounted_initial check collection.files failOn
      collection.skipped).accounted_steps noDuplicates taken).imp
        fun _ isSkipped => isSkipped.resolve_left id
  refine
    { whole := ?_
      distinct := accounted.distinct
      scanned := accounted.scanned
      shown := ?_
      inTime := ?_
      complete := ?_
      counted := accounted.counts_add_up
      dropped := ?_ }
  · intro path evaluation member
    obtain ⟨_, found, isFile, _, facts⟩ :=
      accounted.results path evaluation member
    exact ⟨List.mem_of_getElem? isFile, found, facts⟩
  · refine Report.length_files ?_ accounted.distinct ?_
    · rw [accounted.order]
      exact noDuplicates
    · rw [accounted.order]
      exact fun _ => accounted.mem_collected
  · rintro earlier later rfl isCancelled
    rw [steps_append]
    exact results_steps_of_cancelled check isCancelled later
  · intro isOver notCancelled file path
    exact accounted.entry_or_skipped isOver notCancelled
  · intro isOver file path isFile noEntry notSkipped
    cases isCancelled : (start.steps check taken).report.cancelled with
    | true =>
        rw [Report.status, if_pos isCancelled]
    | false =>
        rcases accounted.entry_or_skipped isOver isCancelled isFile with
          ⟨evaluation, member⟩ | isSkipped
        · exact (noEntry evaluation member).elim
        · exact (notSkipped isSkipped).elim

/--
Whatever steps a run over collected files takes, and whenever someone cancels
it, its report tells the truth about every file.
-/
theorem steps_reportsOn
    {surroundings : Surroundings}
    {spellings patterns : List String}
    {collection : Collection}
    (collected : collect surroundings spellings patterns = .ok collection)
    (check : String → Option Evaluation)
    (failOn : Severity)
    (taken : List Step) :
    let start := initial collection.files failOn collection.skipped
    ReportsOn check collection start taken (start.steps check taken) :=
  reportsOn_of_nodup (nodup_files_of_collect collected) check failOn taken

/-- A run over two files, of which one cannot be read, as two workers do it. -/
theorem steps_reportsOn_two_files :
    ∃ collection,
      collect emptyDisk ["a.py", "b.py"] [] = .ok collection ∧
        let check := fun path => if path = "a.py" then some {} else none
        let taken :=
          [Step.start 0, .start 1, .look 1, .look 0, .handIn 1, .handIn 0,
            .settle]
        let start :=
          initial collection.files .warning collection.skipped
        (start.steps check taken).isOver = true ∧
          (start.steps check taken).report.cancelled = false ∧
          ReportsOn check collection start taken
            (start.steps check taken) := by
  have isKnown : (Language.ofPath? "a.py").isSome = true := by
    decide +kernel
  have isAlsoKnown : (Language.ofPath? "b.py").isSome = true := by
    decide +kernel
  have collected :
      collect emptyDisk ["a.py", "b.py"] [] =
        .ok { files := ["a.py", "b.py"], skipped := 0 } := by
    rw [collect, List.mapM_cons, List.mapM_cons,
      admission_of_missing (by cbv) isKnown,
      admission_of_missing (by cbv) isAlsoKnown]
    rfl
  exact
    ⟨_, collected, by decide +kernel, by decide +kernel,
      steps_reportsOn collected _ _ _⟩

end Run

end HouseStyle
