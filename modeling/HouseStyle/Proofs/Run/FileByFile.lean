import HouseStyle.Proofs.Run.Uncancelled

namespace HouseStyle

/-!
# Reports that stand file by file

What a run that nobody cancels says of one file is what the rules say of its
text, in report order. The other files, the workers and the time at which they
got to the file leave no trace in it.
-/

/-- `shown` is `produced` in report order, with ties as they were produced. -/
structure Evaluation.ShownAs (produced shown : Evaluation) : Prop where
  violations :
    SortsStably
      Violation.notAfter Violation.sharesKey
      produced.violations shown.violations
  diagnostics :
    SortsStably
      Diagnostic.notAfter Diagnostic.sharesRule
      produced.diagnostics shown.diagnostics

namespace Evaluation.ShownAs

theorem sorted (produced : Evaluation) :
    produced.ShownAs produced.sorted where
  violations := Violation.sorted_sortsStably produced.violations
  diagnostics := Diagnostic.sorted_sortsStably produced.diagnostics

theorem trans
    {produced middle shown : Evaluation}
    (first : produced.ShownAs middle)
    (second : middle.ShownAs shown) :
    produced.ShownAs shown where
  violations := first.violations.trans second.violations
  diagnostics := first.diagnostics.trans second.diagnostics

end Evaluation.ShownAs

/-- Every model is of the file that it was read from. -/
def Reader.KeepsPaths (reader : Reader) : Prop :=
  ∀ source model, reader source = .ok model → model.path = source.path

/-- The reader of the library keeps the paths of files. -/
theorem Reader.standard_keepsPaths :
    Reader.standard.KeepsPaths := by
  intro source model isRead
  simp only [Reader.standard, SourceModel.build] at isRead
  split at isRead
  · cases isRead
  · split at isRead
    · cases isRead
    · cases isRead
      rfl

/-- All findings are of one file. -/
structure Evaluation.IsOf (evaluation : Evaluation) (path : String) : Prop where
  violations : ∀ violation ∈ evaluation.violations, violation.path = path
  diagnostics : ∀ diagnostic ∈ evaluation.diagnostics, diagnostic.path = path

/-- What is shown is of the file that it was produced for. -/
theorem Evaluation.ShownAs.isOf
    {produced shown : Evaluation}
    {path : String}
    (isShown : produced.ShownAs shown)
    (isOf : produced.IsOf path) :
    shown.IsOf path where
  violations violation member :=
    isOf.violations violation (isShown.violations.perm.subset member)
  diagnostics diagnostic member :=
    isOf.diagnostics diagnostic (isShown.diagnostics.perm.subset member)

/-- Whatever a rule signs is of the model's file. -/
theorem Rule.path_of_evaluate
    {rule : Rule}
    {model : SourceModel}
    {settings : RuleSettings}
    {violations : List Violation}
    (evaluated : rule.evaluate model settings = .ok violations)
    {violation : Violation}
    (member : violation ∈ violations) :
    violation.path = model.path := by
  unfold Rule.evaluate at evaluated
  cases checked : rule.check model settings with
  | error fault =>
      rw [checked] at evaluated
      cases evaluated
  | ok findings =>
      rw [checked] at evaluated
      cases evaluated
      obtain ⟨finding, _, rfl⟩ := List.mem_map.mp member
      rfl

namespace Registry

/-- What rules say before it is sorted: rule by rule, in each rule's order. -/
def produced
    (registry : Registry)
    (model : SourceModel)
    (settings : List RuleSettings) :
    Evaluation :=
  let verdicts := registry.verdicts model settings
  { violations := verdicts.flatMap Verdict.violations
    diagnostics := verdicts.filterMap (Verdict.diagnostic? model.path) }

/-- Rules only speak of the model's file. -/
theorem produced_isOf
    (registry : Registry)
    (model : SourceModel)
    (settings : List RuleSettings) :
    (registry.produced model settings).IsOf model.path where
  violations violation member := by
    obtain ⟨verdict, isVerdict, inVerdict⟩ := List.mem_flatMap.mp member
    obtain ⟨setting, _, isOfSetting⟩ := List.mem_filterMap.mp isVerdict
    obtain ⟨rule, _, rfl⟩ := Option.map_eq_some_iff.mp isOfSetting
    unfold Verdict.violations at inVerdict
    split at inVerdict
    · next violations evaluated =>
        exact Rule.path_of_evaluate evaluated inVerdict
    · cases inVerdict
  diagnostics diagnostic member := by
    obtain ⟨verdict, _, isOfVerdict⟩ := List.mem_filterMap.mp member
    unfold Verdict.diagnostic? at isOfVerdict
    split at isOfVerdict
    · cases isOfVerdict
    · cases isOfVerdict
      rfl

end Registry

namespace Checker

/-- What is found in a source file, before it is sorted. -/
def produced
    (checker : Checker)
    (source : SourceFile) :
    Evaluation :=
  match checker.reader source with
  | .error fault => { violations := [unparseable source fault] }
  | .ok model =>
      checker.registry.produced
        model
        (checker.rules.enabledFor source.language)

/-- An evaluation shows what is found in its source file. -/
theorem produced_shownAs_evaluate
    (checker : Checker)
    (source : SourceFile) :
    (checker.produced source).ShownAs (checker.evaluate source) := by
  have isSorted :
      checker.evaluate source = (checker.produced source).sorted := by
    unfold evaluate produced
    cases checker.reader source with
    | ok model =>
        rfl
    | error fault =>
        simp [Evaluation.sorted, Violation.sorted, Diagnostic.sorted]
  rw [isSorted]
  exact .sorted _

/-- What is found in a source file is of it. -/
theorem produced_isOf
    {checker : Checker}
    (keepsPaths : checker.reader.KeepsPaths)
    (source : SourceFile) :
    (checker.produced source).IsOf source.path := by
  unfold produced
  cases isRead : checker.reader source with
  | ok model =>
      rw [← keepsPaths source model isRead]
      exact checker.registry.produced_isOf model _
  | error fault =>
      exact ⟨by simp [unparseable], by simp⟩

/-- A source file keeps the path at which it was found. -/
theorem path_of_source
    {checker : Checker}
    {path : String}
    {source : SourceFile}
    (found : checker.source? path = .ok (some source)) :
    source.path = path := by
  unfold source? at found
  repeat' split at found
  all_goals cases found
  rfl

/-- What is found at a path is the evaluation of its source file. -/
theorem checkCollected_eq
    (checker : Checker)
    (path : String) :
    checker.checkCollected path =
      (checker.source? path).toOption.join.map checker.evaluate := by
  unfold checkCollected checkFile
  generalize checker.source? path = found
  cases found with
  | error fault =>
      rfl
  | ok source =>
      cases source <;> rfl

/-- A file without a source file has no evaluation. -/
theorem checkCollected_of_no_source
    {checker : Checker}
    {path : String}
    (noSource : ∀ source, checker.source? path ≠ .ok (some source)) :
    checker.checkCollected path = none := by
  rw [checkCollected_eq]
  cases found : checker.source? path with
  | error fault =>
      rfl
  | ok source =>
      cases source with
      | none => rfl
      | some source => exact (noSource source found).elim

/-- Only the bytes at a path matter to what is found there. -/
theorem checkCollected_of_sameBytes
    {checker : Checker}
    {surroundings : Surroundings}
    {path : String}
    (sameBytes :
      surroundings.bytes (Path.ofString path) =
        checker.surroundings.bytes (Path.ofString path)) :
    { checker with surroundings }.checkCollected path =
      checker.checkCollected path := by
  have sameSource :
      { checker with surroundings }.source? path = checker.source? path := by
    unfold source?
    -- Under these names no tactic tries to evaluate the look-ups.
    generalize Language.ofPath? path = language
    generalize surroundings.bytes (Path.ofString path) = bytes at sameBytes ⊢
    rw [sameBytes]
  have sameEvaluation :
      { checker with surroundings }.evaluate = checker.evaluate := rfl
  rw [checkCollected_eq, checkCollected_eq, sameSource, sameEvaluation]

/-- The run that takes its files in turn is complete unless it is cancelled. -/
theorem checkInTurn_complete
    (checker : Checker)
    {collection : Collection}
    (noDuplicates : collection.files.Nodup) :
    let start :=
      Run.initial collection.files checker.rules.failOn collection.skipped
    Run.Complete checker.checkCollected collection checker.rules.failOn
      (start.steps checker.checkCollected (inTurn {} collection.files)) := by
  refine Run.complete_of_uncancelled noDuplicates ?_ ?_
  · simp [inTurn, fileSteps]
  · exact Run.inTurn_isOver checker.checkCollected {} _ _ _

/-- What the report of a run that nobody cancels says. -/
structure ReportsAll
    (checker : Checker)
    (collection : Collection)
    (report : Report) :
    Prop where
  /-- The record is that of the run that takes the files in turn. -/
  record : report.record = (checker.checkInTurn {} collection).record
  violations :
    report.violations = collection.files.flatMap report.violationsIn
  diagnostics :
    report.diagnostics = collection.files.flatMap report.diagnosticsIn
  ofFile :
    checker.reader.KeepsPaths →
    ∀ path ∈ collection.files,
      (∀ violation ∈ report.violationsIn path, violation.path = path) ∧
        ∀ diagnostic ∈ report.diagnosticsIn path, diagnostic.path = path
  shown :
    ∀ path ∈ collection.files,
    ∀ source,
      checker.source? path = .ok (some source) →
      ∃ shown,
        report.result? path = some shown ∧
          (checker.produced source).ShownAs shown
  unread :
    ∀ path ∈ collection.files,
      (∀ source, checker.source? path ≠ .ok (some source)) →
      report.result? path = none
  /-- A check of nothing but the file, wherever it stands, gives the same. -/
  alone :
    ∀ path ∈ collection.files,
    ∀ surroundings : Surroundings,
      surroundings.bytes (Path.ofString path) =
        checker.surroundings.bytes (Path.ofString path) →
      report.result? path =
        ({ checker with surroundings }.checkInTurn
          {} { files := [path], skipped := 0 }).result? path

/-- A complete run reports all that can be read. -/
theorem reportsAll_of_complete
    {checker : Checker}
    {collection : Collection}
    (noDuplicates : collection.files.Nodup)
    {run : Run}
    (complete :
      Run.Complete checker.checkCollected collection checker.rules.failOn
        run) :
    checker.ReportsAll collection run.report := by
  have shown
      {path : String}
      (isFile : path ∈ collection.files)
      {source : SourceFile}
      (found : checker.source? path = .ok (some source)) :
      ∃ shown,
        run.report.result? path = some shown ∧
          (checker.produced source).ShownAs shown := by
    refine ⟨(checker.evaluate source).sorted, ?_, ?_⟩
    · rw [complete.result?_eq isFile, checkCollected_eq, found]
      rfl
    · exact (checker.produced_shownAs_evaluate source).trans (.sorted _)
  have unread
      {path : String}
      (isFile : path ∈ collection.files)
      (noSource : ∀ source, checker.source? path ≠ .ok (some source)) :
      run.report.result? path = none := by
    rw [complete.result?_eq isFile, checkCollected_of_no_source noSource,
      Option.map_none]
  refine
    { record := ?_
      violations := complete.violations_eq
      diagnostics := complete.diagnostics_eq
      ofFile := ?_
      shown := fun path isFile source => shown isFile
      unread := fun path isFile => unread isFile
      alone := ?_ }
  · exact
      (complete.agrees (checker.checkInTurn_complete noDuplicates)
        noDuplicates).record_eq
  · intro keepsPaths path isFile
    by_cases hasSource : ∃ source, checker.source? path = .ok (some source)
    · obtain ⟨source, found⟩ := hasSource
      obtain ⟨evaluation, isResult, isShown⟩ := shown isFile found
      have isOf := isShown.isOf (produced_isOf keepsPaths source)
      rw [path_of_source found] at isOf
      rw [Report.violationsIn, Report.diagnosticsIn, isResult]
      exact ⟨isOf.violations, isOf.diagnostics⟩
    · have noResult := unread isFile (not_exists.mp hasSource)
      rw [Report.violationsIn, Report.diagnosticsIn, noResult]
      simp
  · intro path isFile surroundings sameBytes
    let file : Collection := { files := [path], skipped := 0 }
    have aloneComplete :=
      { checker with surroundings }.checkInTurn_complete
        (show file.files.Nodup from List.nodup_singleton path)
    rw [complete.result?_eq isFile, ← checkCollected_of_sameBytes sameBytes]
    exact (aloneComplete.result?_eq (List.mem_singleton_self path)).symm

/--
Whichever worker takes which file, and in whichever order their results come in:
an ended run over collected files that nobody cancels reports all that can be
read, and its record is that of the run that takes the files in turn.
-/
theorem reportsAll_of_uncancelled
    {surroundings : Surroundings}
    {spellings patterns : List String}
    {collection : Collection}
    (collected : collect surroundings spellings patterns = .ok collection)
    (checker : Checker)
    {taken : List Step}
    (noCancel : Step.cancel ∉ taken) :
    let start :=
      Run.initial collection.files checker.rules.failOn collection.skipped
    let run := start.steps checker.checkCollected taken
    run.isOver = true →
    checker.ReportsAll collection run.report := by
  intro start run isOver
  have noDuplicates := nodup_files_of_collect collected
  exact
    checker.reportsAll_of_complete noDuplicates
      (Run.complete_of_uncancelled noDuplicates noCancel isOver)

/-- Surroundings with two files, of which only one is written correctly. -/
def twoFiles : Surroundings where
  files :=
    .directory
      [("a.py", .file "size = 1\n".toUTF8),
        ("b.py", .file "while size:\n".toUTF8)]
  directory := Path.ofString "/"
  environment := []

/-- A checker of the two files that only looks at the length of lines. -/
def twoFileChecker : Checker where
  surroundings := twoFiles
  registry := .builtin
  rules :=
    { name := "lengths"
      failOn := .warning
      exclude := []
      languages :=
        [(.python,
          [{ ruleId := lineLength.id
             enabled := true
             severity := lineLength.defaultSeverity
             params := lineLength.defaultParams }])] }

/-- Two workers check the files, and the later one is done first. -/
theorem reportsAll_of_two_workers :
    ∃ collection,
      collect twoFiles ["b.py", "a.py"] [] = .ok collection ∧
        let taken :=
          [Step.start 0, .start 1, .look 1, .look 0, .handIn 1, .handIn 0,
            .settle]
        let start :=
          Run.initial
            collection.files twoFileChecker.rules.failOn collection.skipped
        let run := start.steps twoFileChecker.checkCollected taken
        .cancel ∉ taken ∧
          run.isOver = true ∧
          twoFileChecker.reader.KeepsPaths ∧
          twoFileChecker.ReportsAll collection run.report := by
  have isKnown : (Language.ofPath? "a.py").isSome = true := by
    decide +kernel
  have isAlsoKnown : (Language.ofPath? "b.py").isSome = true := by
    decide +kernel
  have isFile :
      twoFiles.entry (Path.ofString "a.py") =
        .ok (.file "size = 1\n".toUTF8) := by
    cbv
  have isAlsoFile :
      twoFiles.entry (Path.ofString "b.py") =
        .ok (.file "while size:\n".toUTF8) := by
    cbv
  have collected :
      collect twoFiles ["b.py", "a.py"] [] =
        .ok { files := ["b.py", "a.py"], skipped := 0 } := by
    rw [collect, List.mapM_cons, List.mapM_cons,
      admission_of_file isFile (by decide +kernel) isKnown,
      admission_of_file isAlsoFile (by decide +kernel) isAlsoKnown]
    rfl
  have noCancel :
      Step.cancel ∉
        [Step.start 0, .start 1, .look 1, .look 0, .handIn 1, .handIn 0,
          .settle] := by
    decide
  have isOver :
      ((Run.initial ["b.py", "a.py"] twoFileChecker.rules.failOn 0).steps
        twoFileChecker.checkCollected
        [.start 0, .start 1, .look 1, .look 0, .handIn 1, .handIn 0,
          .settle]).isOver = true := by
    decide +kernel
  exact
    ⟨_, collected, noCancel, isOver, Reader.standard_keepsPaths,
      reportsAll_of_uncancelled collected twoFileChecker noCancel isOver⟩

end Checker

end HouseStyle
