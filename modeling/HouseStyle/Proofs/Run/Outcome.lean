import HouseStyle.Proofs.Configuration.Layering
import HouseStyle.Proofs.Run.FileByFile

namespace HouseStyle

/-!
# What decides how a run ends

A run fails by the violations that count at its threshold. Violations of advisory
rules never do, so whatever a configuration says about these rules, the same
violations fail the run, and it ends in the same way. The settings of all other
rules come from what the configuration says about them alone.
-/

/-! ## Settings that differ for some rules -/

/-- Two configurations that say the same, but for the settings of some rules. -/
structure Configuration.AgreesApartFrom
    (ids : List String)
    (left right : Configuration) :
    Prop where
  failOn : left.failOn = right.failOn
  exclude : left.exclude = right.exclude
  rules : ∀ id ∉ ids, left.rules.lookup id = right.rules.lookup id
  languages :
    ∀ (language : String), ∀ id ∉ ids,
      ((left.languages.lookup language).getD []).lookup id =
        ((right.languages.lookup language).getD []).lookup id

/-- Settings of one rule that are the same, unless the rule is one of some. -/
def RuleSettings.AgreesApartFrom
    (ids : List String)
    (left right : RuleSettings) :
    Prop :=
  left.ruleId = right.ruleId ∧ (left.ruleId ∉ ids → left = right)

/-- For a rule that they agree on, two configurations have the same layers. -/
theorem Configuration.AgreesApartFrom.lookup_layers
    {ids : List String}
    {configuration other : Configuration}
    (agree : configuration.AgreesApartFrom ids other)
    (language : Language)
    {id : String}
    (notAmong : id ∉ ids) :
    (configuration.layers language).map (fun layer => layer.table.lookup id) =
      (other.layers language).map fun layer => layer.table.lookup id := by
  simp [layers, agree.rules id notAmong, agree.languages _ id notAmong]

/-- What two configurations agree on is settled in the same way. -/
theorem Configuration.AgreesApartFrom.settled
    {ids : List String}
    {surroundings : Surroundings}
    {registry : Registry}
    {defaults configuration other : Configuration}
    (agree : configuration.AgreesApartFrom ids other)
    {language : Language}
    {settings otherSettings : Language × List RuleSettings}
    (isSettled :
      settleLanguage surroundings registry defaults configuration language =
        .ok settings)
    (isOther :
      settleLanguage surroundings registry defaults other language =
        .ok otherSettings) :
    settings.1 = otherSettings.1 ∧
      List.Forall₂ (RuleSettings.AgreesApartFrom ids)
        settings.2 otherSettings.2 := by
  obtain ⟨isLanguage, areSettled⟩ := forall₂_of_settleLanguage isSettled
  obtain ⟨otherLanguage, othersSettled⟩ := forall₂_of_settleLanguage isOther
  refine ⟨isLanguage.trans otherLanguage.symm, ?_⟩
  refine forall₂_of_common ?_ areSettled othersSettled
  intro rule setting otherSetting isSetting isOtherSetting
  obtain ⟨_, _, _, _, ruleId, _⟩ := rule.exists_layered_of_settle isSetting
  obtain ⟨_, _, _, _, otherId, _⟩ :=
    rule.exists_layered_of_settle isOtherSetting
  refine ⟨ruleId.trans otherId.symm, fun notAmong => ?_⟩
  rw [ruleId] at notAmong
  refine rule.settle_eq_of_sameLayers ?_ isSetting isOtherSetting
  rw [List.map_append, List.map_append,
    agree.lookup_layers language notAmong]

/-- Rule sets that are the same, but for the settings of some rules. -/
structure RuleSet.AgreesApartFrom
    (ids : List String)
    (left right : RuleSet) :
    Prop where
  failOn : left.failOn = right.failOn
  exclude : left.exclude = right.exclude
  settings :
    ∀ language,
      List.Forall₂ (RuleSettings.AgreesApartFrom ids)
        (left.settingsFor language) (right.settingsFor language)

/-- Lists that are related under each key are related where one is looked up. -/
theorem forall₂_lookup
    {Key Left Right : Type}
    [BEq Key]
    {related : Left → Right → Prop}
    {lefts : List (Key × List Left)}
    {rights : List (Key × List Right)}
    (agreeing :
      List.Forall₂
        (fun left right =>
          left.1 = right.1 ∧ List.Forall₂ related left.2 right.2)
        lefts rights)
    (key : Key) :
    List.Forall₂ related
      ((lefts.lookup key).getD []) ((rights.lookup key).getD []) := by
  induction agreeing with
  | nil =>
      exact .nil
  | @cons left right _ _ isFirst _ inductionHypothesis =>
      obtain ⟨named, items⟩ := left
      obtain ⟨otherNamed, otherItems⟩ := right
      obtain ⟨rfl, areRelated⟩ := isFirst
      simp only [List.lookup_cons]
      split
      · exact areRelated
      · exact inductionHypothesis

/-- What two configurations agree on is resolved in the same way. -/
theorem Configuration.AgreesApartFrom.resolved
    {ids : List String}
    {surroundings : Surroundings}
    {registry : Registry}
    {defaults configuration other : Configuration}
    (agree : configuration.AgreesApartFrom ids other)
    {rules otherRules : RuleSet}
    (isResolved :
      resolveOver surroundings registry defaults configuration = .ok rules)
    (isOther :
      resolveOver surroundings registry defaults other = .ok otherRules) :
    rules.AgreesApartFrom ids otherRules := by
  obtain ⟨languages, failOn, exclude⟩ :=
    exists_languages_of_resolveOver isResolved
  obtain ⟨otherLanguages, otherFailOn, otherExclude⟩ :=
    exists_languages_of_resolveOver isOther
  refine
    { failOn := by rw [failOn, otherFailOn, agree.failOn]
      exclude := by rw [exclude, otherExclude, agree.exclude]
      settings := ?_ }
  refine forall₂_lookup (forall₂_of_common ?_ languages otherLanguages)
  intro language settings otherSettings isSettled isOtherSettled
  exact agree.settled isSettled isOtherSettled

/-! ## Violations that count -/

/-- A rule signs its violations as advisory exactly if it is advisory. -/
theorem Rule.advisory_of_evaluate
    {rule : Rule}
    {model : SourceModel}
    {settings : RuleSettings}
    {violations : List Violation}
    (evaluated : rule.evaluate model settings = .ok violations)
    {violation : Violation}
    (member : violation ∈ violations) :
    violation.advisory = rule.advisory := by
  obtain ⟨findings, _, rfl⟩ := exists_of_map_eq_ok evaluated
  obtain ⟨finding, _, rfl⟩ := List.mem_map.mp member
  rfl

namespace Registry

/-- The violations by which the rule of some settings fails a run. -/
def counted
    (registry : Registry)
    (model : SourceModel)
    (threshold : Severity)
    (settings : RuleSettings) :
    List Violation :=
  if settings.enabled then
    (registry.verdicts model [settings]).flatMap fun verdict =>
      verdict.violations.filter (·.countsToward threshold)
  else
    []

/-- What counts of all that is produced stands setting by setting. -/
theorem filter_produced
    (registry : Registry)
    (model : SourceModel)
    (threshold : Severity)
    (settings : List RuleSettings) :
    (registry.produced model (settings.filter (·.enabled))).violations.filter
        (·.countsToward threshold) =
      settings.flatMap (registry.counted model threshold) := by
  simp only [produced, List.filter_flatMap]
  induction settings with
  | nil =>
      rfl
  | cons setting rest inductionHypothesis =>
      rw [List.flatMap_cons, ← inductionHypothesis, List.filter_cons, counted]
      split
      · rw [← List.flatMap_append, verdicts, verdicts, verdicts,
          ← List.filterMap_append, List.singleton_append]
      · rw [List.nil_append]

/-- No violation of an advisory rule counts. -/
theorem counted_of_advisory
    {registry : Registry}
    {settings : RuleSettings}
    (advisory :
      ∀ rule ∈ registry.rules,
        rule.id = settings.ruleId → rule.advisory = true)
    (model : SourceModel)
    (threshold : Severity) :
    registry.counted model threshold settings = [] := by
  unfold counted
  split
  · rw [List.flatMap_eq_nil_iff]
    intro verdict isVerdict
    obtain ⟨setting, isSetting, isOfSetting⟩ := List.mem_filterMap.mp isVerdict
    obtain rfl := List.mem_singleton.mp isSetting
    obtain ⟨rule, isFound, rfl⟩ := Option.map_eq_some_iff.mp isOfSetting
    have isAdvisory : rule.advisory = true :=
      advisory rule (List.mem_of_find?_eq_some isFound)
        (by simpa using List.find?_some isFound)
    rw [List.filter_eq_nil_iff]
    intro violation inVerdict
    unfold Verdict.violations at inVerdict
    split at inVerdict
    · next violations evaluated =>
        have signed := rule.advisory_of_evaluate evaluated inVerdict
        simp [Violation.countsToward, signed, isAdvisory]
    · cases inVerdict
  · rfl

/-- Settings that differ for advisory rules alone lead to the same failures. -/
theorem counted_congr
    {registry : Registry}
    {ids : List String}
    (advisory :
      ∀ rule ∈ registry.rules, rule.id ∈ ids → rule.advisory = true)
    {settings others : List RuleSettings}
    (agree : List.Forall₂ (RuleSettings.AgreesApartFrom ids) settings others)
    (model : SourceModel)
    (threshold : Severity) :
    settings.flatMap (registry.counted model threshold) =
      others.flatMap (registry.counted model threshold) := by
  induction agree with
  | nil =>
      rfl
  | @cons setting other _ _ isFirst _ inductionHypothesis =>
      rw [List.flatMap_cons, List.flatMap_cons, inductionHypothesis]
      congr 1
      obtain ⟨sameId, same⟩ := isFirst
      by_cases isAmong : setting.ruleId ∈ ids
      · rw [counted_of_advisory, counted_of_advisory]
        · intro rule registered isRule
          rw [← sameId] at isRule
          exact advisory rule registered (isRule ▸ isAmong)
        · intro rule registered isRule
          exact advisory rule registered (isRule ▸ isAmong)
      · rw [same isAmong]

end Registry

namespace Checker

/-- What is found in a source file, sorted, and then cut down to what counts. -/
theorem filter_evaluate
    (checker : Checker)
    (source : SourceFile)
    (keep : Violation → Bool) :
    (checker.evaluate source).violations.filter keep =
      Violation.sorted ((checker.produced source).violations.filter keep) := by
  rw [← Violation.filter_sorted]
  unfold evaluate produced
  cases checker.reader source with
  | ok model => rfl
  | error fault => simp [Violation.sorted]

variable
  {checker : Checker}
  {ids : List String}
  (advisory :
    ∀ rule ∈ checker.registry.rules, rule.id ∈ ids → rule.advisory = true)
  {otherRules : RuleSet}
  (agree : checker.rules.AgreesApartFrom ids otherRules)

include advisory agree

/-- The same violations of a source file count under both rule sets. -/
theorem filter_evaluate_congr
    (source : SourceFile)
    (threshold : Severity) :
    (checker.evaluate source).violations.filter (·.countsToward threshold) =
      ({ checker with rules := otherRules }.evaluate source).violations.filter
        (·.countsToward threshold) := by
  rw [filter_evaluate, filter_evaluate]
  congr 1
  unfold produced
  simp only
  cases checker.reader source with
  | error fault =>
      rfl
  | ok model =>
      simp only [RuleSet.enabledFor, Registry.filter_produced]
      exact
        checker.registry.counted_congr
          advisory (agree.settings source.language) model threshold

/-- The same violations at a path count under both rule sets. -/
theorem filter_checkCollected_congr
    (path : String)
    (threshold : Severity) :
    (checker.checkCollected path).map
        (fun evaluation : Evaluation =>
          evaluation.violations.filter (·.countsToward threshold)) =
      ({ checker with rules := otherRules }.checkCollected path).map
        (fun evaluation : Evaluation =>
          evaluation.violations.filter (·.countsToward threshold)) := by
  have sameSource :
      { checker with rules := otherRules }.source? path =
        checker.source? path := by
    unfold source?
    -- Under this name no tactic tries to evaluate the look-up.
    generalize Language.ofPath? path = language
    rfl
  rw [checkCollected_eq, checkCollected_eq, sameSource]
  cases (checker.source? path).toOption.join with
  | none =>
      rfl
  | some source =>
      exact
        congrArg some
          (checker.filter_evaluate_congr advisory agree source threshold)

end Checker

/-! ## How runs end -/

/-- What fails a complete run stands file by file. -/
theorem Run.Complete.failing_eq
    {check : String → Option Evaluation}
    {collection : Collection}
    {failOn : Severity}
    {run : Run}
    (complete : Run.Complete check collection failOn run) :
    run.report.failing =
      collection.files.flatMap fun path =>
        Violation.sorted
          (((check path).map fun evaluation =>
            evaluation.violations.filter (·.countsToward failOn)).getD []) := by
  rw [Report.failing, complete.violations_eq, complete.failOn,
    List.filter_flatMap]
  refine List.flatMap_congr ?_
  intro path member
  rw [Report.violationsIn, complete.result?_eq member]
  cases check path with
  | none => simp [Violation.sorted]
  | some evaluation => exact Violation.filter_sorted _ _

/-- A report that a check of some paths ends with when nobody cancels it. -/
def Checker.EndsWith
    (checker : Checker)
    (spellings : List String)
    (report : Report) :
    Prop :=
  ∃ (collection : Collection) (taken : List Step),
    collect checker.surroundings spellings checker.rules.exclude =
        .ok collection ∧
      .cancel ∉ taken ∧
      ∃ run,
        run =
            (Run.initial
              collection.files checker.rules.failOn collection.skipped).steps
                checker.checkCollected taken ∧
          run.isOver = true ∧
          report = run.report

/-- The check that takes the files in turn ends with its report. -/
theorem Checker.endsWith_checkInTurn
    {checker : Checker}
    {spellings : List String}
    {collection : Collection}
    (collected :
      collect checker.surroundings spellings checker.rules.exclude =
        .ok collection) :
    checker.EndsWith spellings (checker.checkInTurn {} collection) := by
  refine ⟨collection, inTurn {} collection.files, collected, ?_, _, rfl, ?_, rfl⟩
  · simp [inTurn, fileSteps]
  · exact Run.inTurn_isOver checker.checkCollected {} _ _ _

/-- A check that nobody cancels ends with a complete run. -/
theorem Checker.EndsWith.exists_complete
    {checker : Checker}
    {spellings : List String}
    {report : Report}
    (ends : checker.EndsWith spellings report) :
    ∃ collection run,
      collect checker.surroundings spellings checker.rules.exclude =
          .ok collection ∧
        Run.Complete
          checker.checkCollected collection checker.rules.failOn run ∧
        report = run.report := by
  obtain ⟨collection, taken, collected, noCancel, run, rfl, isOver, isReport⟩ :=
    ends
  have noDuplicates := nodup_files_of_collect collected
  exact
    ⟨collection, _, collected,
      Run.complete_of_uncancelled noDuplicates noCancel isOver, isReport⟩

/-- Rule sets that agree but for advisory rules fail runs in the same way. -/
theorem Checker.EndsWith.failing_eq
    {checker : Checker}
    {ids : List String}
    (advisory :
      ∀ rule ∈ checker.registry.rules, rule.id ∈ ids → rule.advisory = true)
    {otherRules : RuleSet}
    (agree : checker.rules.AgreesApartFrom ids otherRules)
    {spellings : List String}
    {report otherReport : Report}
    (ends : checker.EndsWith spellings report)
    (otherEnds :
      { checker with rules := otherRules }.EndsWith spellings otherReport) :
    report.failing = otherReport.failing ∧
      report.status = otherReport.status := by
  obtain ⟨collection, run, collected, complete, rfl⟩ := ends.exists_complete
  obtain ⟨otherCollection, otherRun, otherCollected, otherComplete, rfl⟩ :=
    otherEnds.exists_complete
  have sameCollection : otherCollection = collection := by
    simp only [← agree.exclude, collected, Except.ok.injEq] at otherCollected
    exact otherCollected.symm
  subst sameCollection
  have sameFailing : run.report.failing = otherRun.report.failing := by
    rw [complete.failing_eq, otherComplete.failing_eq]
    simp only [← agree.failOn,
      checker.filter_checkCollected_congr advisory agree]
  refine ⟨sameFailing, ?_⟩
  rw [Report.status, Report.status, complete.notCancelled,
    otherComplete.notCancelled, sameFailing]

/-- The rules of the library that go by word lists and not by structure. -/
def heuristicIds : List String :=
  ["verb-named-method", "explanatory-comment"]

/-- These rules are advisory. -/
theorem advisory_of_heuristic :
    ∀ rule ∈ Registry.builtin.rules,
      rule.id ∈ heuristicIds → rule.advisory = true := by
  simp [Registry.builtin, builtinRules, heuristicIds, lineLength,
    namingConvention, magicLiteral, blockDelimiter, blockLength,
    blankLinePlacement, methodSeparation, declarationOrder, verbNamedMethod,
    explanatoryComment]

/--
Whatever two configurations say about the advisory rules, two runs over the same
paths that nobody cancels fail by the same violations and end in the same way.
-/
theorem outcome_of_agreesApartFrom
    {surroundings : Surroundings}
    {configuration other : Configuration}
    {rules otherRules : RuleSet}
    (isResolved :
      resolve surroundings .builtin configuration = .ok rules)
    (isOther : resolve surroundings .builtin other = .ok otherRules)
    (agree : configuration.AgreesApartFrom heuristicIds other)
    (reader : Reader)
    {spellings : List String}
    {report otherReport : Report} :
    let checker : Checker :=
      { surroundings, registry := .builtin, rules, reader }
    checker.EndsWith spellings report →
    { checker with rules := otherRules }.EndsWith spellings otherReport →
    report.failing = otherReport.failing ∧
      report.status = otherReport.status ∧
      report.status.exitCode = otherReport.status.exitCode := by
  intro checker ends otherEnds
  obtain ⟨defaults, isPackaged, isResolved⟩ := exists_of_bind_eq_ok isResolved
  obtain ⟨otherDefaults, otherPackaged, isOther⟩ :=
    exists_of_bind_eq_ok isOther
  rw [isPackaged, Except.ok.injEq] at otherPackaged
  subst otherPackaged
  have sameRules := agree.resolved isResolved isOther
  obtain ⟨sameFailing, sameStatus⟩ :=
    Checker.EndsWith.failing_eq
      advisory_of_heuristic sameRules ends otherEnds
  exact ⟨sameFailing, sameStatus, congrArg RunStatus.exitCode sameStatus⟩

/-- A configuration in which methods have to start with one of two verbs. -/
def strictVerbs : Configuration where
  failOn := some .warning
  rules :=
    [("verb-named-method",
      [(.text "severity", .text "error"),
        (.text "params",
          .map [(.text "verbs", .list [.text "get", .text "set"])])])]

/-- The same configuration, but names of methods are not looked at. -/
def anyVerbs : Configuration where
  failOn := some .warning
  rules := [("verb-named-method", [(.text "enabled", .bool false)])]

/-- Both configurations say nothing of the other rules. -/
theorem strictVerbs_agreesApartFrom :
    strictVerbs.AgreesApartFrom heuristicIds anyVerbs where
  failOn := rfl
  exclude := rfl
  rules id notAmong := by
    have isOther : (id == "verb-named-method") = false := by
      simpa [heuristicIds] using fun same => notAmong (by simp [heuristicIds, same])
    simp [strictVerbs, anyVerbs, List.lookup_cons, isOther]
  languages _ _ _ := rfl

set_option maxRecDepth 100000 in
/-- Whether names of methods are looked at or not, two files fail alike. -/
theorem outcome_of_anyVerbs :
    ∃ rules otherRules report otherReport,
      resolve Checker.twoFiles .builtin strictVerbs = .ok rules ∧
        resolve Checker.twoFiles .builtin anyVerbs = .ok otherRules ∧
        strictVerbs.AgreesApartFrom heuristicIds anyVerbs ∧
        let checker : Checker :=
          { surroundings := Checker.twoFiles, registry := .builtin, rules }
        checker.EndsWith ["a.py", "b.py"] report ∧
          { checker with rules := otherRules }.EndsWith
            ["a.py", "b.py"] otherReport ∧
          report.failing = otherReport.failing ∧
          report.status = otherReport.status ∧
          report.status.exitCode = otherReport.status.exitCode := by
  have isKnown : (Language.ofPath? "a.py").isSome = true := by
    decide +kernel
  have isAlsoKnown : (Language.ofPath? "b.py").isSome = true := by
    decide +kernel
  have isFile :
      Checker.twoFiles.entry (Path.ofString "a.py") =
        .ok (.file "size = 1\n".toUTF8) := by
    cbv
  have isAlsoFile :
      Checker.twoFiles.entry (Path.ofString "b.py") =
        .ok (.file "while size:\n".toUTF8) := by
    cbv
  have collected :
      collect Checker.twoFiles ["a.py", "b.py"] [] =
        .ok { files := ["a.py", "b.py"], skipped := 0 } := by
    rw [collect, List.mapM_cons, List.mapM_cons,
      admission_of_file isFile (by decide +kernel) isKnown,
      admission_of_file isAlsoFile (by decide +kernel) isAlsoKnown]
    rfl
  have accepted :
      (resolve Checker.twoFiles .builtin strictVerbs).toOption.map
        RuleSet.exclude = some [] := by
    decide +kernel
  have alsoAccepted :
      (resolve Checker.twoFiles .builtin anyVerbs).toOption.map
        RuleSet.exclude = some [] := by
    decide +kernel
  obtain ⟨rules, isResolved, noPatterns⟩ := Option.map_eq_some_iff.mp accepted
  obtain ⟨otherRules, isOther, noOtherPatterns⟩ :=
    Option.map_eq_some_iff.mp alsoAccepted
  have isResolved := eq_ok_of_toOption_eq_some isResolved
  have isOther := eq_ok_of_toOption_eq_some isOther
  let checker : Checker :=
    { surroundings := Checker.twoFiles, registry := .builtin, rules }
  have ends :
      checker.EndsWith ["a.py", "b.py"] (checker.checkInTurn {} _) :=
    Checker.endsWith_checkInTurn (by rw [noPatterns]; exact collected)
  have otherEnds :
      { checker with rules := otherRules }.EndsWith ["a.py", "b.py"]
        ({ checker with rules := otherRules }.checkInTurn {} _) :=
    Checker.endsWith_checkInTurn (by rw [noOtherPatterns]; exact collected)
  exact
    ⟨rules, otherRules, _, _, isResolved, isOther, strictVerbs_agreesApartFrom,
      ends, otherEnds,
      outcome_of_agreesApartFrom
        isResolved isOther strictVerbs_agreesApartFrom _ ends otherEnds⟩

end HouseStyle
