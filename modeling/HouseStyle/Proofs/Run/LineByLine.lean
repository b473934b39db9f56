import HouseStyle.Proofs.Configuration.Layering
import HouseStyle.Proofs.Report.TextLines
import HouseStyle.Proofs.Rule.Resolved
import HouseStyle.Proofs.Rule.ShownNames
import Mathlib

namespace HouseStyle

/-!
# Runs that are reported line by line

With the packaged settings, the only thing that brings line breaks into messages is
a literal: a string may span lines, and it is shown as it is written. Everything
else that is said stands on one line, of a file that cannot be read and of a rule
that fails too. This holds whatever the files are, and of every run over them.
-/

/-! ## What is found in a file -/

/-- A rule of the library takes the settings, and their patterns stand on one line. -/
def RuleSettings.IsPlain (settings : RuleSettings) : Prop :=
  ∀ rule,
    Registry.builtin.find? settings.ruleId = some rule →
    rule.validate settings.params = .ok () ∧
      settings.params.hasOneLinePatterns = true

namespace Registry

theorem isOneLine_id :
    ∀ rule ∈ builtin.rules, IsOneLine rule.id := by
  decide

section Rules

variable
  {model : SourceModel}
  (breaks : model.BreaksOnlyInStrings)

include breaks

/-- What a rule of the library signs is plain, and so is why it fails. -/
theorem evaluate_tells
    {rule : Rule}
    {settings : RuleSettings}
    (isPlain : settings.IsPlain)
    (isFound : builtin.find? settings.ruleId = some rule) :
    Tells (fun violations => ∀ violation ∈ violations, violation.IsPlain model.tokens)
      (rule.evaluate model settings) := by
  obtain ⟨accepted, onOneLine⟩ := isPlain rule isFound
  have member : rule ∈ builtin.rules := List.mem_of_find?_eq_some isFound
  refine (builtin_tells breaks member accepted onOneLine).map ?_
  intro findings arePlain violation isSigned
  obtain ⟨finding, isFinding, rfl⟩ := List.mem_map.mp isSigned
  have isPlain := arePlain finding isFinding
  exact ⟨isOneLine_id rule member, isPlain.message, isPlain.wholeColumn⟩

/-- So with plain settings, all that is said of a model is plain. -/
theorem evaluate_isPlain
    (onOneLine : IsOneLine model.path)
    {settings : List RuleSettings}
    (arePlain : ∀ setting ∈ settings, setting.IsPlain) :
    (builtin.evaluate model settings).IsPlain model.tokens := by
  have ofVerdict :
      ∀ verdict ∈ builtin.verdicts model settings,
        IsOneLine verdict.ruleId ∧
          Tells
            (fun violations =>
              ∀ violation ∈ violations, violation.IsPlain model.tokens)
            verdict.outcome := by
    intro verdict isVerdict
    obtain ⟨setting, member, isVerdict⟩ := List.mem_filterMap.mp isVerdict
    obtain ⟨rule, isFound, rfl⟩ := Option.map_eq_some_iff.mp isVerdict
    exact
      ⟨isOneLine_id rule (List.mem_of_find?_eq_some isFound),
        evaluate_tells breaks (arePlain setting member) isFound⟩
  refine ⟨fun violation member => ?_, fun diagnostic member => ?_⟩
  · simp only [evaluate, Violation.sorted, List.mem_mergeSort,
      List.mem_flatMap] at member
    obtain ⟨verdict, isVerdict, inVerdict⟩ := member
    obtain ⟨_, tells⟩ := ofVerdict verdict isVerdict
    unfold Verdict.violations at inVerdict
    split at inVerdict
    · next violations isOutcome =>
        rw [isOutcome] at tells
        exact tells violation inVerdict
    · cases inVerdict
  · simp only [evaluate, Diagnostic.sorted, List.mem_mergeSort,
      List.mem_filterMap] at member
    obtain ⟨verdict, isVerdict, isDiagnostic⟩ := member
    obtain ⟨isId, tells⟩ := ofVerdict verdict isVerdict
    unfold Verdict.diagnostic? at isDiagnostic
    split at isDiagnostic
    · cases isDiagnostic
    · next fault isOutcome =>
        cases isDiagnostic
        rw [isOutcome] at tells
        have isFault : IsOneLine fault.message := tells
        have words : IsOneLine "rule '" ∧ IsOneLine "' failed on " ∧ IsOneLine ": " := by
          decide
        exact ⟨isId, by simp [isId, isFault, onOneLine, words]⟩

end Rules

end Registry

/-- The tokens of a file, if it can be read into a model. -/
def SourceFile.tokens (source : SourceFile) : Array Token :=
  match SourceModel.build source with
  | .ok model => model.tokens
  | .error _ => #[]

/-- All settings for all languages are plain. -/
def RuleSet.IsPlain (rules : RuleSet) : Prop :=
  ∀ language, ∀ settings ∈ rules.settingsFor language, settings.IsPlain

namespace Checker

/-- The checker with the rules and the reader of the library. -/
def standard
    (surroundings : Surroundings)
    (rules : RuleSet) :
    Checker :=
  { surroundings, registry := .builtin, rules }

section OneFile

variable
  {surroundings : Surroundings}
  {rules : RuleSet}
  (isPlain : rules.IsPlain)

include isPlain

/-- What is found in a file is plain, whether it can be read or not. -/
theorem evaluate_isPlain
    {source : SourceFile}
    (onOneLine : IsOneLine source.path) :
    ((standard surroundings rules).evaluate source).IsPlain source.tokens := by
  unfold evaluate standard SourceFile.tokens
  simp only [Reader.standard]
  cases built : SourceModel.build source with
  | ok model =>
      have isPath : model.path = source.path :=
        Reader.standard_keepsPaths source model (by rw [Reader.standard, built]; rfl)
      refine
        Registry.evaluate_isPlain
          (SourceModel.breaksOnlyInStrings_of_build built) (isPath ▸ onOneLine) ?_
      exact fun setting member =>
        isPlain source.language setting (List.mem_of_mem_filter member)
  | error fault =>
      refine ⟨fun violation member => ?_, List.forall_mem_nil _⟩
      obtain rfl := List.mem_singleton.mp member
      have isFault : IsOneLine fault.cause.message :=
        SourceModel.isOneLine_of_refused built
      have isLanguage :
          IsOneLine ("Cannot parse as " ++ source.language.name ++ ": ") := by
        cases source.language <;> decide
      have isId : IsOneLine unparseableId := by
        decide
      exact ⟨isId, .inl (isOneLine_append.mpr ⟨isLanguage, isFault⟩), rfl⟩

end OneFile

/-- The tokens of the file at a path, if it is there and can be read. -/
def tokensAt
    (checker : Checker)
    (path : String) :
    Array Token :=
  match checker.source? path with
  | .ok (some source) => source.tokens
  | _ => #[]

/-- The tokens at a path are those of its source file. -/
theorem tokensAt_eq
    {checker : Checker}
    {path : String}
    {source : SourceFile}
    (isThere : checker.source? path = .ok (some source)) :
    checker.tokensAt path = source.tokens := by
  unfold tokensAt
  -- Under this name no tactic tries to evaluate the look-up.
  generalize checker.source? path = found at isThere ⊢
  subst isThere
  rfl

end Checker

/-! ## What a run reports -/

namespace Checker

/-- What has been found at a path was found in its source file. -/
theorem exists_source_of_checkCollected
    {checker : Checker}
    {path : String}
    {found : Evaluation}
    (isFound : checker.checkCollected path = some found) :
    ∃ source,
      checker.source? path = .ok (some source) ∧ checker.evaluate source = found := by
  rw [checkCollected_eq] at isFound
  obtain ⟨source, isSource, isEvaluated⟩ := Option.map_eq_some_iff.mp isFound
  cases isThere : checker.source? path with
  | error fault =>
      rw [isThere] at isSource
      cases isSource
  | ok found =>
      rw [isThere] at isSource
      cases isSource
      exact ⟨source, rfl, isEvaluated⟩

section OneRun

variable
  {surroundings : Surroundings}
  {rules : RuleSet}
  {collection : Collection}
  (isPlain : rules.IsPlain)
  (noDuplicates : collection.files.Nodup)
  (onOneLine : ∀ path ∈ collection.files, IsOneLine path)
  (failOn : Severity)
  (taken : List Step)

include isPlain noDuplicates onOneLine

/-- Whatever steps a run takes, its report is plain. -/
theorem report_isPlain :
    let checker := standard surroundings rules
    let start := Run.initial collection.files failOn collection.skipped
    (start.steps checker.checkCollected taken).report.IsPlain checker.tokensAt := by
  intro checker start
  have reports :=
    Run.reportsOn_of_nodup noDuplicates checker.checkCollected failOn taken
  have ofResult
      {path : String}
      {evaluation : Evaluation}
      (isResult :
        (start.steps checker.checkCollected taken).report.result? path =
          some evaluation) :
      IsOneLine path ∧
        evaluation.IsOf path ∧ evaluation.IsPlain (checker.tokensAt path) := by
    obtain ⟨isFile, found, isFound, rfl⟩ :=
      reports.whole path evaluation (mem_of_lookup isResult)
    obtain ⟨source, isThere, rfl⟩ := exists_source_of_checkCollected isFound
    have isPath := path_of_source isThere
    subst isPath
    have sorted := Evaluation.ShownAs.sorted (checker.evaluate source)
    have isShown := (checker.produced_shownAs_evaluate source).trans sorted
    have isOf := isShown.isOf (produced_isOf Reader.standard_keepsPaths source)
    have ofSource : (checker.evaluate source).IsPlain source.tokens :=
      evaluate_isPlain isPlain (onOneLine source.path isFile)
    rw [tokensAt_eq isThere]
    exact ⟨onOneLine source.path isFile, isOf, ofSource.shown sorted⟩
  refine ⟨fun violation member => ?_, fun diagnostic member => ?_⟩
  · obtain ⟨evaluation, inOrder, isFound⟩ := List.mem_flatMap.mp member
    obtain ⟨path, isListed, isResult⟩ := List.mem_filterMap.mp inOrder
    obtain ⟨isPath, isOf, isPlain⟩ := ofResult isResult
    rw [isOf.violations violation isFound]
    exact ⟨isListed, isPath, isPlain.violations violation isFound⟩
  · obtain ⟨evaluation, inOrder, isFound⟩ := List.mem_flatMap.mp member
    obtain ⟨path, _, isResult⟩ := List.mem_filterMap.mp inOrder
    obtain ⟨isPath, isOf, isPlain⟩ := ofResult isResult
    rw [isOf.diagnostics diagnostic isFound]
    exact ⟨isPath, isPlain.diagnostics diagnostic isFound⟩

end OneRun

end Checker

/-! ## The packaged settings -/

/-- No pattern for names holds a line break, for any language. -/
def RuleSet.hasOneLinePatterns (rules : RuleSet) : Bool :=
  rules.languages.all fun entry => entry.2.all (·.params.hasOneLinePatterns)

/-- Resolved settings are plain where their patterns stand on one line. -/
theorem RuleSet.isPlain_of_resolveOver
    {surroundings : Surroundings}
    {defaults overrides : Configuration}
    {rules : RuleSet}
    (isResolved :
      resolveOver surroundings .builtin defaults overrides = .ok rules)
    (onOneLine : rules.hasOneLinePatterns = true) :
    rules.IsPlain := by
  intro language settings member rule isFound
  have distinct : Registry.builtin.ids.Nodup := by
    decide +kernel
  have isRegistered := List.mem_of_find?_eq_some isFound
  have isNamed := List.find?_some isFound
  have sameId : settings.ruleId = rule.id := (eq_of_beq isNamed).symm
  obtain ⟨settled, _, isSettled, isOnly⟩ :=
    exists_settings_of_resolveOver distinct isResolved language isRegistered
  obtain rfl := isOnly settings member sameId
  refine ⟨rule.accepts_of_settle isSettled, ?_⟩
  unfold settingsFor at member
  cases isThere : rules.languages.lookup language with
  | none =>
      rw [isThere] at member
      cases member
  | some all =>
      rw [isThere] at member
      have isEntry := mem_of_lookup isThere
      have ofLanguage := List.all_eq_true.mp onOneLine (language, all) isEntry
      exact List.all_eq_true.mp ofLanguage settings member

/-- What to leave out and what fails a run matter to no rule's settings. -/
theorem resolveOver_adding
    (surroundings : Surroundings)
    (registry : Registry)
    (defaults : Configuration)
    (exclude : List String)
    (failOn : Option Severity) :
    resolveOver surroundings registry defaults { exclude, failOn } =
      (resolveOver surroundings registry defaults {}).map fun rules =>
        { rules with
          exclude := defaults.exclude ++ exclude
          failOn := (failOn.or defaults.failOn).getD .warning } := by
  have sameSettings :
      settleLanguage surroundings registry defaults { exclude, failOn } =
        settleLanguage surroundings registry defaults {} := rfl
  have sameIds :
      ({ exclude, failOn } : Configuration).checkIds registry =
        ({} : Configuration).checkIds registry := rfl
  unfold resolveOver
  rw [sameSettings, sameIds]
  cases defaults.checkIds registry with
  | error fault => rfl
  | ok _ =>
      cases ({} : Configuration).checkIds registry with
      | error fault => rfl
      | ok _ =>
          simp only [ok_bind]
          cases Language.sorted.mapM
            (settleLanguage surroundings registry defaults {}) <;> rfl

/-- No rule is left with the name of a list of words, for any language. -/
def Configuration.namesNoWords
    (defaults overrides : Configuration)
    (registry : Registry) :
    Bool :=
  Language.sorted.all fun language =>
    registry.rules.all fun rule =>
      rule.namesNoWords (defaults.layers language ++ overrides.layers language)

set_option maxRecDepth 100000 in
/-- The packaged settings are accepted in all surroundings, and they are plain. -/
theorem exists_isPlain_of_packaged
    (surroundings : Surroundings)
    (exclude : List String)
    (failOn : Option Severity) :
    ∃ rules,
      resolve surroundings .builtin { exclude, failOn } = .ok rules ∧
        rules.IsPlain := by
  have packaged :
      Configuration.packaged.toOption.map (fun defaults =>
        (defaults.namesNoWords {} .builtin,
          (resolveOver emptyDisk .builtin defaults {}).toOption.map
            RuleSet.hasOneLinePatterns)) =
        some (true, some true) := by
    decide +kernel
  obtain ⟨defaults, isPackaged, facts⟩ := Option.map_eq_some_iff.mp packaged
  obtain ⟨namesNone, isAccepted⟩ := Prod.mk.inj facts
  obtain ⟨rules, isResolved, onOneLine⟩ := Option.map_eq_some_iff.mp isAccepted
  have isPackaged := eq_ok_of_toOption_eq_some isPackaged
  have isResolved := eq_ok_of_toOption_eq_some isResolved
  have ofRule :
      ∀ language, ∀ rule ∈ Registry.builtin.rules,
        rule.namesNoWords
          (defaults.layers language ++ ({} : Configuration).layers language) = true := by
    intro language rule member
    have isLanguage : language ∈ Language.sorted := by
      cases language <;> decide
    exact
      List.all_eq_true.mp (List.all_eq_true.mp namesNone language isLanguage) rule member
  have isAdded :
      resolveOver surroundings .builtin defaults { exclude, failOn } =
        .ok
          { rules with
            exclude := defaults.exclude ++ exclude
            failOn := (failOn.or defaults.failOn).getD .warning } := by
    rw [resolveOver_adding, resolveOver_congr surroundings emptyDisk ofRule, isResolved]
    rfl
  refine ⟨_, ?_, RuleSet.isPlain_of_resolveOver isAdded onOneLine⟩
  rw [resolve, isPackaged, ok_bind, isAdded]

/--
With the packaged settings, every run over files whose paths stand on one line is
reported line by line, whatever the files are and whatever steps the run takes.
-/
theorem exists_tellsByLine_of_packaged
    (surroundings : Surroundings)
    (exclude : List String)
    (failOn : Option Severity) :
    ∃ rules,
      resolve surroundings .builtin { exclude, failOn } = .ok rules ∧
        ∀ spellings collection,
          collect surroundings spellings rules.exclude = .ok collection →
          (∀ path ∈ collection.files, IsOneLine path) →
          ∀ taken,
            let checker := Checker.standard surroundings rules
            let start :=
              Run.initial collection.files rules.failOn collection.skipped
            (start.steps checker.checkCollected taken).report.TellsByLine
              checker.tokensAt := by
  obtain ⟨rules, isResolved, isPlain⟩ :=
    exists_isPlain_of_packaged surroundings exclude failOn
  refine ⟨rules, isResolved, ?_⟩
  intro spellings collection collected onOneLine taken
  have noDuplicates := nodup_files_of_collect collected
  exact
    (Checker.report_isPlain isPlain noDuplicates onOneLine _ taken).tellsByLine

/-- Two workers check two files, of which one cannot be read into a model. -/
theorem tellsByLine_of_two_workers :
    ∃ rules collection,
      resolve Checker.twoFiles .builtin {} = .ok rules ∧
        collect Checker.twoFiles ["b.py", "a.py"] rules.exclude = .ok collection ∧
        collection.files = ["b.py", "a.py"] ∧
        let checker := Checker.standard Checker.twoFiles rules
        let start :=
          Run.initial collection.files rules.failOn collection.skipped
        (start.steps checker.checkCollected
          [.start 0, .start 1, .look 1, .look 0, .handIn 1, .handIn 0,
            .settle]).report.TellsByLine checker.tokensAt := by
  obtain ⟨rules, isResolved, tells⟩ :=
    exists_tellsByLine_of_packaged Checker.twoFiles [] none
  have noPatterns :
      (resolve Checker.twoFiles .builtin {}).toOption.map RuleSet.exclude =
        some [] := by
    decide +kernel
  have collected :
      (collect Checker.twoFiles ["b.py", "a.py"] []).toOption =
        some { files := ["b.py", "a.py"], skipped := 0 } := by
    decide +kernel
  have onOneLine : ∀ path ∈ ["b.py", "a.py"], IsOneLine path := by
    decide
  rw [isResolved] at noPatterns
  have noPatterns : rules.exclude = [] := Option.some.inj noPatterns
  have collected :
      collect Checker.twoFiles ["b.py", "a.py"] rules.exclude =
        .ok { files := ["b.py", "a.py"], skipped := 0 } := by
    rw [noPatterns]
    exact eq_ok_of_toOption_eq_some collected
  exact
    ⟨rules, _, isResolved, collected, rfl, tells _ _ collected onOneLine _⟩

/-! ## A literal over two lines -/

/-- A call with a template over two lines. -/
def twoLineTemplate : SourceFile where
  path := "a.js"
  text := "f(`a\nb`);\n"
  language := .javascript

/-- The model of that file. -/
def templateModel : SourceModel where
  path := "a.js"
  language := .javascript
  lines := #[⟨1, "f(`a"⟩, ⟨2, "b`);"⟩]
  tokens :=
    #[⟨.identifier, "f", ⟨1, 1⟩, ⟨1, 1⟩⟩, ⟨.delimiter, "(", ⟨1, 2⟩, ⟨1, 2⟩⟩,
      ⟨.string, "`a\nb`", ⟨1, 3⟩, ⟨2, 2⟩⟩, ⟨.delimiter, ")", ⟨2, 3⟩, ⟨2, 3⟩⟩,
      ⟨.delimiter, ";", ⟨2, 4⟩, ⟨2, 4⟩⟩]
  outline :=
    { statements := #[⟨0, .simple, 0, 4, 1, 2, none, none, 0⟩]
      blocks := #[]
      topLevel := #[0] }
  declarations := []

/-- What is found there: the literal has no name, and it is shown as it is written. -/
def unnamedTemplate : Violation where
  ruleId := magicLiteral.id
  path := "a.js"
  line := 1
  column := 3
  severity := .warning
  message := "Magic literal `a\nb` in call; bind it to a named constant"
  advisory := false

namespace Checker

/-- Surroundings with nothing but that file. -/
def templateDisk : Surroundings where
  files := .directory [("a.js", .file twoLineTemplate.text.toUTF8)]
  directory := Path.ofString "/"
  environment := []

/-- Only the surroundings decide which source file stands at a path. -/
theorem source?_congr
    {checker other : Checker}
    (same : checker.surroundings = other.surroundings)
    (path : String) :
    checker.source? path = other.source? path := by
  unfold source?
  rw [same]

/-- The report on one file that is read says what is found in it. -/
theorem checkInTurn_of_one_file
    {checker : Checker}
    {path : String}
    {source : SourceFile}
    (isThere : checker.source? path = .ok (some source)) :
    let report := checker.checkInTurn {} { files := [path], skipped := 0 }
    report.violations = (checker.evaluate source).sorted.violations ∧
      report.diagnostics = (checker.evaluate source).sorted.diagnostics := by
  intro report
  have complete :=
    checker.checkInTurn_complete
      (show ({ files := [path], skipped := 0 } : Collection).files.Nodup from
        List.nodup_singleton path)
  have isFound : checker.checkCollected path = some (checker.evaluate source) := by
    rw [checkCollected_eq, isThere]
    rfl
  have isResult : report.result? path = some (checker.evaluate source).sorted := by
    have isResult := complete.result?_eq (List.mem_singleton_self path)
    rwa [isFound] at isResult
  have violations : report.violations = [path].flatMap report.violationsIn :=
    complete.violations_eq
  have diagnostics : report.diagnostics = [path].flatMap report.diagnosticsIn :=
    complete.diagnostics_eq
  rw [violations, diagnostics, List.flatMap_singleton, List.flatMap_singleton,
    Report.violationsIn, Report.diagnosticsIn, isResult]
  exact ⟨rfl, rfl⟩

end Checker

set_option maxRecDepth 100000 in
/-- The one finding for the template takes two lines of the report. -/
theorem two_lines_of_twoLineTemplate :
    ∃ rules collection,
      resolve Checker.templateDisk .builtin {} = .ok rules ∧
        collect Checker.templateDisk ["a.js"] rules.exclude = .ok collection ∧
        (∀ path ∈ collection.files, IsOneLine path) ∧
        let checker := Checker.standard Checker.templateDisk rules
        let report := checker.checkInTurn {} collection
        report.violations.length + report.diagnostics.length = 1 ∧
          linesOf report.text =
            ["a.js:1:3: warning [magic-literal] Magic literal `a",
              "b` in call; bind it to a named constant"] := by
  have built : (SourceModel.build twoLineTemplate).toOption = some templateModel := by
    decide +kernel
  have evaluated :
      (resolve Checker.templateDisk .builtin {}).toOption.map (fun rules =>
        (rules.exclude,
          Registry.builtin.evaluate templateModel (rules.enabledFor .javascript))) =
        some ([], { violations := [unnamedTemplate] }) := by
    decide +kernel
  have collected :
      (collect Checker.templateDisk ["a.js"] []).toOption =
        some { files := ["a.js"], skipped := 0 } := by
    decide +kernel
  have isThere :
      ((Checker.standard Checker.templateDisk default).source? "a.js").toOption =
        some (some twoLineTemplate) := by
    decide +kernel
  obtain ⟨rules, isResolved, facts⟩ := Option.map_eq_some_iff.mp evaluated
  obtain ⟨noPatterns, isEvaluated⟩ := Prod.mk.inj facts
  have collected :
      collect Checker.templateDisk ["a.js"] rules.exclude =
        .ok { files := ["a.js"], skipped := 0 } := by
    rw [noPatterns]
    exact eq_ok_of_toOption_eq_some collected
  have isThere :
      (Checker.standard Checker.templateDisk rules).source? "a.js" =
        .ok (some twoLineTemplate) := by
    rw [Checker.source?_congr rfl]
    exact eq_ok_of_toOption_eq_some isThere
  have isEvaluated :
      (Checker.standard Checker.templateDisk rules).evaluate twoLineTemplate =
        { violations := [unnamedTemplate] } := by
    rw [← isEvaluated, Checker.evaluate]
    simp only [Checker.standard, Reader.standard, eq_ok_of_toOption_eq_some built]
    rfl
  obtain ⟨violations, diagnostics⟩ := Checker.checkInTurn_of_one_file isThere
  rw [isEvaluated] at violations diagnostics
  refine
    ⟨rules, _, eq_ok_of_toOption_eq_some isResolved, collected, by decide, ?_, ?_⟩
  · rw [violations, diagnostics]
    decide +kernel
  · rw [Report.text, Report.textLines, violations, diagnostics]
    decide +kernel

end HouseStyle
