import HouseStyle.Proofs.Rule.Answering
import HouseStyle.Proofs.Run.Reporting
import HouseStyle.Proofs.Source.Reading
import HouseStyle.Rule.Evaluation

namespace HouseStyle

/-!
# Resolved settings leave rules nothing to fail on

The rules that go by the structure of a file answer for every model that is built,
with the settings that any accepted configuration comes to, unless an integer that
a message shows is too long to be written out. Nothing else makes one of them fail,
and where it answers, no diagnostic is about it.
-/

/-- The rules that look at nothing but the structure of a file and its names. -/
def structuralRules : List Rule :=
  [lineLength, namingConvention, blockDelimiter, blockLength,
    blankLinePlacement, methodSeparation, declarationOrder, verbNamedMethod]

/-- Settings with which every integer that a message may show can be written out. -/
structure RuleSettings.IsWritable
    (settings : RuleSettings)
    (source : SourceFile) :
    Prop where
  text : source.text.length < 10 ^ greatestDigitCount
  params : settings.params.AreWritable

/-- How a structural rule can fail: with an integer that is too long. -/
def RuleSettings.IsExpected
    (settings : RuleSettings)
    (source : SourceFile)
    (fault : RuleFault) :
    Prop :=
  fault = .longInteger ∧ ¬ settings.IsWritable source

/-! ## One rule -/

section OneRule

variable
  {source : SourceFile}
  {model : SourceModel}
  {settings : RuleSettings}

/-- The rule for lengths of lines answers. -/
theorem failsOnly_lineLength
    (holds : model.HoldsRows source)
    (accepted : lineLength.validate settings.params = .ok ()) :
    FailsOnly (settings.IsExpected source) (lineLength.check model settings) := by
  obtain ⟨soft, hard, severity, accepted⟩ := Limits.exists_accepted accepted
  simp only [lineLength, accepted.read, ok_bind]
  have ofLines :
      ∀ line ∈ model.lines.toList, line.length ≤ source.text.length :=
    fun line member => holds.length_le (Array.mem_toList_iff.mp member)
  refine (accepted.failsOnly_findings settings.severity _ ofLines).mono ?_
  rintro fault ⟨isLong, isTooLong⟩
  exact ⟨isLong, fun isWritable => Nat.lt_asymm isTooLong isWritable.text⟩

/-- The rule for lengths of methods answers. -/
theorem failsOnly_blockLength
    (holds : model.HoldsRows source)
    (accepted : blockLength.validate settings.params = .ok ()) :
    FailsOnly (settings.IsExpected source)
      (blockLength.check model settings) := by
  obtain ⟨soft, hard, severity, accepted⟩ := Limits.exists_accepted accepted
  simp only [blockLength, accepted.read, ok_bind]
  have ofMethods :
      ∀ block ∈ BlockLength.methods model,
        block.lineCount ≤ source.text.length + 1 := by
    intro block isMethod
    exact holds.lineCount_le (Array.mem_toList_iff.mp (List.mem_of_mem_filter isMethod))
  refine (accepted.failsOnly_findings settings.severity _ ofMethods).mono ?_
  rintro fault ⟨isLong, isTooLong⟩
  exact
    ⟨isLong, fun isWritable =>
      Nat.not_lt_of_le (Nat.le_of_lt_succ isTooLong) isWritable.text⟩

/-- The rule for blank lines around blocks answers. -/
theorem answers_blankLinePlacement
    (holds : model.HoldsRows source)
    (fit : Entries.Fit blankLinePlacement.defaultParams settings.params) :
    Answers (blankLinePlacement.check model settings) := by
  have isDefault :
      blankLinePlacement.defaultParams.get? "check_returns" =
        some (.bool true) := rfl
  refine (fit.answers_flagParam isDefault).bind fun checkReturns _ => ?_
  exact BlankLinePlacement.answers_findings holds checkReturns settings.severity

/-- The rule for blank lines between methods answers. -/
theorem failsOnly_methodSeparation
    (holds : model.HoldsRows source)
    (fit : Entries.Fit methodSeparation.defaultParams settings.params) :
    FailsOnly (settings.IsExpected source)
      (methodSeparation.check model settings) := by
  have isDefault :
      methodSeparation.defaultParams.get? "blank_lines" = some (.int 2) := rfl
  obtain ⟨expected, isRead, isThere⟩ := fit.exists_param isDefault
  simp only [methodSeparation, isRead, ok_bind]
  have ofFindings :=
    MethodSeparation.failsOnly_findings holds expected settings.severity
  refine ofFindings.mono ?_
  rintro fault ⟨isLong, isTooLong⟩
  refine ⟨isLong, fun isWritable => ?_⟩
  have isShort := isWritable.params "blank_lines" (by simp) expected isThere
  rw [isTooLong] at isShort
  cases isShort

theorem failsOnly_verbNamedMethod
    (model : SourceModel)
    (fit : Entries.Fit verbNamedMethod.defaultParams settings.params)
    (accepted : verbNamedMethod.validate settings.params = .ok ()) :
    FailsOnly (settings.IsExpected source)
      (verbNamedMethod.check model settings) := by
  refine (VerbNamedMethod.failsOnly_check fit accepted model).mono ?_
  rintro fault ⟨isLong, notWritable⟩
  exact ⟨isLong, fun isWritable => notWritable isWritable.params⟩

/-- Whatever structural rule it is, it answers, or an integer is too long. -/
theorem failsOnly_of_structural
    (holds : model.HoldsRows source)
    {rule : Rule}
    (isStructural : rule ∈ structuralRules)
    (fit : Entries.Fit rule.defaultParams settings.params)
    (accepted : rule.validate settings.params = .ok ()) :
    FailsOnly (settings.IsExpected source) (rule.evaluate model settings) := by
  refine FailsOnly.map ?_ _
  simp only [structuralRules, List.mem_cons, List.not_mem_nil, or_false]
    at isStructural
  rcases isStructural with rfl | rfl | rfl | rfl | rfl | rfl | rfl | rfl
  · exact failsOnly_lineLength holds accepted
  · exact (NamingConvention.answers_check fit accepted model).failsOnly
  · exact .ok _
  · exact failsOnly_blockLength holds accepted
  · exact (answers_blankLinePlacement holds fit).failsOnly
  · exact failsOnly_methodSeparation holds fit
  · exact (DeclarationOrder.answers_check accepted model).failsOnly
  · exact failsOnly_verbNamedMethod model fit accepted

/-- A structural rule that takes verbs takes a list of them. -/
theorem takesVerbList_of_structural
    {rule : Rule}
    (isStructural : rule ∈ structuralRules) :
    rule.TakesVerbList := by
  intro default isDefault
  simp only [structuralRules, List.mem_cons, List.not_mem_nil, or_false]
    at isStructural
  rcases isStructural with rfl | rfl | rfl | rfl | rfl | rfl | rfl | rfl <;>
    cases isDefault
  rfl

end OneRule

/-! ## The settings of a rule -/

/-- The tables of rules of a configuration. -/
def Configuration.tables (configuration : Configuration) : List RuleTable :=
  configuration.rules :: configuration.languages.map Prod.snd

/-- The settings of each rule are a mapping: none of its names stands there twice. -/
def Configuration.HasMappings (configuration : Configuration) : Prop :=
  ∀ table ∈ configuration.tables, ∀ entry ∈ table,
    (Entries.names entry.2).Nodup

instance (configuration : Configuration) : Decidable configuration.HasMappings :=
  inferInstanceAs
    (Decidable
      (∀ table ∈ configuration.tables, ∀ entry ∈ table,
        (Entries.names entry.2).Nodup))

theorem mem_of_lookup
    {Key Value : Type}
    [BEq Key]
    [LawfulBEq Key]
    {table : List (Key × Value)}
    {key : Key}
    {value : Value}
    (isFound : table.lookup key = some value) :
    (key, value) ∈ table := by
  obtain ⟨before, after, rfl, _⟩ := List.lookup_eq_some_iff.mp isFound
  simp

/-- The layers of a configuration hold settings with distinct names. -/
theorem Configuration.HasMappings.layers
    {configuration : Configuration}
    (hasMappings : configuration.HasMappings)
    (language : Language) :
    Rule.HaveDistinctNames (configuration.layers language) := by
  intro layer isLayer id settings isFound
  have isEntry := mem_of_lookup isFound
  simp only [Configuration.layers, List.mem_cons, List.not_mem_nil, or_false]
    at isLayer
  rcases isLayer with rfl | rfl
  · exact hasMappings _ (List.mem_cons_self ..) _ isEntry
  · simp only at isEntry
    cases isTable : configuration.languages.lookup language.name with
    | none =>
        rw [isTable] at isEntry
        cases isEntry
    | some table =>
        rw [isTable] at isEntry
        refine hasMappings table (List.mem_cons_of_mem _ ?_) _ isEntry
        exact List.mem_map.mpr ⟨_, mem_of_lookup isTable, rfl⟩

/-- So do the layers of two configurations, one over the other. -/
theorem Configuration.HasMappings.append_layers
    {defaults overrides : Configuration}
    (defaultsAreMappings : defaults.HasMappings)
    (overridesAreMappings : overrides.HasMappings)
    (language : Language) :
    Rule.HaveDistinctNames
      (defaults.layers language ++ overrides.layers language) := by
  intro layer isLayer
  rcases List.mem_append.mp isLayer with isDefault | isOverride
  · exact defaultsAreMappings.layers language layer isDefault
  · exact overridesAreMappings.layers language layer isOverride

/-- Under every language a list of settings is found that was settled for it. -/
theorem exists_of_lookup_settled
    {settle : Language → Except ConfigFailure (Language × List RuleSettings)}
    (keepsLanguage :
      ∀ language settled, settle language = .ok settled → settled.1 = language)
    {languages : List Language}
    {settled : List (Language × List RuleSettings)}
    (areSettled :
      List.Forall₂ (fun language settled => settle language = .ok settled)
        languages settled)
    {language : Language}
    (member : language ∈ languages) :
    ∃ settings,
      settled.lookup language = some settings ∧
        settle language = .ok (language, settings) := by
  induction areSettled with
  | nil =>
      cases member
  | @cons first found _ _ isFirst _ inductionHypothesis =>
      obtain ⟨named, settings⟩ := found
      have sameName : named = first := keepsLanguage first _ isFirst
      subst sameName
      rw [List.lookup_cons]
      split
      · next isSame =>
          rw [eq_of_beq isSame]
          exact ⟨settings, rfl, isFirst⟩
      · next isOther =>
          rcases List.mem_cons.mp member with rfl | inRest
          · simp at isOther
          · exact inductionHypothesis inRest

/-- Settings that a rule has settled, in a list without others of that rule. -/
theorem exists_of_find?_settled
    {settle : Rule → Except ConfigFailure RuleSettings}
    (keepsId :
      ∀ rule settings, settle rule = .ok settings → settings.ruleId = rule.id)
    {these : List Rule}
    {settings : List RuleSettings}
    (areSettled :
      List.Forall₂ (fun rule settings => settle rule = .ok settings)
        these settings)
    (distinct : (these.map Rule.id).Nodup)
    {rule : Rule}
    (member : rule ∈ these) :
    ∃ setting,
      settings.find? (·.ruleId == rule.id) = some setting ∧
        settle rule = .ok setting ∧
          ∀ other ∈ settings, other.ruleId = rule.id → other = setting := by
  induction areSettled with
  | nil =>
      cases member
  | @cons first found rest others isFirst areOthers inductionHypothesis =>
      have sameId := keepsId first found isFirst
      rw [List.map_cons, List.nodup_cons] at distinct
      obtain ⟨isNew, restDistinct⟩ := distinct
      rcases List.mem_cons.mp member with rfl | inRest
      · refine ⟨found, by simp [sameId], isFirst, ?_⟩
        intro other isThere isSame
        rcases List.mem_cons.mp isThere with rfl | inOthers
        · rfl
        · obtain ⟨another, isAnother, isSettled⟩ :=
            exists_of_forall₂_mem areOthers inOthers
          rw [keepsId another other isSettled] at isSame
          exact (isNew (isSame ▸ List.mem_map_of_mem isAnother)).elim
      · obtain ⟨setting, isFound, isSettled, isOnly⟩ :=
          inductionHypothesis restDistinct inRest
        -- The settings at the head are those of a rule with another id.
        have isOther : found.ruleId ≠ rule.id := by
          rw [sameId]
          exact fun isSame => isNew (isSame ▸ List.mem_map_of_mem inRest)
        refine ⟨setting, by simp [isOther, isFound], isSettled, ?_⟩
        intro other isThere isSame
        rcases List.mem_cons.mp isThere with rfl | inOthers
        · exact (isOther isSame).elim
        · exact isOnly other inOthers isSame

/-- Every registered rule has one setting for a language, which it has settled. -/
theorem exists_settings_of_resolveOver
    {surroundings : Surroundings}
    {registry : Registry}
    {defaults overrides : Configuration}
    {rules : RuleSet}
    (distinct : registry.ids.Nodup)
    (isResolved :
      resolveOver surroundings registry defaults overrides = .ok rules)
    (language : Language)
    {rule : Rule}
    (member : rule ∈ registry.rules) :
    ∃ settings,
      rules.settings? language rule.id = some settings ∧
        rule.settle surroundings language
            (defaults.layers language ++ overrides.layers language) =
          .ok settings ∧
        ∀ other ∈ rules.settingsFor language,
          other.ruleId = rule.id → other = settings := by
  obtain ⟨languages, _, _⟩ := exists_languages_of_resolveOver isResolved
  have isLanguage : language ∈ Language.sorted := by
    cases language <;> decide
  obtain ⟨all, areFound, isSettled⟩ :=
    exists_of_lookup_settled
      (fun _ _ isSettled => (forall₂_of_settleLanguage isSettled).1)
      languages isLanguage
  obtain ⟨_, areSettled⟩ := forall₂_of_settleLanguage isSettled
  have keepsId
      (rule : Rule)
      (settings : RuleSettings)
      (isSetting :
        rule.settle surroundings language
            (defaults.layers language ++ overrides.layers language) =
          .ok settings) :
      settings.ruleId = rule.id := by
    obtain ⟨_, _, _, _, sameId, _⟩ := rule.exists_layered_of_settle isSetting
    exact sameId
  have settingsFor : rules.settingsFor language = all := by
    rw [RuleSet.settingsFor, areFound]
    rfl
  rw [RuleSet.settings?, settingsFor]
  exact exists_of_find?_settled keepsId areSettled distinct member

/-! ## All rules -/

/-- A registered rule is found by its id where no two rules share one. -/
theorem Registry.find?_of_mem
    {registry : Registry}
    (distinct : registry.ids.Nodup)
    {rule : Rule}
    (member : rule ∈ registry.rules)
    {id : String}
    {other : Rule}
    (isFound : registry.find? id = some other)
    (sameId : other.id = rule.id) :
    other = rule ∧ id = rule.id := by
  have isOther := List.mem_of_find?_eq_some isFound
  have isNamed := List.find?_some isFound
  refine ⟨List.inj_on_of_nodup_map distinct isOther member sameId, ?_⟩
  rw [← sameId]
  exact (eq_of_beq isNamed).symm

/-- What holds of a structural rule with resolved settings, on a model of a file. -/
structure AnswersOn
    (registry : Registry)
    (rules : RuleSet)
    (language : Language)
    (source : SourceFile)
    (model : SourceModel)
    (rule : Rule)
    (settings : RuleSettings) :
    Prop where
  /-- These are the settings of the rule for the language. -/
  settled : rules.settings? language rule.id = some settings
  answers :
    settings.IsWritable source →
    ∃ violations, rule.evaluate model settings = .ok violations
  /-- Otherwise, all that it fails on is an integer that is too long. -/
  fails :
    ∀ fault,
      rule.evaluate model settings = .error fault →
      settings.IsExpected source fault
  noDiagnostic :
    settings.IsWritable source →
    ∀ diagnostic ∈
        (registry.evaluate model (rules.enabledFor language)).diagnostics,
      diagnostic.ruleId ≠ rule.id

/-- Where the one setting of a rule makes it answer, no diagnostic is about it. -/
theorem Registry.ne_of_diagnostic
    {registry : Registry}
    (distinct : registry.ids.Nodup)
    {rule : Rule}
    (member : rule ∈ registry.rules)
    {model : SourceModel}
    {settings : RuleSettings}
    (answers : Answers (rule.evaluate model settings))
    {enabled : List RuleSettings}
    (isOnly : ∀ other ∈ enabled, other.ruleId = rule.id → other = settings) :
    ∀ diagnostic ∈ (registry.evaluate model enabled).diagnostics,
      diagnostic.ruleId ≠ rule.id := by
  intro diagnostic isDiagnostic sameId
  simp only [Registry.evaluate, Diagnostic.sorted, List.mem_mergeSort,
    List.mem_filterMap] at isDiagnostic
  obtain ⟨verdict, isVerdict, isDiagnostic⟩ := isDiagnostic
  obtain ⟨other, isThere, isOther⟩ := List.mem_filterMap.mp isVerdict
  obtain ⟨found, isFound, rfl⟩ := Option.map_eq_some_iff.mp isOther
  unfold Verdict.diagnostic? at isDiagnostic
  split at isDiagnostic
  · cases isDiagnostic
  · next fault isFault =>
      cases isDiagnostic
      obtain ⟨rfl, isNamed⟩ := registry.find?_of_mem distinct member isFound sameId
      obtain rfl := isOnly other isThere isNamed
      exact answers fault isFault

/--
With the settings that an accepted configuration comes to, every structural rule
answers for every model that is built, unless an integer that it shows is too long.
-/
theorem exists_answersOn_of_resolved
    {surroundings : Surroundings}
    {registry : Registry}
    {defaults overrides : Configuration}
    {rules : RuleSet}
    {source : SourceFile}
    {model : SourceModel}
    (distinct : registry.ids.Nodup)
    (defaultsAreMappings : defaults.HasMappings)
    (overridesAreMappings : overrides.HasMappings)
    (isResolved :
      resolveOver surroundings registry defaults overrides = .ok rules)
    (built : SourceModel.build source = .ok model)
    (language : Language) :
    ∀ rule ∈ structuralRules,
      rule ∈ registry.rules →
      ∃ settings, AnswersOn registry rules language source model rule settings := by
  intro rule isStructural member
  have holds := SourceModel.holdsRows_of_build built
  obtain ⟨settings, settled, isSettled, isOnly⟩ :=
    exists_settings_of_resolveOver distinct isResolved language member
  have areMappings :
      Rule.HaveDistinctNames
        (defaults.layers language ++ overrides.layers language) := by
    intro layer isLayer
    rcases List.mem_append.mp isLayer with isDefault | isOverride
    · exact defaultsAreMappings.layers language layer isDefault
    · exact overridesAreMappings.layers language layer isOverride
  obtain ⟨fit, accepted⟩ :=
    rule.fit_of_settle
      (takesVerbList_of_structural isStructural) areMappings isSettled
  have fails :
      FailsOnly (settings.IsExpected source) (rule.evaluate model settings) :=
    failsOnly_of_structural holds isStructural fit accepted
  have answers
      (isWritable : settings.IsWritable source) :
      Answers (rule.evaluate model settings) :=
    fails.mono fun fault isExpected => isExpected.2 isWritable
  -- Diagnostics are about the enabled settings, of which each rule has one.
  refine
    ⟨settings,
      { settled
        answers := fun isWritable => (answers isWritable).exists_ok
        fails
        noDiagnostic := fun isWritable => ?_ }⟩
  refine registry.ne_of_diagnostic distinct member (answers isWritable) ?_
  exact fun other isEnabled => isOnly other (List.mem_of_mem_filter isEnabled)

/-- A configuration that names two verbs and has one blank line between methods. -/
def oneBlankLine : Configuration where
  rules :=
    [("verb-named-method",
      [(.text "params",
        .map [(.text "verbs", .list [.text "get", .text "set"])])])]
  languages :=
    [("java",
      [("method-separation",
        [(.text "params", .map [(.text "blank_lines", .int 1)])])])]

/-- The settings of the structural rules for a language can be written out. -/
def RuleSet.areWritable (rules : RuleSet) (language : Language) : Bool :=
  structuralRules.all fun rule =>
    (rules.settings? language rule.id).all fun settings =>
      decide settings.params.AreWritable

set_option maxRecDepth 100000 in
/-- On a file with a loop, all structural rules answer with these settings. -/
theorem exists_answersOn_of_oneBlankLine :
    ∃ defaults rules model,
      Configuration.packaged = .ok defaults ∧
        defaults.HasMappings ∧
        oneBlankLine.HasMappings ∧
        resolveOver emptyDisk .builtin defaults oneBlankLine = .ok rules ∧
        SourceModel.build SourceModel.loopSample = .ok model ∧
        ∀ rule ∈ structuralRules,
          ∃ settings violations,
            rules.settings? .java rule.id = some settings ∧
              settings.IsWritable SourceModel.loopSample ∧
              rule.evaluate model settings = .ok violations := by
  have distinct : Registry.builtin.ids.Nodup := by
    decide +kernel
  have areRegistered : ∀ rule ∈ structuralRules, rule ∈ Registry.builtin.rules := by
    simp [structuralRules, Registry.builtin, builtinRules]
  have areMappings : oneBlankLine.HasMappings := by
    decide +kernel
  have isShort :
      SourceModel.loopSample.text.length < 10 ^ greatestDigitCount := by
    decide +kernel
  have packaged :
      Configuration.packaged.toOption.map (fun defaults =>
        (decide defaults.HasMappings,
          (resolveOver emptyDisk .builtin defaults oneBlankLine).toOption.map
            (·.areWritable .java))) =
        some (true, some true) := by
    decide +kernel
  obtain ⟨defaults, isPackaged, facts⟩ := Option.map_eq_some_iff.mp packaged
  obtain ⟨defaultsAreMappings, isAccepted⟩ := Prod.mk.inj facts
  obtain ⟨rules, isResolved, areWritable⟩ := Option.map_eq_some_iff.mp isAccepted
  obtain ⟨model, built, _⟩ := SourceModel.loopSample_built
  have isResolved := eq_ok_of_toOption_eq_some isResolved
  have defaultsAreMappings := of_decide_eq_true defaultsAreMappings
  refine
    ⟨defaults, rules, model, eq_ok_of_toOption_eq_some isPackaged,
      defaultsAreMappings, areMappings, isResolved, built, ?_⟩
  intro rule isStructural
  obtain ⟨settings, answersOn⟩ :=
    exists_answersOn_of_resolved
      distinct defaultsAreMappings areMappings isResolved built .java
      rule isStructural (areRegistered rule isStructural)
  have ofRule := List.all_eq_true.mp areWritable rule isStructural
  rw [answersOn.settled, Option.all_some] at ofRule
  have isWritable : settings.IsWritable SourceModel.loopSample :=
    { text := isShort, params := of_decide_eq_true ofRule }
  obtain ⟨violations, isAnswer⟩ := answersOn.answers isWritable
  exact ⟨settings, violations, answersOn.settled, isWritable, isAnswer⟩

/-- A configuration with one verb, an integer that has a digit too many. -/
def longVerb : Configuration where
  rules :=
    [("verb-named-method",
      [(.text "params",
        .map [(.text "verbs", .list [.int (10 ^ greatestDigitCount)])])])]

set_option maxRecDepth 100000 in
/-- The verb with a digit too many is accepted, and the rule then fails on it. -/
theorem longInteger_of_longVerb :
    ∃ rules settings model,
      resolve emptyDisk .builtin longVerb = .ok rules ∧
        rules.settings? .java verbNamedMethod.id = some settings ∧
        SourceModel.build SourceModel.loopSample = .ok model ∧
        verbNamedMethod.evaluate model settings = .error .longInteger := by
  have accepted :
      (resolve emptyDisk .builtin longVerb).toOption.map (fun rules =>
        (rules.settings? .java verbNamedMethod.id).map (fun settings =>
          (settings.params.elementsParam "verbs").toOption.map
            (List.map Document.isTooLong))) =
        some (some (some [true])) := by
    decide +kernel
  obtain ⟨rules, isResolved, found⟩ := Option.map_eq_some_iff.mp accepted
  obtain ⟨settings, settled, isRead⟩ := Option.map_eq_some_iff.mp found
  obtain ⟨verbs, isList, areTooLong⟩ := Option.map_eq_some_iff.mp isRead
  obtain ⟨verb, rfl, isTooLong⟩ := List.map_eq_singleton_iff.mp areTooLong
  obtain ⟨model, built, _⟩ := SourceModel.loopSample_built
  refine
    ⟨rules, settings, model, eq_ok_of_toOption_eq_some isResolved, settled, built, ?_⟩
  have isVerb : VerbNamedMethod.readVerb verb = .error .longInteger := by
    rw [VerbNamedMethod.readVerb, if_pos isTooLong]
  simp only [Rule.evaluate, verbNamedMethod, eq_ok_of_toOption_eq_some isList,
    ok_bind, List.mapM_cons, isVerb]
  rfl

end HouseStyle
