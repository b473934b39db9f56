import HouseStyle.Proofs.Configuration.FollowLast
import HouseStyle.Proofs.Configuration.Remembering
import HouseStyle.Proofs.Rule.Resolved

namespace HouseStyle

/-!
# What five layers come to

The settings of a rule for a language are what the last of five layers says: the
rule's own defaults, the lower configuration's settings for all languages and for
this one, and the upper configuration's. Tables of other languages have no part in
it, though the word lists that were read for those languages are kept.
-/

/-- All settings of rules are mappings that hold every name once. -/
def Configuration.HasTrees (configuration : Configuration) : Prop :=
  ∀ table ∈ configuration.tables, ∀ entry ∈ table,
    (Document.map entry.2).Distinct

/-- Whether all settings of rules are such mappings. -/
def Configuration.hasTrees (configuration : Configuration) : Bool :=
  configuration.tables.all fun table =>
    table.all fun entry => (Document.map entry.2).isDistinct

/-- A configuration that passes the check has such mappings. -/
theorem Configuration.hasTrees_of_check
    {configuration : Configuration}
    (isChecked : configuration.hasTrees = true) :
    configuration.HasTrees := by
  intro table isTable entry isEntry
  have ofTable := List.all_eq_true.mp isChecked table isTable
  exact
    Document.distinct_of_isDistinct _ (List.all_eq_true.mp ofTable entry isEntry)

/-- The settings of rules that a configuration has for one language alone. -/
def Configuration.tableFor
    (configuration : Configuration)
    (language : Language) :
    RuleTable :=
  (configuration.languages.lookup language.name).getD []

/-- What the five layers hold for a rule in a language, the lowest first. -/
def Rule.fiveLayers
    (rule : Rule)
    (language : Language)
    (defaults overrides : Configuration) :
    List Entries :=
  rule.held
    [defaults.rules, defaults.tableFor language,
      overrides.rules, overrides.tableFor language]

/-- Settings that the tables of a configuration hold for a rule. -/
def Configuration.Holds
    (configuration : Configuration)
    (id : String)
    (settings : Entries) :
    Prop :=
  ∃ table ∈ configuration.tables, (id, settings) ∈ table

/-- What a configuration has for a language is in one of its tables. -/
theorem Configuration.holds_of_mem
    {configuration : Configuration}
    {language : Language}
    {id : String}
    {settings : Entries}
    (member :
      settings ∈
        [configuration.rules, configuration.tableFor language].filterMap
          (·.lookup id)) :
    configuration.Holds id settings := by
  obtain ⟨table, isTable, isFound⟩ := List.mem_filterMap.mp member
  have isEntry := mem_of_lookup isFound
  rcases List.mem_pair.mp isTable with rfl | rfl
  · exact ⟨_, List.mem_cons_self .., isEntry⟩
  · rw [Configuration.tableFor] at isEntry
    cases isTable : configuration.languages.lookup language.name with
    | none =>
        rw [isTable] at isEntry
        cases isEntry
    | some table =>
        rw [isTable] at isEntry
        refine ⟨table, List.mem_cons_of_mem _ ?_, isEntry⟩
        exact List.mem_map.mpr ⟨_, mem_of_lookup isTable, rfl⟩

/-- The five layers hold a rule's own settings and those of two configurations. -/
theorem Rule.mem_fiveLayers
    {rule : Rule}
    {language : Language}
    {defaults overrides : Configuration}
    {settings : Entries}
    (member : settings ∈ rule.fiveLayers language defaults overrides) :
    settings = rule.ownSettings ∨
      defaults.Holds rule.id settings ∨ overrides.Holds rule.id settings := by
  rcases List.mem_cons.mp member with isOwn | isHeld
  · exact .inl isOwn
  · have inEither :
        settings ∈
          ([defaults.rules, defaults.tableFor language] ++
            [overrides.rules, overrides.tableFor language]).filterMap
              (·.lookup rule.id) := isHeld
    rw [List.filterMap_append] at inEither
    exact
      .inr
        ((List.mem_append.mp inEither).imp
          Configuration.holds_of_mem Configuration.holds_of_mem)

/-- The own settings of a rule are a tree if its default parameters are one. -/
theorem Rule.distinct_ownSettings
    {rule : Rule}
    (distinct : (Document.map rule.defaultParams).Distinct) :
    (Document.map rule.ownSettings).Distinct := by
  refine .map ?_ ?_
  · simp [Rule.ownSettings, Scalar.name]
  · intro key value isFound
    obtain ⟨present, _, isEntry⟩ := Entries.exists_mem_of_find? isFound
    simp only [Rule.ownSettings, List.mem_cons, List.not_mem_nil, or_false,
      Prod.mk.injEq] at isEntry
    rcases isEntry with ⟨_, rfl⟩ | ⟨_, rfl⟩ | ⟨_, rfl⟩
    · exact .leaf rfl
    · exact .leaf rfl
    · exact distinct

/-- What the five layers hold are trees. -/
theorem Rule.distinct_fiveLayers
    {rule : Rule}
    {defaults overrides : Configuration}
    (distinct : (Document.map rule.defaultParams).Distinct)
    (defaultsAreTrees : defaults.HasTrees)
    (overridesAreTrees : overrides.HasTrees)
    (language : Language) :
    AreDistinct (rule.fiveLayers language defaults overrides) := by
  intro settings member
  rcases rule.mem_fiveLayers member with
    rfl | ⟨table, isTable, isEntry⟩ | ⟨table, isTable, isEntry⟩
  · exact rule.distinct_ownSettings distinct
  · exact defaultsAreTrees table isTable _ isEntry
  · exact overridesAreTrees table isTable _ isEntry

/-- Layers that hold the same for a language settle all rules alike for it. -/
theorem settingsFor_eq_of_sameLayers
    {surroundings : Surroundings}
    {registry : Registry}
    {defaults overrides others : Configuration}
    {rules otherRules : RuleSet}
    (isResolved :
      resolveOver surroundings registry defaults overrides = .ok rules)
    (isAlsoResolved :
      resolveOver surroundings registry defaults others = .ok otherRules)
    {language : Language}
    (sameRules : others.rules = overrides.rules)
    (sameTable : others.tableFor language = overrides.tableFor language) :
    otherRules.settingsFor language = rules.settingsFor language := by
  obtain ⟨languages, _, _⟩ := exists_languages_of_resolveOver isResolved
  obtain ⟨otherLanguages, _, _⟩ := exists_languages_of_resolveOver isAlsoResolved
  have isLanguage : language ∈ Language.sorted := by
    cases language <;> decide
  obtain ⟨settings, areFound, isSettled⟩ :=
    exists_of_lookup_settled
      (fun _ _ isSettled => (forall₂_of_settleLanguage isSettled).1)
      languages isLanguage
  obtain ⟨otherSettings, otherFound, otherSettled⟩ :=
    exists_of_lookup_settled
      (fun _ _ isSettled => (forall₂_of_settleLanguage isSettled).1)
      otherLanguages isLanguage
  rw [RuleSet.settingsFor, RuleSet.settingsFor, areFound, otherFound]
  have sameLookups (id : String) :
      (defaults.layers language ++ others.layers language).map
          (fun layer => layer.table.lookup id) =
        (defaults.layers language ++ overrides.layers language).map
          (fun layer => layer.table.lookup id) := by
    change
      [_, _, others.rules.lookup id, (others.tableFor language).lookup id] =
        [_, _, overrides.rules.lookup id, (overrides.tableFor language).lookup id]
    rw [sameRules, sameTable]
  have areEqual : List.Forall₂ (· = ·) otherSettings settings :=
    forall₂_of_common
      (fun rule _ _ isOther isThis =>
        rule.settle_eq_of_sameLayers (sameLookups rule.id) isOther isThis)
      (forall₂_of_settleLanguage otherSettled).2
      (forall₂_of_settleLanguage isSettled).2
  exact List.forall₂_eq_eq_eq ▸ areEqual

/--
In every language, accepted configurations come to what the last of the five layers
says; what the upper one says about other languages alone changes nothing.
-/
theorem followLast_of_resolveKeeping
    {surroundings : Surroundings}
    {registry : Registry}
    {defaults overrides : Configuration}
    {rules : RuleSet}
    (distinct : registry.ids.Nodup)
    (takeWords : ∀ rule ∈ registry.rules, rule.TakesWords)
    (defaultsAreTrees : defaults.HasTrees)
    (overridesAreTrees : overrides.HasTrees)
    (isResolved :
      resolveKeeping surroundings registry defaults overrides = .ok rules)
    (language : Language) :
    (∀ rule ∈ registry.rules,
      ∃ settings,
        rules.settings? language rule.id = some settings ∧
          settings.FollowLast surroundings rule
            (rule.fiveLayers language defaults overrides)) ∧
      ∀ others otherRules,
        others.rules = overrides.rules →
        others.tableFor language = overrides.tableFor language →
        resolveKeeping surroundings registry defaults others = .ok otherRules →
        otherRules.settingsFor language = rules.settingsFor language := by
  rw [resolveKeeping_eq] at isResolved
  refine ⟨fun rule member => ?_, ?_⟩
  · obtain ⟨settings, settled, isSettled, _⟩ :=
      exists_settings_of_resolveOver distinct isResolved language member
    refine ⟨settings, settled, ?_⟩
    refine rule.followLast_of_settle (takeWords rule member) ?_ isSettled
    exact
      rule.distinct_fiveLayers
        (takeWords rule member).distinct defaultsAreTrees overridesAreTrees language
  · intro others otherRules sameRules sameTable isAlsoResolved
    rw [resolveKeeping_eq] at isAlsoResolved
    exact
      settingsFor_eq_of_sameLayers isResolved isAlsoResolved sameRules sameTable

/-- A disk with a list of two verbs. -/
def verbDisk : Surroundings where
  files := .directory [("verbs", .file "Run\nget\n".toUTF8)]
  directory := Path.ofString "/"
  environment := []

/-- A configuration with a verb and a word list, and constants of its own in C. -/
def verbsAndConstants : Configuration where
  rules :=
    [("verb-named-method",
      [(.text "params",
        .map
          [(.text "verbs", .list [.text "get"]),
            (.text "lexicon_file", .text "/verbs")])])]
  languages :=
    [("c",
      [("naming-convention",
        [(.text "enabled", .bool false),
          (.text "params",
            .map
              [(.text "patterns", .map [(.text "constant", .text "^k")])])])])]

/-- The same configuration, but with other words for another language. -/
def verbsElsewhere : Configuration where
  rules := verbsAndConstants.rules
  languages :=
    verbsAndConstants.languages ++
      [("go",
        [("verb-named-method",
          [(.text "params", .map [(.text "verbs", .list [.text "make"])])])])]

set_option maxRecDepth 100000 in
/-- Both configurations settle the rules alike for C, as the five layers say. -/
theorem followLast_of_verbsAndConstants :
    ∃ defaults rules otherRules,
      Configuration.packaged = .ok defaults ∧
        resolveKeeping verbDisk .builtin defaults verbsAndConstants = .ok rules ∧
        resolveKeeping verbDisk .builtin defaults verbsElsewhere =
          .ok otherRules ∧
        (∀ rule ∈ builtinRules,
          ∃ settings,
            rules.settings? .c rule.id = some settings ∧
              settings.FollowLast verbDisk rule
                (rule.fiveLayers .c defaults verbsAndConstants)) ∧
        otherRules.settingsFor .c = rules.settingsFor .c := by
  have packaged :
      Configuration.packaged.toOption.map (fun defaults =>
        (defaults.hasTrees,
          (resolveKeeping verbDisk .builtin defaults
            verbsAndConstants).toOption.isSome,
          (resolveKeeping verbDisk .builtin defaults
            verbsElsewhere).toOption.isSome)) =
        some (true, true, true) := by
    decide +kernel
  obtain ⟨defaults, isPackaged, facts⟩ := Option.map_eq_some_iff.mp packaged
  simp only [Prod.mk.injEq, Option.isSome_iff_exists] at facts
  obtain ⟨areTrees, ⟨rules, isResolved⟩, otherRules, isAlsoResolved⟩ := facts
  have isResolved := eq_ok_of_toOption_eq_some isResolved
  have isAlsoResolved := eq_ok_of_toOption_eq_some isAlsoResolved
  obtain ⟨followLast, isolated⟩ :=
    followLast_of_resolveKeeping
      (by decide +kernel) takesWords_of_builtin
      (Configuration.hasTrees_of_check areTrees)
      (Configuration.hasTrees_of_check (by decide +kernel))
      isResolved .c
  exact
    ⟨defaults, rules, otherRules, eq_ok_of_toOption_eq_some isPackaged, isResolved,
      isAlsoResolved, followLast,
      isolated verbsElsewhere otherRules rfl rfl isAlsoResolved⟩

end HouseStyle
