import HouseStyle.Proofs.Configuration.LoadedTrees
import HouseStyle.Proofs.Configuration.SettlingDefects

namespace HouseStyle

/-!
# Configurations are used or refused

A configuration text is read and resolved, or it is refused with a cause. It stops
without one only where something that was read explains it: the text, a sheet that
it extends, or the settings that it comes to. The packaged configuration below it
never does.
-/

open Rule (paramPlace)

variable {surroundings : Surroundings}

/-! ## One rule -/

section Settling

variable
  {rule : Rule}
  {tables : List RuleTable}
  {params added : Entries}
  (takesWords : rule.TakesWords)
  (accept : ∀ document ∈ rule.held tables, rule.Accepts document)
  (distinct : AreDistinct (rule.held tables))
  (areParams :
    (mergeAll (rule.held tables)).get? "params" = some (.map params))
  (isAdded : addLexicon surroundings params = .ok added)

include accept distinct areParams in
/-- A merged parameter that is no mapping stands in one of the layers. -/
theorem exists_document_of_param
    {key : Scalar}
    (noMap : ∀ entries, rule.defaultParams.find? key ≠ some (.map entries))
    {value : Document}
    (isThere : params.find? key = some value) :
    ∃ document ∈ rule.held tables,
      (Document.map document).at? (paramPlace key) = some value := by
  rw [find?_eq_lastAt? accept distinct areParams noMap] at isThere
  obtain ⟨before, last, after, isSplit, isLast, _⟩ := exists_of_lastAt? isThere
  exact ⟨last, by simp [isSplit], isLast⟩

include accept distinct areParams isAdded in
/-- The same for settled parameters, verbs apart. -/
theorem exists_document_of_added
    {key : String}
    (isOther : key ≠ "verbs")
    (noMap :
      ∀ entries, rule.defaultParams.find? (.text key) ≠ some (.map entries))
    {value : Document}
    (isThere : added.get? key = some value) :
    ∃ document ∈ rule.held tables,
      (Document.map document).at? (paramPlace (.text key)) = some value := by
  have sameName : (Scalar.text key).name ≠ (Scalar.text "verbs").name := by
    simpa [Scalar.name] using isOther
  rw [Entries.get?, find?_of_addLexicon isAdded sameName] at isThere
  exact exists_document_of_param accept distinct areParams noMap isThere

include takesWords distinct areParams isAdded in
/-- What a settled mapping of patterns holds stands in the merged settings. -/
theorem at?_of_mem_patterns
    {defaults patterns : Entries}
    (isDefault : rule.defaultParams.get? "patterns" = some (.map defaults))
    (arePatterns : added.get? "patterns" = some (.map patterns))
    {kind : Scalar}
    {value : Document}
    (member : (kind, value) ∈ patterns) :
    (Document.map (mergeAll (rule.held tables))).at?
        (paramPlace (.text "patterns") ++ [kind]) =
      some value := by
  have areMerged :
      (Document.map (mergeAll (rule.held tables))).at?
          (paramPlace (.text "patterns")) =
        some (.map patterns) := by
    rw [Entries.get?, find?_of_addLexicon isAdded (by decide)] at arePatterns
    rw [Rule.paramPlace, at?_paramPlace areParams, Document.at?_map, arePatterns]
    exact Document.at?_nil _
  have names : patterns.names.Nodup :=
    ((distinct_mergeAll distinct).at? areMerged).names
  rw [← at?_settled_nested takesWords areParams isAdded isDefault, Document.at?_map]
  change (added.get? "patterns").bind _ = _
  rw [arePatterns, Option.bind_some, Document.at?_map,
    Entries.find?_of_mem names member]
  exact Document.at?_nil value

include takesWords accept distinct areParams in
/-- Words are added to merged parameters, or a layer explains the defect. -/
theorem failsOnly_addLexicon_of_held :
    FailsOnly (RefusedOr (OneExplains surroundings (rule.held tables)))
      (addLexicon surroundings params) := by
  have ofFile
      {file : Document}
      (isThere : params.get? "lexicon_file" = some file) :=
    exists_document_of_param accept distinct areParams
      (noMap_of_typeName (by decide) takesWords.wordFile) isThere
  refine failsOnly_addLexicon ?_ ?_ ?_
  · intro file isThere notEmpty isNul
    obtain ⟨document, member, isNamed⟩ := ofFile isThere
    exact ⟨document, member, .wordListPath isNamed notEmpty isNul⟩
  · intro file bytes isThere notEmpty areBytes noText
    obtain ⟨document, member, isNamed⟩ := ofFile isThere
    exact ⟨document, member, .wordListBytes isNamed notEmpty areBytes noText⟩
  · intro items areItems item isItem hasParts
    obtain ⟨document, member, isThere⟩ :=
      exists_document_of_param accept distinct areParams
        (noMap_of_typeName (by decide) takesWords.verbs) areItems
    exact ⟨document, member, .verb isThere isItem hasParts⟩

include takesWords accept distinct areParams isAdded in
/-- A rule of the library validates parameters, or a layer explains the defect. -/
theorem failsOnly_validate_of_builtin
    (isBuiltin : rule ∈ builtinRules)
    (fit : Entries.Fit rule.defaultParams params) :
    FailsOnly
      (ParamFault.IsExplained (OneExplains surroundings (rule.held tables)))
      (rule.validate added) := by
  have fit := rule.fit_of_addLexicon takesWords.verbs fit isAdded
  simp only [builtinRules, List.mem_cons, List.not_mem_nil, or_false] at isBuiltin
  rcases isBuiltin with
    rfl | rfl | rfl | rfl | rfl | rfl | rfl | rfl | rfl | rfl
  · exact Limits.failsOnly_validate fit
  · refine NamingConvention.failsOnly_validate fit ?_ ?_
    · intro patterns kind value arePatterns isEntry isUnknown noText
      obtain ⟨document, member, found, isThere, _⟩ :=
        exists_of_at?_mergeAll distinct
          (at?_of_mem_patterns takesWords distinct areParams isAdded rfl arePatterns
            isEntry)
      exact ⟨document, member, .kind isThere isUnknown noText⟩
    · intro patterns kind spelling fault arePatterns isEntry isFault isHuge
      obtain ⟨document, member, isThere⟩ :=
        exists_leaf_of_at?_mergeAll distinct rfl
          (at?_of_mem_patterns takesWords distinct areParams isAdded rfl arePatterns
            isEntry)
      exact ⟨document, member, .pattern isThere isFault isHuge⟩
  · exact .ok ()
  · exact .ok ()
  · exact Limits.failsOnly_validate fit
  · exact .ok ()
  · exact MethodSeparation.failsOnly_validate fit
  · refine DeclarationOrder.failsOnly_validate fit ?_
    intro items areItems notSortable
    obtain ⟨document, member, isThere⟩ :=
      exists_document_of_added accept distinct areParams isAdded (by decide)
        (by rintro entries ⟨⟩) areItems
    exact ⟨document, member, .order isThere notSortable⟩
  · refine VerbNamedMethod.failsOnly_validate fit ?_
    intro items item fault areItems isItem isFault isHuge
    obtain ⟨document, member, isThere⟩ :=
      exists_document_of_added accept distinct areParams isAdded (by decide)
        (by rintro entries ⟨⟩) areItems
    exact ⟨document, member, .ignored isThere isItem isFault isHuge⟩
  · exact .ok ()

end Settling

/-- A rule of the library is settled or refused, or a layer explains the defect. -/
theorem Rule.failsOnly_settle
    {rule : Rule}
    (isBuiltin : rule ∈ builtinRules)
    {layers : List Layer}
    (names : HaveDistinctNames layers)
    (distinct : AreDistinct (rule.held (layers.map Layer.table)))
    (language : Language) :
    FailsOnly
      (RefusedOr
        (OneExplains surroundings (rule.held (layers.map Layer.table))))
      (rule.settle surroundings language layers) := by
  have takesWords := takesWords_of_builtin rule isBuiltin
  refine FailsOnly.bind ?_ fun merged isMerged => ?_
  · refine (failsOnly_layered surroundings rule _ layers).explained ?_
    rintro defect ⟨document, member, explains⟩
    exact ⟨document, List.mem_cons_of_mem _ member, explains⟩
  have accept := rule.accept_held takesWords isMerged
  obtain ⟨params, areParams, fit⟩ :=
    rule.suits_ownSettings.layered names isMerged
  obtain rfl := rule.layered_eq_mergeAll isMerged
  -- Each layer was checked for its severity, so the last one can be read.
  refine FailsOnly.bind ?_ fun severity _ => ?_
  · obtain ⟨value, severity, _, isThere, isRead⟩ :=
      rule.exists_lastAt?_severity accept distinct
    rw [settledSeverity, isThere, Option.getD_some, isRead, ok_bind]
    exact .ok _
  refine FailsOnly.bind ?_ fun _ _ => .ok _
  unfold settledParams
  simp only [areParams]
  refine FailsOnly.bind ?_ fun added isAdded => ?_
  · exact failsOnly_addLexicon_of_held takesWords accept distinct areParams
  have validates :=
    failsOnly_validate_of_builtin takesWords accept distinct areParams isAdded
      isBuiltin fit
  split
  · exact .ok _
  · next isFault => exact .error (validates _ isFault)
  · next isFault => exact .error (validates _ isFault)
  · exact failsOnly_refused _

/-! ## Settings that explain nothing -/

/-- Keys of one name are those of one kind. -/
theorem NamingConvention.keyKind?_congr
    {key other : Scalar}
    (same : key.name = other.name) :
    keyKind? key = keyKind? other := by
  unfold keyKind?
  congr 1
  funext kind
  rw [Bool.eq_iff_iff, Scalar.same_iff, Scalar.same_iff, same]

/-- Whether a value is no pattern that cannot be read. -/
def Document.isReadable (value : Document) : Bool :=
  (Pattern.read value.asText).toOption.isSome

namespace Entries

/-- What holds of the value at a place in a mapping, if there is one. -/
def allAt
    (settings : Entries)
    (place : List Scalar)
    (test : Document → Bool) :
    Bool :=
  ((Document.map settings).at? place).all test

/-- Whether settings explain no defect, whatever files there are. -/
def isHarmless (settings : Entries) : Bool :=
  (strangeKeys ["enabled", "severity", "params"] settings).isEmpty &&
    !(Document.map settings).isTooLong &&
    settings.allAt (paramPlace (.text "lexicon_file")) Document.isEmpty &&
    settings.allAt (paramPlace (.text "verbs")) (fun verbs =>
      (Document.itemsOf (some verbs)).all Document.isHashable) &&
    settings.allAt (paramPlace (.text "visibility_order")) (fun order =>
      Document.sortable (Document.itemsOf (some order))) &&
    settings.allAt (paramPlace (.text "ignore")) (fun ignored =>
      (Document.itemsOf (some ignored)).all Document.isReadable) &&
    settings.allAt (paramPlace (.text "patterns")) fun patterns =>
      (patterns.entries?.getD []).all fun entry =>
        (NamingConvention.keyKind? entry.1).isSome && entry.2.isReadable

theorem allAt_apply
    {settings : Entries}
    {place : List Scalar}
    {test : Document → Bool}
    (all : settings.allAt place test = true)
    {value : Document}
    (isThere : (Document.map settings).at? place = some value) :
    test value = true := by
  rwa [allAt, isThere, Option.all_some] at all

/-- Patterns that were tested are for kinds that there are, and can be read. -/
theorem isReadable_of_patterns
    {settings : Entries}
    (patterns :
      settings.allAt (paramPlace (.text "patterns")) (fun patterns =>
        (patterns.entries?.getD []).all fun entry =>
          (NamingConvention.keyKind? entry.1).isSome && entry.2.isReadable) =
        true)
    {kind : Scalar}
    {value : Document}
    (isThere :
      (Document.map settings).at? (paramPlace (.text "patterns") ++ [kind]) =
        some value) :
    (NamingConvention.keyKind? kind).isSome = true ∧ value.isReadable = true := by
  rw [Document.at?_append] at isThere
  obtain ⟨found, arePatterns, isThere⟩ := Option.bind_eq_some_iff.mp isThere
  obtain ⟨entries, rfl, isFound⟩ := Document.exists_of_at?_singleton isThere
  obtain ⟨present, same, isEntry⟩ := Entries.exists_mem_of_find? isFound
  have ofEntry := List.all_eq_true.mp (allAt_apply patterns arePatterns) _ isEntry
  rw [Bool.and_eq_true] at ofEntry
  rw [← NamingConvention.keyKind?_congr same]
  exact ofEntry

/-- Harmless settings explain no defect. -/
theorem not_explains_of_isHarmless
    {settings : Entries}
    (harmless : settings.isHarmless = true)
    (defect : Defect) :
    ¬ SettingsExplain surroundings settings defect := by
  simp only [isHarmless, Bool.and_eq_true, Bool.not_eq_true'] at harmless
  obtain
    ⟨⟨⟨⟨⟨⟨noneStrange, notLong⟩, noFile⟩, verbs⟩, order⟩, ignored⟩, patterns⟩ :=
    harmless
  intro explains
  cases explains with
  | strangeKey isStrange _ =>
      rw [List.isEmpty_iff.mp noneStrange] at isStrange
      cases isStrange
  | longInteger isLong =>
      rw [notLong] at isLong
      cases isLong
  | wordListPath isThere notEmpty _ =>
      rw [allAt_apply noFile isThere] at notEmpty
      cases notEmpty
  | wordListBytes isThere notEmpty _ _ =>
      rw [allAt_apply noFile isThere] at notEmpty
      cases notEmpty
  | verb isThere member hasParts =>
      rw [List.all_eq_true.mp (allAt_apply verbs isThere) _ member] at hasParts
      cases hasParts
  | order isThere notSortable =>
      have isSortable := allAt_apply order isThere
      rw [Document.itemsOf, notSortable] at isSortable
      cases isSortable
  | ignored isThere member isFault _ =>
      have isReadable :=
        List.all_eq_true.mp (allAt_apply ignored isThere) _ member
      rw [Document.isReadable, isFault] at isReadable
      cases isReadable
  | kind isThere isUnknown _ =>
      have isKnown := (isReadable_of_patterns patterns isThere).1
      rw [isUnknown] at isKnown
      cases isKnown
  | pattern isThere isFault _ =>
      have isReadable := (isReadable_of_patterns patterns isThere).2
      rw [Document.isReadable, Document.asText, Scalar.asText, isFault] at isReadable
      cases isReadable

end Entries

/-- The own settings of the rules of the library are harmless. -/
theorem isHarmless_of_builtin :
    ∀ rule ∈ builtinRules, rule.ownSettings.isHarmless = true := by
  decide +kernel

/-- The packaged configuration is there, and all settings in it are harmless. -/
theorem exists_packaged :
    ∃ defaults,
      Configuration.packaged = .ok defaults ∧
        defaults.HasTrees ∧
        ∀ id settings,
          defaults.Holds id settings → settings.isHarmless = true := by
  have isChecked :
      Configuration.packaged.toOption.map (fun defaults =>
        (defaults.hasTrees,
          defaults.tables.all fun table =>
            table.all fun entry => Entries.isHarmless entry.2)) =
        some (true, true) := by
    decide +kernel
  obtain ⟨defaults, isPackaged, facts⟩ := Option.map_eq_some_iff.mp isChecked
  obtain ⟨areTrees, areHarmless⟩ := Prod.mk.inj facts
  refine
    ⟨defaults, eq_ok_of_toOption_eq_some isPackaged,
      Configuration.hasTrees_of_check areTrees, ?_⟩
  rintro id settings ⟨table, isTable, isEntry⟩
  have ofTable := List.all_eq_true.mp areHarmless table isTable
  exact List.all_eq_true.mp ofTable _ isEntry

/-! ## Resolving -/

/-- Some settings that a configuration holds explain the defect. -/
def Configuration.Explains
    (surroundings : Surroundings)
    (configuration : Configuration)
    (defect : Defect) :
    Prop :=
  ∃ id settings,
    configuration.Holds id settings ∧
      SettingsExplain surroundings settings defect

/-- Languages and rules that there are not are refused by name. -/
theorem Configuration.failsOnly_checkIds
    {explained : Defect → Prop}
    (configuration : Configuration)
    (registry : Registry) :
    FailsOnly (RefusedOr explained) (configuration.checkIds registry) := by
  have ofTables
      (tables : List (String × RuleTable)) :
      FailsOnly (RefusedOr explained)
        (unknownInLanguages registry configuration.name tables) := by
    induction tables with
    | nil =>
        exact .ok []
    | cons entry rest inductionHypothesis =>
        obtain ⟨language, table⟩ := entry
        rw [unknownInLanguages]
        split
        · exact failsOnly_refused _
        · exact inductionHypothesis.map _
  refine (ofTables _).bind fun inLanguages _ => ?_
  split
  · exact .ok _
  · exact failsOnly_refused _

/-- Layers that hold trees hold settings of distinct names. -/
theorem Configuration.HasTrees.names
    {configuration : Configuration}
    (hasTrees : configuration.HasTrees)
    (language : Language) :
    Rule.HaveDistinctNames (configuration.layers language) := by
  exact
    HasMappings.layers
      (fun table isTable entry isEntry =>
        (hasTrees table isTable entry isEntry).names)
      language

/-- A configuration that holds trees is resolved or refused, or explains the defect. -/
theorem failsOnly_resolve
    {configuration : Configuration}
    (hasTrees : configuration.HasTrees) :
    FailsOnly (RefusedOr (configuration.Explains surroundings))
      (resolve surroundings .builtin configuration) := by
  obtain ⟨defaults, isPackaged, defaultsAreTrees, areHarmless⟩ := exists_packaged
  rw [resolve, isPackaged, ok_bind]
  refine (defaults.failsOnly_checkIds _).bind fun _ _ => ?_
  refine (configuration.failsOnly_checkIds _).bind fun _ _ => ?_
  refine FailsOnly.bind (.mapM fun language _ => ?_) fun _ _ => .ok _
  refine FailsOnly.bind (.mapM fun rule isBuiltin => ?_) fun _ _ => .ok _
  have names :
      Rule.HaveDistinctNames
        (defaults.layers language ++ configuration.layers language) := by
    intro layer isLayer
    exact
      (List.mem_append.mp isLayer).elim
        (defaultsAreTrees.names language layer) (hasTrees.names language layer)
  have distinct :=
    rule.distinct_fiveLayers (takesWords_of_builtin rule isBuiltin).distinct
      defaultsAreTrees hasTrees language
  refine (rule.failsOnly_settle isBuiltin names distinct language).explained ?_
  rintro defect ⟨settings, member, explains⟩
  rcases rule.mem_fiveLayers member with rfl | isDefault | isOverride
  · exact
      (Entries.not_explains_of_isHarmless
        (isHarmless_of_builtin rule isBuiltin) defect explains).elim
  · exact
      (Entries.not_explains_of_isHarmless
        (areHarmless _ _ isDefault) defect explains).elim
  · exact ⟨rule.id, settings, isOverride, explains⟩

/-! ## Texts -/

/-- Read a configuration text with all that it extends and resolve it. -/
def resolveText
    (surroundings : Surroundings)
    (text : String)
    (base : Path) :
    Except ConfigFailure RuleSet := do
  let configuration ← Configuration.ofText surroundings text base
  resolve surroundings .builtin configuration

/--
A configuration text comes to settings of all rules or is refused with a cause,
or else the text, a sheet that it extends or the settings that it comes to explain
the defect.
-/
theorem resolveText_answers_or_explains
    (surroundings : Surroundings)
    (text : String)
    (base : Path) :
    (∃ rules, resolveText surroundings text base = .ok rules) ∨
      (∃ fault, resolveText surroundings text base = .error (.refused fault)) ∨
        ∃ defect,
          resolveText surroundings text base = .error (.defect defect) ∧
            (ReadingExplains surroundings text base defect ∨
              ∃ configuration,
                Configuration.ofText surroundings text base =
                    .ok configuration ∧
                  configuration.Explains surroundings defect) := by
  have failsOnly :
      FailsOnly
        (RefusedOr fun defect =>
          ReadingExplains surroundings text base defect ∨
            ∃ configuration,
              Configuration.ofText surroundings text base = .ok configuration ∧
                configuration.Explains surroundings defect)
        (resolveText surroundings text base) := by
    refine FailsOnly.bind ?_ fun configuration isLoaded => ?_
    · refine (Configuration.failsOnly_ofText surroundings text base).explained ?_
      exact fun defect => .inl
    · refine
        (failsOnly_resolve (Configuration.hasTrees_of_ofText isLoaded)).explained ?_
      exact fun defect explains => .inr ⟨configuration, isLoaded, explains⟩
  rcases failsOnly.exists_or with isOk | ⟨failure, isFailure, isExpected⟩
  · exact .inl isOk
  · cases failure with
    | refused fault => exact .inr (.inl ⟨fault, isFailure⟩)
    | defect defect => exact .inr (.inr ⟨defect, isFailure, isExpected⟩)

/-- Whether values of different types stopped a reading. -/
def isMixed {Value : Type} : Except ConfigFailure Value → Bool
  | .error (.defect .mixedTypes) => true
  | _ => false

/-- Such a reading fails with that defect. -/
theorem eq_of_isMixed
    {Value : Type}
    {answer : Except ConfigFailure Value}
    (isChecked : isMixed answer = true) :
    answer = .error (.defect .mixedTypes) := by
  unfold isMixed at isChecked
  split at isChecked
  · rfl
  · cases isChecked

/-- A mapping with a number for a key is read, but neither used nor refused. -/
theorem defect_of_numberKey :
    (Yaml.read "1: x\n").toOption.map (·.document.shown) =
        some "\x7b1: 'x'\x7d" ∧
      resolveText emptyDisk "1: x\n" (Path.ofString ".") =
        .error (.defect .mixedTypes) :=
  ⟨by decide +kernel, eq_of_isMixed (by decide +kernel)⟩

end HouseStyle
