import HouseStyle.Proofs.Configuration.AcceptedLayers

namespace HouseStyle

/-!
# Settled settings follow the last layer

Where layers are accepted, a rule is settled with what the last of them says about
the switch, the severity and each parameter. The words of a file come behind the
verbs, without those that equal an earlier one.
-/

namespace Rule

/-- A rule whose parameters are a mapping: its verbs a list, its word file a text. -/
structure TakesWords (rule : Rule) : Prop where
  distinct : (Document.map rule.defaultParams).Distinct
  verbs : rule.TakesVerbList
  wordFile :
    ∀ default,
      rule.defaultParams.get? "lexicon_file" = some default →
      default.typeName = "str"

/-- The place of a parameter in settings. -/
abbrev paramPlace (key : Scalar) : List Scalar :=
  [.text "params", key]

end Rule

/-- The items of a list, if a value is one. -/
def Document.itemsOf : Option Document → List Document
  | some (.list items) => items
  | _ => []

/-- Settings that are what the last of some documents says, the own ones first. -/
structure RuleSettings.FollowLast
    (settings : RuleSettings)
    (surroundings : Surroundings)
    (rule : Rule)
    (documents : List Entries) :
    Prop where
  enabled :
    lastAt? [.text "enabled"] documents = some (.bool settings.enabled)
  /-- An advisory rule has no severity above a warning. -/
  severity :
    ∃ value severity,
      lastAt? [.text "severity"] documents = some value ∧
        readSeverity value "" = .ok severity ∧
        settings.severity =
          if rule.advisory then severity.atMost .warning else severity
  /-- Every parameter whose default is no mapping, as far as words do not matter. -/
  param :
    ∀ key,
      key.name ≠ (Scalar.text "verbs").name →
      (∀ entries, rule.defaultParams.find? key ≠ some (.map entries)) →
      settings.params.find? key = lastAt? (Rule.paramPlace key) documents
  /-- The words of the file that is named last come behind the verbs. -/
  verbs :
    match
      unlessEmpty (lastAt? (Rule.paramPlace (.text "lexicon_file")) documents)
    with
    | none =>
        settings.params.get? "verbs" =
          lastAt? (Rule.paramPlace (.text "verbs")) documents
    | some file =>
        ∃ words,
          readLexicon surroundings file.asText = .ok words ∧
            settings.params.get? "verbs" =
              some
                (.list
                  ((Document.itemsOf
                      (lastAt? (Rule.paramPlace (.text "verbs")) documents) ++
                    words.map Document.text).eraseDupsBy Document.same))
  /-- What a parameter that is a mapping holds, unless mappings are in it. -/
  nested :
    ∀ key entries kind,
      rule.defaultParams.find? key = some (.map entries) →
      (∀ value,
        lastAt? (Rule.paramPlace key ++ [kind]) documents = some value →
        value.entries? = none) →
      (Document.map settings.params).at? [key, kind] =
        lastAt? (Rule.paramPlace key ++ [kind]) documents
  /-- The pattern of every kind of name. -/
  patterns :
    rule = namingConvention →
    ∀ kind,
      (Document.map settings.params).at? [.text "patterns", kind] =
        lastAt? (Rule.paramPlace (.text "patterns") ++ [kind]) documents

/-- Values without those that equal an earlier one. -/
theorem eraseDupsBy_of_distinct
    {items kept : List Document}
    (areDistinct : distinct [] items = .ok kept) :
    kept = items.eraseDupsBy Document.same := by
  have fromFound :
      ∀ found kept,
        distinct found items = .ok kept →
        List.eraseDupsBy.loop Document.same items found =
          found.reverse ++ kept := by
    clear areDistinct
    induction items with
    | nil =>
        rintro found kept ⟨⟩
        simp [List.eraseDupsBy.loop]
    | cons value rest inductionHypothesis =>
        intro found kept areDistinct
        rw [distinct] at areDistinct
        split at areDistinct
        · cases areDistinct
        · split at areDistinct
          · next isThere =>
              rw [List.eraseDupsBy.loop, isThere]
              exact inductionHypothesis found kept areDistinct
          · next isNew =>
              obtain ⟨others, areOthers, rfl⟩ := exists_of_map_eq_ok areDistinct
              rw [List.eraseDupsBy.loop, Bool.not_eq_true _ |>.mp isNew]
              rw [inductionHypothesis (value :: found) others areOthers]
              simp
  rw [List.eraseDupsBy, fromFound [] kept areDistinct]
  rfl

/-- Words are added behind the verbs, if a file of words is named. -/
theorem verbs_of_addLexicon
    {surroundings : Surroundings}
    {params added : Entries}
    (isAdded : addLexicon surroundings params = .ok added) :
    match unlessEmpty (params.get? "lexicon_file") with
    | none => added = params
    | some file =>
        ∃ words,
          readLexicon surroundings file.asText = .ok words ∧
            added =
              params.put (.text "verbs")
                (.list
                  ((Document.itemsOf (params.get? "verbs") ++
                    words.map Document.text).eraseDupsBy Document.same)) := by
  unfold addLexicon at isAdded
  cases isNamed : unlessEmpty (params.get? "lexicon_file") with
  | none =>
      rw [isNamed] at isAdded
      exact (Except.ok.inj isAdded).symm
  | some file =>
      rw [isNamed] at isAdded
      obtain ⟨words, areRead, isAdded⟩ := exists_of_bind_eq_ok isAdded
      obtain ⟨verbs, areDistinct, isAdded⟩ := exists_of_bind_eq_ok isAdded
      refine ⟨words, areRead, ?_⟩
      have areVerbs :
          verbs =
            (Document.itemsOf (params.get? "verbs") ++
              words.map Document.text).eraseDupsBy Document.same :=
        eraseDupsBy_of_distinct areDistinct
      rw [← areVerbs]
      exact (Except.ok.inj isAdded).symm

/-- Words that are added change nothing under other names. -/
theorem find?_of_addLexicon
    {surroundings : Surroundings}
    {params added : Entries}
    (isAdded : addLexicon surroundings params = .ok added)
    {key : Scalar}
    (isOther : key.name ≠ (Scalar.text "verbs").name) :
    added.find? key = params.find? key := by
  have ofVerbs := verbs_of_addLexicon isAdded
  split at ofVerbs
  · rw [ofVerbs]
  · obtain ⟨words, _, rfl⟩ := ofVerbs
    exact Entries.find?_put_of_ne isOther.symm params _

section Settled

variable
  {surroundings : Surroundings}
  {rule : Rule}
  {tables : List RuleTable}
  {params settled : Entries}
  (takesWords : rule.TakesWords)
  (accept : ∀ document ∈ rule.held tables, rule.Accepts document)
  (distinct : AreDistinct (rule.held tables))
  (areParams :
    (mergeAll (rule.held tables)).get? "params" = some (.map params))
  (isAdded : addLexicon surroundings params = .ok settled)

include areParams in
/-- What stands among the parameters stands there in the merged settings. -/
theorem at?_paramPlace (place : List Scalar) :
    (Document.map (mergeAll (rule.held tables))).at? (.text "params" :: place) =
      (Document.map params).at? place := by
  rw [Document.at?_map]
  change Option.bind (Entries.get? _ "params") _ = _
  rw [areParams, Option.bind_some]

include accept distinct areParams in
/-- A merged parameter that is no mapping is what the last layer says. -/
theorem find?_eq_lastAt?
    {key : Scalar}
    (noMap : ∀ entries, rule.defaultParams.find? key ≠ some (.map entries)) :
    params.find? key =
      lastAt? (Rule.paramPlace key) (rule.held tables) := by
  rw [Rule.paramPlace, ← rule.at?_param_eq_lastAt? accept distinct noMap,
    at?_paramPlace areParams, Document.at?_map]
  cases params.find? key with
  | none => rfl
  | some value => exact (Document.at?_nil value).symm

/-- A default of a type that is none of a mapping is no mapping. -/
theorem noMap_of_typeName
    {defaults : Entries}
    {key : Scalar}
    {name : String}
    (isOther : name ≠ "dict")
    (isNamed :
      ∀ default,
        defaults.find? key = some default →
        default.typeName = name) :
    ∀ entries, defaults.find? key ≠ some (.map entries) := by
  intro entries isMap
  exact isOther (isNamed _ isMap).symm

include takesWords accept distinct areParams isAdded in
/-- The words of the file that is named last come behind the last verbs. -/
theorem verbs_eq_lastAt? :
    match
      unlessEmpty
        (lastAt? (Rule.paramPlace (.text "lexicon_file")) (rule.held tables))
    with
    | none =>
        settled.get? "verbs" =
          lastAt? (Rule.paramPlace (.text "verbs")) (rule.held tables)
    | some file =>
        ∃ words,
          readLexicon surroundings file.asText = .ok words ∧
            settled.get? "verbs" =
              some
                (.list
                  ((Document.itemsOf
                      (lastAt? (Rule.paramPlace (.text "verbs"))
                        (rule.held tables)) ++
                    words.map Document.text).eraseDupsBy Document.same)) := by
  have isFile :
      params.get? "lexicon_file" =
        lastAt? (Rule.paramPlace (.text "lexicon_file")) (rule.held tables) :=
    find?_eq_lastAt? accept distinct areParams
      (noMap_of_typeName (by decide) takesWords.wordFile)
  have areOwn :
      params.get? "verbs" =
        lastAt? (Rule.paramPlace (.text "verbs")) (rule.held tables) :=
    find?_eq_lastAt? accept distinct areParams
      (noMap_of_typeName (by decide) takesWords.verbs)
  rw [← isFile, ← areOwn]
  have ofVerbs := verbs_of_addLexicon isAdded
  split at ofVerbs
  · rw [ofVerbs]
  · obtain ⟨words, areRead, rfl⟩ := ofVerbs
    exact ⟨words, areRead, Entries.get?_put_self params _ _⟩

include takesWords areParams isAdded in
/-- Words that are added change nothing inside a parameter that is a mapping. -/
theorem at?_settled_nested
    {key : Scalar}
    {entries : Entries}
    (isMapping : rule.defaultParams.find? key = some (.map entries))
    (kind : Scalar) :
    (Document.map settled).at? [key, kind] =
      (Document.map (mergeAll (rule.held tables))).at?
        (Rule.paramPlace key ++ [kind]) := by
  have isOther : key.name ≠ (Scalar.text "verbs").name := by
    intro same
    rw [Entries.find?_congr same] at isMapping
    exact
      noMap_of_typeName (by decide) takesWords.verbs entries isMapping
  rw [Document.at?_map, find?_of_addLexicon isAdded isOther, ← Document.at?_map,
    ← at?_paramPlace areParams]
  rfl

end Settled

/-- No pattern of a kind of name that is accepted is a mapping. -/
theorem NamingConvention.at?_patterns_ne_map
    {params : Entries}
    (accepted : NamingConvention.validate params = .ok ())
    (kind : Scalar)
    (entries : Entries) :
    (Document.map params).at? [.text "patterns", kind] ≠
      some (.map entries) := by
  intro isThere
  obtain ⟨patterns, arePatterns, readable⟩ :=
    NamingConvention.exists_accepted accepted
  rw [Document.at?_map] at isThere
  change Option.bind (params.get? "patterns") _ = _ at isThere
  rw [arePatterns, Option.bind_some, Document.at?_map] at isThere
  obtain ⟨value, isFound, isThere⟩ := Option.bind_eq_some_iff.mp isThere
  rw [Document.at?_nil, Option.some.injEq] at isThere
  obtain ⟨present, _, isEntry⟩ := Entries.exists_mem_of_find? isFound
  obtain ⟨spelling, _, isText, _⟩ := readable _ isEntry
  rw [isThere] at isText
  cases isText

/-- A rule accepts what accepted layers hold, and its own settings. -/
theorem Rule.accept_held
    {rule : Rule}
    {layers : List Layer}
    {merged : Entries}
    (takesWords : rule.TakesWords)
    (accepted : layered rule rule.ownSettings layers = .ok merged) :
    ∀ document ∈ rule.held (layers.map Layer.table), rule.Accepts document := by
  exact
    List.forall_mem_cons.mpr
      ⟨rule.accepts_ownSettings takesWords.distinct.names,
        rule.accepts_of_layered accepted⟩

/-- Accepted layers settle a rule as the last of them says. -/
theorem Rule.followLast_of_settle
    {rule : Rule}
    {surroundings : Surroundings}
    {language : Language}
    {layers : List Layer}
    {settled : RuleSettings}
    (takesWords : rule.TakesWords)
    (distinct : AreDistinct (rule.held (layers.map Layer.table)))
    (isSettled : rule.settle surroundings language layers = .ok settled) :
    settled.FollowLast surroundings rule
      (rule.held (layers.map Layer.table)) := by
  obtain ⟨merged, isMerged, isSeverity, areSettled, _, isEnabled⟩ :=
    rule.exists_layered_of_settle isSettled
  have accept := rule.accept_held takesWords isMerged
  obtain rfl := rule.layered_eq_mergeAll isMerged
  obtain ⟨params, areParams⟩ := rule.exists_params accept distinct
  obtain ⟨_, isParams, isAdded, accepted⟩ := exists_of_settledParams areSettled
  obtain rfl := isParams params areParams
  exact
    { enabled := by
        obtain ⟨enabled, isLast, isThere⟩ :=
          rule.exists_lastAt?_enabled accept distinct
        rw [isLast, isEnabled, isThere]
      severity := by
        obtain ⟨value, severity, isLast, isThere, isRead⟩ :=
          rule.exists_lastAt?_severity accept distinct
        rw [settledSeverity, isThere, Option.getD_some, isRead, ok_bind]
          at isSeverity
        exact ⟨value, severity, isLast, isRead "", (Except.ok.inj isSeverity).symm⟩
      param := fun key isOther noMap => by
        rw [find?_of_addLexicon isAdded isOther]
        exact find?_eq_lastAt? accept distinct areParams noMap
      verbs := verbs_eq_lastAt? takesWords accept distinct areParams isAdded
      nested := fun key entries kind isMapping isLeaf => by
        rw [at?_settled_nested takesWords areParams isAdded isMapping]
        exact rule.at?_nested_eq_lastAt? accept distinct isMapping isLeaf
      patterns := by
        rintro rfl kind
        have isMapping :
            ∃ entries : Entries,
              namingConvention.defaultParams.find? (.text "patterns") =
                some (.map entries) := ⟨_, rfl⟩
        obtain ⟨entries, isMapping⟩ := isMapping
        have sameNested :=
          at?_settled_nested takesWords areParams isAdded isMapping kind
        rw [sameNested]
        refine namingConvention.at?_nested_eq_lastAt? accept distinct isMapping ?_
        -- A last pattern that is a mapping would stay one, and the rule takes none.
        intro value isLast
        refine Document.entries?_eq_none fun others isMap => ?_
        subst isMap
        obtain ⟨found, isThere⟩ :=
          namingConvention.exists_map_at?_nested accept distinct isMapping isLast
        exact
          NamingConvention.at?_patterns_ne_map accepted kind found
            (sameNested.trans isThere) }

/-- The rules of the library take words as a list and as the name of a file. -/
theorem takesWords_of_builtin : ∀ rule ∈ builtinRules, rule.TakesWords := by
  intro rule member
  have isMapping : (Document.map rule.defaultParams).isDistinct = true := by
    revert rule
    decide +kernel
  simp only [builtinRules, List.mem_cons, List.not_mem_nil, or_false] at member
  refine
    { distinct := Document.distinct_of_isDistinct _ isMapping
      verbs := ?_
      wordFile := ?_ }
  all_goals
    intro default isDefault
    rcases member with rfl | rfl | rfl | rfl | rfl | rfl | rfl | rfl | rfl | rfl <;>
      cases isDefault
    rfl

end HouseStyle
