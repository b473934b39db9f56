import HouseStyle.Proofs.Configuration.Fitting
import HouseStyle.Proofs.Document.LastValue
import HouseStyle.Proofs.Rule.Answering

namespace HouseStyle

/-!
# Accepted layers have their say

Settings that a rule accepts hold a mapping wherever its own settings hold one, and
something else wherever those do. So no accepted layer hides what another one says
under another name: every switch, severity and parameter is what the last layer
says that says anything about it.
-/

/-! ## Values that fit -/

/-- What fits where a mapping stands is a mapping. -/
theorem exists_map_of_fits
    {entries : Entries}
    {value : Document}
    (isFitting : fits (.map entries) value = true) :
    ∃ others, value = .map others := by
  cases value with
  | map others => exact ⟨others, rfl⟩
  | scalar scalar =>
      cases scalar with
      | moment moment => cases moment <;> cases isFitting
      | _ => cases isFitting
  | _ => cases isFitting

/-- What fits where no mapping stands is no mapping. -/
theorem entries?_of_fits
    {default value : Document}
    (noMap : default.entries? = none)
    (isFitting : fits default value = true) :
    value.entries? = none := by
  cases value with
  | map others =>
      cases default with
      | map entries => cases noMap
      | scalar scalar =>
          cases scalar with
          | moment moment => cases moment <;> cases isFitting
          | _ => cases isFitting
      | _ => cases isFitting
  | _ => rfl

/-! ## What accepted settings hold -/

/-- Lower-casing goes on behind what it has done so far. -/
theorem reverse_prefix_lowerFrom
    (before reversed characters : List Char) :
    reversed.reverse <+: lowerFrom before reversed characters := by
  induction characters generalizing before reversed with
  | nil =>
      exact List.prefix_rfl
  | cons character rest inductionHypothesis =>
      rw [lowerFrom]
      refine List.IsPrefix.trans ?_ (inductionHypothesis _ _)
      rw [List.reverse_append]
      exact List.prefix_append _ _

/-- No mapping reads like a severity. -/
theorem readSeverity_map_ne_ok
    (entries : Entries)
    (place : String)
    (severity : Severity) :
    readSeverity (.map entries) place ≠ .ok severity := by
  intro isRead
  obtain ⟨name, isName, isRead⟩ := exists_of_bind_eq_ok isRead
  have opens : ∃ rest, name.toList = '\x7b' :: rest := by
    unfold textOf at isName
    split at isName
    · cases isName
    · cases isName
      exact
        ⟨(", ".intercalate (shownEntries entries) ++ "\x7d").toList, by
          simp [Document.asText, Document.shown, String.append_assoc]⟩
  obtain ⟨rest, isSpelled⟩ := opens
  split at isRead
  · next found isFound =>
      have isNamed := Severity.name_of_ofName? isFound
      have goesOn : ['\x7b'] <+: found.name.toList := by
        rw [isNamed, lowerCase, String.toList_ofList, isSpelled]
        exact reverse_prefix_lowerFrom ['\x7b'] ['\x7b'] rest
      revert goesOn
      cases found <;> decide
  · cases isRead

/-- The name of a severity reads as that severity. -/
theorem readSeverity_name
    (severity : Severity)
    (place : String) :
    readSeverity (.text severity.name) place = .ok severity := by
  cases severity <;> rfl

namespace Rule

/-- Settings that pass the check of the rule, whatever place messages name. -/
def Accepts (rule : Rule) (settings : Entries) : Prop :=
  ∃ place, checkSettings rule place settings = .ok ()

namespace Accepts

variable
  {rule : Rule}
  {settings : Entries}
  (accepts : rule.Accepts settings)

include accepts

/-- A switch that is accepted is on or off. -/
theorem enabled
    {value : Document}
    (isThere : settings.get? "enabled" = some value) :
    ∃ enabled, value = .bool enabled := by
  obtain ⟨place, checked⟩ := accepts
  obtain ⟨_, _, checked⟩ := exists_of_bind_eq_ok checked
  obtain ⟨_, isSwitch, _⟩ := exists_of_bind_eq_ok checked
  rw [isThere] at isSwitch
  unfold checkEnabled at isSwitch
  split at isSwitch
  · next isNone => cases isNone
  · next enabled isSome => exact ⟨enabled, Option.some.inj isSome⟩
  · cases isSwitch

/-- A severity that is accepted reads as one. -/
theorem severity
    {value : Document}
    (isThere : settings.get? "severity" = some value) :
    ∃ severity, ∀ place, readSeverity value place = .ok severity := by
  obtain ⟨place, checked⟩ := accepts
  obtain ⟨_, _, checked⟩ := exists_of_bind_eq_ok checked
  obtain ⟨_, _, checked⟩ := exists_of_bind_eq_ok checked
  obtain ⟨_, isRead, _⟩ := exists_of_bind_eq_ok checked
  rw [isThere] at isRead
  obtain ⟨severity, isRead, _⟩ := exists_of_map_eq_ok isRead
  refine ⟨severity, fun other => ?_⟩
  obtain ⟨name, isName, isNamed⟩ := exists_of_bind_eq_ok isRead
  rw [readSeverity, isName, ok_bind]
  split at isNamed
  · exact isNamed
  · cases isNamed

/-- Parameters that are accepted are a mapping that the rule takes. -/
theorem params
    {value : Document}
    (isThere : settings.get? "params" = some value) :
    ∃ entries : Entries,
      value = .map entries ∧
        ∀ key found,
          entries.find? key = some found →
          ∃ default,
            rule.defaultParams.find? key = some default ∧
              fits default found = true := by
  obtain ⟨place, checked⟩ := accepts
  obtain ⟨_, _, checked⟩ := exists_of_bind_eq_ok checked
  obtain ⟨_, _, checked⟩ := exists_of_bind_eq_ok checked
  obtain ⟨_, _, checked⟩ := exists_of_bind_eq_ok checked
  rw [isThere] at checked
  cases value with
  | map entries =>
      refine ⟨entries, rfl, ?_⟩
      intro key found isFound
      obtain ⟨present, sameName, isEntry⟩ := Entries.exists_mem_of_find? isFound
      have ofEntry := forall_of_forM_eq_ok checked _ isEntry
      rw [← Entries.find?_congr sameName]
      simp only [checkParam] at ofEntry
      split at ofEntry
      · obtain ⟨_, _, refused⟩ := exists_of_bind_eq_ok ofEntry
        cases refused
      · next default isDefault =>
          refine ⟨default, isDefault, ?_⟩
          split at ofEntry
          · assumption
          · cases ofEntry
  | _ => cases checked

end Accepts

/-- A rule accepts its own settings, as far as its defaults are a mapping. -/
theorem accepts_ownSettings
    {rule : Rule}
    (distinct : rule.defaultParams.names.Nodup) :
    rule.Accepts rule.ownSettings := by
  refine ⟨rule.id, ?_⟩
  have knownKeys :
      refuseStrangeKeys
          ["enabled", "severity", "params"] (.unknownSettings rule.id)
          rule.ownSettings =
        .ok () := rfl
  have isSeverity :
      checkSeverity rule.id (rule.ownSettings.get? "severity") = .ok () := by
    change (readSeverity (.text rule.defaultSeverity.name) rule.id).map _ = _
    rw [readSeverity_name]
    rfl
  have eachFits :
      ∀ entry ∈ rule.defaultParams,
        checkParam rule rule.id entry.1 entry.2 = .ok () := by
    intro entry member
    simp only [checkParam, Entries.find?_of_mem distinct member, fits_self,
      if_true]
  have areParams :
      checkParams rule rule.id (rule.ownSettings.get? "params") = .ok () :=
    forM_eq_ok eachFits
  rw [checkSettings, knownKeys, ok_bind]
  change (checkEnabled rule.id (some (.bool true)) >>= _) = _
  rw [checkEnabled, ok_bind, isSeverity, ok_bind, areParams]

/-- What the tables of some layers hold for a rule, its own settings first. -/
def held
    (rule : Rule)
    (tables : List RuleTable) :
    List Entries :=
  rule.ownSettings :: tables.filterMap (·.lookup rule.id)

/-- Accepted layers come to what they hold, merged in their order. -/
theorem layered_eq_mergeAll
    {rule : Rule}
    {layers : List Layer}
    {merged : Entries}
    (accepted : layered rule rule.ownSettings layers = .ok merged) :
    merged = mergeAll (rule.held (layers.map Layer.table)) := by
  have asMerges :
      ∀ settings : Entries,
        layers.foldl (fun settings layer => layer.over rule.id settings)
            settings =
          ((layers.map Layer.table).filterMap (·.lookup rule.id)).foldl
            Entries.merge settings := by
    intro settings
    rw [List.foldl_filterMap, List.foldl_map]
    congr 1
    funext settings layer
    rw [Layer.over]
    cases layer.table.lookup rule.id <;> rfl
  rw [layered_eq_foldl accepted, asMerges, held, mergeAll, List.foldl_cons]
  rfl

/-- What accepted layers hold is accepted. -/
theorem accepts_of_layered
    {rule : Rule}
    {settings merged : Entries}
    {layers : List Layer}
    (accepted : layered rule settings layers = .ok merged) :
    ∀ upper ∈ (layers.map Layer.table).filterMap (·.lookup rule.id),
      rule.Accepts upper := by
  induction layers generalizing settings with
  | nil =>
      simp
  | cons layer rest inductionHypothesis =>
      rw [layered] at accepted
      cases isFound : layer.table.lookup rule.id with
      | none =>
          rw [isFound] at accepted
          simpa [isFound] using inductionHypothesis accepted
      | some upper =>
          rw [isFound] at accepted
          obtain ⟨_, checked, accepted⟩ := exists_of_bind_eq_ok accepted
          rw [List.map_cons, List.filterMap_cons_some isFound,
            List.forall_mem_cons]
          exact ⟨⟨_, checked⟩, inductionHypothesis accepted⟩

/-- What accepted settings hold, behind one key or inside their parameters. -/
theorem Accepts.blocks_param
    {rule : Rule}
    {settings : Entries}
    (accepts : rule.Accepts settings)
    (key : Scalar) :
    (Document.map settings).blocks [.text "params", key] = false := by
  rw [Document.blocks]
  split
  · next value isThere =>
      obtain ⟨entries, rfl, _⟩ := accepts.params isThere
      exact Document.blocks_singleton entries key
  · rfl

/-- Inside a parameter that is a mapping nothing blocks the way. -/
theorem Accepts.blocks_nested
    {rule : Rule}
    {settings entries : Entries}
    (accepts : rule.Accepts settings)
    {key : Scalar}
    (isMapping : rule.defaultParams.find? key = some (.map entries))
    (kind : Scalar) :
    (Document.map settings).blocks [.text "params", key, kind] = false := by
  rw [Document.blocks]
  split
  · next value isThere =>
      obtain ⟨params, rfl, eachFits⟩ := accepts.params isThere
      rw [Document.blocks]
      split
      · next found isFound =>
          obtain ⟨default, isDefault, isFitting⟩ := eachFits key found isFound
          rw [isMapping, Option.some.injEq] at isDefault
          subst isDefault
          obtain ⟨others, rfl⟩ := exists_map_of_fits isFitting
          exact Document.blocks_singleton others kind
      · rfl
  · rfl

/-- A parameter whose default is no mapping is none where it is accepted. -/
theorem Accepts.leaf_param
    {rule : Rule}
    {settings : Entries}
    (accepts : rule.Accepts settings)
    {key : Scalar}
    (noMap : ∀ entries, rule.defaultParams.find? key ≠ some (.map entries))
    {value : Document}
    (isThere :
      (Document.map settings).at? [.text "params", key] = some value) :
    value.entries? = none := by
  rw [Document.at?_map] at isThere
  obtain ⟨params, areParams, isThere⟩ := Option.bind_eq_some_iff.mp isThere
  obtain ⟨entries, rfl, eachFits⟩ := accepts.params areParams
  rw [Document.at?_map] at isThere
  obtain ⟨found, isFound, isThere⟩ := Option.bind_eq_some_iff.mp isThere
  rw [Document.at?_nil, Option.some.injEq] at isThere
  subst isThere
  obtain ⟨default, isDefault, isFitting⟩ := eachFits key found isFound
  refine entries?_of_fits ?_ isFitting
  refine Document.entries?_eq_none fun others isMap => ?_
  rw [isMap] at isDefault
  exact noMap others isDefault

section Merged

variable
  {rule : Rule}
  {tables : List RuleTable}
  (accept : ∀ document ∈ rule.held tables, rule.Accepts document)
  (distinct : AreDistinct (rule.held tables))

/-- The last of a rule's own settings and others is somewhere. -/
theorem exists_lastAt?_held
    {place : List Scalar}
    {own : Document}
    (isOwn : (Document.map rule.ownSettings).at? place = some own) :
    ∃ value, lastAt? place (rule.held tables) = some value := by
  cases isLast : lastAt? place (rule.held tables) with
  | some value => exact ⟨value, rfl⟩
  | none =>
      rw [forall_of_lastAt?_eq_none isLast rule.ownSettings (by simp [held])]
        at isOwn
      cases isOwn

include accept distinct

/-- The switch is what the last layer says that has one. -/
theorem exists_lastAt?_enabled :
    ∃ enabled,
      lastAt? [.text "enabled"] (rule.held tables) = some (.bool enabled) ∧
        (mergeAll (rule.held tables)).get? "enabled" = some (.bool enabled) := by
  have areBool :
      ∀ value,
        lastAt? [.text "enabled"] (rule.held tables) = some value →
        ∃ enabled, value = .bool enabled := by
    intro value isLast
    obtain ⟨before, last, after, isSplit, isThere, _⟩ := exists_of_lastAt? isLast
    exact (accept last (by simp [isSplit])).enabled (Entries.get?_of_at? isThere)
  obtain ⟨value, isLast⟩ :=
    exists_lastAt?_held
      (rfl : (Document.map rule.ownSettings).at? [.text "enabled"] = some (.bool true))
  obtain ⟨enabled, rfl⟩ := areBool value isLast
  refine ⟨enabled, isLast, Entries.get?_of_at? ?_⟩
  rw [at?_mergeAll_eq_lastAt? distinct, isLast]
  · exact fun document _ => Document.blocks_singleton document _
  · intro value isValue
    obtain ⟨_, rfl⟩ := areBool value isValue
    rfl

/-- The severity is what the last layer names that names one. -/
theorem exists_lastAt?_severity :
    ∃ value severity,
      lastAt? [.text "severity"] (rule.held tables) = some value ∧
        (mergeAll (rule.held tables)).get? "severity" = some value ∧
        ∀ place, readSeverity value place = .ok severity := by
  have readable :
      ∀ value,
        lastAt? [.text "severity"] (rule.held tables) = some value →
        ∃ severity, ∀ place, readSeverity value place = .ok severity := by
    intro value isLast
    obtain ⟨before, last, after, isSplit, isThere, _⟩ := exists_of_lastAt? isLast
    exact (accept last (by simp [isSplit])).severity (Entries.get?_of_at? isThere)
  obtain ⟨value, isLast⟩ :=
    exists_lastAt?_held
      (rfl :
        (Document.map rule.ownSettings).at? [.text "severity"] =
          some (.text rule.defaultSeverity.name))
  obtain ⟨severity, isRead⟩ := readable value isLast
  refine ⟨value, severity, isLast, Entries.get?_of_at? ?_, isRead⟩
  rw [at?_mergeAll_eq_lastAt? distinct, isLast]
  · exact fun document _ => Document.blocks_singleton document _
  · intro other isOther
    obtain ⟨severity, isRead⟩ := readable other isOther
    refine Document.entries?_eq_none fun entries isMap => ?_
    subst isMap
    exact readSeverity_map_ne_ok entries "" severity (isRead "")

/-- The parameters stay a mapping. -/
theorem exists_params :
    ∃ params : Entries,
      (mergeAll (rule.held tables)).get? "params" = some (.map params) := by
  have isOwn :
      (Document.map rule.ownSettings).at? [.text "params"] =
        some (.map rule.defaultParams) := rfl
  obtain ⟨value, isLast⟩ :
      ∃ value, lastAt? [.text "params"] (rule.held tables) = some value :=
    exists_lastAt?_held isOwn
  obtain ⟨before, last, after, isSplit, isThere, noneBehind⟩ :=
    exists_of_lastAt? isLast
  obtain ⟨entries, rfl, _⟩ :=
    (accept last (by simp [isSplit])).params (Entries.get?_of_at? isThere)
  rw [isSplit] at distinct ⊢
  obtain ⟨params, areParams⟩ :=
    exists_map_at?_mergeAll distinct isThere fun document member =>
      ⟨noneBehind document member, Document.blocks_singleton document _⟩
  exact ⟨params, Entries.get?_of_at? areParams⟩

/-- A parameter that is no mapping is what the last layer says that has it. -/
theorem at?_param_eq_lastAt?
    {key : Scalar}
    (noMap : ∀ entries, rule.defaultParams.find? key ≠ some (.map entries)) :
    (Document.map (mergeAll (rule.held tables))).at? [.text "params", key] =
      lastAt? [.text "params", key] (rule.held tables) := by
  refine at?_mergeAll_eq_lastAt? distinct ?_ ?_
  · exact fun document member => (accept document member).blocks_param key
  · intro value isLast
    obtain ⟨before, last, after, isSplit, isThere, _⟩ := exists_of_lastAt? isLast
    exact (accept last (by simp [isSplit])).leaf_param noMap isThere

/-- Inside a parameter that is a mapping the last value that is none counts. -/
theorem at?_nested_eq_lastAt?
    {key : Scalar}
    {entries : Entries}
    (isMapping : rule.defaultParams.find? key = some (.map entries))
    {kind : Scalar}
    (isLeaf :
      ∀ value,
        lastAt? [.text "params", key, kind] (rule.held tables) = some value →
        value.entries? = none) :
    (Document.map (mergeAll (rule.held tables))).at? [.text "params", key, kind] =
      lastAt? [.text "params", key, kind] (rule.held tables) := by
  refine at?_mergeAll_eq_lastAt? distinct ?_ isLeaf
  exact fun document member => (accept document member).blocks_nested isMapping kind

/-- Where the last value inside a mapping is one, the merged value is one too. -/
theorem exists_map_at?_nested
    {key : Scalar}
    {entries : Entries}
    (isMapping : rule.defaultParams.find? key = some (.map entries))
    {kind : Scalar}
    {others : Entries}
    (isLast :
      lastAt? [.text "params", key, kind] (rule.held tables) =
        some (.map others)) :
    ∃ merged,
      (Document.map (mergeAll (rule.held tables))).at?
          [.text "params", key, kind] =
        some (.map merged) := by
  obtain ⟨before, last, after, isSplit, isThere, noneBehind⟩ :=
    exists_of_lastAt? isLast
  rw [isSplit] at distinct accept ⊢
  refine exists_map_at?_mergeAll distinct isThere fun document member => ?_
  exact
    ⟨noneBehind document member,
      (accept document (by simp [member])).blocks_nested isMapping kind⟩

end Merged

end Rule

end HouseStyle
