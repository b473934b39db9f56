import HouseStyle.Configuration.Resolution
import HouseStyle.Proofs.Answer

namespace HouseStyle

/-!
# What the layers of settings come to

Layers are checked one after the other and laid over a rule's own settings. Once
all of them are accepted, the settings are a fold of merges over what the layers
hold for the rule: nothing else in a layer matters, neither the place that
messages name nor what it holds for other rules.
-/

/-- What a layer holds for a rule, laid over settings. -/
def Layer.over
    (layer : Layer)
    (ruleId : String)
    (settings : Entries) :
    Entries :=
  match layer.table.lookup ruleId with
  | none => settings
  | some upper => settings.merge upper

/-- Accepted layers are laid over the settings one after the other. -/
theorem layered_eq_foldl
    {rule : Rule}
    {settings merged : Entries}
    {layers : List Layer}
    (accepted : layered rule settings layers = .ok merged) :
    merged =
      layers.foldl (fun settings layer => layer.over rule.id settings)
        settings := by
  induction layers generalizing settings with
  | nil =>
      rw [layered] at accepted
      cases accepted
      rfl
  | cons layer rest inductionHypothesis =>
      rw [layered] at accepted
      rw [List.foldl_cons, Layer.over]
      cases isFound : layer.table.lookup rule.id with
      | none =>
          rw [isFound] at accepted
          exact inductionHypothesis accepted
      | some upper =>
          rw [isFound] at accepted
          obtain ⟨_, _, accepted⟩ := exists_of_bind_eq_ok accepted
          exact inductionHypothesis accepted

/-- A rule is settled by its merged settings. -/
theorem Rule.exists_layered_of_settle
    {rule : Rule}
    {surroundings : Surroundings}
    {language : Language}
    {layers : List Layer}
    {settled : RuleSettings}
    (isSettled : rule.settle surroundings language layers = .ok settled) :
    ∃ merged,
      layered rule rule.ownSettings layers = .ok merged ∧
        settledSeverity rule (rule.id ++ " (" ++ language.name ++ ")") merged =
          .ok settled.severity ∧
        settledParams
            surroundings rule (rule.id ++ " (" ++ language.name ++ ")")
            merged =
          .ok settled.params ∧
        settled.ruleId = rule.id ∧
        settled.enabled =
          (match merged.get? "enabled" with
          | some (.scalar (.bool enabled)) => enabled
          | _ => true) := by
  obtain ⟨merged, isMerged, isSettled⟩ := exists_of_bind_eq_ok isSettled
  obtain ⟨severity, isSeverity, isSettled⟩ := exists_of_bind_eq_ok isSettled
  obtain ⟨params, areParams, isSettled⟩ := exists_of_bind_eq_ok isSettled
  cases isSettled
  exact ⟨merged, isMerged, isSeverity, areParams, rfl, rfl⟩

/-- Parameters are settled by adding words, and the rule accepts what comes out. -/
theorem exists_of_settledParams
    {surroundings : Surroundings}
    {rule : Rule}
    {place : String}
    {settings settled : Entries}
    (areSettled :
      settledParams surroundings rule place settings = .ok settled) :
    ∃ params,
      (∀ entries, settings.get? "params" = some (.map entries) → params = entries) ∧
        addLexicon surroundings params = .ok settled ∧
        rule.validate settled = .ok () := by
  unfold settledParams at areSettled
  obtain ⟨added, isAdded, areSettled⟩ := exists_of_bind_eq_ok areSettled
  split at areSettled
  · next accepted =>
      cases areSettled
      exact
        ⟨_, fun entries areParams => by simp only [areParams], isAdded, accepted⟩
  · cases areSettled
  · cases areSettled
  · cases areSettled

/-- A rule accepts the parameters that are settled for it. -/
theorem Rule.accepts_of_settle
    {rule : Rule}
    {surroundings : Surroundings}
    {language : Language}
    {layers : List Layer}
    {settled : RuleSettings}
    (isSettled : rule.settle surroundings language layers = .ok settled) :
    rule.validate settled.params = .ok () := by
  obtain ⟨_, _, _, areParams, _⟩ := rule.exists_layered_of_settle isSettled
  obtain ⟨_, _, _, accepted⟩ := exists_of_settledParams areParams
  exact accepted

/-- Only what layers hold for a rule matters to its settings. -/
theorem Rule.settle_eq_of_sameLayers
    {rule : Rule}
    {surroundings : Surroundings}
    {language : Language}
    {layers others : List Layer}
    {settled other : RuleSettings}
    (same :
      layers.map (fun layer => layer.table.lookup rule.id) =
        others.map (fun layer => layer.table.lookup rule.id))
    (isSettled : rule.settle surroundings language layers = .ok settled)
    (isOther : rule.settle surroundings language others = .ok other) :
    settled = other := by
  obtain ⟨merged, isMerged, severity, params, ruleId, enabled⟩ :=
    rule.exists_layered_of_settle isSettled
  obtain
    ⟨otherMerged, otherIsMerged, otherSeverity, otherParams, otherId,
      otherEnabled⟩ := rule.exists_layered_of_settle isOther
  have sameMerged : merged = otherMerged := by
    rw [layered_eq_foldl isMerged, layered_eq_foldl otherIsMerged]
    have asLookups (these : List Layer) (settings : Entries) :
        these.foldl (fun settings layer => layer.over rule.id settings)
            settings =
          (these.map fun layer => layer.table.lookup rule.id).foldl
            (fun settings found =>
              match found with
              | none => settings
              | some upper => settings.merge upper)
            settings := by
      rw [List.foldl_map]
      rfl
    rw [asLookups, asLookups, same]
  subst sameMerged
  rw [severity, Except.ok.injEq] at otherSeverity
  rw [params, Except.ok.injEq] at otherParams
  cases settled
  cases other
  simp_all

/-- The settings for a language are those of the registered rules. -/
theorem forall₂_of_settleLanguage
    {surroundings : Surroundings}
    {registry : Registry}
    {defaults overrides : Configuration}
    {language : Language}
    {settled : Language × List RuleSettings}
    (isSettled :
      settleLanguage surroundings registry defaults overrides language =
        .ok settled) :
    settled.1 = language ∧
      List.Forall₂
        (fun rule settings =>
          rule.settle surroundings language
              (defaults.layers language ++ overrides.layers language) =
            .ok settings)
        registry.rules settled.2 := by
  obtain ⟨settings, areSettled, isSettled⟩ := exists_of_bind_eq_ok isSettled
  cases isSettled
  exact ⟨rfl, forall₂_of_mapM_eq_ok areSettled⟩

/-- A configuration is resolved language by language. -/
theorem exists_languages_of_resolveOver
    {surroundings : Surroundings}
    {registry : Registry}
    {defaults overrides : Configuration}
    {rules : RuleSet}
    (isResolved :
      resolveOver surroundings registry defaults overrides = .ok rules) :
    List.Forall₂
        (fun language settled =>
          settleLanguage surroundings registry defaults overrides language =
            .ok settled)
        Language.sorted rules.languages ∧
      rules.failOn =
        (overrides.failOn.or defaults.failOn).getD .warning ∧
      rules.exclude = defaults.exclude ++ overrides.exclude := by
  obtain ⟨_, _, isResolved⟩ := exists_of_bind_eq_ok isResolved
  obtain ⟨_, _, isResolved⟩ := exists_of_bind_eq_ok isResolved
  obtain ⟨languages, areSettled, isResolved⟩ := exists_of_bind_eq_ok isResolved
  cases isResolved
  exact ⟨forall₂_of_mapM_eq_ok areSettled, rfl, rfl⟩

/-! ## Settings that need nothing from the disk

While settings are resolved, all that is read is the list of words that the
parameters of a rule may name. Where no rule is left with such a name, the same
settings come out in all surroundings.
-/

/-- The parameters in some settings name no list of words. -/
def Entries.namesNoWords (settings : Entries) : Bool :=
  match settings.get? "params" with
  | some (.map params) => (unlessEmpty (Entries.get? params "lexicon_file")).isNone
  | _ => true

/-- Layers leave a rule with parameters that name no list of words. -/
def Rule.namesNoWords
    (rule : Rule)
    (layers : List Layer) :
    Bool :=
  (layered rule rule.ownSettings layers).toOption.all Entries.namesNoWords

section TwoDisks

variable (surroundings others : Surroundings)

/-- Parameters that name no list of words get none. -/
theorem addLexicon_congr
    {params : Entries}
    (noFile : unlessEmpty (params.get? "lexicon_file") = none) :
    addLexicon surroundings params = addLexicon others params := by
  simp only [addLexicon, noFile]

/-- Parameters that name no list of words are settled alike. -/
theorem settledParams_congr
    {settings : Entries}
    (namesNone : settings.namesNoWords = true)
    (rule : Rule)
    (place : String) :
    settledParams surroundings rule place settings =
      settledParams others rule place settings := by
  have without :
      addLexicon surroundings [] = addLexicon others [] :=
    addLexicon_congr surroundings others rfl
  cases isThere : settings.get? "params" with
  | none =>
      simp only [settledParams, isThere, without]
  | some value =>
      cases value with
      | map params =>
          have noFile : unlessEmpty (Entries.get? params "lexicon_file") = none := by
            simpa [Entries.namesNoWords, isThere] using namesNone
          simp only [settledParams, isThere,
            addLexicon_congr surroundings others noFile]
      | scalar _ | list _ | pair _ _ | set _ =>
          simp only [settledParams, isThere, without]

/-- So is a rule whose parameters name none. -/
theorem Rule.settle_congr
    {rule : Rule}
    {layers : List Layer}
    (namesNone : rule.namesNoWords layers = true)
    (language : Language) :
    rule.settle surroundings language layers =
      rule.settle others language layers := by
  refine bind_congr_of_ok fun settings isLayered => ?_
  rw [Rule.namesNoWords, isLayered] at namesNone
  refine bind_congr_of_ok fun severity _ => ?_
  rw [settledParams_congr surroundings others namesNone]

/-- Where no rule names a list of words for any language, nothing depends on the disk. -/
theorem resolveOver_congr
    {registry : Registry}
    {defaults overrides : Configuration}
    (namesNone :
      ∀ language, ∀ rule ∈ registry.rules,
        rule.namesNoWords
          (defaults.layers language ++ overrides.layers language) = true) :
    resolveOver surroundings registry defaults overrides =
      resolveOver others registry defaults overrides := by
  have ofLanguage :
      settleLanguage surroundings registry defaults overrides =
        settleLanguage others registry defaults overrides := by
    funext language
    simp only [settleLanguage]
    rw [mapM_congr fun rule member =>
      Rule.settle_congr surroundings others (namesNone language rule member) language]
  rw [resolveOver, resolveOver, ofLanguage]

end TwoDisks

end HouseStyle
