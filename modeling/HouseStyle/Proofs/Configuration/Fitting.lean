import HouseStyle.Proofs.Configuration.Layering
import HouseStyle.Proofs.Document.Merging

namespace HouseStyle

/-!
# Settled parameters fit

A rule's own settings hold a value for every parameter that it takes. Each layer
is checked for values of other types before it is laid over them. So settled
parameters hold, for every parameter of the rule, a value of the type of its
default, and they have passed the rule's own validation.
-/

theorem fits_map_congr (default : Document) (entries others : Entries) :
    fits default (.map entries) = fits default (.map others) := by
  cases default with
  | scalar scalar => cases scalar <;> rfl
  | _ => rfl

/-- A value that is laid over another one fits where it fits itself. -/
theorem fits_over
    (default value : Document)
    (lower : Option Document) :
    fits default (value.over lower) = fits default value := by
  cases value with
  | map entries =>
      unfold Document.over
      split
      · exact fits_map_congr default _ _
      · rfl
  | _ => rfl

theorem fits_self (default : Document) : fits default default = true := by
  cases default with
  | scalar scalar => cases scalar <;> simp [fits]
  | _ => simp [fits]

namespace Entries

/-- Parameters that hold a value of the right type for every default. -/
def Fit (defaults params : Entries) : Prop :=
  ∀ key default,
    defaults.find? key = some default →
    ∃ value, params.find? key = some value ∧ fits default value = true

variable {defaults params : Entries}

/-- The value of a parameter that fits. -/
theorem Fit.get?
    (fit : Fit defaults params)
    {key : String}
    {default : Document}
    (isDefault : defaults.get? key = some default) :
    ∃ value, params.get? key = some value ∧ fits default value = true :=
  fit (.text key) default isDefault

/-- Parameters go on to fit if a value that fits is put into them. -/
theorem Fit.put
    (fit : Fit defaults params)
    {key : Scalar}
    {value : Document}
    (fitsHere :
      ∀ default, defaults.find? key = some default → fits default value = true) :
    Fit defaults (params.put key value) := by
  intro other default isDefault
  by_cases same : key.name = other.name
  · refine ⟨value, ?_, ?_⟩
    · rw [← find?_congr same, find?_put_self]
    · rw [← find?_congr same] at isDefault
      exact fitsHere default isDefault
  · rw [find?_put_of_ne same]
    exact fit other default isDefault

/-- Parameters go on to fit if values that fit are laid over them. -/
theorem Fit.merge
    (fit : Fit defaults params)
    {upper : Entries}
    (eachFits :
      ∀ entry ∈ upper, ∀ default,
        defaults.find? entry.1 = some default →
        fits default entry.2 = true) :
    Fit defaults (params.merge upper) := by
  unfold Entries.merge
  induction upper generalizing params with
  | nil =>
      exact fit
  | cons entry rest inductionHypothesis =>
      obtain ⟨isFirst, others⟩ := List.forall_mem_cons.mp eachFits
      refine inductionHypothesis (fit.put fun default isDefault => ?_) others
      rw [fits_over]
      exact isFirst default isDefault

end Entries

namespace Rule

variable {rule : Rule}

/-- Settings whose parameters fit those of a rule. -/
def Suits (rule : Rule) (settings : Entries) : Prop :=
  ∃ params,
    settings.get? "params" = some (.map params) ∧
      Entries.Fit rule.defaultParams params

/-- A rule's own settings suit it. -/
theorem suits_ownSettings (rule : Rule) : rule.Suits rule.ownSettings :=
  ⟨rule.defaultParams, rfl, fun _ default isDefault =>
    ⟨default, isDefault, fits_self default⟩⟩

/-- Parameters that have passed the check fit where there is a default. -/
theorem fits_of_checkParams
    {place : String}
    {entries : Entries}
    (checked : checkParams rule place (some (.map entries)) = .ok ()) :
    ∀ entry ∈ entries, ∀ default,
      rule.defaultParams.find? entry.1 = some default →
      fits default entry.2 = true := by
  intro entry member default isDefault
  have ofEntry := forall_of_forM_eq_ok checked entry member
  simp only [checkParam, isDefault] at ofEntry
  split at ofEntry
  · assumption
  · cases ofEntry

/-- Checked settings that are laid over others suit the rule like those. -/
theorem Suits.merge
    {settings upper : Entries}
    {place : String}
    (suits : rule.Suits settings)
    (distinct : upper.names.Nodup)
    (checked : checkSettings rule place upper = .ok ()) :
    rule.Suits (settings.merge upper) := by
  obtain ⟨params, areParams, fit⟩ := suits
  -- What comes before the parameters are the keys, the switch and the severity.
  obtain ⟨_, _, checked⟩ := exists_of_bind_eq_ok checked
  obtain ⟨_, _, checked⟩ := exists_of_bind_eq_ok checked
  obtain ⟨_, _, checked⟩ := exists_of_bind_eq_ok checked
  have merged := Entries.find?_merge distinct settings (.text "params")
  cases isUpper : upper.get? "params" with
  | none =>
      rw [Entries.get?] at isUpper
      rw [isUpper] at merged
      exact ⟨params, merged.trans areParams, fit⟩
  | some value =>
      rw [isUpper] at checked
      cases value with
      | map entries =>
          rw [Entries.get?] at isUpper areParams
          rw [isUpper, areParams] at merged
          exact
            ⟨Entries.merge params entries, merged,
              fit.merge (fits_of_checkParams checked)⟩
      | _ => cases checked

/-- Layers whose settings have distinct names. -/
def HaveDistinctNames (layers : List Layer) : Prop :=
  ∀ layer ∈ layers, ∀ id settings,
    layer.table.lookup id = some settings →
    settings.names.Nodup

/-- Accepted layers leave settings that suit the rule. -/
theorem Suits.layered
    {settings merged : Entries}
    {layers : List Layer}
    (suits : rule.Suits settings)
    (distinct : HaveDistinctNames layers)
    (accepted : layered rule settings layers = .ok merged) :
    rule.Suits merged := by
  induction layers generalizing settings with
  | nil =>
      cases accepted
      exact suits
  | cons layer rest inductionHypothesis =>
      obtain ⟨ofLayer, ofRest⟩ := List.forall_mem_cons.mp distinct
      rw [HouseStyle.layered] at accepted
      split at accepted
      · exact inductionHypothesis suits ofRest accepted
      · next upper isUpper =>
          obtain ⟨_, checked, accepted⟩ := exists_of_bind_eq_ok accepted
          refine inductionHypothesis ?_ ofRest accepted
          exact suits.merge (ofLayer rule.id upper isUpper) checked

/-- A rule that takes verbs takes a list of them. -/
def TakesVerbList (rule : Rule) : Prop :=
  ∀ default,
    rule.defaultParams.get? "verbs" = some default →
    default.typeName = "list"

/-- Parameters to whose verbs words are added still fit. -/
theorem fit_of_addLexicon
    {surroundings : Surroundings}
    {params added : Entries}
    (takesList : rule.TakesVerbList)
    (fit : Entries.Fit rule.defaultParams params)
    (isAdded : addLexicon surroundings params = .ok added) :
    Entries.Fit rule.defaultParams added := by
  unfold addLexicon at isAdded
  split at isAdded
  · cases isAdded
    exact fit
  · obtain ⟨words, _, isAdded⟩ := exists_of_bind_eq_ok isAdded
    obtain ⟨verbs, _, isAdded⟩ := exists_of_bind_eq_ok isAdded
    cases isAdded
    refine fit.put fun default isDefault => ?_
    have isList := takesList default isDefault
    unfold fits
    split
    · rfl
    · rw [isList]
      rfl

/-- Settled parameters fit those of the rule, and the rule accepts them. -/
theorem fit_of_settle
    {surroundings : Surroundings}
    {language : Language}
    {layers : List Layer}
    {settled : RuleSettings}
    (takesList : rule.TakesVerbList)
    (distinct : HaveDistinctNames layers)
    (isSettled : rule.settle surroundings language layers = .ok settled) :
    Entries.Fit rule.defaultParams settled.params ∧
      rule.validate settled.params = .ok () := by
  obtain ⟨merged, isMerged, _, areParams, _⟩ :=
    rule.exists_layered_of_settle isSettled
  obtain ⟨params, isThere, fit⟩ :=
    rule.suits_ownSettings.layered distinct isMerged
  obtain ⟨_, isParams, isAdded, accepted⟩ := exists_of_settledParams areParams
  obtain rfl := isParams params isThere
  exact ⟨fit_of_addLexicon takesList fit isAdded, accepted⟩

end Rule

end HouseStyle
