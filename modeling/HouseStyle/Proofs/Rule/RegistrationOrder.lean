import HouseStyle.Proofs.Rule.ReportOrder
import HouseStyle.Rule.Evaluation

namespace HouseStyle

/-!
# Evaluation in whatever order rules are registered

Each rule is asked on its own, and its violations carry its id. So violations
that share their line, their column and their rule come from one rule, which has
an order of its own, and sorting leaves nothing to the order of the registry or
of the settings. What is shown of one rule is what it says itself, sorted by
place, whatever becomes of the other rules.
-/

/-! ## Sorted lists with the same ties -/

/-- Two sorted lists of the same items are equal if their ties are. -/
theorem eq_of_sorted_of_ties
    {Item : Type}
    {notAfter isTie : Item → Item → Bool}
    (tie :
      ∀ left right,
        notAfter left right = true →
        notAfter right left = true →
        isTie left right = true)
    (level : ∀ item, notAfter item item = true)
    {lefts rights : List Item}
    (same : lefts.Perm rights)
    (leftsInOrder :
      lefts.Pairwise fun earlier later => notAfter earlier later = true)
    (rightsInOrder :
      rights.Pairwise fun earlier later => notAfter earlier later = true)
    (ties : ∀ item, lefts.filter (isTie item) = rights.filter (isTie item)) :
    lefts = rights := by
  induction lefts generalizing rights with
  | nil =>
      exact (List.nil_perm.mp same).symm
  | cons left lefts inductionHypothesis =>
      cases rights with
      | nil =>
          cases same.length_eq
      | cons right rights =>
          obtain ⟨leftFirst, restInOrder⟩ := List.pairwise_cons.mp leftsInOrder
          obtain ⟨rightFirst, otherRestInOrder⟩ :=
            List.pairwise_cons.mp rightsInOrder
          have notBehind : notAfter left right = true := by
            rcases List.mem_cons.mp (same.symm.subset (List.mem_cons_self ..)) with
              rfl | inLefts
            · exact level right
            · exact leftFirst right inLefts
          have notAhead : notAfter right left = true := by
            rcases List.mem_cons.mp (same.subset (List.mem_cons_self ..)) with
              rfl | inRights
            · exact level left
            · exact rightFirst left inRights
          -- Both heads are the first of the items that tie with the left one.
          have heads := ties left
          rw [List.filter_cons_of_pos (tie left left (level left) (level left)),
            List.filter_cons_of_pos (tie left right notBehind notAhead)] at heads
          obtain rfl := (List.cons.inj heads).1
          refine congrArg _ ?_
          refine
            inductionHypothesis same.cons_inv restInOrder otherRestInOrder ?_
          intro item
          have ofItem := ties item
          simp only [List.filter_cons] at ofItem
          split at ofItem
          · exact (List.cons.inj ofItem).2
          · exact ofItem

/-- Stable sorting gives the same if the same is sorted and the ties are equal. -/
theorem SortsStably.eq_of_ties
    {Item : Type}
    {notAfter isTie : Item → Item → Bool}
    (tie :
      ∀ left right,
        notAfter left right = true →
        notAfter right left = true →
        isTie left right = true)
    (level : ∀ item, notAfter item item = true)
    {produced others shown otherShown : List Item}
    (sorts : SortsStably notAfter isTie produced shown)
    (sortsToo : SortsStably notAfter isTie others otherShown)
    (same : produced.Perm others)
    (ties : ∀ item, produced.filter (isTie item) = others.filter (isTie item)) :
    shown = otherShown := by
  refine
    eq_of_sorted_of_ties tie level
      (sorts.perm.trans (same.trans sortsToo.perm.symm))
      sorts.inOrder sortsToo.inOrder fun item => ?_
  rw [sorts.ties, sortsToo.ties, ties]

/-- In two orders of the same items, the one of a certain key is the same. -/
theorem filter_eq_of_perm
    {Item Key : Type}
    [BEq Key]
    [LawfulBEq Key]
    (key : Item → Key)
    {items others : List Item}
    (same : items.Perm others)
    (distinct : (items.map key).Nodup)
    (wanted : Key) :
    items.filter (key · == wanted) = others.filter (key · == wanted) := by
  have othersDistinct : (others.map key).Nodup := (same.map key).nodup distinct
  refine
    List.Perm.eq_of_pairwise ?_
      ((List.pairwise_map.mp distinct).filter _)
      ((List.pairwise_map.mp othersDistinct).filter _)
      (same.filter _)
  intro left right isLeft isRight differ
  have leftKey := eq_of_beq (List.mem_filter.mp isLeft).2
  have rightKey := eq_of_beq (List.mem_filter.mp isRight).2
  exact (differ (leftKey.trans rightKey.symm)).elim

/-- Where keys are distinct, an item is the only one of its key. -/
theorem filter_eq_singleton
    {Item Key : Type}
    [BEq Key]
    [LawfulBEq Key]
    (key : Item → Key)
    {items : List Item}
    (distinct : (items.map key).Nodup)
    {item : Item}
    (member : item ∈ items) :
    items.filter (key · == key item) = [item] := by
  obtain ⟨before, after, rfl⟩ := List.mem_iff_append.mp member
  have differs {others : List Item} (noOther : key item ∉ others.map key) :
      others.filter (key · == key item) = [] := by
    refine List.filter_eq_nil_iff.mpr fun other isOther isSame => noOther ?_
    exact List.mem_map.mpr ⟨other, isOther, eq_of_beq isSame⟩
  rw [List.map_append, List.map_cons, List.nodup_middle, List.nodup_cons,
    List.mem_append, not_or] at distinct
  obtain ⟨⟨notBefore, notAfter⟩, _⟩ := distinct
  rw [List.filter_append, List.filter_cons, if_pos (beq_self_eq_true _),
    differs notBefore, differs notAfter, List.nil_append]

/-! ## Places -/

namespace Violation

/-- The order of places alone: by line, then by column. -/
def placedNotAfter (left right : Violation) : Bool :=
  if left.line ≠ right.line then
    left.line < right.line
  else
    left.exactColumn ≤ right.exactColumn

/-- Violations of one rule are in report order if their places are in order. -/
theorem notAfter_of_sameRule
    {left right : Violation}
    (sameRule : left.ruleId = right.ruleId) :
    left.notAfter right = left.placedNotAfter right := by
  unfold notAfter placedNotAfter
  split
  · rfl
  · split
    · next differ => rw [decide_eq_decide, lt_iff_le_and_ne, and_iff_left differ]
    · next same =>
        have sameColumn := Decidable.not_not.mp same
        simp [sameRule, sameColumn]

theorem notAfter_self (violation : Violation) :
    violation.notAfter violation = true := by
  simpa using violation.notAfter_total violation

/-- Violations that are not after each other share line, column and rule. -/
theorem sharesKey_of_notAfter
    (left right : Violation)
    (notBehind : left.notAfter right = true)
    (notAhead : right.notAfter left = true) :
    left.sharesKey right = true := by
  rw [notAfter_iff] at notBehind notAhead
  have sameLine : left.line = right.line := by omega
  have sameColumn : left.exactColumn = right.exactColumn := by grind
  have sameRule : left.ruleId = right.ruleId := by
    refine String.le_antisymm ?_ ?_ <;> grind
  simp [sharesKey, sameLine, sameColumn, sameRule]

/-- The violations of one rule are sorted by place. -/
theorem sorted_of_rule
    {violations : List Violation}
    {ruleId : String}
    (ofRule : ∀ violation ∈ violations, violation.ruleId = ruleId) :
    sorted violations = violations.mergeSort placedNotAfter := by
  have sameOrder :=
    List.map_mergeSort (r := notAfter) (s := placedNotAfter) (f := id)
      (l := violations) fun left isLeft right isRight =>
        notAfter_of_sameRule
          ((ofRule left isLeft).trans (ofRule right isRight).symm)
  rwa [List.map_id, List.map_id] at sameOrder

end Violation

namespace Diagnostic

theorem notAfter_self (diagnostic : Diagnostic) :
    diagnostic.notAfter diagnostic = true := by
  simp [notAfter]

/-- Some diagnostics of sorted ones are sorted as they would be alone. -/
theorem filter_sorted
    (keep : Diagnostic → Bool)
    (diagnostics : List Diagnostic) :
    (sorted diagnostics).filter keep = sorted (diagnostics.filter keep) := by
  refine filter_mergeSort ?_ ?_ keep diagnostics
  · intro first second third before after
    rw [decide_eq_true_eq] at before after ⊢
    exact String.le_trans before after
  · intro left right
    simpa using String.le_total left.ruleId right.ruleId

/-- Diagnostics that are not after each other are of one rule. -/
theorem sharesRule_of_notAfter
    (left right : Diagnostic)
    (notBehind : left.notAfter right = true)
    (notAhead : right.notAfter left = true) :
    left.sharesRule right = true := by
  simp only [notAfter, decide_eq_true_eq] at notBehind notAhead
  simpa [sharesRule] using String.le_antisymm notBehind notAhead

end Diagnostic

/-! ## Verdicts -/

namespace Verdict

/-- All violations of a verdict carry the id of its rule. -/
def KeepsId (verdict : Verdict) : Prop :=
  ∀ violation ∈ verdict.violations, violation.ruleId = verdict.ruleId

/-- The diagnostic of a verdict is about its rule. -/
theorem ruleId_of_diagnostic
    {path : String}
    {verdict : Verdict}
    {diagnostic : Diagnostic}
    (isDiagnostic : verdict.diagnostic? path = some diagnostic) :
    diagnostic.ruleId = verdict.ruleId := by
  unfold diagnostic? at isDiagnostic
  split at isDiagnostic
  · cases isDiagnostic
  · cases isDiagnostic
    rfl

variable {verdicts others : List Verdict}

/-- Violations of one rule come from the verdict of that rule. -/
theorem filter_violations
    (keepIds : ∀ verdict ∈ verdicts, verdict.KeepsId)
    {keep : Violation → Bool}
    {ruleId : String}
    (ofRule :
      ∀ violation, keep violation = true → violation.ruleId = ruleId) :
    (verdicts.flatMap violations).filter keep =
      (verdicts.filter (·.ruleId == ruleId)).flatMap fun verdict =>
        verdict.violations.filter keep := by
  induction verdicts with
  | nil =>
      rfl
  | cons verdict rest inductionHypothesis =>
      obtain ⟨keepsId, ofRest⟩ := List.forall_mem_cons.mp keepIds
      rw [List.flatMap_cons, List.filter_append, inductionHypothesis ofRest,
        List.filter_cons]
      split
      · rw [List.flatMap_cons]
      · next isOther =>
          have nothing : verdict.violations.filter keep = [] := by
            refine List.filter_eq_nil_iff.mpr fun violation member isKept => ?_
            refine isOther (beq_iff_eq.mpr ?_)
            rw [← keepsId violation member, ofRule violation isKept]
          rw [nothing, List.nil_append]

/-- The diagnostics of one rule come from the verdict of that rule. -/
theorem filter_diagnostics
    (path : String)
    (ruleId : String) :
    (verdicts.filterMap (diagnostic? path)).filter (·.ruleId == ruleId) =
      (verdicts.filter (·.ruleId == ruleId)).filterMap (diagnostic? path) := by
  rw [List.filter_filterMap, List.filterMap_filter]
  refine List.filterMap_congr fun verdict _ => ?_
  cases isDiagnostic : verdict.diagnostic? path with
  | none =>
      simp
  | some diagnostic =>
      simp [Option.filter_some, ruleId_of_diagnostic isDiagnostic]

end Verdict

/-! ## Asking rules -/

/-- A way to ask a rule about a model: it has violations to show, or it fails. -/
abbrev Inquiry :=
  Rule → SourceModel → RuleSettings → Except RuleFault (List Violation)

/-- Whatever a rule shows carries the rule's id. -/
def Inquiry.KeepsIds (inquiry : Inquiry) : Prop :=
  ∀ rule model settings violations,
    inquiry rule model settings = .ok violations →
    ∀ violation ∈ violations, violation.ruleId = rule.id

/-- The rules of the library sign with their ids. -/
theorem Rule.evaluate_keepsIds : Inquiry.KeepsIds Rule.evaluate := by
  intro rule model settings violations evaluated violation member
  unfold Rule.evaluate at evaluated
  cases checked : rule.check model settings with
  | error fault =>
      rw [checked] at evaluated
      cases evaluated
  | ok findings =>
      rw [checked] at evaluated
      cases evaluated
      obtain ⟨finding, _, rfl⟩ := List.mem_map.mp member
      rfl

namespace Registry

/-- What rules say when they are asked in some way, in the order of the settings. -/
def verdictsBy
    (inquiry : Inquiry)
    (registry : Registry)
    (model : SourceModel)
    (settings : List RuleSettings) :
    List Verdict :=
  settings.filterMap fun setting =>
    (registry.find? setting.ruleId).map fun rule =>
      { ruleId := rule.id, outcome := inquiry rule model setting }

/-- What rules say of a file when they are asked in some way, in report order. -/
def evaluateBy
    (inquiry : Inquiry)
    (registry : Registry)
    (model : SourceModel)
    (settings : List RuleSettings) :
    Evaluation :=
  let verdicts := registry.verdictsBy inquiry model settings
  { violations := Violation.sorted (verdicts.flatMap Verdict.violations)
    diagnostics :=
      Diagnostic.sorted (verdicts.filterMap (Verdict.diagnostic? model.path)) }

/-- The rules of the library are asked to evaluate the model. -/
theorem evaluateBy_evaluate
    (registry : Registry)
    (model : SourceModel)
    (settings : List RuleSettings) :
    registry.evaluateBy Rule.evaluate model settings =
      registry.evaluate model settings :=
  rfl

variable
  {inquiry : Inquiry}
  {registry other : Registry}
  {model : SourceModel}
  {settings others : List RuleSettings}

theorem id_of_find?
    {id : String}
    {rule : Rule}
    (isFound : registry.find? id = some rule) :
    rule.id = id := by
  have isNamed := List.find?_some isFound
  exact eq_of_beq isNamed

theorem find?_of_perm
    (distinct : registry.ids.Nodup)
    (sameRules : registry.rules.Perm other.rules)
    (id : String) :
    registry.find? id = other.find? id := by
  unfold find?
  rw [← List.head?_filter, ← List.head?_filter,
    filter_eq_of_perm Rule.id sameRules distinct id]

/-- A verdict is of the rule that its settings name. -/
theorem exists_of_mem_verdictsBy
    {verdict : Verdict}
    (member : verdict ∈ registry.verdictsBy inquiry model settings) :
    ∃ setting ∈ settings, ∃ rule,
      registry.find? setting.ruleId = some rule ∧
        rule.id = setting.ruleId ∧
          verdict =
            { ruleId := rule.id, outcome := inquiry rule model setting } := by
  obtain ⟨setting, isSetting, isVerdict⟩ := List.mem_filterMap.mp member
  obtain ⟨rule, isFound, rfl⟩ := Option.map_eq_some_iff.mp isVerdict
  exact
    ⟨setting, isSetting, rule, isFound, id_of_find? isFound, rfl⟩

/-- Where violations carry the ids of their rules, so they do in verdicts. -/
theorem keepsId_of_mem_verdictsBy
    (keepsIds : inquiry.KeepsIds) :
    ∀ verdict ∈ registry.verdictsBy inquiry model settings,
      verdict.KeepsId := by
  intro verdict member violation isViolation
  obtain ⟨setting, _, rule, _, _, rfl⟩ := exists_of_mem_verdictsBy member
  unfold Verdict.violations at isViolation
  split at isViolation
  · next violations isAnswer =>
      exact keepsIds rule model setting violations isAnswer violation isViolation
  · cases isViolation

/-- The verdicts on settings of different rules are of different rules. -/
theorem nodup_ruleIds_verdictsBy
    (distinct : (settings.map (·.ruleId)).Nodup) :
    ((registry.verdictsBy inquiry model settings).map (·.ruleId)).Nodup := by
  refine List.Nodup.sublist ?_ distinct
  clear distinct
  induction settings with
  | nil =>
      exact List.Sublist.refl []
  | cons setting rest inductionHypothesis =>
      unfold verdictsBy at inductionHypothesis ⊢
      rw [List.filterMap_cons]
      cases isFound : registry.find? setting.ruleId with
      | none =>
          exact inductionHypothesis.cons _
      | some rule =>
          simp only [Option.map_some, List.map_cons, id_of_find? isFound]
          exact inductionHypothesis.cons_cons _

theorem find?_id
    (distinct : registry.ids.Nodup)
    {rule : Rule}
    (isRegistered : rule ∈ registry.rules) :
    registry.find? rule.id = some rule := by
  unfold find?
  rw [← List.head?_filter, filter_eq_singleton Rule.id distinct isRegistered,
    List.head?_cons]

variable (inquiry model) in
/-- The one verdict on a rule is what it says with its settings. -/
theorem filter_verdictsBy
    (distinct : registry.ids.Nodup)
    (settledOnce : (settings.map (·.ruleId)).Nodup)
    {rule : Rule}
    (isRegistered : rule ∈ registry.rules)
    {setting : RuleSettings}
    (isSetting : setting ∈ settings)
    (ofRule : setting.ruleId = rule.id) :
    (registry.verdictsBy inquiry model settings).filter (·.ruleId == rule.id) =
      [{ ruleId := rule.id, outcome := inquiry rule model setting }] := by
  have isVerdict :
      { ruleId := rule.id, outcome := inquiry rule model setting } ∈
        registry.verdictsBy inquiry model settings := by
    refine List.mem_filterMap.mpr ⟨setting, isSetting, ?_⟩
    rw [ofRule, find?_id distinct isRegistered, Option.map_some]
  exact
    filter_eq_singleton Verdict.ruleId
      (nodup_ruleIds_verdictsBy settledOnce) isVerdict

/-- There is no verdict on a rule without settings. -/
theorem filter_verdictsBy_of_not_mem
    {ruleId : String}
    (noSetting : ruleId ∉ settings.map (·.ruleId)) :
    (registry.verdictsBy inquiry model settings).filter (·.ruleId == ruleId) =
      [] := by
  refine List.filter_eq_nil_iff.mpr fun verdict member isOfRule => noSetting ?_
  obtain ⟨setting, isSetting, rule, _, isNamed, rfl⟩ :=
    exists_of_mem_verdictsBy member
  exact
    List.mem_map.mpr
      ⟨setting, isSetting, isNamed.symm.trans (eq_of_beq isOfRule)⟩

/-! ## What an evaluation shows -/

/-- The same verdicts in another order show the same. -/
theorem evaluateBy_eq_of_perm
    (keepsIds : inquiry.KeepsIds)
    (distinct : registry.ids.Nodup)
    (sameRules : registry.rules.Perm other.rules)
    (settledOnce : (settings.map (·.ruleId)).Nodup)
    (sameSettings : settings.Perm others) :
    registry.evaluateBy inquiry model settings =
      other.evaluateBy inquiry model others := by
  have sameVerdicts :
      (registry.verdictsBy inquiry model settings).Perm
        (other.verdictsBy inquiry model others) := by
    have asked :
        registry.verdictsBy inquiry model settings =
          other.verdictsBy inquiry model settings := by
      unfold verdictsBy
      simp only [find?_of_perm distinct sameRules]
    rw [asked]
    exact sameSettings.filterMap _
  have ofRule (ruleId : String) :=
    filter_eq_of_perm Verdict.ruleId sameVerdicts
      (nodup_ruleIds_verdictsBy settledOnce) ruleId
  have sameViolations :
      Violation.sorted
          ((registry.verdictsBy inquiry model settings).flatMap
            Verdict.violations) =
        Violation.sorted
          ((other.verdictsBy inquiry model others).flatMap
            Verdict.violations) := by
    refine
      (Violation.sorted_sortsStably _).eq_of_ties
        Violation.sharesKey_of_notAfter Violation.notAfter_self
        (Violation.sorted_sortsStably _) (sameVerdicts.flatMap_right _) ?_
    intro violation
    have areOfRule (tied : Violation) (ties : violation.sharesKey tied = true) :
        tied.ruleId = violation.ruleId := by
      simp only [Violation.sharesKey, Bool.and_eq_true, beq_iff_eq] at ties
      exact ties.2.symm
    rw [Verdict.filter_violations (keepsId_of_mem_verdictsBy keepsIds) areOfRule,
      Verdict.filter_violations (keepsId_of_mem_verdictsBy keepsIds) areOfRule,
      ofRule]
  have sameDiagnostics :
      Diagnostic.sorted
          ((registry.verdictsBy inquiry model settings).filterMap
            (Verdict.diagnostic? model.path)) =
        Diagnostic.sorted
          ((other.verdictsBy inquiry model others).filterMap
            (Verdict.diagnostic? model.path)) := by
    refine
      (Diagnostic.sorted_sortsStably _).eq_of_ties
        Diagnostic.sharesRule_of_notAfter Diagnostic.notAfter_self
        (Diagnostic.sorted_sortsStably _) (sameVerdicts.filterMap _) ?_
    intro diagnostic
    have asIds :
        diagnostic.sharesRule = fun tied => tied.ruleId == diagnostic.ruleId := by
      funext tied
      rw [Diagnostic.sharesRule, Bool.beq_comm]
    rw [asIds, Verdict.filter_diagnostics, Verdict.filter_diagnostics, ofRule]
  unfold evaluateBy
  simp only [sameViolations, sameDiagnostics]

end Registry

/--
What an evaluation shows of one rule with its settings: its own violations sorted
by place, or one diagnostic if it fails, or nothing if it is turned off.
-/
structure Evaluation.ShowsRule
    (shown : Evaluation)
    (inquiry : Inquiry)
    (model : SourceModel)
    (rule : Rule)
    (settings : RuleSettings) :
    Prop where
  answered :
    settings.enabled = true →
    ∀ violations,
      inquiry rule model settings = .ok violations →
      shown.violations.filter (·.ruleId == rule.id) =
          violations.mergeSort Violation.placedNotAfter ∧
        shown.diagnostics.filter (·.ruleId == rule.id) = []
  failed :
    settings.enabled = true →
    ∀ fault,
      inquiry rule model settings = .error fault →
      shown.violations.filter (·.ruleId == rule.id) = [] ∧
        shown.diagnostics.filter (·.ruleId == rule.id) =
          [{ ruleId := rule.id
             path := model.path
             message :=
              "rule '" ++ rule.id ++ "' failed on " ++ model.path ++ ": " ++
                fault.message }]
  disabled :
    settings.enabled = false →
    shown.violations.filter (·.ruleId == rule.id) = [] ∧
      shown.diagnostics.filter (·.ruleId == rule.id) = []

/-- Two evaluations of one model show the same, and of each rule what it says. -/
structure EvaluatesAlike
    (inquiry : Inquiry)
    (model : SourceModel)
    (registry other : Registry)
    (rules others : RuleSet) :
    Prop where
  same :
    registry.evaluateBy inquiry model (rules.enabledFor model.language) =
      other.evaluateBy inquiry model (others.enabledFor model.language)
  shows :
    ∀ rule ∈ registry.rules,
      ∀ settings ∈ rules.settingsFor model.language,
        settings.ruleId = rule.id →
        (registry.evaluateBy inquiry model
            (rules.enabledFor model.language)).ShowsRule
          inquiry model rule settings

namespace Registry

/-- The violations that are shown of a rule come from the verdict on it. -/
theorem filter_violations_evaluateBy
    {inquiry : Inquiry}
    (keepsIds : inquiry.KeepsIds)
    (registry : Registry)
    (model : SourceModel)
    (settings : List RuleSettings)
    (ruleId : String) :
    (registry.evaluateBy inquiry model settings).violations.filter
        (·.ruleId == ruleId) =
      Violation.sorted
        (((registry.verdictsBy inquiry model settings).filter
            (·.ruleId == ruleId)).flatMap fun verdict =>
          verdict.violations.filter (·.ruleId == ruleId)) := by
  rw [evaluateBy, Violation.filter_sorted,
    Verdict.filter_violations (keepsId_of_mem_verdictsBy keepsIds)
      fun _ isOfRule => eq_of_beq isOfRule]

/-- The diagnostics that are shown of a rule come from the verdict on it. -/
theorem filter_diagnostics_evaluateBy
    (inquiry : Inquiry)
    (registry : Registry)
    (model : SourceModel)
    (settings : List RuleSettings)
    (ruleId : String) :
    (registry.evaluateBy inquiry model settings).diagnostics.filter
        (·.ruleId == ruleId) =
      Diagnostic.sorted
        (((registry.verdictsBy inquiry model settings).filter
            (·.ruleId == ruleId)).filterMap
          (Verdict.diagnostic? model.path)) := by
  rw [evaluateBy, Diagnostic.filter_sorted, Verdict.filter_diagnostics]

/-- Of each rule an evaluation shows what the rule says. -/
theorem evaluateBy_showsRule
    {inquiry : Inquiry}
    (keepsIds : inquiry.KeepsIds)
    {registry : Registry}
    (distinct : registry.ids.Nodup)
    (model : SourceModel)
    {all : List RuleSettings}
    (settledOnce : (all.map (·.ruleId)).Nodup)
    {rule : Rule}
    (isRegistered : rule ∈ registry.rules)
    {settings : RuleSettings}
    (isSetting : settings ∈ all)
    (ofRule : settings.ruleId = rule.id) :
    (registry.evaluateBy inquiry model (all.filter (·.enabled))).ShowsRule
      inquiry model rule settings := by
  have oneVerdict (isEnabled : settings.enabled = true) :=
    filter_verdictsBy inquiry model distinct
      (settledOnce.sublist (List.filter_sublist.map _)) isRegistered
      (List.mem_filter.mpr ⟨isSetting, isEnabled⟩) ofRule
  refine ⟨?answered, ?failed, ?disabled⟩
  case answered =>
    intro isEnabled violations answers
    have ownIds := keepsIds rule model settings violations answers
    rw [filter_violations_evaluateBy keepsIds, filter_diagnostics_evaluateBy,
      oneVerdict isEnabled, answers]
    refine ⟨?_, ?_⟩
    · rw [List.flatMap_singleton, ← Violation.sorted_of_rule ownIds]
      refine congrArg _ (List.filter_eq_self.mpr fun violation member => ?_)
      exact beq_iff_eq.mpr (ownIds violation member)
    · rw [List.filterMap_cons_none rfl, List.filterMap_nil]
      exact List.mergeSort_nil
  case failed =>
    intro isEnabled fault fails
    rw [filter_violations_evaluateBy keepsIds, filter_diagnostics_evaluateBy,
      oneVerdict isEnabled, fails]
    simp [Verdict.diagnostic?, Verdict.violations, Violation.sorted,
      Diagnostic.sorted]
  case disabled =>
    intro isDisabled
    have noSetting :
        rule.id ∉ (all.filter (·.enabled)).map (·.ruleId) := by
      intro isNamed
      obtain ⟨other, isOther, sameId⟩ := List.mem_map.mp isNamed
      obtain ⟨isOtherSetting, isEnabled⟩ := List.mem_filter.mp isOther
      have isSame : other = settings :=
        List.inj_on_of_nodup_map settledOnce isOtherSetting isSetting
          (sameId.trans ofRule.symm)
      rw [isSame, isDisabled] at isEnabled
      cases isEnabled
    rw [filter_violations_evaluateBy keepsIds, filter_diagnostics_evaluateBy,
      filter_verdictsBy_of_not_mem noSetting]
    simp [Violation.sorted, Diagnostic.sorted]

end Registry

/--
Rules with distinct ids, registered and set in any order, are shown alike, and of
each rule what it says itself, however the other rules are set and whatever they
say. So it is with any rules that sign with their ids, and with the library's.
-/
theorem evaluatesAlike_of_perm
    {registry other : Registry}
    {rules others : RuleSet}
    (model : SourceModel)
    (distinct : registry.ids.Nodup)
    (sameRules : registry.rules.Perm other.rules)
    (settledOnce : ((rules.settingsFor model.language).map (·.ruleId)).Nodup)
    (sameSettings :
      (rules.settingsFor model.language).Perm
        (others.settingsFor model.language)) :
    (∀ inquiry : Inquiry,
        inquiry.KeepsIds →
        EvaluatesAlike inquiry model registry other rules others) ∧
      registry.evaluate model (rules.enabledFor model.language) =
        other.evaluate model (others.enabledFor model.language) := by
  have enabledOnce :
      ((rules.enabledFor model.language).map (·.ruleId)).Nodup :=
    settledOnce.sublist (List.filter_sublist.map _)
  have alike (inquiry : Inquiry) (keepsIds : inquiry.KeepsIds) :
      EvaluatesAlike inquiry model registry other rules others := by
    refine ⟨?same, ?shows⟩
    case same =>
      exact
        Registry.evaluateBy_eq_of_perm keepsIds distinct sameRules enabledOnce
          (sameSettings.filter _)
    case shows =>
      intro rule isRegistered settings isSetting ofRule
      exact
        Registry.evaluateBy_showsRule keepsIds distinct model settledOnce
          isRegistered isSetting ofRule
  refine ⟨alike, ?_⟩
  rw [← registry.evaluateBy_evaluate, ← other.evaluateBy_evaluate]
  exact (alike Rule.evaluate Rule.evaluate_keepsIds).same

/-- A rule with two findings at one place. -/
def repeatingRule : Rule :=
  { id := "repeating"
    description := "Says two things at one place"
    check := fun _ _ =>
      .ok
        [{ place := { line := 2, column := 1 }
           severity := .warning
           message := "second things first" },
         { place := { line := 2, column := 1 }
           severity := .error
           message := "first things second" }] }

/-- A rule that fails. -/
def failingRule : Rule :=
  { id := "failing"
    description := "Fails on every file"
    check := fun _ _ => .error (.failed "out of order") }

/-- The two rules in one order. -/
def repeatingFirst : Registry :=
  { rules := [repeatingRule, failingRule] }

/-- The two rules in the other order. -/
def failingFirst : Registry :=
  { rules := [failingRule, repeatingRule] }

/-- Rules as they are declared, turned on for Python. -/
def RuleSet.ofRegistry (registry : Registry) : RuleSet :=
  let settings (rule : Rule) : RuleSettings :=
    { ruleId := rule.id
      enabled := true
      severity := rule.defaultSeverity
      params := rule.defaultParams }
  { name := "declared"
    failOn := .error
    exclude := []
    languages := [(.python, registry.rules.map settings)] }

/-- The model of a file without lines. -/
def SourceModel.ofNothing : SourceModel :=
  { path := "nothing.py"
    language := .python
    lines := #[]
    tokens := #[]
    outline := .empty
    declarations := [] }

/-- A rule that repeats itself and a rule that fails, in either order. -/
theorem evaluatesAlike_of_repeatingFirst :
    (∀ inquiry : Inquiry,
        inquiry.KeepsIds →
        EvaluatesAlike inquiry .ofNothing repeatingFirst failingFirst
          (.ofRegistry repeatingFirst) (.ofRegistry failingFirst)) ∧
      repeatingFirst.evaluate .ofNothing
          ((RuleSet.ofRegistry repeatingFirst).enabledFor .python) =
        failingFirst.evaluate .ofNothing
          ((RuleSet.ofRegistry failingFirst).enabledFor .python) := by
  refine evaluatesAlike_of_perm .ofNothing ?_ ?_ ?_ ?_
  · decide
  · exact List.Perm.swap ..
  · decide
  · exact List.Perm.swap ..

end HouseStyle
