import HouseStyle.Configuration.RuleSet
import HouseStyle.Rule.Registry

namespace HouseStyle

/-!
# Evaluation

Every enabled rule looks at a model on its own. A rule that fails leaves a
diagnostic and no violation, and the other rules do not notice.
-/

/-- What the rules say of one file, in report order. -/
structure Evaluation where
  violations : List Violation := []
  diagnostics : List Diagnostic := []
  deriving Repr, DecidableEq, Inhabited

/-- What one rule says of one file. -/
structure Verdict where
  ruleId : String
  outcome : Except RuleFault (List Violation)

namespace Verdict

/-- The violations of a rule that did not fail. -/
def violations (verdict : Verdict) : List Violation :=
  match verdict.outcome with
  | .ok violations => violations
  | .error _ => []

/-- The diagnostic of a rule that failed. -/
def diagnostic?
    (path : String)
    (verdict : Verdict) :
    Option Diagnostic :=
  match verdict.outcome with
  | .ok _ => none
  | .error fault =>
      some
        { ruleId := verdict.ruleId
          path
          message :=
            "rule '" ++ verdict.ruleId ++ "' failed on " ++ path ++ ": " ++
              fault.message }

end Verdict

namespace Registry

/-- What the rules of some settings say, in the order of the settings. -/
def verdicts
    (registry : Registry)
    (model : SourceModel)
    (settings : List RuleSettings) :
    List Verdict :=
  settings.filterMap fun setting =>
    (registry.find? setting.ruleId).map fun rule =>
      { ruleId := rule.id, outcome := rule.evaluate model setting }

/-- What the rules of some settings say of a file. -/
def evaluate
    (registry : Registry)
    (model : SourceModel)
    (settings : List RuleSettings) :
    Evaluation :=
  let verdicts := registry.verdicts model settings
  { violations := Violation.sorted (verdicts.flatMap Verdict.violations)
    diagnostics :=
      Diagnostic.sorted (verdicts.filterMap (Verdict.diagnostic? model.path)) }

end Registry

end HouseStyle
