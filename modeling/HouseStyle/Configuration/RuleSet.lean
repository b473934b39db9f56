import HouseStyle.Rule.Basic

namespace HouseStyle

/-!
# Rule sets

What a configuration comes to: the settings of every rule for every language,
the severity that fails a run and the paths to leave out.
-/

/-- Resolved settings. -/
structure RuleSet where
  name : String
  failOn : Severity
  exclude : List String
  /-- The settings for every language, in the order of the registry. -/
  languages : List (Language × List RuleSettings)
  deriving Repr, Inhabited

namespace RuleSet

/-- The settings of all rules for a language. -/
def settingsFor
    (rules : RuleSet)
    (language : Language) :
    List RuleSettings :=
  (rules.languages.lookup language).getD []

/-- The settings of the enabled rules for a language. -/
def enabledFor
    (rules : RuleSet)
    (language : Language) :
    List RuleSettings :=
  (rules.settingsFor language).filter (·.enabled)

/-- The settings of one rule for a language. -/
def settings?
    (rules : RuleSet)
    (language : Language)
    (ruleId : String) :
    Option RuleSettings :=
  (rules.settingsFor language).find? (·.ruleId == ruleId)

end RuleSet

end HouseStyle
