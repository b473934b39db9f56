import HouseStyle.Document.Render
import HouseStyle.Pattern.Reading
import HouseStyle.Rule.Finding
import HouseStyle.Source.Model

namespace HouseStyle

/-!
# Rules

A rule is one convention that can be checked: its identity, the parameters it
takes with their default values, a test that refuses parameter values it cannot
work with, and a check that looks at a source model and nothing else.
-/

/-- The settings of one rule for one language. -/
structure RuleSettings where
  ruleId : String
  enabled : Bool
  severity : Severity
  params : Entries
  deriving Repr, Inhabited

/-- Why a rule fails on a file. -/
inductive RuleFault
  | missingParam (name : String)
  | mistypedParam (name : String)
  /-- What should hold the patterns of names is no mapping. -/
  | patternsShape (value : Document)
  | unknownSeverity (value : Document)
  | unlistedVisibility (value : Document)
  | badPattern (pattern : String) (fault : PatternFault)
  | nestedOperator (value : Document)
  | numberTooLarge
  /-- An integer has too many digits for the message that should show it. -/
  | longInteger
  | failed (description : String)
  deriving Repr

/-- The wording of a rule's failure. -/
def RuleFault.message : RuleFault → String
  | .missingParam name => "KeyError(" ++ quoted name ++ ")"
  | .mistypedParam name =>
      "TypeError(" ++ quoted ("param " ++ quoted name ++ " has a wrong type") ++
        ")"
  | .unknownSeverity value =>
      "ValueError(" ++ quoted (value.shown ++ " is not a valid Severity") ++ ")"
  | .unlistedVisibility value =>
      "ValueError(" ++ quoted (value.shown ++ " is not in list") ++ ")"
  | .patternsShape value =>
      "AttributeError(" ++
        quoted (quoted value.typeName ++ " object has no attribute 'get'") ++ ")"
  | .badPattern pattern fault =>
      let kind :=
        match fault.cause with
        | .hugeCount => "OverflowError"
        | cause => if cause.isOfValue then "ValueError" else "error"
      kind ++ "(" ++ quoted (fault.message pattern) ++ ")"
  | .nestedOperator value =>
      "TypeError(" ++
        quoted ("unhashable type: " ++ quoted value.typeName) ++ ")"
  | .numberTooLarge =>
      "OverflowError('int too large to convert to float')"
  | .longInteger => "ValueError(" ++ quoted tooLongMessage ++ ")"
  | .failed description => description

/-- Why a rule refuses the values of its parameters. -/
inductive ParamFault
  | softAboveHard
  | negativeLimit
  | unknownSoftSeverity (value : Document)
  | negativeBlankLines
  | incompleteVisibilityOrder
  | unknownVisibility (value : Document)
  | unknownKinds (names : List String)
  | patternNotText (kind : String)
  | badPattern (kind pattern : String) (fault : PatternFault)
  | badIgnorePattern (value : Document) (fault : PatternFault)
  /-- A repetition count of a pattern is too large. -/
  | hugeCount
  /-- A value in a pattern cannot be used. -/
  | patternValue (cause : PatternCause)
  /-- An integer has too many digits to spell a pattern. -/
  | longInteger
  /-- Values of different types stand where an order is needed. -/
  | mixedTypes
  deriving Repr

/-- The wording of a refusal. -/
def ParamFault.message : ParamFault → String
  | .softAboveHard => "soft_limit must not exceed hard_limit"
  | .negativeLimit => "limits must not be negative"
  | .unknownSoftSeverity value => "invalid soft_severity " ++ value.shown
  | .negativeBlankLines => "blank_lines must not be negative"
  | .incompleteVisibilityOrder =>
      "visibility_order must list public, protected and private exactly once"
  | .unknownVisibility value => "invalid default_visibility " ++ value.shown
  | .unknownKinds names =>
      "unknown declaration kind(s) in patterns: " ++ ", ".intercalate names
  | .patternNotText kind => "pattern for '" ++ kind ++ "' must be a string"
  | .badPattern kind pattern fault =>
      "invalid pattern for '" ++ kind ++ "': " ++ fault.message pattern
  | .badIgnorePattern value fault =>
      "invalid ignore pattern " ++ value.shown ++ ": " ++
        fault.message value.asText
  | .hugeCount => PatternCause.hugeCount.message
  | .patternValue cause => cause.message
  | .longInteger => tooLongMessage
  | .mixedTypes => "values of different types cannot be sorted"

/-- The refusal of a pattern; what is wrong with a value in it has no place. -/
def ParamFault.ofPattern
    (fault : PatternFault)
    (placed : ParamFault) :
    ParamFault :=
  match fault.cause with
  | .hugeCount => .hugeCount
  | cause => if cause.isOfValue then .patternValue cause else placed

/-- A convention that can be checked. -/
structure Rule where
  id : String
  description : String
  defaultSeverity : Severity := .warning
  defaultParams : Entries := []
  /-- The rule never makes a run fail. -/
  advisory : Bool := false
  validate : Entries → Except ParamFault Unit := fun _ => .ok ()
  check : SourceModel → RuleSettings → Except RuleFault (List Finding)

namespace Rule

/-- The place inside a file that is nearest to a finding's place. -/
def clamp
    (model : SourceModel)
    (place : Position) :
    Position :=
  { line := min (max place.line 1) (max model.lines.size 1)
    column := max place.column 1 }

/-- A finding signed by its rule. -/
def sign
    (rule : Rule)
    (model : SourceModel)
    (finding : Finding) :
    Violation :=
  let place := clamp model finding.place
  { ruleId := rule.id
    path := model.path
    line := place.line
    column := place.column
    decimalColumn := finding.decimalColumn
    severity := finding.severity
    message := finding.message
    advisory := rule.advisory }

/-- The violations of a rule in a file, in the rule's own order. -/
def evaluate
    (rule : Rule)
    (model : SourceModel)
    (settings : RuleSettings) :
    Except RuleFault (List Violation) :=
  (rule.check model settings).map (·.map (rule.sign model))

end Rule

/-!
## Reading parameters

A rule reads its parameters by name. A parameter that is not there or cannot be
used as the rule uses it is a fault of the settings, not of the checked file.
-/

namespace Entries

/-- The value of a parameter. -/
def param
    (params : Entries)
    (name : String) :
    Except RuleFault Document :=
  match params.get? name with
  | some value => .ok value
  | none => .error (.missingParam name)

/-- The values in a parameter: its items, its keys or its characters. -/
def elementsParam
    (params : Entries)
    (name : String) :
    Except RuleFault (List Document) := do
  match (← params.param name).elements? with
  | some items => pure items
  | none => throw (.mistypedParam name)

/-- A parameter that switches something on unless it is empty. -/
def flagParam
    (params : Entries)
    (name : String) :
    Except RuleFault Bool := do
  pure !(← params.param name).isEmpty

end Entries

end HouseStyle
