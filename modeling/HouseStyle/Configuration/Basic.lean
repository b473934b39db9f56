import HouseStyle.Configuration.Fault
import HouseStyle.Text.Lowercase

namespace HouseStyle

/-!
# Configurations

A configuration names the severity that fails a run, the paths to leave out and
the settings of rules, for every language or for one. Settings stay as they were
written until they are resolved against the rules.
-/

/-- The settings of rules, by rule id. -/
abbrev RuleTable := List (String × Entries)

/-- A configuration with everything that it extends. -/
structure Configuration where
  name : String := "default"
  failOn : Option Severity := none
  exclude : List String := []
  rules : RuleTable := []
  languages : List (String × RuleTable) := []
  parents : List String := []
  source : Option Path := none
  deriving Repr, Inhabited

/-- Replace the value under a name in place, or add it at the end. -/
def putNamed
    {Value : Type}
    (table : List (String × Value))
    (name : String)
    (value : Value) :
    List (String × Value) :=
  match table with
  | [] => [(name, value)]
  | (present, old) :: rest =>
      if present = name then
        (name, value) :: rest
      else
        (present, old) :: putNamed rest name value

/-- Read a severity in any letter case. -/
def readSeverity
    (value : Document)
    (place : String) :
    Except ConfigFailure Severity := do
  let name ← textOf value
  match Severity.ofName? (lowerCase name) with
  | some severity => pure severity
  | none => throw (.refused (.unknownSeverity value place))

/-- The settings of one rule. -/
def readSettings
    (place ruleId : String)
    (value : Document) :
    Except ConfigFailure Entries :=
  match value with
  | .scalar .null => .ok []
  | .map entries => .ok entries
  | _ => .error (.refused (.settingsShape ruleId place))

/-- Read the settings of rules behind those in `table`. -/
def readTableFrom
    (place : String)
    (table : RuleTable) :
    Entries →
    Except ConfigFailure RuleTable
  | [] => .ok table
  | (key, value) :: rest => do
      let ruleId ← textOf (.scalar key)
      let settings ← readSettings place ruleId value
      readTableFrom place (putNamed table ruleId settings) rest

/-- Read the settings of rules; a value that is not there holds none. -/
def readTable
    (place : String)
    (value : Option Document) :
    Except ConfigFailure RuleTable :=
  match value with
  | none => .ok []
  | some (.scalar .null) => .ok []
  | some (.map entries) => readTableFrom place [] entries
  | some _ => .error (.refused (.tableShape place))

/-- Read the tables of languages behind those in `tables`. -/
def readLanguagesFrom
    (tables : List (String × RuleTable)) :
    Entries →
    Except ConfigFailure (List (String × RuleTable))
  | [] => .ok tables
  | (key, value) :: rest => do
      let language ← textOf (.scalar key)
      let table ← readTable ("languages." ++ language) (some value)
      readLanguagesFrom (putNamed tables language table) rest

/-- A value unless it is empty. -/
def unlessEmpty (value : Option Document) : Option Document :=
  value.filter (!·.isEmpty)

/-- Read the tables of languages. -/
def readLanguages
    (value : Option Document) :
    Except ConfigFailure (List (String × RuleTable)) :=
  match unlessEmpty value with
  | none => .ok []
  | some (.map entries) => readLanguagesFrom [] entries
  | some _ => .error (.refused .languagesShape)

/-- Read what spells the glob patterns of paths to leave out. -/
def readExclude (value : Option Document) : Except ConfigFailure (List Document) :=
  match unlessEmpty value with
  | none => .ok []
  | some (.scalar (.text pattern)) => .ok [.text pattern]
  | some (.list items) => .ok items
  | some _ => .error (.refused .excludeShape)

/-- Read the severity that fails a run. -/
def readFailOn
    (value : Option Document) :
    Except ConfigFailure (Option Severity) :=
  match value with
  | none => .ok none
  | some (.scalar .null) => .ok none
  | some value => (readSeverity value "fail_on").map some

/-- What a document extends. -/
def readReferences (value : Option Document) : List Document :=
  match value with
  | some (.list items) => items
  | _ => []

/-- Read a configuration from the entries of its document. -/
def Configuration.ofEntries
    (entries : Entries)
    (source : Option Path) :
    Except ConfigFailure Configuration := do
  let failOn ← readFailOn (entries.get? "fail_on")
  let exclude ← readExclude (entries.get? "exclude")
  let rules ← readTable "rules" (entries.get? "rules")
  let languages ← readLanguages (entries.get? "languages")
  let name ← textOf ((entries.get? "name").getD (.text "unnamed"))
  let exclude ← exclude.mapM textOf
  let parents ← (readReferences (entries.get? "extends")).mapM textOf
  pure { name, failOn, exclude, rules, languages, parents, source }

end HouseStyle
