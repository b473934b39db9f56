import HouseStyle.Configuration.Basic
import HouseStyle.Configuration.Inheritance
import HouseStyle.Configuration.RuleSet
import HouseStyle.Configuration.Sheet
import HouseStyle.Document.Basic
import HouseStyle.Document.Order
import HouseStyle.Rule.Registry
import HouseStyle.Text.Line
import HouseStyle.Text.Lowercase

namespace HouseStyle

/-!
# Resolution

The settings of a rule for a language come in five layers: the rule's own
defaults, the packaged settings for all languages and for that one, and the
user's settings for all languages and for that one. Each layer is checked
against the rule and laid over those below it.
-/

/-!
## Word lists

A file of words holds one a line. Blank lines and lines that start with `#` are
left out, and words are read in small letters.
-/

/-- The word on a line, if there is one. -/
def wordOn? (line : List Char) : Option String :=
  match trim line with
  | [] => none
  | '#' :: _ => none
  | letters => some (lowerCase (String.ofList letters))

/-- The words of a list. -/
def wordsOf (text : String) : List String :=
  (cutLines text.toList).filterMap wordOn?

/-- The words in a file. -/
def readLexicon
    (surroundings : Surroundings)
    (spelling : String) :
    Except ConfigFailure (List String) :=
  match surroundings.bytes (Path.ofString spelling) with
  | .error .embeddedNul => .error (.defect (.badPath .embeddedNul))
  | .error reason => .error (.refused (.unreadableLexicon spelling reason))
  | .ok bytes => (decodeText bytes).map wordsOf

/-! ## Layers -/

/-- One layer of settings, with the place that messages name. -/
structure Layer where
  table : RuleTable
  place : String
  deriving Repr

/-- The two layers that a configuration has for a language. -/
def Configuration.layers
    (configuration : Configuration)
    (language : Language) :
    List Layer :=
  [{ table := configuration.rules
     place := configuration.name ++ ": rules" },
    { table := (configuration.languages.lookup language.name).getD []
      place := configuration.name ++ ": languages." ++ language.name }]

/-! ## Checking settings -/

/-- The rules of a table that are not registered, by id. -/
def unknownIn
    (registry : Registry)
    (table : RuleTable) :
    List String :=
  ((table.map Prod.fst).filter (!registry.contains ·)).mergeSort (· ≤ ·)

/-- The rules of the tables of languages that are not registered. -/
def unknownInLanguages
    (registry : Registry)
    (configuration : String) :
    List (String × RuleTable) →
    Except ConfigFailure (List String)
  | [] => .ok []
  | (language, table) :: rest =>
      if (Language.ofName? language).isNone then
        .error (.refused (.unknownLanguage configuration language))
      else
        (unknownInLanguages registry configuration rest).map
          (unknownIn registry table ++ ·)

/-- Refuse a configuration that names a language or a rule that there is not. -/
def Configuration.checkIds
    (configuration : Configuration)
    (registry : Registry) :
    Except ConfigFailure Unit := do
  let inLanguages ←
    unknownInLanguages registry configuration.name configuration.languages
  match unknownIn registry configuration.rules ++ inLanguages with
  | [] => pure ()
  | id :: ids =>
      throw (.refused (.unknownRules configuration.name (id :: ids)))

/-- Whether a value can stand for a parameter with that default value. -/
def fits (default value : Document) : Bool :=
  match default, value with
  | .scalar (.float _), .scalar (.int _) => true
  | default, value => default.typeName == value.typeName

/-- Refuse a parameter that the rule does not take. -/
def checkParam
    (rule : Rule)
    (place : String)
    (key : Scalar)
    (value : Document) :
    Except ConfigFailure Unit :=
  match rule.defaultParams.find? key with
  | none => do
      let known :=
        (rule.defaultParams.map fun entry => entry.1.asText).mergeSort (· ≤ ·)
      let name ← textOf (.scalar key)
      throw (.refused (.unknownParam place name known))
  | some default =>
      if fits default value then
        .ok ()
      else
        .error
          (.refused
            (.paramType place key.asText default.typeName value.typeName))

/-- Refuse parameters that the rule does not take. -/
def checkParams
    (rule : Rule)
    (place : String)
    (params : Option Document) :
    Except ConfigFailure Unit :=
  match params with
  | none => .ok ()
  | some (.map entries) =>
      entries.forM fun (key, value) => checkParam rule place key value
  | some _ => .error (.refused (.paramsShape place))

/-- Refuse an `enabled` that is no truth value. -/
def checkEnabled
    (place : String)
    (enabled : Option Document) :
    Except ConfigFailure Unit :=
  match enabled with
  | none => .ok ()
  | some (.scalar (.bool _)) => .ok ()
  | some _ => .error (.refused (.enabledShape place))

/-- Refuse a `severity` that is none. -/
def checkSeverity
    (place : String)
    (severity : Option Document) :
    Except ConfigFailure Unit :=
  match severity with
  | none => .ok ()
  | some value => (readSeverity value place).map fun _ => ()

/-- Refuse settings that a rule cannot have. -/
def checkSettings
    (rule : Rule)
    (place : String)
    (settings : Entries) :
    Except ConfigFailure Unit := do
  refuseStrangeKeys
    ["enabled", "severity", "params"] (.unknownSettings place) settings
  checkEnabled place (settings.get? "enabled")
  checkSeverity place (settings.get? "severity")
  checkParams rule place (settings.get? "params")

/-! ## Layering -/

/-- The settings that a rule has of itself. -/
def Rule.ownSettings (rule : Rule) : Entries :=
  [(.text "enabled", .bool true),
    (.text "severity", .text rule.defaultSeverity.name),
    (.text "params", .map rule.defaultParams)]

/-- Lay layers over the settings of a rule. -/
def layered
    (rule : Rule)
    (settings : Entries) :
    List Layer →
    Except ConfigFailure Entries
  | [] => .ok settings
  | layer :: rest =>
      match layer.table.lookup rule.id with
      | none => layered rule settings rest
      | some upper => do
          checkSettings rule (layer.place ++ "." ++ rule.id) upper
          layered rule (settings.merge upper) rest

/-- The values of a list without those that equal an earlier one. -/
def distinct
    (found : List Document) :
    List Document →
    Except ConfigFailure (List Document)
  | [] => .ok []
  | value :: rest =>
      if !value.isHashable then
        .error (.defect .nestedValue)
      else if found.any value.same then
        distinct found rest
      else
        (distinct (value :: found) rest).map (value :: ·)

/-- Add the words of the file that the parameters name to their verbs. -/
def addLexicon
    (surroundings : Surroundings)
    (params : Entries) :
    Except ConfigFailure Entries :=
  match unlessEmpty (params.get? "lexicon_file") with
  | none => .ok params
  | some value => do
      let words ← readLexicon surroundings value.asText
      let own :=
        match params.get? "verbs" with
        | some (.list items) => items
        | _ => []
      let verbs ← distinct [] (own ++ words.map Document.text)
      pure (params.put (.text "verbs") (.list verbs))

/-- The severity of merged settings, as high as the rule may go. -/
def settledSeverity
    (rule : Rule)
    (place : String)
    (settings : Entries) :
    Except ConfigFailure Severity := do
  let value := (settings.get? "severity").getD .null
  let severity ← readSeverity value place
  pure (if rule.advisory then severity.atMost .warning else severity)

/-- The parameters of merged settings. -/
def settledParams
    (surroundings : Surroundings)
    (rule : Rule)
    (place : String)
    (settings : Entries) :
    Except ConfigFailure Entries := do
  let params :=
    match settings.get? "params" with
    | some (.map params) => params
    | _ => []
  let params ← addLexicon surroundings params
  match rule.validate params with
  | .ok () => pure params
  | .error .mixedTypes => throw (.defect .mixedTypes)
  | .error .hugeCount => throw (.defect .hugeCount)
  | .error fault => throw (.refused (.badParams place fault))

/-- The settings of a rule for a language. -/
def Rule.settle
    (rule : Rule)
    (surroundings : Surroundings)
    (language : Language)
    (layers : List Layer) :
    Except ConfigFailure RuleSettings := do
  let settings ← layered rule rule.ownSettings layers
  let place := rule.id ++ " (" ++ language.name ++ ")"
  let severity ← settledSeverity rule place settings
  let params ← settledParams surroundings rule place settings
  let enabled :=
    match settings.get? "enabled" with
    | some (.scalar (.bool enabled)) => enabled
    | _ => true
  pure { ruleId := rule.id, enabled, severity, params }

/-- The settings of all rules for one language. -/
def settleLanguage
    (surroundings : Surroundings)
    (registry : Registry)
    (defaults overrides : Configuration)
    (language : Language) :
    Except ConfigFailure (Language × List RuleSettings) := do
  let layers := defaults.layers language ++ overrides.layers language
  let settings ←
    registry.rules.mapM fun rule => rule.settle surroundings language layers
  pure (language, settings)

/-- Resolve a configuration on top of another one. -/
def resolveOver
    (surroundings : Surroundings)
    (registry : Registry)
    (defaults overrides : Configuration) :
    Except ConfigFailure RuleSet := do
  defaults.checkIds registry
  overrides.checkIds registry
  let languages ←
    Language.sorted.mapM (settleLanguage surroundings registry defaults overrides)
  pure
    { name := overrides.name
      failOn := (overrides.failOn.or defaults.failOn).getD .warning
      exclude := defaults.exclude ++ overrides.exclude
      languages }

/-- Resolve a configuration on top of the packaged one. -/
def resolve
    (surroundings : Surroundings)
    (registry : Registry)
    (configuration : Configuration) :
    Except ConfigFailure RuleSet := do
  let defaults ← Configuration.packaged
  resolveOver surroundings registry defaults configuration

end HouseStyle
