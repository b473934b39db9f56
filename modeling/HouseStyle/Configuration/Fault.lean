import HouseStyle.Files.Tree
import HouseStyle.Rule.Basic
import HouseStyle.Yaml.Fault

namespace HouseStyle

/-!
# Faults in a configuration

A configuration is refused with a cause that names the place of the fault. What
no cause is made for, such as a file that is no text, is a defect.
-/

/-- Why a configuration is refused. -/
inductive ConfigFault
  | unreadable (path : Path) (reason : ReadFault)
  | malformed (origin : String)
  | notMapping (origin : String)
  | unknownKeys (origin : String) (keys : List String)
  | circular (key : String)
  | unknownPreset (name : String)
  | extendsShape
  | excludeShape
  | languagesShape
  | tableShape (place : String)
  | settingsShape (ruleId place : String)
  | unknownSeverity (value : Document) (place : String)
  | unknownLanguage (configuration language : String)
  | unknownRules (configuration : String) (ids : List String)
  | unknownSettings (place : String) (keys : List String)
  | enabledShape (place : String)
  | paramsShape (place : String)
  | unknownParam (place name : String) (known : List String)
  | paramType (place name expected found : String)
  | badParams (place : String) (fault : ParamFault)
  | unreadableLexicon (spelling : String) (reason : ReadFault)
  deriving Repr

namespace ConfigFault

/-- The names of all severities, as messages list them. -/
def severityNames : String :=
  ", ".intercalate (Severity.all.map Severity.name)

/-- The names of all languages, as messages list them. -/
def languageNames : String :=
  ", ".intercalate (Language.sorted.map Language.name)

/-- The wording of a path's fault. -/
def readMessage (reason : ReadFault) (path : Path) : String :=
  reason.message (quoted path.render)

/-- The wording of a cause. -/
def message : ConfigFault → String
  | .unreadable path reason =>
      "Cannot read configuration " ++ path.render ++ ": " ++
        readMessage reason path
  | .malformed origin => "Invalid YAML in " ++ origin
  | .notMapping origin =>
      "Configuration in " ++ origin ++ " must be a mapping"
  | .unknownKeys origin keys =>
      "Unknown configuration key(s) in " ++ origin ++ ": " ++
        ", ".intercalate keys
  | .circular key => "Circular configuration inheritance detected: " ++ key
  | .unknownPreset name => "Unknown preset: " ++ name
  | .extendsShape => "'extends' must be a string or a list"
  | .excludeShape => "'exclude' must be a list of glob patterns"
  | .languagesShape => "'languages' must be a mapping of language to rules"
  | .tableShape place =>
      "'" ++ place ++ "' must be a mapping of rule id to settings"
  | .settingsShape ruleId place =>
      "Settings for '" ++ ruleId ++ "' in '" ++ place ++ "' must be a mapping"
  | .unknownSeverity value place =>
      "Invalid severity " ++ value.shown ++ " for " ++ place ++
        " (expected one of: " ++ severityNames ++ ")"
  | .unknownLanguage configuration language =>
      configuration ++ ": unknown language '" ++ language ++
        "' (supported: " ++ languageNames ++ ")"
  | .unknownRules configuration ids =>
      configuration ++ ": unknown rule id(s): " ++ ", ".intercalate ids
  | .unknownSettings place keys =>
      place ++ ": unknown key(s): " ++ ", ".intercalate keys
  | .enabledShape place => place ++ ": 'enabled' must be true or false"
  | .paramsShape place => place ++ ": 'params' must be a mapping"
  | .unknownParam place name known =>
      place ++ ": unknown param '" ++ name ++ "' (known: " ++
        (if known.isEmpty then "none" else ", ".intercalate known) ++ ")"
  | .paramType place name expected found =>
      place ++ ": param '" ++ name ++ "' must be " ++ expected ++ ", got " ++
        found
  | .badParams place fault => place ++ ": " ++ fault.message
  | .unreadableLexicon spelling reason =>
      "Cannot read lexicon file " ++ spelling ++ ": " ++
        readMessage reason (Path.ofString spelling)

end ConfigFault

/-- What stops the reading of a configuration without a cause of its own. -/
inductive Defect
  /-- A file holds bytes that spell no text. -/
  | undecodable
  /-- A path cannot be looked up. -/
  | badPath (fault : LookupFault)
  /-- A path starts from a home directory that is not known. -/
  | unknownHome
  /-- Values of different types stand where an order is needed. -/
  | mixedTypes
  /-- A value with parts stands where equal values are to be found. -/
  | nestedValue
  /-- An integer has too many digits for the text that it should give. -/
  | longInteger
  /-- A repetition count of a pattern is too large. -/
  | hugeCount
  /-- A scalar of a configuration file has no value. -/
  | badScalar (fault : Yaml.Fault)
  deriving Repr

/-- The wording of a defect that has one. -/
def Defect.message : Defect → String
  | .badPath fault => fault.message
  | .longInteger => tooLongMessage
  | .badScalar fault => fault.message
  | _ => ""

/-- Why a configuration cannot be used. -/
inductive ConfigFailure
  | refused (fault : ConfigFault)
  | defect (defect : Defect)
  deriving Repr

/-- A value as a text; a long integer has none. -/
def textOf (value : Document) : Except ConfigFailure String :=
  if value.isTooLong then
    .error (.defect .longInteger)
  else
    .ok value.asText

end HouseStyle
