import HouseStyle.Rule.Basic
import HouseStyle.Text.Lowercase
import HouseStyle.Text.Word

namespace HouseStyle

/-!
# Methods named by a verb

A method's name starts with a word of a list of verbs. Names that match one of
some patterns are left alone, and without verbs nothing is reported.
-/

namespace VerbNamedMethod

/-- Whether a declaration is a method that no pattern leaves alone. -/
def isChecked
    (ignored : List Pattern)
    (declaration : Declaration) :
    Bool :=
  declaration.kind == .method &&
    !ignored.any (·.occursIn declaration.name)

/-- The finding for a method, if its name starts with another word. -/
def finding?
    (verbs : List String)
    (severity : Severity)
    (declaration : Declaration) :
    Option Finding :=
  let word := leadingWord declaration.name
  if word = "" ∨ verbs.contains word then
    none
  else
    some
      { place := declaration.place
        severity
        message :=
          "Method name '" ++ declaration.name ++
            "' does not start with a verb ('" ++ word ++ "')" }

/-- The methods that start with no verb. -/
def findings
    (verbs : List String)
    (ignored : List Pattern)
    (severity : Severity)
    (model : SourceModel) :
    List Finding :=
  (model.declarations.filter (isChecked ignored)).filterMap
    (finding? verbs severity)

/-- The verb that a value spells, in small letters. -/
def readVerb (value : Document) : Except RuleFault String :=
  if value.isTooLong then
    .error .longInteger
  else
    .ok (lowerCase value.asText)

/-- Read the pattern that a value spells. -/
def readIgnored (value : Document) : Except RuleFault Pattern :=
  if value.isTooLong then
    .error .longInteger
  else
    match Pattern.read value.asText with
    | .ok pattern => .ok pattern
    | .error fault => .error (.badPattern value.asText fault)

/-- Refuse a pattern that cannot be read. -/
def validateIgnored (value : Document) : Except ParamFault Unit :=
  if value.isTooLong then
    .error .longInteger
  else
    match Pattern.read value.asText with
    | .ok _ => .ok ()
    | .error fault => .error (.ofPattern fault (.badIgnorePattern value fault))

/-- Refuse patterns that cannot be read. -/
def validate (params : Entries) : Except ParamFault Unit :=
  match params.get? "ignore" with
  | some (.list items) => items.forM validateIgnored
  | _ => .error .mixedTypes

end VerbNamedMethod

/-- Method names start with a verb. -/
def verbNamedMethod : Rule where
  id := "verb-named-method"
  description := "Method names should start with a verb (advisory)."
  defaultSeverity := .advisory
  defaultParams :=
    [(.text "verbs", .list []), (.text "lexicon_file", .text ""),
      (.text "ignore", .list [])]
  advisory := true
  validate := VerbNamedMethod.validate
  check := fun model settings => do
    let words ← settings.params.elementsParam "verbs"
    let verbs ← words.mapM VerbNamedMethod.readVerb
    if verbs.isEmpty then
      pure []
    else
      let items ← settings.params.elementsParam "ignore"
      let ignored ← items.mapM VerbNamedMethod.readIgnored
      pure (VerbNamedMethod.findings verbs ignored settings.severity model)

end HouseStyle
