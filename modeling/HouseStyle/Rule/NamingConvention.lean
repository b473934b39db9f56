import HouseStyle.Rule.Basic
import HouseStyle.Text.Lowercase
import HouseStyle.Text.Word

namespace HouseStyle

/-!
# Naming conventions

Each kind of declaration has a pattern for its names, and the names of types
carry no `I` that marks an interface.
-/

namespace NamingConvention

/-- The kinds of declarations whose names are checked. -/
def checkedKinds : List DeclarationKind :=
  [.type, .method, .field, .variable, .constant]

/-- A pattern with its spelling. -/
structure Casing where
  spelling : String
  pattern : Pattern

/-- Read one pattern. -/
def readCasing (value : Document) : Except RuleFault Casing :=
  match value with
  | .scalar (.text spelling) =>
      match Pattern.read spelling with
      | .ok pattern => .ok { spelling, pattern }
      | .error fault => .error (.badPattern spelling fault)
  | _ => .error (.mistypedParam "patterns")

/-- The kind of that name, if it is checked. -/
def keyKind? (key : Scalar) : Option DeclarationKind :=
  checkedKinds.find? fun kind => key.same (.text kind.name)

/-- The pattern for a kind; there may be none, and an empty one checks nothing. -/
def casingOf?
    (patterns : Document)
    (kind : DeclarationKind) :
    Except RuleFault (Option Casing) :=
  match patterns with
  | .map entries =>
      match (Entries.get? entries kind.name).filter (!·.isEmpty) with
      | some value => (readCasing value).map some
      | none => .ok none
  | value => .error (.patternsShape value)

/-- The conventions for the names of a language. -/
structure Conventions where
  /-- The pattern of each kind, or why it cannot be read. -/
  casings : List (DeclarationKind × Except RuleFault (Option Casing))
  forbidMarker : Bool

/-- Read the conventions. What is wrong with a pattern shows where it is used. -/
def Conventions.ofParams (params : Entries) : Except RuleFault Conventions := do
  let patterns ← params.param "patterns"
  let forbidMarker ← params.flagParam "forbid_interface_prefix"
  pure
    { casings := checkedKinds.map fun kind => (kind, casingOf? patterns kind)
      forbidMarker }

/-- Whether a name starts with an `I` that marks an interface. -/
def marksInterface (name : String) : Bool :=
  match name.toList with
  | 'I' :: next :: _ => isCapital next
  | _ => false

/-- The finding for a type's name with a marker. -/
def markerFinding?
    (conventions : Conventions)
    (severity : Severity)
    (declaration : Declaration) :
    Option Finding :=
  if declaration.kind = .type ∧ conventions.forbidMarker ∧
      marksInterface declaration.name then
    some
      { place := declaration.place
        severity
        message :=
          "Type name '" ++ declaration.name ++
            "' must not use an 'I' prefix" }
  else
    none

/-- The finding for a name that is out of its pattern. -/
def casingFinding?
    (conventions : Conventions)
    (severity : Severity)
    (declaration : Declaration) :
    Except RuleFault (Option Finding) := do
  match conventions.casings.lookup declaration.kind with
  | none => pure none
  | some casing =>
      match ← casing with
      | none => pure none
      | some casing =>
          if casing.pattern.occursIn declaration.name then
            pure none
          else
            pure
              (some
                { place := declaration.place
                  severity
                  message :=
                    capitalized declaration.kind.name ++ " name '" ++
                      declaration.name ++ "' does not match " ++
                      casing.spelling })

/-- The findings for one declaration. -/
def findingsFor
    (conventions : Conventions)
    (severity : Severity)
    (declaration : Declaration) :
    Except RuleFault (List Finding) :=
  (casingFinding? conventions severity declaration).map fun casing =>
    (markerFinding? conventions severity declaration).toList ++ casing.toList

/-- The names that break a convention. -/
def findings
    (conventions : Conventions)
    (severity : Severity)
    (model : SourceModel) :
    Except RuleFault (List Finding) :=
  (model.declarations.mapM (findingsFor conventions severity)).map List.flatten

/-- The texts among some keys, or nothing if another key is among them. -/
def textKeys? (keys : List Scalar) : Option (List String) :=
  keys.mapM fun
    | .text name => some name
    | _ => none

/-- Refuse a pattern that cannot be read. -/
def validatePattern (kind : Scalar) (value : Document) : Except ParamFault Unit :=
  match value with
  | .scalar (.text spelling) =>
      match Pattern.read spelling with
      | .ok _ => .ok ()
      | .error fault =>
          .error (.ofPattern fault (.badPattern kind.asText spelling fault))
  | _ => .error (.patternNotText kind.asText)

/-- Refuse patterns for kinds that are not checked and those that are no patterns. -/
def validate (params : Entries) : Except ParamFault Unit :=
  match params.get? "patterns" with
  | some (.map entries) =>
      let unknown :=
        (entries.map Prod.fst).filter fun key => (keyKind? key).isNone
      if unknown.isEmpty then
        entries.forM fun (kind, value) => validatePattern kind value
      else
        match textKeys? unknown with
        | some names => .error (.unknownKinds (names.mergeSort (· ≤ ·)))
        | none => .error .mixedTypes
  | _ => .error .mixedTypes

/-- The pattern of names in camel case. -/
def camelCase : Document :=
  .text "^[a-z][A-Za-z0-9]*$"

end NamingConvention

/-- Names follow a pattern by kind. -/
def namingConvention : Rule where
  id := "naming-convention"
  description :=
    "Names must match the casing pattern for their kind and language."
  defaultParams :=
    [(.text "patterns",
        .map
          [(.text "class", .text "^[A-Z][A-Za-z0-9]*$"),
            (.text "method", NamingConvention.camelCase),
            (.text "field", NamingConvention.camelCase),
            (.text "variable", NamingConvention.camelCase),
            (.text "constant", .text "^[A-Z][A-Z0-9]*(_[A-Z0-9]+)*$")]),
      (.text "forbid_interface_prefix", .bool true)]
  validate := NamingConvention.validate
  check := fun model settings => do
    let conventions ← NamingConvention.Conventions.ofParams settings.params
    NamingConvention.findings conventions settings.severity model

end HouseStyle
