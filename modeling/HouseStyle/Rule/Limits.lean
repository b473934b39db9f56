import HouseStyle.Rule.Basic

namespace HouseStyle

/-!
# Soft and hard limits

Two rules measure something against two limits. A measure above the hard limit
is reported at the rule's own severity, one above the soft limit alone at the
severity that the parameters name.
-/

/-- A pair of limits with the severity of the soft one, as parameters hold them. -/
structure Limits where
  soft : Document
  hard : Document
  softSeverity : Document
  deriving Repr

namespace Limits

/-- The parameters that hold a pair of limits. -/
def params
    (soft hard : Int)
    (softSeverity : Severity) :
    Entries :=
  [(.text "soft_limit", .int soft), (.text "hard_limit", .int hard),
    (.text "soft_severity", .text softSeverity.name)]

/-- The severity that a parameter names for the soft limit. -/
def readSoftSeverity (value : Document) : Except RuleFault Severity :=
  if value.isTooLong then
    .error .longInteger
  else
    match value with
    | .scalar (.text name) =>
        match Severity.ofName? name with
        | some severity => .ok severity
        | none => .error (.unknownSeverity value)
    | _ => .error (.unknownSeverity value)

/-- Read a pair of limits. -/
def ofParams (params : Entries) : Except RuleFault Limits := do
  let hard ← params.param "hard_limit"
  let soft ← params.param "soft_limit"
  let softSeverity ← params.param "soft_severity"
  pure { soft, hard, softSeverity }

/-- Refuse limits that contradict each other. -/
def validate (params : Entries) : Except ParamFault Unit :=
  match params.get? "soft_limit", params.get? "hard_limit",
      params.get? "soft_severity" with
  | some (.scalar (.int soft)), some (.scalar (.int hard)), some value =>
      if hard < soft then
        .error .softAboveHard
      else if soft < 0 then
        .error .negativeLimit
      else
        match value with
        | .scalar (.text name) =>
            if (Severity.ofName? name).isSome then
              .ok ()
            else
              .error (.unknownSoftSeverity value)
        | _ => .error (.unknownSoftSeverity value)
  | _, _, _ => .error .mixedTypes

/-- Whether a measure exceeds a limit, which has to be a number. -/
def exceeds (measure : Nat) (limit : Document) : Except RuleFault Bool :=
  match limit with
  | .scalar (.float value) => .ok (value.isBelow measure)
  | .scalar value =>
      match value.integer? with
      | some value => .ok (value < measure)
      | none => .error (.mistypedParam "limit")
  | _ => .error (.mistypedParam "limit")

/--
The severity to report a measure at, and the limit that it exceeds. The soft
limit and its severity are looked at only where they matter.
-/
def breach?
    (limits : Limits)
    (severity : Severity)
    (measure : Nat) :
    Except RuleFault (Option (Severity × Document)) := do
  if ← exceeds measure limits.hard then
    pure (some (severity, limits.hard))
  else if ← exceeds measure limits.soft then
    let softSeverity ← readSoftSeverity limits.softSeverity
    pure (some (softSeverity, limits.soft))
  else
    pure none

/-- A limit as messages name it. -/
def shownLimit (limit : Document) : Except RuleFault String :=
  if limit.isTooLong then .error .longInteger else .ok limit.asText

/--
The findings for things that are measured. `finding` takes the severity and the
limit that a thing exceeds, and the limit's text.
-/
def findings
    {Measured : Type}
    (limits : Limits)
    (severity : Severity)
    (measure : Measured → Nat)
    (finding : Measured → Severity → Document → String → Finding) :
    List Measured →
    Except RuleFault (List Finding)
  | [] => .ok []
  | measured :: rest => do
      match ← limits.breach? severity (measure measured) with
      | none => findings limits severity measure finding rest
      | some (severity', limit) =>
          let text ← shownLimit limit
          let others ← findings limits severity measure finding rest
          pure (finding measured severity' limit text :: others)

end Limits

/-!
## Block length

Methods that take more lines than a limit are reported where they begin.
-/

namespace BlockLength

/-- The methods of a file. -/
def methods (model : SourceModel) : List Block :=
  model.blocks.toList.filter (·.kind == .method)

/-- The finding for a method that exceeds a limit. -/
def finding
    (block : Block)
    (severity : Severity)
    (_ : Document)
    (shownLimit : String) :
    Finding :=
  let subject :=
    if block.name = "" then "Method" else "Method '" ++ block.name ++ "'"
  { place := block.start
    severity
    message :=
      subject ++ " is " ++ toString block.lineCount ++
        " lines long (limit " ++ shownLimit ++ ")" }

end BlockLength

/-- Methods keep to a length. -/
def blockLength : Rule where
  id := "block-length"
  description :=
    "Methods longer than the soft limit are advisory; " ++
      "longer than the hard limit warn."
  defaultParams := Limits.params 15 25 .advisory
  validate := Limits.validate
  check := fun model settings => do
    let limits ← Limits.ofParams settings.params
    limits.findings
      settings.severity
      Block.lineCount
      BlockLength.finding
      (BlockLength.methods model)

/-!
## Line length

Lines longer than a limit are reported at the first character beyond it.
-/

namespace LineLength

/-- The column right behind a limit; a decimal limit has a decimal column. -/
def columnBehind (limit : Document) : Nat × Option Binary64 :=
  match limit with
  | .scalar (.float value) =>
      let column := value.plus (.ofDecimal false 1 0)
      if column.isBelow 1 then
        (1, none)
      else
        (((column.floor?).getD 1).toNat, some column)
  | .scalar value => (((value.integer?).getD 0 + 1).toNat, none)
  | _ => (1, none)

/-- The finding for a line that exceeds a limit. -/
def finding
    (line : Line)
    (severity : Severity)
    (limit : Document)
    (shownLimit : String) :
    Finding :=
  let (column, decimalColumn) := columnBehind limit
  { place := { line := line.number, column }
    decimalColumn
    severity
    message :=
      "Line is " ++ toString line.length ++ " characters long (limit " ++
        shownLimit ++ ")" }

end LineLength

/-- Lines keep to a length. -/
def lineLength : Rule where
  id := "line-length"
  description :=
    "Lines longer than the soft limit warn; longer than the hard limit fail."
  defaultSeverity := .error
  defaultParams := Limits.params 80 120 .warning
  validate := Limits.validate
  check := fun model settings => do
    let limits ← Limits.ofParams settings.params
    limits.findings
      settings.severity
      Line.length
      LineLength.finding
      model.lines.toList

end HouseStyle
