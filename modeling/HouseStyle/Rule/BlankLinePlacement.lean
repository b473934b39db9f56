import HouseStyle.Rule.Basic
import HouseStyle.Rule.Lookup
import HouseStyle.Text.Lowercase

namespace HouseStyle

/-!
# Blank lines around blocks

Blocks are set apart from their neighbours by blank lines, and so are return
statements from what is before them. A block that continues the statement before
it, as `else` does, belongs to that statement.
-/

namespace BlankLinePlacement

/-- Whether nothing but code lines lies between two lines. -/
def touches
    (model : SourceModel)
    (afterLine beforeLine : Nat) :
    Except RuleFault Bool := do
  let blankLines ← model.blankLinesBetween afterLine beforeLine
  pure (blankLines == 0)

/-- The finding that a statement needs a blank line before it. -/
def precedes
    (model : SourceModel)
    (severity : Severity)
    (statement : Statement)
    (subject : String) :
    Except RuleFault Finding := do
  let column ← model.columnOf statement.first
  pure
    { place := { line := statement.startLine, column }
      severity
      message := subject ++ " should be preceded by a blank line" }

/-- The finding that a statement needs a blank line after it. -/
def follows
    (model : SourceModel)
    (severity : Severity)
    (statement : Statement)
    (subject : String) :
    Except RuleFault Finding := do
  let column ← model.columnOf statement.last
  pure
    { place := { line := statement.endLine, column }
      severity
      message := subject ++ " should be followed by a blank line" }

/-- How a message names a block. -/
def label (block : Block) : String :=
  if block.keyword = "" then
    capitalized block.kind.name ++ " block"
  else
    "'" ++ block.keyword ++ "' block"

/-- Whether a statement is a block that continues the one before it. -/
def continues
    (model : SourceModel)
    (statement : Statement) :
    Except RuleFault Bool := do
  let block ← model.ownBlock statement
  pure (block.any Block.continues)

/-- Whether the statement before another one ends on the line above it. -/
def touchesBefore
    (model : SourceModel)
    (before : Option Statement)
    (statement : Statement) :
    Except RuleFault Bool :=
  match before with
  | some before => touches model before.endLine statement.startLine
  | none => .ok false

/-- Whether a statement that starts anew begins on the line below another one. -/
def touchesAfter
    (model : SourceModel)
    (statement : Statement)
    (after : Option Statement) :
    Except RuleFault Bool :=
  match after with
  | some after => do
      if ← continues model after then
        pure false
      else
        touches model statement.endLine after.startLine
  | none => .ok false

/-- The finding, if the blank line that it is about is missing. -/
def reportIf
    (isMissing : Except RuleFault Bool)
    (finding : Except RuleFault Finding) :
    Except RuleFault (List Finding) := do
  if ← isMissing then
    finding.map fun finding => [finding]
  else
    pure []

/-- The findings for one statement. -/
def findingsAt
    (checkReturns : Bool)
    (severity : Severity)
    (model : SourceModel)
    (statement : Statement) :
    Except RuleFault (List Finding) := do
  let (before, after) ← model.siblings statement
  if statement.kind = .result then
    if checkReturns then
      reportIf
        (touchesBefore model before statement)
        (precedes model severity statement "Return statement")
    else
      pure []
  else
    match ← model.ownBlock statement with
    | none => pure []
    | some block =>
        let preceded ←
          if block.continues then
            pure []
          else
            reportIf
              (touchesBefore model before statement)
              (precedes model severity statement (label block))
        let followed ←
          reportIf
            (touchesAfter model statement after)
            (follows model severity statement (label block))
        pure (preceded ++ followed)

/-- The statements that lack a blank line. -/
def findings
    (checkReturns : Bool)
    (severity : Severity)
    (model : SourceModel) :
    Except RuleFault (List Finding) :=
  (model.statements.toList.mapM (findingsAt checkReturns severity model)).map
    List.flatten

end BlankLinePlacement

/-- Blocks and returns are set apart. -/
def blankLinePlacement : Rule where
  id := "blank-line-placement"
  description :=
    "Blocks and return statements must be surrounded by blank lines."
  defaultParams := [(.text "check_returns", .bool true)]
  check := fun model settings => do
    let checkReturns ← settings.params.flagParam "check_returns"
    BlankLinePlacement.findings checkReturns settings.severity model

end HouseStyle
