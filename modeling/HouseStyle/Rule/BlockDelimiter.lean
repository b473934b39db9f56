import HouseStyle.Rule.Basic

namespace HouseStyle

/-!
# Block delimiters

A condition or loop without braces has to fit on one line.
-/

namespace BlockDelimiter

/-- Whether a block is a condition or loop that spans lines without braces. -/
def sprawls (block : Block) : Bool :=
  (block.kind == .conditional || block.kind == .loop) &&
    !block.delimited &&
    block.start.line != block.stop.line

/-- The conditions and loops that need braces. -/
def findings
    (severity : Severity)
    (model : SourceModel) :
    List Finding :=
  (model.blocks.toList.filter sprawls).map fun block =>
    { place := block.start
      severity
      message :=
        "'" ++ block.keyword ++ "' body spans " ++ toString block.lineCount ++
          " lines without braces" }

end BlockDelimiter

/-- Bodies that span lines have delimiters. -/
def blockDelimiter : Rule where
  id := "block-delimiter"
  description :=
    "Conditional and loop bodies spanning lines must use explicit delimiters."
  defaultSeverity := .error
  check := fun model settings =>
    .ok (BlockDelimiter.findings settings.severity model)

end HouseStyle
