import HouseStyle.Document.Order
import HouseStyle.Rule.Basic
import HouseStyle.Rule.Lookup

namespace HouseStyle

/-!
# Space between methods

Two methods of a type that follow each other directly are kept apart by a fixed
number of blank lines.
-/

namespace MethodSeparation

/-- Whether a declaration is a method or a constructor. -/
def isCallable (declaration : Declaration) : Bool :=
  declaration.kind == .method || declaration.kind == .constructor

/-- The statements of a block that declare methods. -/
def methodStatements
    (model : SourceModel)
    (block : Block) :
    List Nat :=
  ((model.members (some block.index)).filter isCallable).map Declaration.statement

/-- The finding for two statements that follow each other, if there is one. -/
def findingsAt
    (expected : Document)
    (severity : Severity)
    (model : SourceModel)
    (first second : Statement) :
    Except RuleFault (List Finding) := do
  let found ← model.blankLinesBetween first.endLine second.startLine
  if (Document.int found).same expected then
    pure []
  else
    let column ← model.columnOf second.first
    if expected.isTooLong then
      throw .longInteger
    pure
      [{ place := { line := second.startLine, column }
         severity
         message :=
          "Expected " ++ expected.asText ++
            " blank line(s) between methods, found " ++ toString found }]

/-- The findings for two places of a body that follow each other. -/
def findingsBetween
    (expected : Document)
    (severity : Severity)
    (model : SourceModel)
    (methods : List Nat)
    (previous current : Nat) :
    Except RuleFault (List Finding) :=
  if methods.contains previous && methods.contains current then do
    let first ← SourceModel.expect model.statements[previous]?
    let second ← SourceModel.expect model.statements[current]?
    findingsAt expected severity model first second
  else
    .ok []

/-- The findings for one type. -/
def findingsIn
    (expected : Document)
    (severity : Severity)
    (model : SourceModel)
    (block : Block) :
    Except RuleFault (List Finding) :=
  let methods := methodStatements model block
  let body := block.body.toList
  let findings :=
    (body.zip body.tail).mapM fun (previous, current) =>
      findingsBetween expected severity model methods previous current
  findings.map List.flatten

/-- The methods that stand too near to or too far from the one before. -/
def findings
    (expected : Document)
    (severity : Severity)
    (model : SourceModel) :
    Except RuleFault (List Finding) :=
  let types := model.blocks.toList.filter (·.kind == .type)
  (types.mapM (findingsIn expected severity model)).map List.flatten

/-- Refuse a negative number of blank lines. -/
def validate (params : Entries) : Except ParamFault Unit :=
  match params.get? "blank_lines" with
  | some (.scalar (.int count)) =>
      if count < 0 then .error .negativeBlankLines else .ok ()
  | _ => .error .mixedTypes

end MethodSeparation

/-- Methods are kept apart. -/
def methodSeparation : Rule where
  id := "method-separation"
  description :=
    "Consecutive methods of a class are separated by a fixed number of " ++
      "blank lines."
  defaultParams := [(.text "blank_lines", .int 2)]
  validate := MethodSeparation.validate
  check := fun model settings => do
    let expected ← settings.params.param "blank_lines"
    MethodSeparation.findings expected settings.severity model

end HouseStyle
