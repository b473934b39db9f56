import HouseStyle.Rule.Basic

namespace HouseStyle

/-!
# Comments that explain a condition

A comment on its own right before a compound condition explains what a named
truth value would say.
-/

namespace ExplanatoryComment

/--
Whether code stands on the line on which a comment starts, before it. The
tokens before the comment come nearest first; the walk stops at one that ends
on an earlier line.
-/
def trailsCode (line : Nat) : List Token → Bool
  | [] => false
  | token :: before =>
      if token.stop.line < line then
        false
      else if token.isCode then
        true
      else
        trailsCode line before

/-- The comment right before a block. -/
def commentBefore?
    (model : SourceModel)
    (block : Block) :
    Option Token := do
  guard (0 < block.first)
  let token ← model.tokens[block.first - 1]?
  guard (token.kind = .comment)
  pure token

/-- Whether a comment explains the condition of a block. -/
def explains
    (operators : List String)
    (model : SourceModel)
    (block : Block)
    (comment : Token) :
    Bool :=
  block.start.line ≤ comment.stop.line + 1 &&
    !trailsCode
      comment.start.line
      (model.tokens.extract 0 (block.first - 1)).toList.reverse &&
    (model.conditionTokens block).any fun token => operators.contains token.text

/-- The finding for a block. -/
def finding?
    (operators : List String)
    (severity : Severity)
    (model : SourceModel)
    (block : Block) :
    Option Finding := do
  guard (block.kind = .conditional)
  let comment ← commentBefore? model block
  guard (explains operators model block comment)
  pure
    { place := comment.start
      severity
      message :=
        "Comment explains a compound condition; " ++
          "consider extracting a named boolean" }

/-- The comments that explain a condition. -/
def findings
    (operators : List String)
    (severity : Severity)
    (model : SourceModel) :
    List Finding :=
  model.blocks.toList.filterMap (finding? operators severity model)

/-- The operators of a list; what is no text is no operator. -/
def operatorsOf : List Document → Except RuleFault (List String)
  | [] => .ok []
  | .scalar (.text operator) :: rest =>
      (operatorsOf rest).map (operator :: ·)
  | item :: rest =>
      if item.isHashable then
        operatorsOf rest
      else
        .error (.nestedOperator item)

end ExplanatoryComment

/-- Conditions need no explanation. -/
def explanatoryComment : Rule where
  id := "explanatory-comment"
  description :=
    "A comment right before a compound condition suggests extracting a " ++
      "named boolean (advisory)."
  defaultSeverity := .advisory
  defaultParams :=
    [(.text "operators",
        .list [.text "&&", .text "||", .text "and", .text "or"])]
  advisory := true
  check := fun model settings => do
    let items ← settings.params.elementsParam "operators"
    let operators ← ExplanatoryComment.operatorsOf items
    pure (ExplanatoryComment.findings operators settings.severity model)

end HouseStyle
