import HouseStyle.Rule.Basic

namespace HouseStyle

/-!
# Looking up parts of a model

A rule goes from one part of a model to others: to the neighbours of a statement,
to the block that it is, to lines and tokens. What such a step leads to has to be
there; otherwise the rule fails.
-/

/-- A line, a token, a statement or a block is not where it is looked up. -/
def RuleFault.missingItem : RuleFault :=
  .failed "IndexError('tuple index out of range')"

namespace SourceModel

/-- What is looked up and has to be there. -/
def expect {Item : Type} (item : Option Item) : Except RuleFault Item :=
  match item with
  | some item => .ok item
  | none => .error .missingItem

/-- What is looked up and has to be there if a condition holds. -/
def expectIf
    {Item : Type}
    (condition : Prop)
    [Decidable condition]
    (item : Option Item) :
    Except RuleFault (Option Item) :=
  if condition then (expect item).map some else .ok none

/-- The body that a statement stands in. -/
def bodyAround
    (model : SourceModel)
    (statement : Statement) :
    Except RuleFault (Array Nat) :=
  match statement.parent with
  | none => .ok model.outline.topLevel
  | some block => (expect model.blocks[block]?).map Block.body

/-- The statements right before and right behind another one in its body. -/
def siblings
    (model : SourceModel)
    (statement : Statement) :
    Except RuleFault (Option Statement × Option Statement) := do
  let body ← model.bodyAround statement
  let before ← expectIf (0 < statement.position) (model.before? statement)
  let after ←
    expectIf (statement.position + 1 < body.size) (model.after? statement)
  pure (before, after)

/-- The block that a statement is, if it is one. -/
def ownBlock
    (model : SourceModel)
    (statement : Statement) :
    Except RuleFault (Option Block) :=
  match statement.block with
  | none => .ok none
  | some block => (expect model.blocks[block]?).map some

/-- The number of blank lines strictly between two lines. -/
def blankLinesBetween
    (model : SourceModel)
    (afterLine beforeLine : Nat) :
    Except RuleFault Nat :=
  expect (model.blankLinesBetween? afterLine beforeLine)

/-- The column of a token. -/
def columnOf
    (model : SourceModel)
    (index : Nat) :
    Except RuleFault Nat :=
  (expect model.tokens[index]?).map (·.start.column)

end SourceModel

end HouseStyle
