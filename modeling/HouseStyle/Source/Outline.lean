import HouseStyle.Language.Profile
import HouseStyle.Source.Tree

namespace HouseStyle

/-!
# Outlines

An outline is a statement forest laid out as two tables, statements and blocks,
both in the order in which they start. Each block lists the statements directly
inside it, and each statement knows its place in that list.
-/

/-- What a statement does. -/
inductive StatementKind
  | simple
  | result
  | block
  deriving Repr, DecidableEq, Inhabited

/-- The name a report uses for a kind of statement. -/
def StatementKind.name : StatementKind → String
  | .simple => "simple"
  | .result => "return"
  | .block => "block"

/-- A statement; `first` and `last` are inclusive token indices. -/
structure Statement where
  index : Nat
  kind : StatementKind
  first : Nat
  last : Nat
  startLine : Nat
  endLine : Nat
  /-- The block directly around the statement. -/
  parent : Option Nat
  /-- The block that the statement is. -/
  block : Option Nat
  /-- The place among the statements of the same body. -/
  position : Nat
  deriving Repr, DecidableEq, Inhabited

/-- A block; `headerEnd` is the index of the token that opens the body. -/
structure Block where
  index : Nat
  kind : BlockKind
  keyword : String
  name : String
  statement : Nat
  parent : Option Nat
  first : Nat
  headerEnd : Nat
  last : Nat
  start : Position
  stop : Position
  delimited : Bool
  continues : Bool
  /-- The statements directly inside the block. -/
  body : Array Nat
  deriving Repr, DecidableEq, Inhabited

/-- The number of lines from the header through the end of the body. -/
def Block.lineCount (block : Block) : Nat :=
  block.stop.line - block.start.line + 1

/-- The tables of a statement forest. -/
structure Outline where
  statements : Array Statement
  blocks : Array Block
  /-- The statements outside all blocks. -/
  topLevel : Array Nat
  deriving Repr, DecidableEq, Inhabited

namespace Outline

/-- The outline of no statements. -/
def empty : Outline :=
  { statements := #[], blocks := #[], topLevel := #[] }

/-- The statements directly inside a block, or outside all blocks. -/
def body
    (outline : Outline)
    (parent : Option Nat) :
    Array Nat :=
  match parent with
  | none => outline.topLevel
  | some block => ((outline.blocks[block]?).map Block.body).getD #[]

/-- Add a statement to the table and to the body it belongs to. -/
def addStatement
    (outline : Outline)
    (parent : Option Nat)
    (kind : StatementKind)
    (first last : Placed)
    (block : Option Nat) :
    Outline :=
  let index := outline.statements.size
  let statement : Statement :=
    { index
      kind
      first := first.index
      last := last.index
      startLine := first.token.start.line
      endLine := last.token.stop.line
      parent
      block
      position := (outline.body parent).size }
  match parent with
  | none =>
      { outline with
        statements := outline.statements.push statement
        topLevel := outline.topLevel.push index }
  | some around =>
      { outline with
        statements := outline.statements.push statement
        blocks :=
          outline.blocks.modify around fun enclosing =>
            { enclosing with body := enclosing.body.push index } }

/-- Add a block without its body, and the statement that it is. -/
def addBlock
    (outline : Outline)
    (parent : Option Nat)
    (head : BlockHead)
    (last : Placed) :
    Outline :=
  let block : Block :=
    { index := outline.blocks.size
      kind := head.kind
      keyword := head.keyword
      name := head.name
      statement := outline.statements.size
      parent
      first := head.first.index
      headerEnd := head.opener.index
      last := last.index
      start := head.first.token.start
      stop := last.token.stop
      delimited := head.delimited
      continues := head.continues
      body := #[] }
  let added :=
    outline.addStatement parent .block head.first last (some block.index)
  { added with blocks := added.blocks.push block }

end Outline

mutual

/-- Add a statement and everything inside it to an outline. -/
def Node.layOut
    (profile : Profile)
    (parent : Option Nat)
    (outline : Outline) :
    Node →
    Outline
  | .simple first last =>
      let kind :=
        if profile.returnKeywords.contains first.text then
          .result
        else
          .simple
      outline.addStatement parent kind first last none
  | .block head body last =>
      layOutAll
        profile
        (some outline.blocks.size)
        (outline.addBlock parent head last)
        body

/-- Add consecutive statements of one body to an outline. -/
def layOutAll
    (profile : Profile)
    (parent : Option Nat)
    (outline : Outline) :
    List Node →
    Outline
  | [] => outline
  | node :: rest =>
      layOutAll profile parent (node.layOut profile parent outline) rest

end

/-- The outline of a statement forest. -/
def Outline.ofForest
    (profile : Profile)
    (forest : List Node) :
    Outline :=
  layOutAll profile none .empty forest

end HouseStyle
