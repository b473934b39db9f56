import HouseStyle.Language.Catalogue
import HouseStyle.Source.Declaration
import HouseStyle.Token.Lexer

namespace HouseStyle

/-!
# Source models

Everything a rule may look at for one file: its lines, tokens, statements,
blocks and declarations. `SourceModel.build` reads a text under its language or
gives the fault that stops the reading.
-/

/-- A file's text with the language it is written in. -/
structure SourceFile where
  path : String
  text : String
  language : Language
  deriving Repr, DecidableEq

/-- The language-independent view of one file. -/
structure SourceModel where
  path : String
  language : Language
  lines : Array Line
  tokens : Array Token
  outline : Outline
  /-- In source order. -/
  declarations : List Declaration
  deriving Repr, DecidableEq

namespace SourceModel

/-- The statements of the file. -/
def statements (model : SourceModel) : Array Statement :=
  model.outline.statements

/-- The blocks of the file. -/
def blocks (model : SourceModel) : Array Block :=
  model.outline.blocks

/-- The statement forest of a text. -/
def readForest
    (profile : Profile)
    (lines : Array Line)
    (tokens : Array Token) :
    Except Fault (List Node) :=
  match profile.blockStyle with
  | .braces => readBraces profile (placeCode tokens)
  | .indent => readIndented profile (logicalLines lines tokens)

/-- Read a file into a model. -/
def build (source : SourceFile) : Except Fault SourceModel :=
  let profile := source.language.profile
  let lines := splitLines source.text
  match profile.tokenize source.text with
  | .error fault => .error fault
  | .ok tokens =>
      match readForest profile lines tokens with
      | .error fault => .error fault
      | .ok forest =>
          let outline := Outline.ofForest profile forest
          .ok
            { path := source.path
              language := source.language
              lines
              tokens
              outline
              declarations := declarationsOf profile tokens outline }

/-- The item at an index; a negative index counts from the end. -/
def itemAt?
    {Item : Type}
    (items : Array Item)
    (index : Int) :
    Option Item :=
  match index with
  | .ofNat place => items[place]?
  | .negSucc back =>
      if back < items.size then items[items.size - 1 - back]? else none

/-- A line by number; the line before the first one is the last one. -/
def line?
    (model : SourceModel)
    (number : Int) :
    Option Line :=
  itemAt? model.lines (number - 1)

/-- A statement by index. -/
def statement?
    (model : SourceModel)
    (index : Int) :
    Option Statement :=
  itemAt? model.statements index

/-- A block by index. -/
def block?
    (model : SourceModel)
    (index : Int) :
    Option Block :=
  itemAt? model.blocks index

/-- The statements directly inside a block, or outside all blocks. -/
def body?
    (model : SourceModel)
    (parent : Option Int) :
    Option (Array Nat) :=
  match parent with
  | none => some model.outline.topLevel
  | some block => (model.block? block).map Block.body

/-- The statement before another one in the same body. -/
def before?
    (model : SourceModel)
    (statement : Statement) :
    Option Statement := do
  guard (0 < statement.position)
  let index ← (model.outline.body statement.parent)[statement.position - 1]?
  model.statements[index]?

/-- The statement after another one in the same body. -/
def after?
    (model : SourceModel)
    (statement : Statement) :
    Option Statement := do
  let index ← (model.outline.body statement.parent)[statement.position + 1]?
  model.statements[index]?

/-- The numbers strictly between two numbers. -/
def numbersBetween (lower upper : Int) : List Int :=
  (List.range (upper - lower - 1).toNat).map fun (step : Nat) =>
    lower + 1 + step

/--
The number of blank lines strictly between two lines, if all lines between them
exist.
-/
def blankLinesBetween?
    (model : SourceModel)
    (afterLine beforeLine : Int) :
    Option Nat :=
  let size : Int := model.lines.size
  if beforeLine ≤ afterLine + 1 then
    some 0
  else if -size ≤ afterLine ∧ beforeLine ≤ size + 1 then
    some
      ((numbersBetween afterLine beforeLine).countP fun number =>
        (model.line? number).any Line.isBlank)
  else
    none

/-- The block that a statement is. -/
def blockOf?
    (model : SourceModel)
    (statement : Statement) :
    Option Block :=
  statement.block.bind fun index => model.blocks[index]?

/-- The code tokens between a block's first token and its body. -/
def conditionTokens
    (model : SourceModel)
    (block : Block) :
    List Token :=
  (model.tokens.extract (block.first + 1) block.headerEnd).toList.filter
    Token.isCode

/--
The declarations made directly inside a block, or outside all blocks, in source
order.
-/
def members
    (model : SourceModel)
    (block : Option Nat) :
    List Declaration :=
  model.declarations.filter (·.block == block)

end SourceModel

end HouseStyle
