import HouseStyle.Screen.Markup
import HouseStyle.Screen.Wrapping
import HouseStyle.Text.Line

namespace HouseStyle

/-!
# Tables

A table is as wide as its cells ask for, up to the width of the screen. If they
ask for more, the widest columns give way first, until all of them fit.
-/

/-- The number of cells of a line of the screen. -/
def screenWidth : Nat := 500

/-- The blanks on both sides of a text in a table. -/
def tablePadding : Nat := 2

/-- A column of a table. -/
structure TableColumn where
  title : String
  /-- The width of its texts, where it does not depend on them. -/
  width : Option Nat := none
  texts : List String
  deriving Repr

/-- A table. -/
structure Table where
  title : String
  columns : List TableColumn
  deriving Repr

/-- The number of cells of a text's widest line; tabs count for nothing. -/
def measured (text : List Char) : Nat :=
  (cutLines text).foldl (fun widest line => max widest (cells line)) 0

/-- A column as it is shown: its width, padding included, and its texts. -/
structure ShownColumn where
  width : Nat
  isFixed : Bool
  texts : List (List Char)
  deriving Repr

/-- Show the texts of a column, its title first. -/
def TableColumn.shown
    (column : TableColumn) :
    Except MarkupFault ShownColumn := do
  let texts ← (column.title :: column.texts).mapM displayed
  let asked :=
    texts.foldl (fun widest text => max widest (measured text)) 0
  pure
    { width := column.width.getD asked + tablePadding
      isFixed := column.width.isSome
      texts }

/-! ## Widths -/

/-- The whole number nearest to a quotient; a half goes to the even neighbour. -/
def nearestShare (total parts : Nat) : Nat :=
  let share := total / parts
  let rest := 2 * (total % parts)
  if parts < rest ∨ (parts = rest ∧ share % 2 = 1) then share + 1 else share

/--
Take `excess` cells from the columns that are `widest`, of which `count` are
left. Each gives its share, but no more than `most`.
-/
def shrinkWidest
    (widest most : Nat)
    (excess count : Nat) :
    List ShownColumn →
    List ShownColumn
  | [] => []
  | column :: rest =>
      if !column.isFixed ∧ column.width = widest then
        let share := min most (nearestShare excess count)
        { column with width := column.width - share } ::
          shrinkWidest widest most (excess - share) (count - 1) rest
      else
        column :: shrinkWidest widest most excess count rest

/-- The width of all columns. -/
def totalWidth (columns : List ShownColumn) : Nat :=
  (columns.map (·.width)).foldr (· + ·) 0

/-- Make the columns fit a width, the widest ones giving way first. -/
def fitted
    (fuel limit : Nat)
    (columns : List ShownColumn) :
    List ShownColumn :=
  match fuel with
  | 0 => columns
  | fuel + 1 =>
      let excess := totalWidth columns - limit
      let widths := (columns.filter (!·.isFixed)).map (·.width)
      let widest := widths.foldl max 0
      if excess = 0 ∨ widest = 0 then
        columns
      else
        let next := (widths.filter (· != widest)).foldl max 0
        let count := widths.count widest
        fitted fuel limit
          (shrinkWidest widest (min excess (widest - next)) excess count columns)

/-! ## Rows -/

/-- The lines of a column's texts. -/
def ShownColumn.lines (column : ShownColumn) : List (List String) :=
  column.texts.map fun text =>
    (wrapped .ellipsis (column.width - tablePadding) text).map String.ofList

/-- The rows that columns of the same height make. -/
def rowsOfColumns {Cell : Type} (columns : List (List Cell)) : List (List Cell) :=
  match columns with
  | [] => []
  | column :: columns =>
      let rows := columns.foldr (List.zipWith (· :: ·))
        (List.replicate column.length [])
      List.zipWith (· :: ·) column rows

/-- The rows of the screen that the lines of a row's texts make. -/
def screenRows (texts : List (List String)) : List (List String) :=
  let height := texts.foldl (fun height lines => max height lines.length) 0
  (List.range height).map fun index =>
    texts.map fun lines => (lines[index]?).getD ""

/-- The rows of a table, its titles first; there is a border at each column. -/
def Table.rows (table : Table) : Except MarkupFault (List (List String)) := do
  let columns ← table.columns.mapM TableColumn.shown
  let limit := screenWidth - (columns.length + 1)
  let columns := fitted (totalWidth columns) limit columns
  pure ((rowsOfColumns (columns.map ShownColumn.lines)).flatMap screenRows)

/-!
## Parts of the screen

Besides its report a command shows lines and tables on the screen. Every row of
a table has as many cells as there are columns; a text of several lines makes
several rows.
-/

/-- Something that is shown on the screen. -/
inductive ScreenPart
  | line (text : String)
  | table (title : String) (rows : List (List String))
  deriving Repr, DecidableEq

/-- Show a text line by line. -/
def showText (text : String) : Except MarkupFault (List ScreenPart) := do
  let shown ← displayed text
  pure
    ((wrapped .fold screenWidth shown).map fun line =>
      .line (String.ofList line))

/-- Show a table. -/
def Table.part (table : Table) : Except MarkupFault ScreenPart := do
  pure (.table table.title (← table.rows))

/-- The width of every column. -/
def columnWidths (rows : List (List String)) : List Nat :=
  rows.foldl
    (fun widths row =>
      (widths.zipWithAll
        (fun width cell =>
          max (width.getD 0) ((cell.map (cells ·.toList)).getD 0))
        row))
    []

/-- The lines of a part as they are printed. -/
def ScreenPart.lines : ScreenPart → List String
  | .line text => [text]
  | .table title rows =>
      let widths := columnWidths rows
      title ::
        rows.map fun row =>
          "  ".intercalate ((widths.zip row).map fun (width, cell) =>
            String.ofList (padded width cell.toList))

end HouseStyle
