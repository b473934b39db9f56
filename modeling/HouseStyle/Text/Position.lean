namespace HouseStyle

/-!
# Positions

Lines and columns are counted from one, in characters. A line break belongs to
the line it ends.
-/

/-- The place of one character in a text. -/
structure Position where
  line : Nat
  column : Nat
  deriving Repr, DecidableEq, Inhabited

namespace Position

/-- The place of the first character. -/
def origin : Position :=
  { line := 1, column := 1 }

/-- The place of the character after `character`. -/
def next
    (position : Position)
    (character : Char) :
    Position :=
  if character = '\n' then
    { line := position.line + 1, column := 1 }
  else
    { position with column := position.column + 1 }

/-- The place of the character after `text`. -/
def advance
    (position : Position)
    (text : List Char) :
    Position :=
  text.foldl next position

/-- Advancing over two pieces is advancing over one, then over the other. -/
theorem advance_append
    (position : Position)
    (first second : List Char) :
    position.advance (first ++ second) =
      (position.advance first).advance second := by
  simp [advance]

/-- Source order: line first, then column. -/
def before
    (left right : Position) :
    Bool :=
  left.line < right.line ||
    (left.line == right.line && left.column < right.column)

end Position

end HouseStyle
