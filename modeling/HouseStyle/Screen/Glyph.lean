import HouseStyle.Screen.CellTable
import HouseStyle.Text.Printable

namespace HouseStyle

/-!
# Glyphs

The pictures that the screen draws for a text, and texts cut to a number of
cells. A character of no cell is drawn on the glyph before it. A joiner draws
the character behind it on that glyph too, whatever cells it takes alone, and
the sign that asks for a pictograph widens some glyphs from one cell to two. A
text is only cut between glyphs.
-/

/-- The number of cells that a character takes. -/
def cellsOf (character : Char) : Nat :=
  let code := character.toNat
  if 0x20 ≤ code && code < 0x7F then
    1
  else if inRanges zeroCellRanges code then
    0
  else if inRanges doubleCellRanges code then
    2
  else
    1

/-- Whether a character of one cell can be drawn as a pictograph of two. -/
def isWidened (character : Char) : Bool :=
  inRanges widenedRanges character.toNat

/-- The sign that draws the character behind it on the glyph before it. -/
def joiner : Char := '\u200D'

/-- The sign that asks for the pictograph of the character before it. -/
def pictographSign : Char := '\uFE0F'

/-- What the screen draws as one picture: a character and those drawn on it. -/
structure Glyph where
  base : Char
  /-- The characters that are drawn on the first one, last first. -/
  marks : List Char := []
  cells : Nat
  deriving Repr, DecidableEq

namespace Glyph

/-- The glyph of a character that stands alone. -/
def ofChar (character : Char) : Glyph :=
  { base := character, cells := cellsOf character }

/-- Draw one more character on a glyph. -/
def mark (glyph : Glyph) (character : Char) : Glyph :=
  { glyph with marks := character :: glyph.marks }

/-- Ask for the pictograph of a glyph. -/
def widen (glyph : Glyph) : Glyph :=
  if glyph.cells = 1 ∧ isWidened glyph.base then
    { glyph with cells := 2 }
  else
    glyph

/-- The characters of a glyph. -/
def characters (glyph : Glyph) : List Char :=
  glyph.base :: glyph.marks.reverse

end Glyph

/--
The glyphs of a text that goes on behind an open glyph. `isJoined` tells whether
a joiner stands in front of the text.
-/
def glyphsFrom (glyph : Glyph) (isJoined : Bool) : List Char → List Glyph
  | [] => [glyph]
  | character :: rest =>
      if isJoined then
        glyphsFrom (glyph.mark character) false rest
      else if character = pictographSign then
        glyphsFrom (glyph.widen.mark character) false rest
      else if cellsOf character = 0 then
        glyphsFrom (glyph.mark character) (character = joiner) rest
      else
        glyph :: glyphsFrom (.ofChar character) false rest

/-- The glyphs of a text. -/
def glyphs : List Char → List Glyph
  | [] => []
  | character :: rest => glyphsFrom (.ofChar character) false rest

/-- The characters of glyphs. -/
def charactersOf (drawn : List Glyph) : List Char :=
  drawn.flatMap Glyph.characters

/--
A text without the joiners in front of it. Each hides the character behind it,
as there is no glyph to draw it on.
-/
def visible : List Char → List Char
  | first :: second :: rest =>
      if first = joiner then visible rest else first :: second :: rest
  | text => text

/-- The number of cells that a text takes. -/
def cells (text : List Char) : Nat :=
  ((glyphs (visible text)).map (·.cells)).foldr (· + ·) 0

/-- Fill a text with blanks up to a number of cells. -/
def padded (total : Nat) (text : List Char) : List Char :=
  text ++ List.replicate (total - cells text) ' '

/--
The glyphs that fit into a number of cells. Where half of the next one would fit
too, a blank takes its place.
-/
def fitting (room : Nat) : List Glyph → List Char
  | [] => []
  | glyph :: rest =>
      if room = 0 then
        []
      else if room < glyph.cells then
        [' ']
      else
        glyph.characters ++ fitting (room - glyph.cells) rest

/-- Cut a text that takes more cells than `total`. -/
def cropped (total : Nat) (text : List Char) : List Char :=
  if cells text ≤ total then
    text
  else
    fitting total (glyphs text)

/--
Cut glyphs into pieces of at most `width` cells each. `reversed` holds the
glyphs of the open piece, last first, and `size` counts their cells.
-/
def piecesFrom
    (width : Nat)
    (reversed : List Glyph)
    (size : Nat) :
    List Glyph →
    List (List Char)
  | [] => [charactersOf reversed.reverse]
  | glyph :: rest =>
      if width < size + glyph.cells then
        charactersOf reversed.reverse ::
          piecesFrom width [glyph] glyph.cells rest
      else
        piecesFrom width (glyph :: reversed) (size + glyph.cells) rest

/--
The pieces of a word, each of which takes at most `width` cells. In front of a
glyph that is too wide for any piece, the open piece ends even if it is empty.
-/
def pieces (width : Nat) (word : List Char) : List (List Char) :=
  piecesFrom width [] 0 (glyphs word)

end HouseStyle
