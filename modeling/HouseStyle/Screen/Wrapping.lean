import HouseStyle.Screen.Glyph
import HouseStyle.Text.Blank

namespace HouseStyle

/-!
# Wrapping

A text is shown on lines of a width. Tabs are filled with blanks, lines break
between words, and a word that is wider than a line is either cut off with an
ellipsis or goes on over several lines.
-/

/-- What becomes of a word that is wider than a line. -/
inductive Overflow
  | fold
  | ellipsis
  deriving Repr, DecidableEq

/-- The distance between two tab stops. -/
def tabStop : Nat := 8

/--
Join the texts between tabs. Each but the last one is followed by a blank, and
by more of them up to the next tab stop.
-/
def joinedAtStops : List (List Char) → List Char
  | [] => []
  | [last] => last
  | text :: rest =>
      let stopped := text ++ [' ']
      let beyond := cells stopped % tabStop
      let missing := if beyond = 0 then 0 else tabStop - beyond
      stopped ++ List.replicate missing ' ' ++ joinedAtStops rest

/-- Fill every tab with blanks up to the next tab stop. -/
def fillTabs (line : List Char) : List Char :=
  joinedAtStops (line.splitOnP (· == '\t'))

/--
The words of a line, each with the blanks behind it; the first one has those in
front of it too. A line of blanks has no words.
-/
def screenWords (line : List Char) : List (List Char) :=
  let runs :=
    line.splitBy fun former latter => !isBlank former || isBlank latter
  match runs with
  | [] => []
  | first :: rest =>
      if first.all isBlank then
        match rest with
        | [] => []
        | word :: rest => (first ++ word) :: rest
      else
        first :: rest

/-- Lines that are being broken: the finished ones, last first, and the open one. -/
structure BrokenLine where
  finished : List (List Char) := []
  current : List Char := []
  column : Nat := 0

namespace BrokenLine

/-- Put a text on the open line. -/
def extend (line : BrokenLine) (text : List Char) : BrokenLine :=
  { line with
    current := line.current ++ text
    column := line.column + cells text }

/-- Put a text on a line of its own. -/
def start (line : BrokenLine) (text : List Char) : BrokenLine :=
  if line.finished.isEmpty ∧ line.current.isEmpty then
    { line with current := text, column := cells text }
  else
    { finished := line.current :: line.finished
      current := text
      column := cells text }

/-- Put the next word on the open line, if it fits there. -/
def addWord
    (overflow : Overflow)
    (width : Nat)
    (line : BrokenLine)
    (word : List Char) :
    BrokenLine :=
  let size := cells (trimEnd word)
  if line.column + size ≤ width then
    line.extend word
  else if size ≤ width ∨ overflow = .ellipsis then
    line.start word
  else
    (pieces width word).foldl start line

/-- All lines in order. -/
def lines (line : BrokenLine) : List (List Char) :=
  (line.current :: line.finished).reverse

end BrokenLine

/-- Break a line between its words. -/
def breakLine
    (overflow : Overflow)
    (width : Nat)
    (line : List Char) :
    List (List Char) :=
  match screenWords line with
  | [] => [line]
  | words =>
      (words.foldl (BrokenLine.addWord overflow width) {}).lines

/-- Drop blanks from the back, but no more than stand beyond the width. -/
def trimBeyond (width : Nat) (line : List Char) : List Char :=
  let blanks := line.length - (trimEnd line).length
  line.take (line.length - min blanks (line.length - width))

/-- Cut off what does not fit the width. -/
def truncated
    (overflow : Overflow)
    (width : Nat)
    (line : List Char) :
    List Char :=
  if cells line ≤ width then
    line
  else
    match overflow with
    | .fold => cropped width line
    | .ellipsis => cropped (width - 1) line ++ ['…']

/-- The lines on which a text is shown. -/
def wrapped
    (overflow : Overflow)
    (width : Nat)
    (text : List Char) :
    List (List Char) :=
  (text.splitOnP (· == '\n')).flatMap fun line =>
    (breakLine overflow width (fillTabs line)).map fun broken =>
      truncated overflow width (trimBeyond width broken)

end HouseStyle
