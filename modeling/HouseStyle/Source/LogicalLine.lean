import HouseStyle.Source.Tree
import HouseStyle.Text.Line

namespace HouseStyle

/-!
# Logical lines

Physical lines that brackets or a trailing backslash join form one logical
line. A logical line starts and ends with a code token and keeps the comments
between them. Its indent is the width of the white space before its first
token, with tab stops every eight columns.
-/

/-- A logical line: its first token, the tokens after it and its indent. -/
structure LogicalLine where
  first : Placed
  others : List Placed
  indent : Nat
  deriving Repr, DecidableEq

namespace LogicalLine

/-- All tokens of the line, comments included. -/
def tokens (line : LogicalLine) : List Placed :=
  line.first :: line.others

/-- The last token of the line. -/
def last (line : LogicalLine) : Placed :=
  line.others.getLast?.getD line.first

end LogicalLine

/-- The width and the column behind one more character of white space. -/
def widen
    (measured : Nat × Nat)
    (character : Char) :
    Nat × Nat :=
  let (width, column) := measured
  if character = '\t' then
    let step := 8 - column % 8
    (width + step, column + step)
  else if character = '\r' then
    (width + 1, 0)
  else
    (width + 1, column + 1)

/-- The width of the white space at the start of a physical line. -/
def indentWidth (text : String) : Nat :=
  ((text.toList.takeWhile isBlank).foldl widen (0, 0)).1

/-- The text of a physical line, by number. -/
def lineText
    (lines : Array Line)
    (number : Nat) :
    String :=
  (lines[number - 1]?.map Line.text).getD ""

/-- Whether a backslash alone follows a token on its line. -/
def continuesBehind
    (lines : Array Line)
    (placed : Placed) :
    Bool :=
  let text := (lineText lines placed.token.stop.line).toList
  trim (text.drop placed.token.stop.column) == ['\\']

/-- A logical line that is still open, its tokens in reverse. -/
structure OpenLine where
  first : Placed
  /-- The tokens after the first up to the last code token, in reverse. -/
  reversed : List Placed
  /-- Comments behind the last code token, in reverse. -/
  comments : List Placed
  depth : Nat
  deriving Repr

namespace OpenLine

/-- Bracket depth behind a token: stray closing brackets count for nothing. -/
def depthBehind
    (depth : Nat)
    (placed : Placed) :
    Nat :=
  if placed.token.opensBracket then
    depth + 1
  else if placed.token.closesBracket then
    depth - 1
  else
    depth

/-- Open a line with its first token. -/
def start (placed : Placed) : OpenLine :=
  { first := placed
    reversed := []
    comments := []
    depth := depthBehind 0 placed }

/-- Add a code token, and with it the comments before it. -/
def push
    (line : OpenLine)
    (placed : Placed) :
    OpenLine :=
  { line with
    reversed := placed :: (line.comments ++ line.reversed)
    comments := []
    depth := depthBehind line.depth placed }

/-- The last code token. -/
def last (line : OpenLine) : Placed :=
  line.reversed.head?.getD line.first

/-- End the line. Comments behind its last code token do not belong to it. -/
def close
    (lines : Array Line)
    (line : OpenLine) :
    LogicalLine :=
  { first := line.first
    others := line.reversed.reverse
    indent := indentWidth (lineText lines line.first.token.start.line) }

/-- Whether a token on a later line starts a line of its own. -/
def endsBefore
    (lines : Array Line)
    (line : OpenLine)
    (placed : Placed) :
    Bool :=
  line.depth == 0 &&
    line.last.token.stop.line < placed.token.start.line &&
    !continuesBehind lines line.last

end OpenLine

/-- Join tokens to logical lines; `finished` holds the earlier ones in reverse. -/
def joinLines
    (lines : Array Line)
    (finished : List LogicalLine)
    (current : Option OpenLine) :
    List Placed →
    List LogicalLine
  | [] =>
      match current with
      | none => finished.reverse
      | some line => (line.close lines :: finished).reverse
  | placed :: rest =>
      match current with
      | none =>
          if placed.token.isCode then
            joinLines lines finished (some (.start placed)) rest
          else
            joinLines lines finished none rest
      | some line =>
          if !placed.token.isCode then
            joinLines
              lines
              finished
              (some { line with comments := placed :: line.comments })
              rest
          else if line.endsBefore lines placed then
            joinLines
              lines
              (line.close lines :: finished)
              (some (.start placed))
              rest
          else
            joinLines lines finished (some (line.push placed)) rest

/-- The logical lines of a file. -/
def logicalLines
    (lines : Array Line)
    (tokens : Array Token) :
    List LogicalLine :=
  joinLines lines [] none (placeTokens tokens)

end HouseStyle
