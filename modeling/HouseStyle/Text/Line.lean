import HouseStyle.Text.Blank

namespace HouseStyle

/-!
# Physical lines

A text is cut after every line feed. The carriage returns that end a line are
not part of it, and a line feed at the very end opens no further line.
-/

/-- A numbered line without its terminator. -/
structure Line where
  number : Nat
  text : String
  deriving Repr, DecidableEq, Inhabited

namespace Line

/-- The number of characters on the line. -/
def length (line : Line) : Nat :=
  line.text.length

/-- Whether the line holds white space only. -/
def isBlank (line : Line) : Bool :=
  line.text.toList.all HouseStyle.isBlank

/-- Number the next line and drop its trailing carriage returns. -/
def close
    (number : Nat)
    (reversed : List Char) :
    Line :=
  { number
    text := String.ofList (reversed.dropWhile (· == '\r')).reverse }

end Line

/-- Cut `text`, holding the finished lines and the open one in reverse. -/
def collectLines
    (finished : Array Line)
    (reversed : List Char) :
    List Char →
    Array Line
  | [] =>
      if reversed.isEmpty then
        finished
      else
        finished.push (Line.close (finished.size + 1) reversed)
  | character :: rest =>
      if character = '\n' then
        collectLines
          (finished.push (Line.close (finished.size + 1) reversed)) [] rest
      else
        collectLines finished (character :: reversed) rest

/-- The lines of a text. -/
def splitLines (text : String) : Array Line :=
  collectLines #[] [] text.toList

/-! ## Line ends

Besides the line feed and the carriage return some controls and separators end
a line. A text is cut at each of them, so that a carriage return with a line
feed behind it leaves an empty line between.
-/

/-- A character that ends a line. -/
def endsLine (character : Char) : Bool :=
  let code := character.toNat
  (0x0A ≤ code && code ≤ 0x0D) || (0x1C ≤ code && code ≤ 0x1E) ||
    code == 0x85 || code == 0x2028 || code == 0x2029

/-- Cut a text at every character that ends a line. -/
def cutLines (text : List Char) : List (List Char) :=
  text.splitOnP endsLine

end HouseStyle
