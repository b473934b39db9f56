import HouseStyle.Screen.Color
import HouseStyle.Text.Blank

namespace HouseStyle

/-!
# Styles of drawing

A style is written in words: ways to set off a text, some of them ruled out, a
colour, a background and a link. Styles that draw alike have one written form.
-/

/-- A way to set off a text. -/
inductive Emphasis
  | bold
  | dim
  | italic
  | underline
  | blink
  | fastBlink
  | swapped
  | concealed
  | struck
  | doubleUnderline
  | framed
  | encircled
  | overlined
  deriving Repr, DecidableEq

namespace Emphasis

/-- All ways, in the order in which they are written. -/
def all : List Emphasis :=
  [.bold, .dim, .italic, .underline, .blink, .fastBlink, .swapped, .concealed,
    .struck, .doubleUnderline, .framed, .encircled, .overlined]

/-- The word for a way. -/
def name : Emphasis → String
  | .bold => "bold"
  | .dim => "dim"
  | .italic => "italic"
  | .underline => "underline"
  | .blink => "blink"
  | .fastBlink => "blink2"
  | .swapped => "reverse"
  | .concealed => "conceal"
  | .struck => "strike"
  | .doubleUnderline => "underline2"
  | .framed => "frame"
  | .encircled => "encircle"
  | .overlined => "overline"

/-- The short word for a way. -/
def letter? : Emphasis → Option String
  | .bold => some "b"
  | .dim => some "d"
  | .italic => some "i"
  | .underline => some "u"
  | .swapped => some "r"
  | .concealed => some "c"
  | .struck => some "s"
  | .doubleUnderline => some "uu"
  | .overlined => some "o"
  | .blink | .fastBlink | .framed | .encircled => none

/-- The way that a word stands for. -/
def ofWord? (word : String) : Option Emphasis :=
  all.find? fun emphasis =>
    emphasis.name == word || emphasis.letter? == some word

end Emphasis

/-- A style of drawing. -/
structure Style where
  /-- The ways that are asked for or ruled out, the latest first. -/
  emphases : List (Emphasis × Bool) := []
  color : Option String := none
  background : Option String := none
  link : Option String := none
  deriving Repr

namespace Style

/-- The words of a style. -/
def words (style : Style) : List String :=
  let emphases :=
    Emphasis.all.filterMap fun emphasis =>
      (style.emphases.lookup emphasis).map fun wanted =>
        if wanted then emphasis.name else "not " ++ emphasis.name
  emphases ++ style.color.toList ++
    (style.background.map ("on " ++ ·)).toList ++
    (style.link.map ("link " ++ ·)).toList

/-- The written form of a style. -/
def render (style : Style) : String :=
  match style.words with
  | [] => "none"
  | words => " ".intercalate words

/-- Read the words of a style. -/
def ofWords (style : Style) : List String → Except StyleFault Style
  | [] => .ok style
  | word :: rest =>
      match lowerCase word with
      | "on" =>
          match rest with
          | [] => .error .malformed
          | color :: rest => do
              let color ← readColor color
              ofWords { style with background := some color } rest
      | "not" =>
          match rest with
          | [] => .error .malformed
          | word :: rest =>
              match Emphasis.ofWord? word with
              | none => .error .malformed
              | some emphasis =>
                  let emphases := (emphasis, false) :: style.emphases
                  ofWords { style with emphases } rest
      | "link" =>
          match rest with
          | [] => .error .malformed
          | address :: rest => ofWords { style with link := some address } rest
      | lowered =>
          match Emphasis.ofWord? lowered with
          | some emphasis =>
              let emphases := (emphasis, true) :: style.emphases
              ofWords { style with emphases } rest
          | none => do
              let color ← readColor lowered
              ofWords { style with color := some color } rest

/-- Read a style. -/
def read (text : List Char) : Except StyleFault Style :=
  if trim text = "none".toList then
    .ok {}
  else
    ofWords {}
      (((text.splitOnP isBlank).filter (!·.isEmpty)).map String.ofList)

end Style

/--
The written form of the style that a text stands for, or the text in small
letters if it stands for none.
-/
def styleName (text : List Char) : Except IntegerFault String :=
  match Style.read text with
  | .ok style => .ok style.render
  | .error (.badPart fault) => .error fault
  | .error .malformed => .ok (lowerCase (String.ofList (trim text)))

end HouseStyle
