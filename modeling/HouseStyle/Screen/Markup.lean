import HouseStyle.Number.Numeral
import HouseStyle.Screen.PictographTable
import HouseStyle.Screen.Style
import HouseStyle.Text.Blank
import HouseStyle.Text.Letter
import HouseStyle.Text.Lowercase

namespace HouseStyle

/-!
# Markup

A text for the screen may hold tags in brackets that choose a style. A tag
starts with a small letter, `#`, `/` or `@`; a backslash keeps it from being
one. Tags and the characters that a terminal would act on do not show, and
pictographs that are named between colons are drawn.
-/

/-!
## Pictographs

A name between colons stands for a pictograph. A word behind the name may ask
for the pictograph to be drawn as a picture or as a letter.
-/

/-- Read an entry of the table of names. -/
def readPictograph? (entry : List Char) : Option (String × List Char) :=
  let name := entry.takeWhile (· != '=')
  let codes := (entry.drop (name.length + 1)).splitOnP (· == '-')
  (codes.mapM (readInBase? 16)).map fun codes =>
    (String.ofList name, codes.map Char.ofNat)

/-- The names of pictographs with the characters that draw them. -/
def pictographs : List (String × List Char) :=
  (pictographNames.toList.splitOnP isBlank).filterMap readPictograph?

/-- The ways to draw a pictograph, with the selector that asks for each. -/
def presentations : List (List Char × Char) :=
  [("-emoji".toList, '\uFE0F'), ("-text".toList, '\uFE0E')]

/-- The name of a pictograph, and the selector that the word behind it asks for. -/
def pictographName (word : List Char) : List Char × List Char :=
  match presentations.find? fun (ending, _) => ending.isSuffixOf word with
  | some (ending, selector) =>
      (word.take (word.length - ending.length), [selector])
  | none => (word, [])

/-- The pictograph that a word between colons stands for. -/
def pictograph? (word : List Char) : Option (List Char) :=
  let (name, selector) := pictographName word
  (pictographs.lookup (lowerCase (String.ofList name))).map (· ++ selector)

/-- Show what stands between two colons. -/
def betweenColons (word : List Char) : List Char :=
  (pictograph? word).getD (':' :: word ++ [':'])

/-- Replace the names of pictographs by what they stand for. -/
def showPictographs (fuel : Nat) (text : List Char) : List Char :=
  match fuel, text with
  | 0, text => text
  | _, [] => []
  | fuel + 1, ':' :: rest =>
      let word :=
        rest.takeWhile fun character => character != ':' && !isBlank character
      match rest.drop word.length with
      | ':' :: after => betweenColons word ++ showPictographs fuel after
      | _ => ':' :: showPictographs fuel rest
  | fuel + 1, character :: rest => character :: showPictographs fuel rest

/-!
## Actions

A tag may name an action and the arguments for it: literals between brackets.
-/

/-- What follows a quoted literal behind its opening quote. -/
def afterQuoted? (quote : Char) : List Char → Option (List Char)
  | [] => none
  | '\n' :: _ => none
  | '\\' :: _ :: rest => afterQuoted? quote rest
  | character :: rest =>
      if character = quote then some rest else afterQuoted? quote rest

/-- Whether a word is a number. -/
def isNumeral (word : List Char) : Bool :=
  word.any isDecimalDigit &&
    ((readSourceInteger? word).isSome ||
      (readDecimal? (String.ofList word)).isSome)

/-- What follows the word at the head, if it is a literal. -/
def afterWord? (signed : Bool) (text : List Char) : Option (List Char) :=
  let word :=
    text.takeWhile fun character => isWordCharacter character || character == '.'
  let isConstant :=
    !signed && ["True", "False", "None"].contains (String.ofList word)
  if isConstant || isNumeral word then
    some (text.drop word.length)
  else
    none

mutual

/-- What follows the literal at the head. -/
def afterLiteral? (fuel : Nat) (text : List Char) : Option (List Char) :=
  match fuel, trimStart text with
  | 0, _ => none
  | fuel + 1, '(' :: rest => afterLiterals? fuel ')' rest
  | fuel + 1, '[' :: rest => afterLiterals? fuel ']' rest
  | _, '\'' :: rest => afterQuoted? '\'' rest
  | _, '"' :: rest => afterQuoted? '"' rest
  | _, '-' :: rest => afterWord? true (trimStart rest)
  | _, '+' :: rest => afterWord? true (trimStart rest)
  | _, text => afterWord? false text

/-- What follows literals between commas and a closing bracket behind them. -/
def afterLiterals?
    (fuel : Nat)
    (closing : Char)
    (text : List Char) :
    Option (List Char) :=
  match fuel, trimStart text with
  | 0, _ => none
  | _, [] => none
  | fuel + 1, character :: rest =>
      if character = closing then
        some rest
      else
        match (afterLiteral? fuel (character :: rest)).map trimStart with
        | some (',' :: rest) => afterLiterals? fuel closing rest
        | some (character :: rest) =>
            if character = closing then some rest else none
        | _ => none

end

/-- Whether a text is made of literals between commas. -/
def areLiterals (text : List Char) : Bool :=
  afterLiterals? (2 * text.length + 2) ')' (text ++ [')']) == some []

/-- Whether a text names an action and its arguments, or is made of literals. -/
def isAction (text : List Char) : Bool :=
  let text := trim text
  let name :=
    text.takeWhile fun character => isWordCharacter character || character == '.'
  match text.drop name.length with
  | [] => true
  | '(' :: rest =>
      if rest.getLast? = some ')' ∧ !rest.contains '\n' then
        areLiterals ('(' :: rest)
      else
        areLiterals text
  | _ => areLiterals text

/-! ## Tags -/

/-- A piece of a text with tags. -/
inductive MarkupPiece
  | plain (text : List Char)
  | opening (name parameters : List Char)
  | closing (name : List Char)
  deriving Repr, DecidableEq

/-- Why a text cannot be shown. -/
inductive MarkupFault
  /-- A tag closes what was never opened. -/
  | unopened
  /-- An action cannot be read. -/
  | badAction
  /-- A part of a colour is no number. -/
  | badPart (fault : IntegerFault)
  deriving Repr, DecidableEq

/-- The wording of a fault. -/
def MarkupFault.message : MarkupFault → String
  | .unopened => "closing tag without an opening one"
  | .badAction => "an action cannot be read"
  | .badPart fault => fault.message

/-- A character that a tag may start with. -/
def startsTag (character : Char) : Bool :=
  ('a' ≤ character && character ≤ 'z') ||
    character == '#' || character == '/' || character == '@'

/-- The inside of the tag at the head, behind its bracket, and what follows. -/
def tagInside? : List Char → Option (List Char × List Char)
  | [] => none
  | first :: rest =>
      if startsTag first then
        let inside :=
          rest.takeWhile fun character => character != ']' && character != '['
        match rest.drop inside.length with
        | ']' :: after => some (first :: inside, after)
        | _ => none
      else
        none

/-- The piece that the inside of a tag stands for. -/
def tagPiece (inside : List Char) : MarkupPiece :=
  let name := inside.takeWhile (· != '=')
  match name with
  | '/' :: name => .closing (trim name)
  | name => .opening name (inside.drop (name.length + 1))

/-- A plain piece, unless it is empty; a backslash before a bracket is dropped. -/
def plainPiece (reversed : List Char) : List MarkupPiece :=
  if reversed.isEmpty then [] else [.plain (unescape reversed.reverse)]
where
  /-- Drop the backslashes before brackets. -/
  unescape : List Char → List Char
    | '\\' :: '[' :: rest => '[' :: unescape rest
    | character :: rest => character :: unescape rest
    | [] => []

/--
The pieces of a text. `reversed` holds the plain text before it, and `slashes`
counts the backslashes right before it, which are not in `reversed`.
-/
def markupPieces
    (fuel : Nat)
    (reversed : List Char)
    (slashes : Nat)
    (text : List Char) :
    List MarkupPiece :=
  let held := List.replicate slashes '\\' ++ reversed
  match fuel, text with
  | 0, _ => plainPiece held
  | _, [] => plainPiece held
  | fuel + 1, '\\' :: rest => markupPieces fuel reversed (slashes + 1) rest
  | fuel + 1, '[' :: rest =>
      match tagInside? rest with
      | none => markupPieces fuel ('[' :: held) 0 rest
      | some (inside, after) =>
          let kept := plainPiece (List.replicate (slashes / 2) '\\')
          let piece :=
            if slashes % 2 = 1 then
              .plain ('[' :: inside ++ [']'])
            else
              tagPiece inside
          plainPiece reversed ++ kept ++ piece :: markupPieces fuel [] 0 after
  | fuel + 1, character :: rest =>
      markupPieces fuel (character :: held) 0 rest

/-- A tag that is open: the name of its style, and what else it asks for. -/
structure OpenTag where
  name : String
  parameters : List Char
  deriving Repr, DecidableEq

/-- Whether a tag asks for nothing else, or for an action that can be read. -/
def OpenTag.isReadable (tag : OpenTag) : Bool :=
  !tag.name.startsWith "@" || tag.parameters.isEmpty ||
    isAction tag.parameters

/-- Close the latest open tag of a name, or the latest one if there is no name. -/
def closeTag
    (opened : List OpenTag)
    (name : List Char) :
    Except MarkupFault (List OpenTag) := do
  let wanted ←
    if name.isEmpty then
      pure opened.head?
    else
      let name ← (styleName name).mapError .badPart
      pure (opened.find? (·.name == name))
  match wanted with
  | none => throw .unopened
  | some tag =>
      if tag.isReadable then
        pure (opened.eraseP (·.name == tag.name))
      else
        throw .badAction

/-- The plain text of pieces, if their tags are in order. -/
def plainText
    (opened : List OpenTag) :
    List MarkupPiece →
    Except MarkupFault (List Char)
  | [] => .ok []
  | .plain text :: rest => do
      let shown ← plainText opened rest
      pure (showPictographs text.length text ++ shown)
  | .opening name parameters :: rest => do
      let name ← (styleName name).mapError .badPart
      plainText ({ name, parameters } :: opened) rest
  | .closing name :: rest => do
      plainText (← closeTag opened name) rest

/-- Whether a terminal would act on a character instead of showing it. -/
def isControl (character : Char) : Bool :=
  ['\x07', '\x08', '\x0b', '\x0c', '\r'].contains character

/-- What the screen shows of a text with tags. -/
def displayed (text : String) : Except MarkupFault (List Char) := do
  let shown ← plainText [] (markupPieces text.length [] 0 text.toList)
  pure (shown.filter (!isControl ·))

end HouseStyle
