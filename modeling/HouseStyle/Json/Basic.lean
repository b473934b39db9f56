import HouseStyle.Number.Shortest
import HouseStyle.Text.Quoted

namespace HouseStyle

/-!
# JSON texts

Values are written over several lines, each level two columns further in, and
the fields of an object in the order of their keys. Text stays as it is but for
quotes, backslashes and control characters.
-/

/-- A value of a JSON text. -/
inductive Json
  | bool (value : Bool)
  | int (value : Int)
  | decimal (value : Binary64)
  | text (value : String)
  | list (items : List Json)
  | object (fields : List (String × Json))
  deriving Repr, Inhabited

namespace Json

/-- One character of a text. -/
def escape (character : Char) : List Char :=
  match character with
  | '"' => ['\\', '"']
  | '\\' => ['\\', '\\']
  | '\n' => ['\\', 'n']
  | '\r' => ['\\', 'r']
  | '\t' => ['\\', 't']
  | '\x08' => ['\\', 'b']
  | '\x0c' => ['\\', 'f']
  | character =>
      if character.toNat < 0x20 then
        '\\' :: 'u' :: hexDigits 4 character.toNat
      else
        [character]

/-- A text between quotes. -/
def quote (text : String) : String :=
  String.ofList ('"' :: text.toList.flatMap escape ++ ['"'])

/-- A line break and the blanks at the start of the next line. -/
def lineBreak (level : Nat) : String :=
  String.ofList ('\n' :: List.replicate (2 * level) ' ')

/-- Parts between brackets, each on a line of its own. -/
def enclosed
    (level : Nat)
    (left right : String)
    (parts : List String) :
    String :=
  if parts.isEmpty then
    left ++ right
  else
    left ++ lineBreak (level + 1) ++
      ("," ++ lineBreak (level + 1)).intercalate parts ++
      lineBreak level ++ right

/-- Written fields in the order of their keys. -/
def inKeyOrder (fields : List (String × String)) : List String :=
  (fields.mergeSort fun left right => left.1 ≤ right.1).map fun (key, value) =>
    quote key ++ ": " ++ value

mutual

/-- Write a value at a level of indentation. -/
def renderAt (level : Nat) : Json → String
  | .bool value => if value then "true" else "false"
  | .int value => toString value
  | .decimal value => value.render
  | .text value => quote value
  | .list items => enclosed level "[" "]" (renderItems (level + 1) items)
  | .object fields =>
      enclosed
        level
        "\x7b"
        "\x7d"
        (inKeyOrder (renderFields (level + 1) fields))

/-- Write the items of a list. -/
def renderItems (level : Nat) : List Json → List String
  | [] => []
  | item :: rest => item.renderAt level :: renderItems level rest

/-- Write the values of fields. -/
def renderFields (level : Nat) : List (String × Json) → List (String × String)
  | [] => []
  | (key, value) :: rest =>
      (key, value.renderAt level) :: renderFields level rest

end

/-- Write a value. -/
def render (value : Json) : String :=
  value.renderAt 0

end Json

end HouseStyle
