import HouseStyle.Document.Basic
import HouseStyle.Number.Numeral
import HouseStyle.Number.Shortest
import HouseStyle.Text.Quoted

namespace HouseStyle

/-!
# Documents in messages

A document is shown with its texts in quotes, its lists in brackets and its
mappings in braces. Where a text is wanted, a text stands for itself, a moment
for its plain form and every other value for what is shown of it. An integer of
more than 4300 digits can be shown nowhere.
-/

/-- A scalar as messages show it. -/
def Scalar.shown : Scalar → String
  | .null => "None"
  | .bool value => if value then "True" else "False"
  | .int value => toString value
  | .float value => value.render
  | .text value => quoted value
  | .bytes value => quotedBytes value
  | .moment value => value.shown

/-- A scalar as a text. -/
def Scalar.asText : Scalar → String
  | .text value => value
  | .moment value => value.text
  | value => value.shown

/-- Whether a scalar is an integer with too many digits to be shown. -/
def Scalar.isTooLong : Scalar → Bool
  | .int value => Nat.pow 10 greatestDigitCount ≤ value.natAbs
  | _ => false

/-- The members of a set as messages show them. -/
def shownMembers (members : List Scalar) : String :=
  if members.isEmpty then
    "set()"
  else
    "\x7b" ++ ", ".intercalate (members.map Scalar.shown) ++ "\x7d"

mutual

/-- A document as messages show it. -/
def Document.shown : Document → String
  | .scalar value => value.shown
  | .list items => "[" ++ ", ".intercalate (shownItems items) ++ "]"
  | .map entries => "\x7b" ++ ", ".intercalate (shownEntries entries) ++ "\x7d"
  | .pair first second => "(" ++ first.shown ++ ", " ++ second.shown ++ ")"
  | .set members => shownMembers members

/-- The items of a list as messages show them. -/
def shownItems : List Document → List String
  | [] => []
  | item :: rest => item.shown :: shownItems rest

/-- The entries of a mapping as messages show them. -/
def shownEntries : List (Scalar × Document) → List String
  | [] => []
  | (key, value) :: rest =>
      (key.shown ++ ": " ++ value.shown) :: shownEntries rest

end

mutual

/-- Whether a document holds an integer with too many digits to be shown. -/
def Document.isTooLong : Document → Bool
  | .scalar value => value.isTooLong
  | .list items => anyTooLong items
  | .map entries => anyEntryTooLong entries
  | .pair first second => first.isTooLong || second.isTooLong
  | .set members => members.any Scalar.isTooLong

/-- Whether an item of a list cannot be shown. -/
def anyTooLong : List Document → Bool
  | [] => false
  | item :: rest => item.isTooLong || anyTooLong rest

/-- Whether a key or a value of a mapping cannot be shown. -/
def anyEntryTooLong : List (Scalar × Document) → Bool
  | [] => false
  | (key, value) :: rest =>
      key.isTooLong || value.isTooLong || anyEntryTooLong rest

end

/-- The refusal to show an integer with too many digits. -/
def tooLongMessage : String :=
  "Exceeds the limit (4300 digits) for integer string conversion; " ++
    "use sys.set_int_max_str_digits() to increase the limit"

/-- A document as a text. -/
def Document.asText : Document → String
  | .scalar value => value.asText
  | value => value.shown

end HouseStyle
