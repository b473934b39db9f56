import HouseStyle.Calendar.Moment
import HouseStyle.Number.Binary64

namespace HouseStyle

/-!
# Documents

A configuration document is a tree of scalars, lists and mappings; pairs and
sets of scalars are rarer. Mappings keep the order of their entries. Their keys
are scalars, and two keys are the same when they are numerically equal: `1`,
`1.0` and `true` name one entry.
-/

/-- A value without parts. -/
inductive Scalar
  | null
  | bool (value : Bool)
  | int (value : Int)
  | float (value : Binary64)
  | text (value : String)
  | bytes (value : List UInt8)
  | moment (value : Moment)
  deriving Repr, DecidableEq, Inhabited

namespace Scalar

/-- The integer that a truth value or an integer stands for. -/
def integer? : Scalar → Option Int
  | .bool value => some (if value then 1 else 0)
  | .int value => some value
  | _ => none

/-- Whether two scalars name the same entry of a mapping. -/
def same (left right : Scalar) : Bool :=
  match left, right with
  | .null, .null => true
  | .text left, .text right => left == right
  | .bytes left, .bytes right => left == right
  | .moment left, .moment right => left.same right
  | .float left, .float right => left == right || left.equals right
  | .float left, right =>
      match right.integer? with
      | some value => left.equalsInt value
      | none => false
  | left, .float right =>
      match left.integer? with
      | some value => right.equalsInt value
      | none => false
  | left, right =>
      match left.integer?, right.integer? with
      | some left, some right => left == right
      | _, _ => false

/-- Whether the scalar is a number; a truth value is one. -/
def isNumber : Scalar → Bool
  | .float _ => true
  | value => value.integer?.isSome

/-- Whether the scalar is text. -/
def isText : Scalar → Bool
  | .text _ => true
  | _ => false

end Scalar

/-- A document tree. -/
inductive Document
  | scalar (value : Scalar)
  | list (items : List Document)
  | map (entries : List (Scalar × Document))
  | pair (first second : Document)
  | set (members : List Scalar)
  deriving Repr, Inhabited

/-- The entries of a mapping. -/
abbrev Entries := List (Scalar × Document)

namespace Document

/-- The empty value. -/
abbrev null : Document := .scalar .null

/-- A truth value. -/
abbrev bool (value : Bool) : Document := .scalar (.bool value)

/-- An integer. -/
abbrev int (value : Int) : Document := .scalar (.int value)

/-- A text. -/
abbrev text (value : String) : Document := .scalar (.text value)

/-- Whether the document counts as absent: empty, zero or false. -/
def isEmpty : Document → Bool
  | .scalar .null => true
  | .scalar (.bool value) => !value
  | .scalar (.int value) => value == 0
  | .scalar (.float value) => value.isZero
  | .scalar (.text value) => value.isEmpty
  | .scalar (.bytes value) => value.isEmpty
  | .scalar (.moment _) => false
  | .list items => items.isEmpty
  | .map entries => entries.isEmpty
  | .pair _ _ => false
  | .set members => members.isEmpty

/-- The kind of value a document is, as messages name it. -/
def typeName : Document → String
  | .scalar .null => "NoneType"
  | .scalar (.bool _) => "bool"
  | .scalar (.int _) => "int"
  | .scalar (.float _) => "float"
  | .scalar (.text _) => "str"
  | .scalar (.bytes _) => "bytes"
  | .scalar (.moment value) => value.typeName
  | .list _ => "list"
  | .map _ => "dict"
  | .pair _ _ => "tuple"
  | .set _ => "set"

/-- The values one gets by going through a document: its items, keys or characters. -/
def elements? : Document → Option (List Document)
  | .list items => some items
  | .map entries => some (entries.map fun entry => .scalar entry.1)
  | .pair first second => some [first, second]
  | .set members => some (members.map .scalar)
  | .scalar (.text value) =>
      some (value.toList.map fun character => .text character.toString)
  | .scalar (.bytes value) => some (value.map fun byte => .int byte.toNat)
  | .scalar _ => none

/-- Whether a document can be a member of a set. -/
def isHashable : Document → Bool
  | .scalar _ => true
  | .pair first second => first.isHashable && second.isHashable
  | _ => false

end Document

namespace Entries

/-- The value under a key. -/
def find?
    (entries : Entries)
    (key : Scalar) :
    Option Document :=
  (List.find? (fun entry => entry.1.same key) entries).map Prod.snd

/-- The value under a text key. -/
def get?
    (entries : Entries)
    (key : String) :
    Option Document :=
  entries.find? (.text key)

/-- Replace the value under a key in place, or add the key at the end. -/
def put
    (entries : Entries)
    (key : Scalar)
    (value : Document) :
    Entries :=
  match entries with
  | [] => [(key, value)]
  | (present, old) :: rest =>
      if present.same key then
        (present, value) :: rest
      else
        (present, old) :: Entries.put rest key value

/-- The entries of a list of pairs; a later value of the same key wins. -/
def ofPairs (pairs : List (Scalar × Document)) : Entries :=
  pairs.foldl (fun entries pair => put entries pair.1 pair.2) []

end Entries

/-!
## Merging documents

Merging lays one mapping over another. Where both hold a mapping under the same
key the two are merged in turn; any other value replaces the one below it.
-/

mutual

/-- The value that `upper` gives when it is laid over a value, if there is one. -/
def Document.over (lower : Option Document) : Document → Document
  | .map upper =>
      match lower with
      | some (.map entries) => .map (mergeOver entries upper)
      | _ => .map upper
  | upper => upper

/-- Lay the entries of a mapping over `lower`, in their order. -/
def mergeOver (lower : Entries) : Entries → Entries
  | [] => lower
  | (key, value) :: rest =>
      mergeOver (lower.put key (value.over (lower.find? key))) rest

end

/-- Lay the mapping `upper` over the mapping `lower`. -/
def Entries.merge (lower upper : Entries) : Entries :=
  mergeOver lower upper

end HouseStyle
