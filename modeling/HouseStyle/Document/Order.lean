import HouseStyle.Document.Basic

namespace HouseStyle

/-!
# Which documents are equal and which can be ordered

Two mappings are equal when they hold equal values under the same keys, in any
order. Numbers are ordered among themselves, and so are texts, bytes and moments
of one kind. Of two lists the first items that differ decide. Sets are ordered by
inclusion. All other values have no order.
-/

/-- Whether one of two scalars is known to be the smaller one, or neither. -/
def Scalar.ordered : Scalar → Scalar → Bool
  | .text _, .text _ => true
  | .bytes _, .bytes _ => true
  | .moment left, .moment right => left.comparable right
  | left, right => left.isNumber && right.isNumber

/-- Whether two sets have the same members. -/
def sameMembers (lefts rights : List Scalar) : Bool :=
  lefts.length == rights.length &&
    lefts.all fun left => rights.any left.same

mutual

/-- Whether two documents are equal. -/
def Document.same : Document → Document → Bool
  | .scalar left, .scalar right => left.same right
  | .list lefts, .list rights => sameItems lefts rights
  | .map lefts, .map rights =>
      lefts.length == rights.length && sameEntries lefts rights
  | .pair first second, .pair first' second' =>
      first.same first' && second.same second'
  | .set lefts, .set rights => sameMembers lefts rights
  | _, _ => false

/-- Whether two lists of documents are equal. -/
def sameItems : List Document → List Document → Bool
  | [], [] => true
  | left :: lefts, right :: rights => left.same right && sameItems lefts rights
  | _, _ => false

/-- Whether a mapping holds the entries of a list. -/
def sameEntries : List (Scalar × Document) → List (Scalar × Document) → Bool
  | [], _ => true
  | (key, left) :: lefts, rights =>
      (match Entries.find? rights key with
      | some right => left.same right
      | none => false) &&
        sameEntries lefts rights

end

mutual

/-- Whether one of two documents is known to be the smaller one, or neither. -/
def Document.ordered : Document → Document → Bool
  | .scalar left, .scalar right => left.ordered right
  | .list lefts, .list rights => orderedItems lefts rights
  | .pair first second, .pair first' second' =>
      if first.same first' then
        second.same second' || second.ordered second'
      else
        first.ordered first'
  | .set _, .set _ => true
  | _, _ => false

/-- Whether the first items in which two lists differ are ordered. -/
def orderedItems : List Document → List Document → Bool
  | left :: lefts, right :: rights =>
      if left.same right then
        orderedItems lefts rights
      else
        left.ordered right
  | _, _ => true

end

/-- Whether documents can be sorted. -/
def Document.sortable (items : List Document) : Bool :=
  match items with
  | [] => true
  | item :: rest => rest.all item.ordered && Document.sortable rest

end HouseStyle
