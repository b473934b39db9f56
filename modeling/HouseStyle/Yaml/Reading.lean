import HouseStyle.Yaml.Node

namespace HouseStyle.Yaml

/-!
# From nodes to documents

A node becomes the value that its tag asks for. In a mapping the key `<<` lays
the entries of another mapping, or of several, under the mapping's own; of equal
keys the last one wins. Of several faults the one nearest to the root counts: a
value without parts belongs to the collection around it, and what is wrong with
a collection itself lies one step deeper.
-/

/-- A fault and the depth at which it lies. -/
structure DeepFault where
  depth : Nat
  fault : Fault
  deriving Repr, DecidableEq

/-- A value that is built from nodes, or the fault that counts. -/
abbrev Built (α : Type) := Except DeepFault α

namespace Built

/-- The fault that counts of two; the first one of equal depth. -/
def nearer (left right : DeepFault) : DeepFault :=
  if right.depth < left.depth then right else left

/-- Join two values; where both fail the nearer fault counts. -/
def join
    {α β γ : Type}
    (combine : α → β → γ)
    (left : Built α)
    (right : Built β) :
    Built γ :=
  match left, right with
  | .ok left, .ok right => .ok (combine left right)
  | .error fault, .ok _ => .error fault
  | .ok _, .error fault => .error fault
  | .error left, .error right => .error (nearer left right)

/-- No YAML from that depth on. -/
def malformed {α : Type} (depth : Nat) : Built α :=
  .error { depth, fault := .malformed }

end Built

open Built

/--
Which mappings of a text the mappings of a document come from. Copies of one
mapping have the same number.
-/
inductive Origin
  | plain
  | list (items : List Origin)
  /-- The entries stand in the order of the text, equal keys among them. -/
  | map (number : Nat) (entries : List (Scalar × Origin))
  deriving Repr, Inhabited

/-- The origin of the value under a key. -/
def Origin.at
    (origin : Origin)
    (key : Scalar) :
    Origin :=
  match origin with
  | .map _ entries =>
      match entries.reverse.find? fun entry => entry.1.same key with
      | some (_, value) => value
      | none => .plain
  | _ => .plain

/-- The origin of the value under a text key. -/
def Origin.under
    (origin : Origin)
    (key : String) :
    Origin :=
  origin.at (.text key)

/-- A document and where its mappings come from. -/
structure Reading where
  document : Document
  origin : Origin
  deriving Repr, Inhabited

namespace Reading

/-- A value without mappings. -/
def ofScalar (value : Scalar) : Reading :=
  { document := .scalar value, origin := .plain }

/-- A list of values. -/
def ofItems (items : List Reading) : Reading :=
  { document := .list (items.map document)
    origin := .list (items.map origin) }

/-- A mapping of values; of equal keys the last one wins. -/
def ofEntries
    (number : Nat)
    (entries : List (Scalar × Reading)) :
    Reading :=
  { document :=
      .map (Entries.ofPairs (entries.map fun entry => (entry.1, entry.2.document)))
    origin := .map number (entries.map fun entry => (entry.1, entry.2.origin)) }

/-- A pair of values. -/
def ofPair (first second : Reading) : Reading :=
  { document := .pair first.document second.document, origin := .plain }

/-- The set of some keys. -/
def ofKeys (entries : List (Scalar × Reading)) : Reading :=
  let members := Entries.ofPairs (entries.map fun entry => (entry.1, .null))
  { document := .set (members.map Prod.fst), origin := .plain }

end Reading

/-- The tag of a node. -/
def Node.tag : Node → Tag
  | .scalar _ tag => tag
  | .sequence _ tag => tag
  | .mapping _ _ tag => tag

/-- Whether a tag asks for a value with parts. -/
def Tag.isCollection (tag : Tag) : Bool :=
  [Tag.sequence, .mapping, .pairs, .set].contains tag

/-- The fault of a node whose shape does not fit its tag. -/
def misshapen {α : Type} (depth : Nat) (tag : Tag) : Built α :=
  malformed (if tag.isCollection then depth + 1 else depth)

/-- The value of a text under a tag. -/
def scalarUnder (depth : Nat) (tag : Tag) (text : String) : Built Reading :=
  if tag.isCollection then
    misshapen depth tag
  else
    match readScalar tag text with
    | .ok value => .ok (.ofScalar value)
    | .error fault => .error { depth, fault }

mutual

/-- The text that a node stands for where a scalar is asked for. -/
def Node.text? : Node → Option String
  | .scalar text _ => some text
  | .sequence _ _ => none
  | .mapping _ entries _ => ownText? entries

/-- The text of the first entry that gives a mapping its own value. -/
def ownText? : List (Node × Node) → Option String
  | [] => none
  | (key, value) :: rest =>
      if key.tag = .value then value.text? else ownText? rest

end

mutual

/-- Whether a node can be merged into a mapping. -/
def Node.merges : Node → Bool
  | .scalar _ _ => false
  | .sequence items _ => allMerge items
  | .mapping _ entries _ => mergesWithin entries

/-- Whether all items of a sequence are mappings that can be merged. -/
def allMerge : List Node → Bool
  | [] => true
  | .mapping number entries tag :: rest =>
      (Node.mapping number entries tag).merges && allMerge rest
  | _ :: _ => false

/-- Whether everything that a mapping merges can be merged. -/
def mergesWithin : List (Node × Node) → Bool
  | [] => true
  | (key, value) :: rest =>
      (key.tag != .merge || value.merges) && mergesWithin rest

end

/-- The key that a value can serve as. -/
def keyOf (depth : Nat) : Built Reading → Built Scalar
  | .ok { document := .scalar value, .. } => .ok value
  | .ok _ => malformed depth
  | .error fault => if depth < fault.depth then malformed depth else .error fault

mutual

/-- The value of a node in a collection at that depth. -/
def Node.read (depth : Nat) : Node → Built Reading
  | .scalar text tag => scalarUnder depth tag text
  | .sequence items tag =>
      match tag with
      | .sequence => (readItems (depth + 1) items).map .ofItems
      | .pairs => (readPairs (depth + 1) items).map .ofItems
      | tag => misshapen depth tag
  | .mapping number entries tag =>
      let read : Built (List (Scalar × Reading)) :=
        if mergesWithin entries then
          join
            (· ++ ·)
            (readMerged (depth + 1) entries)
            (readOwn (depth + 1) entries)
        else
          malformed (depth + 1)
      match tag with
      | .mapping => read.map (.ofEntries number)
      | .set => read.map .ofKeys
      | tag =>
          match ownText? entries with
          | none => misshapen depth tag
          | some text =>
              if tag = .moment then
                .error { depth, fault := .mappedMoment }
              else
                scalarUnder depth tag text

/-- The values of a sequence. -/
def readItems (depth : Nat) : List Node → Built (List Reading)
  | [] => .ok []
  | item :: rest =>
      join (fun item rest => item :: rest) (item.read depth) (readItems depth rest)

/-- The pairs of a sequence of mappings with a single entry each. -/
def readPairs (depth : Nat) : List Node → Built (List Reading)
  | [] => .ok []
  | .mapping _ [(key, value)] _ :: rest =>
      join
        (fun pair rest => pair :: rest)
        (join .ofPair (key.read depth) (value.read depth))
        (readPairs depth rest)
  | _ :: _ => malformed depth

/-- The entries that a mapping merges from others. -/
def readMerged
    (depth : Nat) :
    List (Node × Node) →
    Built (List (Scalar × Reading))
  | [] => .ok []
  | (key, value) :: rest =>
      if key.tag = .merge then
        join (· ++ ·) (value.readUnder depth) (readMerged depth rest)
      else
        readMerged depth rest

/-- The entries of a mapping itself. -/
def readOwn
    (depth : Nat) :
    List (Node × Node) →
    Built (List (Scalar × Reading))
  | [] => .ok []
  | (key, value) :: rest =>
      if key.tag = .merge then
        readOwn depth rest
      else
        let name :=
          if key.tag = .value then
            match key.text? with
            | some text => .ok (.text text)
            | none => malformed depth
          else
            keyOf depth (key.read depth)
        join
          (fun entry rest => entry :: rest)
          (join (fun name value => (name, value)) name (value.read depth))
          (readOwn depth rest)

/-- The entries that a node lays under a mapping; the first of several wins. -/
def Node.readUnder (depth : Nat) : Node → Built (List (Scalar × Reading))
  | .mapping _ entries _ =>
      join (· ++ ·) (readMerged depth entries) (readOwn depth entries)
  | .sequence items _ => readAllUnder depth items
  | .scalar _ _ => malformed depth

/-- The entries that some nodes lay under a mapping, those of the last in front. -/
def readAllUnder
    (depth : Nat) :
    List Node →
    Built (List (Scalar × Reading))
  | [] => .ok []
  | item :: rest =>
      join (· ++ ·) (readAllUnder depth rest) (item.readUnder depth)

end

/-- Read a YAML text; a text without a document reads as null. -/
def read (text : String) : Except Fault Reading := do
  match ← Node.ofSigns? (signsOf text) with
  | none => pure (.ofScalar .null)
  | some node => (node.read 0).mapError DeepFault.fault

end HouseStyle.Yaml
