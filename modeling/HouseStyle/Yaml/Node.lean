import HouseStyle.Yaml.Resolution
import HouseStyle.Yaml.Sign

namespace HouseStyle.Yaml

/-!
# Nodes

The signs of a text spell one document. Each node carries the tag that is written
in front of it, or else the one that its own shape stands for. An alias is
replaced by the node that its anchor names; mappings have numbers by which such
copies are known.
-/

/-- A node of a YAML document. -/
inductive Node
  | scalar (text : String) (tag : Tag)
  | sequence (items : List Node) (tag : Tag)
  /-- Two mappings have the same number when they are copies of one. -/
  | mapping (number : Nat) (entries : List (Node × Node)) (tag : Tag)
  deriving Repr, Inhabited

/-- The node that stands where nothing is written. -/
def emptyNode : Node :=
  .scalar "" .null

/-- What is left to read, and what the signs before it have set. -/
structure Remaining where
  signs : List Sign
  /-- Every anchor, with its node once that is complete. -/
  anchors : List (String × Option Node)
  /-- What the handles of tags mean. -/
  handles : List (String × String)

/-- Reading nodes can fail and uses signs up. -/
abbrev Spelling (α : Type) := Remaining → Except Fault (α × Remaining)

namespace Spelling

/-- The next sign, which stays. -/
def peek (remaining : Remaining) : Option Sign :=
  remaining.signs.head?

/-- Step over a sign. -/
def drop (remaining : Remaining) : Remaining :=
  { remaining with signs := remaining.signs.drop 1 }

/-- The fault at a sign that must not stand next. -/
def refuse (remaining : Remaining) : Fault :=
  match peek remaining with
  | some (.broken fault) => fault
  | _ => .malformed

/-- Step over a sign that has to stand next. -/
def expect
    (sign : Sign)
    (remaining : Remaining) :
    Except Fault Remaining :=
  if peek remaining = some sign then
    .ok (drop remaining)
  else
    .error (refuse remaining)

/-- Whether one of some signs stands next, or nothing does. -/
def standsBefore
    (remaining : Remaining)
    (signs : List Sign) :
    Bool :=
  match peek remaining with
  | none => true
  | some sign => signs.contains sign

/-- Note a new anchor; a second one of the same name is a fault. -/
def openAnchor
    (name : Option String)
    (remaining : Remaining) :
    Except Fault Remaining :=
  match name with
  | none => .ok remaining
  | some name =>
      if (remaining.anchors.lookup name).isSome then
        .error .malformed
      else
        .ok { remaining with anchors := (name, none) :: remaining.anchors }

/-- Give an anchor its node. -/
def closeAnchor
    (name : Option String)
    (node : Node)
    (remaining : Remaining) :
    Remaining :=
  match name with
  | none => remaining
  | some name =>
      { remaining with anchors := (name, some node) :: remaining.anchors }

/-- The full name of a tag; none where its handle has no meaning. -/
def fullName
    (remaining : Remaining)
    (tag : Option WrittenTag) :
    Except Fault (Option String) :=
  match tag with
  | none => .ok none
  | some tag =>
      match tag.name? remaining.handles with
      | some name => .ok (some name)
      | none => .error .malformed

/-- The anchor and the tag in front of a node, in either order. -/
def properties
    (remaining : Remaining) :
    Option String × Option WrittenTag × Remaining :=
  match remaining.signs with
  | .anchor name :: .tag tag :: rest =>
      (some name, some tag, { remaining with signs := rest })
  | .tag tag :: .anchor name :: rest =>
      (some name, some tag, { remaining with signs := rest })
  | .anchor name :: rest => (some name, none, { remaining with signs := rest })
  | .tag tag :: rest => (none, some tag, { remaining with signs := rest })
  | _ => (none, none, remaining)

end Spelling

open Spelling

/-- The tag of a scalar; a lone exclamation mark asks for a plain word's tag. -/
def scalarTag
    (text : String)
    (plain : Bool)
    (name : Option String) :
    Tag :=
  match name with
  | some "!" => .ofPlain text
  | some name => .ofName name
  | none => if plain then .ofPlain text else .text

/-- The tag of a collection of some shape. -/
def collectionTag
    (shape : Tag)
    (name : Option String) :
    Tag :=
  match name with
  | some "!" => shape
  | some name => .ofName name
  | none => shape

/-- Where a node stands. -/
inductive Place
  /-- Inside a flow collection. -/
  | flow
  /-- In a block. -/
  | block
  /-- In a block mapping, where a sequence needs no indentation of its own. -/
  | mapping
  deriving Repr, DecidableEq

mutual

/-- Read a node. -/
def readNode (place : Place) : Nat → Spelling Node
  | 0 => fun _ => .error .malformed
  | fuel + 1 => fun remaining =>
      match peek remaining with
      | some (.alias name) =>
          match remaining.anchors.lookup name with
          | some (some node) => .ok (node, drop remaining)
          | _ => .error .malformed
      | _ => do
          let (anchor, written, remaining) := properties remaining
          let name ← fullName remaining written
          let start := remaining.signs
          let complete (node : Node) (remaining : Remaining) :=
            Except.ok (node, closeAnchor anchor node remaining)
          let sequence (items : List Node) (remaining : Remaining) :=
            complete (.sequence items (collectionTag .sequence name)) remaining
          let mapping (entries : List (Node × Node)) (remaining : Remaining) :=
            complete
              (.mapping start.length entries (collectionTag .mapping name))
              remaining
          let empty (remaining : Remaining) :=
            if anchor.isSome || name.isSome then
              complete (.scalar "" (scalarTag "" true name)) remaining
            else
              .error (refuse remaining)
          let remaining ← openAnchor anchor remaining
          match peek remaining with
          | some .blockEntry =>
              if place = .mapping then do
                let (items, remaining) ← readIndentless [] fuel remaining
                sequence items remaining
              else
                empty remaining
          | some (.scalar text plain) =>
              complete (.scalar text (scalarTag text plain name)) (drop remaining)
          | some .flowSequence => do
              let (items, remaining) ←
                readFlowItems true [] fuel (drop remaining)
              sequence items remaining
          | some .flowMapping => do
              let (entries, remaining) ←
                readFlowEntries true [] fuel (drop remaining)
              mapping entries remaining
          | some .blockSequence =>
              if place = .flow then
                .error .malformed
              else do
                let (items, remaining) ←
                  readBlockItems [] fuel (drop remaining)
                sequence items remaining
          | some .blockMapping =>
              if place = .flow then
                .error .malformed
              else do
                let (entries, remaining) ←
                  readBlockEntries [] fuel (drop remaining)
                mapping entries remaining
          | _ => empty remaining

/-- Read a node unless one of some signs stands next. -/
def readOptional
    (place : Place)
    (stops : List Sign) :
    Nat →
    Spelling Node
  | 0 => fun _ => .error .malformed
  | fuel + 1 => fun remaining =>
      if standsBefore remaining stops then
        .ok (emptyNode, remaining)
      else
        readNode place fuel remaining

/-- Read the value of a key, if a colon stands next. -/
def readValue
    (place : Place)
    (stops : List Sign) :
    Nat →
    Spelling Node
  | 0 => fun _ => .error .malformed
  | fuel + 1 => fun remaining =>
      if peek remaining = some .value then
        readOptional place stops fuel (drop remaining)
      else
        .ok (emptyNode, remaining)

/-- Read the items of a block sequence. -/
def readBlockItems (reversed : List Node) : Nat → Spelling (List Node)
  | 0 => fun _ => .error .malformed
  | fuel + 1 => fun remaining =>
      if peek remaining = some .blockEntry then do
        let (item, remaining) ←
          readOptional .block [.blockEntry, .blockEnd] fuel (drop remaining)
        readBlockItems (item :: reversed) fuel remaining
      else do
        let remaining ← expect .blockEnd remaining
        .ok (reversed.reverse, remaining)

/-- Read the items of a sequence that stands as deep as the keys around it. -/
def readIndentless (reversed : List Node) : Nat → Spelling (List Node)
  | 0 => fun _ => .error .malformed
  | fuel + 1 => fun remaining =>
      if peek remaining = some .blockEntry then do
        let (item, remaining) ←
          readOptional
            .block
            [.blockEntry, .key, .value, .blockEnd]
            fuel
            (drop remaining)
        readIndentless (item :: reversed) fuel remaining
      else
        .ok (reversed.reverse, remaining)

/-- Read the entries of a block mapping. -/
def readBlockEntries
    (reversed : List (Node × Node)) :
    Nat →
    Spelling (List (Node × Node))
  | 0 => fun _ => .error .malformed
  | fuel + 1 => fun remaining =>
      let stops : List Sign := [.key, .value, .blockEnd]
      if peek remaining = some .key then do
        let (key, remaining) ←
          readOptional .mapping stops fuel (drop remaining)
        let (value, remaining) ← readValue .mapping stops fuel remaining
        readBlockEntries ((key, value) :: reversed) fuel remaining
      else do
        let remaining ← expect .blockEnd remaining
        .ok (reversed.reverse, remaining)

/-- Read the items of a flow sequence; an item may be a single entry. -/
def readFlowItems
    (first : Bool)
    (reversed : List Node) :
    Nat →
    Spelling (List Node)
  | 0 => fun _ => .error .malformed
  | fuel + 1 => fun remaining =>
      if peek remaining = some .flowSequenceEnd then
        .ok (reversed.reverse, drop remaining)
      else do
        let remaining ←
          if first then .ok remaining else expect .flowEntry remaining
        match peek remaining with
        | some .key =>
            let number := remaining.signs.length
            let stops : List Sign := [.flowEntry, .flowSequenceEnd]
            let (key, remaining) ←
              readOptional .flow (.value :: stops) fuel (drop remaining)
            let (value, remaining) ← readValue .flow stops fuel remaining
            readFlowItems
              false
              (.mapping number [(key, value)] .mapping :: reversed)
              fuel
              remaining
        | some .flowSequenceEnd => .ok (reversed.reverse, drop remaining)
        | _ =>
            let (item, remaining) ← readNode .flow fuel remaining
            readFlowItems false (item :: reversed) fuel remaining

/-- Read the entries of a flow mapping; a key may stand without a value. -/
def readFlowEntries
    (first : Bool)
    (reversed : List (Node × Node)) :
    Nat →
    Spelling (List (Node × Node))
  | 0 => fun _ => .error .malformed
  | fuel + 1 => fun remaining =>
      if peek remaining = some .flowMappingEnd then
        .ok (reversed.reverse, drop remaining)
      else do
        let remaining ←
          if first then .ok remaining else expect .flowEntry remaining
        match peek remaining with
        | some .key =>
            let stops : List Sign := [.flowEntry, .flowMappingEnd]
            let (key, remaining) ←
              readOptional .flow (.value :: stops) fuel (drop remaining)
            let (value, remaining) ← readValue .flow stops fuel remaining
            readFlowEntries false ((key, value) :: reversed) fuel remaining
        | some .flowMappingEnd => .ok (reversed.reverse, drop remaining)
        | _ =>
            let (key, remaining) ← readNode .flow fuel remaining
            readFlowEntries false ((key, emptyNode) :: reversed) fuel remaining

end

/-- Signs that end a document's content. -/
def endsDocument (sign : Option Sign) : Bool :=
  match sign with
  | none => true
  | some (.directive _) => true
  | some .documentStart => true
  | some .documentEnd => true
  | _ => false

/-- The directive of a sign, if it is one. -/
def Sign.directive? : Sign → Option Directive
  | .directive found => some found
  | _ => none

/-- Read the node of the only document, if there is one. -/
def readDocument
    (fuel : Nat)
    (remaining : Remaining) :
    Except Fault (Option Node × Remaining) := do
  let directives := remaining.signs.takeWhile (·.directive?.isSome)
  if remaining.signs.isEmpty then
    pure (none, remaining)
  else if directives.isEmpty && peek remaining != some .documentStart then do
    let (node, remaining) ← readNode .block fuel remaining
    pure (some node, remaining)
  else do
    let handles ← handlesOf false [] (directives.filterMap Sign.directive?)
    let signs := remaining.signs.drop directives.length
    let remaining ← expect .documentStart { remaining with signs, handles }
    if endsDocument (peek remaining) then
      pure (some emptyNode, remaining)
    else
      let (node, remaining) ← readNode .block fuel remaining
      pure (some node, remaining)

/-- The node that signs spell; none for a text without a document. -/
def Node.ofSigns? (signs : Array Sign) : Except Fault (Option Node) := do
  let fuel := 4 * signs.size + 4
  let (node, remaining) ←
    readDocument
      fuel
      { signs := signs.toList, anchors := [], handles := defaultHandles }
  let signs := remaining.signs.dropWhile (· == .documentEnd)
  if signs.isEmpty then
    pure node
  else
    throw (refuse { remaining with signs })

end HouseStyle.Yaml
