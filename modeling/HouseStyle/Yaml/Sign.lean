import HouseStyle.Yaml.ScalarText
import HouseStyle.Yaml.Tag

namespace HouseStyle.Yaml

/-!
# Signs

A YAML text is first cut into signs: its scalars, its indicators, and marks for
where indentation opens and closes a collection. Whether a scalar or collection
is a key shows only at the colon behind it; until then its place is kept as a
possible key. A text that cannot be cut to its end leaves a last sign that tells
why.
-/

/-- A sign of a YAML text. -/
inductive Sign
  | directive (directive : Directive)
  | documentStart
  | documentEnd
  | blockSequence
  | blockMapping
  | blockEnd
  | flowSequence
  | flowSequenceEnd
  | flowMapping
  | flowMappingEnd
  | blockEntry
  | flowEntry
  | key
  | value
  | alias (name : String)
  | anchor (name : String)
  | tag (tag : WrittenTag)
  | scalar (text : String) (plain : Bool)
  /-- The text cannot be cut any further. -/
  | broken (fault : Fault)
  deriving Repr, DecidableEq

/-- A place at which a key may have started. -/
structure PossibleKey where
  /-- The number of signs before it. -/
  place : Nat
  /-- Nothing but a key can stand there. -/
  required : Bool
  offset : Nat
  line : Nat
  column : Nat
  deriving Repr, DecidableEq

/-- A text that is being cut into signs. -/
structure Cutting where
  cursor : Cursor
  signs : Array Sign
  /-- The column of the innermost open block, -1 outside all. -/
  indent : Int
  /-- The columns of the blocks around it. -/
  outer : List Int
  /-- A possible key for each open flow collection and one for the block. -/
  keys : List (Option PossibleKey)
  /-- A key without a question mark may start here. -/
  keyAllowed : Bool

namespace Cutting

/-- A text of which nothing is cut. -/
def ofText (text : List Char) : Cutting :=
  { cursor := .ofText text
    signs := #[]
    indent := -1
    outer := []
    keys := [none]
    keyAllowed := true }

/-- Whether a flow collection is open. -/
def inFlow (state : Cutting) : Bool :=
  1 < state.keys.length

/-- The possible key of the innermost collection. -/
def currentKey (state : Cutting) : Option PossibleKey :=
  state.keys.head?.join

/-- Add a sign. -/
def push
    (state : Cutting)
    (sign : Sign) :
    Cutting :=
  { state with signs := state.signs.push sign }

/-- Step over characters. -/
def forward
    (state : Cutting)
    (count : Nat) :
    Cutting :=
  { state with cursor := state.cursor.forward count }

/-- Close the blocks that are deeper than a column. -/
def closeBlocks
    (column : Int)
    (state : Cutting) :
    Nat →
    Cutting
  | 0 => state
  | fuel + 1 =>
      if column < state.indent then
        closeBlocks
          column
          { state with
            signs := state.signs.push .blockEnd
            indent := state.outer.head?.getD (-1)
            outer := state.outer.drop 1 }
          fuel
      else
        state

/-- Close the blocks that are deeper than a column, outside flow collections. -/
def unwind
    (state : Cutting)
    (column : Int) :
    Cutting :=
  if state.inFlow then
    state
  else
    state.closeBlocks column (state.outer.length + 1)

/-- Give up the innermost possible key; one that is required is a fault. -/
def dropKey (state : Cutting) : Except Fault Cutting :=
  if (state.currentKey.map PossibleKey.required).getD false then
    .error .malformed
  else
    .ok { state with keys := none :: state.keys.drop 1 }

/-- Give up possible keys on earlier lines or too far back. -/
def dropStale (state : Cutting) : Except Fault Cutting := do
  let keys ← state.keys.mapM fun
    | none => .ok none
    | some key =>
        if key.line != state.cursor.line ||
            1024 < state.cursor.offset - key.offset then
          if key.required then .error Fault.malformed else .ok none
        else
          .ok (some key)
  pure { state with keys }

/-- Note that a key may start here. -/
def noteKey (state : Cutting) : Except Fault Cutting :=
  if state.keyAllowed then do
    let key : PossibleKey :=
      { place := state.signs.size
        required :=
          !state.inFlow && state.indent == (state.cursor.column : Int)
        offset := state.cursor.offset
        line := state.cursor.line
        column := state.cursor.column }
    let state ← state.dropKey
    pure { state with keys := some key :: state.keys.drop 1 }
  else
    .ok state

/-- Open a block at a column unless one is open there; says whether it did. -/
def openBlock
    (state : Cutting)
    (column : Nat) :
    Bool × Cutting :=
  if state.indent < column then
    (true,
      { state with
        indent := column
        outer := state.indent :: state.outer })
  else
    (false, state)

/-- Step over blanks, comments and line breaks to the next sign. -/
def skipToSign
    (state : Cutting) :
    Nat →
    Cutting
  | 0 => state
  | fuel + 1 =>
      let cursor := state.cursor.skipComment
      if isBreak cursor.peek then
        skipToSign
          { state with
            cursor := cursor.takeBreak.2
            keyAllowed := state.keyAllowed || !state.inFlow }
          fuel
      else
        { state with cursor }

/-- Cut a mark that starts or ends a document. -/
def cutDocumentSign
    (state : Cutting)
    (sign : Sign) :
    Except Fault Cutting := do
  let state ← (state.unwind (-1)).dropKey
  pure (({ state with keyAllowed := false }.forward 3).push sign)

/-- Cut a directive. -/
def cutDirective (state : Cutting) : Except Fault Cutting := do
  let state ← (state.unwind (-1)).dropKey
  let (directive, cursor) ← readDirective state.cursor
  pure ({ state with cursor, keyAllowed := false }.push (.directive directive))

/-- Cut the bracket or brace that opens a flow collection. -/
def cutFlowStart
    (state : Cutting)
    (sign : Sign) :
    Except Fault Cutting := do
  let state ← state.noteKey
  pure
    ((({ state with
        keys := none :: state.keys
        keyAllowed := true }).forward 1).push sign)

/-- Cut the bracket or brace that closes a flow collection. -/
def cutFlowEnd
    (state : Cutting)
    (sign : Sign) :
    Except Fault Cutting := do
  let state ← state.dropKey
  let keys := if state.inFlow then state.keys.drop 1 else state.keys
  pure ((({ state with keys, keyAllowed := false }).forward 1).push sign)

/-- Cut the comma between the items of a flow collection. -/
def cutFlowEntry (state : Cutting) : Except Fault Cutting := do
  let state ← { state with keyAllowed := true }.dropKey
  pure ((state.forward 1).push .flowEntry)

/-- Open a block collection in front of a sign, where one may stand. -/
def openFor
    (state : Cutting)
    (sign : Sign) :
    Except Fault Cutting :=
  if state.inFlow then
    .ok state
  else if state.keyAllowed then
    let (opened, state) := state.openBlock state.cursor.column
    .ok (if opened then state.push sign else state)
  else
    .error .malformed

/-- Cut the dash of a block sequence's item. -/
def cutBlockEntry (state : Cutting) : Except Fault Cutting := do
  let state ← state.openFor .blockSequence
  let state ← { state with keyAllowed := true }.dropKey
  pure ((state.forward 1).push .blockEntry)

/-- Cut the question mark in front of a key. -/
def cutKey (state : Cutting) : Except Fault Cutting := do
  let state ← state.openFor .blockMapping
  let state ← { state with keyAllowed := !state.inFlow }.dropKey
  pure ((state.forward 1).push .key)

/-- Put signs in front of the sign with that number. -/
def insertAt
    (signs : Array Sign)
    (place : Nat)
    (inserted : List Sign) :
    Array Sign :=
  signs.extract 0 place ++ inserted ++ signs.extract place signs.size

/-- Cut the colon behind a key. -/
def cutValue (state : Cutting) : Except Fault Cutting :=
  match state.currentKey with
  | some key =>
      let state := { state with keys := none :: state.keys.drop 1 }
      let (opened, state) :=
        if state.inFlow then (false, state) else state.openBlock key.column
      let inserted := if opened then [.blockMapping, .key] else [.key]
      .ok
        ((({ state with
            signs := insertAt state.signs key.place inserted
            keyAllowed := false }).forward 1).push .value)
  | none => do
      let state ← state.openFor .blockMapping
      let state ← { state with keyAllowed := !state.inFlow }.dropKey
      pure ((state.forward 1).push .value)

/-- Cut an anchor or an alias. -/
def cutName
    (state : Cutting)
    (sign : String → Sign) :
    Except Fault Cutting := do
  let state ← state.noteKey
  let (name, cursor) := state.cursor.next.takeWhile isNameCharacter
  let following := cursor.peek
  let ends :=
    endsWord following ||
      ['?', ':', ',', ']', '\x7d', '%', '@', '`'].contains following
  if name.isEmpty || !ends then
    throw .malformed
  else
    pure
      ({ state with cursor, keyAllowed := false }.push
        (sign (String.ofList name)))

/-- Cut a tag. -/
def cutTag (state : Cutting) : Except Fault Cutting := do
  let state ← state.noteKey
  let (tag, cursor) ← readTag state.cursor
  pure ({ state with cursor, keyAllowed := false }.push (.tag tag))

/-- Cut a quoted scalar. -/
def cutQuoted (state : Cutting) : Except Fault Cutting := do
  let state ← state.noteKey
  let (text, cursor) ← readQuoted state.cursor
  pure
    ({ state with cursor, keyAllowed := false }.push
      (.scalar (String.ofList text) false))

/-- Cut a plain scalar. -/
def cutPlain (state : Cutting) : Except Fault Cutting := do
  let state ← state.noteKey
  let read := readPlain state.inFlow (state.indent + 1) state.cursor
  pure
    ({ state with cursor := read.cursor, keyAllowed := read.broken }.push
      (.scalar (String.ofList read.reversed.reverse) true))

/-- Cut a block scalar. -/
def cutBlock
    (state : Cutting)
    (folded : Bool) :
    Except Fault Cutting := do
  let state ← { state with keyAllowed := true }.dropKey
  let (text, cursor) ← readBlock folded state.indent state.cursor.next
  pure
    ({ state with cursor }.push (.scalar (String.ofList text) false))

/-- Whether a plain scalar may start with the character ahead. -/
def startsPlain (state : Cutting) : Bool :=
  let character := state.cursor.peek
  let reserved :=
    ['-', '?', ':', ',', '[', ']', '\x7b', '\x7d', '#', '&', '*', '!', '|',
      '>', '\'', '"', '%', '@', '`']
  if endsWord character then
    false
  else if reserved.contains character then
    !endsWord (state.cursor.peek 1) &&
      (character == '-' ||
        (!state.inFlow && (character == '?' || character == ':')))
  else
    true

/-- Cut the sign ahead. -/
def cutSign (state : Cutting) : Except Fault Cutting :=
  let cursor := state.cursor
  let character := cursor.peek
  let word := endsWord (cursor.peek 1)
  if cursor.column = 0 ∧ character = '%' then
    state.cutDirective
  else if cursor.column = 0 ∧ cursor.startsMarks '-' then
    state.cutDocumentSign .documentStart
  else if cursor.column = 0 ∧ cursor.startsMarks '.' then
    state.cutDocumentSign .documentEnd
  else
    match character with
    | '[' => state.cutFlowStart .flowSequence
    | '\x7b' => state.cutFlowStart .flowMapping
    | ']' => state.cutFlowEnd .flowSequenceEnd
    | '\x7d' => state.cutFlowEnd .flowMappingEnd
    | ',' => state.cutFlowEntry
    | '*' => state.cutName .alias
    | '&' => state.cutName .anchor
    | '!' => state.cutTag
    | '\'' => state.cutQuoted
    | '"' => state.cutQuoted
    | _ =>
        if character = '-' ∧ word then
          state.cutBlockEntry
        else if character = '?' ∧ (state.inFlow ∨ word) then
          state.cutKey
        else if character = ':' ∧ (state.inFlow ∨ word) then
          state.cutValue
        else if character = '|' ∧ ¬ state.inFlow then
          state.cutBlock false
        else if character = '>' ∧ ¬ state.inFlow then
          state.cutBlock true
        else if state.startsPlain then
          state.cutPlain
        else
          .error .malformed

/--
Step to the next sign and close the blocks that end before it; `lines` bounds
the lines between the two.
-/
def approach
    (state : Cutting)
    (lines : Nat) :
    Except Fault Cutting := do
  let state := state.skipToSign lines
  let state ← state.dropStale
  pure (state.unwind state.cursor.column)

/--
Cut signs until the text ends or cannot be cut. Every sign takes a character, so
a fuel beyond the length of the text bounds the signs and the lines.
-/
def cutAll (state : Cutting) : Nat → Array Sign
  | 0 => state.signs.push (.broken .malformed)
  | fuel + 1 =>
      match state.approach (fuel + 1) with
      | .error fault => state.signs.push (.broken fault)
      | .ok state =>
          if state.cursor.rest.isEmpty then
            match (state.unwind (-1)).dropKey with
            | .error fault => state.signs.push (.broken fault)
            | .ok state => state.signs
          else
            match state.cutSign with
            | .error fault => state.signs.push (.broken fault)
            | .ok state => cutAll state fuel

end Cutting

/-- Whether a YAML text may hold a character. -/
def isAllowed (character : Char) : Bool :=
  let code := character.toNat
  code == 0x09 || code == 0x0A || code == 0x0D ||
    (0x20 ≤ code && code ≤ 0x7E) || code == 0x85 ||
    (0xA0 ≤ code && code ≤ 0xFFFD) || 0x10000 ≤ code

/-- The signs of a YAML text; a byte order mark in front is dropped. -/
def signsOf (text : String) : Array Sign :=
  let characters := text.toList
  let start := Cutting.ofText characters
  let start :=
    if characters.head? = some '\ufeff' then start.forward 1 else start
  if characters.all isAllowed then
    start.cutAll (characters.length + 1)
  else
    #[.broken .malformed]

end HouseStyle.Yaml
