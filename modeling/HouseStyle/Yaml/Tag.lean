import HouseStyle.Text.Digit
import HouseStyle.Text.Utf8
import HouseStyle.Yaml.Cursor

namespace HouseStyle.Yaml

/-!
# Tags and directives

A tag says what the node behind it stands for. It is written in full between
angle brackets, or as a handle and the rest of the name; directives in front of
a document give handles their meaning.
-/

/-- What a tag says of a node. -/
inductive Tag
  | null
  | bool
  | int
  | float
  | bytes
  | moment
  | text
  | sequence
  | mapping
  /-- A sequence of pairs. -/
  | pairs
  | set
  /-- The key whose value lays entries under a mapping. -/
  | merge
  /-- The key whose value a mapping stands for where a scalar is asked for. -/
  | value
  /-- Any other tag. -/
  | other
  deriving Repr, DecidableEq, Inhabited

/-- The part that the names of all known tags start with. -/
def knownStem : String := "tag:yaml.org,2002:"

/-- The known tags by the rest of their names. -/
def knownTags : List (String × Tag) :=
  [("null", .null), ("bool", .bool), ("int", .int), ("float", .float),
    ("binary", .bytes), ("timestamp", .moment), ("str", .text),
    ("seq", .sequence), ("map", .mapping), ("omap", .pairs),
    ("pairs", .pairs), ("set", .set), ("merge", .merge), ("value", .value)]

/-- The tag of that full name. -/
def Tag.ofName (name : String) : Tag :=
  match knownTags.find? fun (rest, _) => knownStem ++ rest == name with
  | some (_, tag) => tag
  | none => .other

/-- A tag as it is written. -/
structure WrittenTag where
  /-- Stands for the first part of the name; without one the name is in full. -/
  handle : Option String
  rest : String
  deriving Repr, DecidableEq

/-- A directive in front of a document. -/
inductive Directive
  | version (major : Int)
  | handle (name meaning : String)
  /-- A directive without a meaning. -/
  | other
  deriving Repr, DecidableEq

/-- What handles mean where no directive says otherwise. -/
def defaultHandles : List (String × String) :=
  [("!", "!"), ("!!", knownStem)]

/-- The full name of a written tag, unless its handle has no meaning. -/
def WrittenTag.name?
    (tag : WrittenTag)
    (handles : List (String × String)) :
    Option String :=
  match tag.handle with
  | none => some tag.rest
  | some handle => (handles.lookup handle).map (· ++ tag.rest)

/-- A character of a name: of an anchor, a handle or a directive. -/
def isNameCharacter (character : Char) : Bool :=
  isAsciiLetter character || isAsciiDigit character || character == '-' ||
    character == '_'

/-- A character that may stand behind a handle; a percent sign escapes a byte. -/
def isTagCharacter (character : Char) : Bool :=
  isNameCharacter character ||
    [';', '/', '?', ':', '@', '&', '=', '+', '$', ',', '.', '!', '~', '*',
      '\'', '(', ')', '[', ']', '%'].contains character

/-- A blank or the end of a line. -/
def endsTag (character : Char) : Bool :=
  character == ' ' || endsLine character

/-- Replace escaped bytes by the characters they spell. -/
def unescape
    (reversed : List UInt8) :
    List Char →
    Option (List Char)
  | '%' :: high :: low :: rest =>
      match readInBase? 16 [high, low] with
      | some byte =>
          if isHexDigit high && isHexDigit low then
            unescape (UInt8.ofNat byte :: reversed) rest
          else
            none
      | none => none
  | '%' :: _ => none
  | character :: rest => do
      let characters ← decodeStrict? reversed.reverse
      let rest ← unescape [] rest
      some (characters ++ character :: rest)
  | [] => decodeStrict? reversed.reverse

/-- Read the name of a tag behind its handle. -/
def readTagRest (cursor : Cursor) : Except Fault (String × Cursor) :=
  let (run, cursor) := cursor.takeWhile isTagCharacter
  match unescape [] run with
  | some characters =>
      if run.isEmpty then
        .error .malformed
      else
        .ok (String.ofList characters, cursor)
  | none => .error .malformed

/-- Read a handle: an exclamation mark, or a name between two of them. -/
def readHandle (cursor : Cursor) : Except Fault (String × Cursor) :=
  if cursor.peek ≠ '!' then
    .error .malformed
  else if cursor.peek 1 = ' ' then
    .ok ("!", cursor.next)
  else
    let (name, behind) := cursor.next.takeWhile isNameCharacter
    if behind.peek = '!' then
      .ok (String.ofList ('!' :: name ++ ['!']), behind.next)
    else
      .error .malformed

/-- The cursor where a blank or the end of a line has to stand ahead. -/
def expectTagEnd (cursor : Cursor) : Except Fault Cursor :=
  if endsTag cursor.peek then
    .ok cursor
  else
    .error .malformed

/-- Read a tag. -/
def readTag (cursor : Cursor) : Except Fault (WrittenTag × Cursor) := do
  let (tag, cursor) ←
    if cursor.peek 1 = '<' then do
      let (rest, cursor) ← readTagRest (cursor.forward 2)
      if cursor.peek = '>' then
        pure ({ handle := none, rest : WrittenTag }, cursor.next)
      else
        throw .malformed
    else if endsWord (cursor.peek 1) then
      pure ({ handle := none, rest := "!" }, cursor.next)
    else do
      let word := (cursor.next.takeWhile (!endsTag ·)).1
      let (handle, cursor) ←
        if word.contains '!' then
          readHandle cursor
        else
          pure ("!", cursor.next)
      let (rest, cursor) ← readTagRest cursor
      pure ({ handle := some handle, rest }, cursor)
  let cursor ← expectTagEnd cursor
  pure (tag, cursor)

/-- Step over blanks. -/
def skipBlanks (cursor : Cursor) : Cursor :=
  cursor.skipWhile (· == ' ')

/-- Read a number of a version. -/
def readVersionNumber (cursor : Cursor) : Except Fault (Int × Cursor) := do
  let (digits, cursor) := cursor.takeWhile isAsciiDigit
  if digits.isEmpty then
    throw .malformed
  else
    let value ← (readInteger (String.ofList digits)).mapError .badInteger
    pure (value, cursor)

/-- Read the two numbers of a version. -/
def readVersion (cursor : Cursor) : Except Fault (Directive × Cursor) := do
  let (major, cursor) ← readVersionNumber (skipBlanks cursor)
  if cursor.peek ≠ '.' then
    throw .malformed
  else
    let (_, cursor) ← readVersionNumber cursor.next
    let cursor ← expectTagEnd cursor
    pure (.version major, cursor)

/-- Read a handle and its meaning. -/
def readHandleMeaning (cursor : Cursor) : Except Fault (Directive × Cursor) := do
  let (name, cursor) ← readHandle (skipBlanks cursor)
  if cursor.peek ≠ ' ' then
    throw .malformed
  else
    let (meaning, cursor) ← readTagRest (skipBlanks cursor)
    let cursor ← expectTagEnd cursor
    pure (.handle name meaning, cursor)

/-- Read a directive, which starts with a percent sign, up to its line's end. -/
def readDirective (cursor : Cursor) : Except Fault (Directive × Cursor) := do
  let (name, cursor) := cursor.next.takeWhile isNameCharacter
  let cursor ← expectTagEnd cursor
  let (directive, cursor) ←
    if name.isEmpty then
      throw .malformed
    else if name = "YAML".toList then
      readVersion cursor
    else if name = "TAG".toList then
      readHandleMeaning cursor
    else
      pure (.other, cursor.skipWhile (!isBreak ·))
  let cursor := cursor.skipComment
  if endsLine cursor.peek then
    pure (directive, cursor.takeBreak.2)
  else
    throw .malformed

/--
The meaning of handles behind some directives. There may be one version, which
has to be a first one, and one meaning for each handle.
-/
def handlesOf
    (versioned : Bool)
    (found : List (String × String)) :
    List Directive →
    Except Fault (List (String × String))
  | [] => .ok (found ++ defaultHandles)
  | .version major :: rest =>
      if versioned ∨ major ≠ 1 then
        .error .malformed
      else
        handlesOf true found rest
  | .handle name meaning :: rest =>
      if (found.lookup name).isSome then
        .error .malformed
      else
        handlesOf versioned ((name, meaning) :: found) rest
  | .other :: rest => handlesOf versioned found rest

end HouseStyle.Yaml
