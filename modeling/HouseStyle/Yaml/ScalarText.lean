import HouseStyle.Text.Digit
import HouseStyle.Yaml.Cursor

namespace HouseStyle.Yaml

/-!
# The text of scalars

Reads plain, quoted and block scalars. A line break inside a plain or quoted
scalar folds to a space, and each further one is kept; a block scalar keeps its
line breaks or folds them, as its header says. The fuel of each function bounds
the lines or pieces it reads.
-/

/-- A piece of text and the cursor behind it. -/
abbrev Piece := List Char × Cursor

/-- The break that a fold leaves: nothing where more breaks follow. -/
def foldBreak (first breaks : List Char) : List Char :=
  if first != ['\n'] then
    first ++ breaks
  else if breaks.isEmpty then
    [' ']
  else
    breaks

/-- Blank lines behind a break in a plain scalar; none before a document mark. -/
def plainBreaks
    (found : List Char)
    (cursor : Cursor) :
    Nat →
    Option Piece
  | 0 => none
  | fuel + 1 =>
      if cursor.peek = ' ' then
        plainBreaks found cursor.next fuel
      else if isBreak cursor.peek then
        let (lineBreak, cursor) := cursor.takeBreak
        if cursor.startsDocumentMark then
          none
        else
          plainBreaks (found ++ lineBreak) cursor fuel
      else
        some (found, cursor)

/-- The blanks behind a word of a plain scalar. -/
structure PlainGap where
  text : List Char
  cursor : Cursor
  /-- A line ended in the gap. -/
  broken : Bool

/-- Read the blanks behind a word of a plain scalar. -/
def plainGap (cursor : Cursor) : PlainGap :=
  let (blanks, cursor) := cursor.takeWhile (· == ' ')
  if isBreak cursor.peek then
    let (lineBreak, cursor) := cursor.takeBreak
    if cursor.startsDocumentMark then
      { text := [], cursor, broken := true }
    else
      match plainBreaks [] cursor (cursor.rest.length + 1) with
      | some (breaks, behind) =>
          { text := foldBreak lineBreak breaks
            cursor := behind
            broken := true }
      | none =>
          let skipped :=
            (cursor.skipWhile fun c => c == ' ' || isBreak c)
          { text := [], cursor := skipped, broken := true }
  else
    { text := blanks, cursor, broken := false }

/-- The length of the word at the head of a plain scalar. -/
def plainWordLength
    (inFlow : Bool)
    (count : Nat) :
    List Char →
    Nat
  | [] => count
  | character :: rest =>
      let following := rest.head?.getD '\x00'
      let endsKey :=
        character == ':' &&
          (endsWord following ||
            (inFlow && [',', '[', ']', '\x7b', '\x7d'].contains following))
      let endsItem :=
        inFlow && [',', '?', '[', ']', '\x7b', '\x7d'].contains character
      if endsWord character || endsKey || endsItem then
        count
      else
        plainWordLength inFlow (count + 1) rest

/-- A plain scalar; `broken` says whether a line ended behind its last word. -/
structure PlainText where
  /-- The characters in reverse. -/
  reversed : List Char
  cursor : Cursor
  broken : Bool

/-- Read the words of a plain scalar, joined by the gaps between them. -/
def plainWords
    (inFlow : Bool)
    (indent : Int)
    (read : PlainText)
    (gap : List Char) :
    Nat →
    PlainText
  | 0 => read
  | fuel + 1 =>
      let cursor := read.cursor
      let count :=
        if cursor.peek = '#' then
          0
        else
          plainWordLength inFlow 0 cursor.rest
      if count = 0 then
        read
      else
        let following := plainGap (cursor.forward count)
        let read : PlainText :=
          { reversed :=
              (cursor.rest.take count).reverse ++ gap.reverse ++ read.reversed
            cursor := following.cursor
            broken := following.broken }
        if following.text.isEmpty || following.cursor.peek == '#' ||
            (!inFlow && decide (following.cursor.column < indent)) then
          read
        else
          plainWords inFlow indent read following.text fuel

/-- Read a plain scalar whose lines stand at `indent` or deeper. -/
def readPlain
    (inFlow : Bool)
    (indent : Int)
    (cursor : Cursor) :
    PlainText :=
  plainWords
    inFlow
    indent
    { reversed := [], cursor, broken := false }
    []
    (cursor.rest.length + 1)

/-- The characters that one-letter escapes stand for. -/
def escapes : List (Char × Char) :=
  [('0', '\x00'), ('a', '\x07'), ('b', '\x08'), ('t', '\x09'), ('\t', '\x09'),
    ('n', '\x0a'), ('v', '\x0b'), ('f', '\x0c'), ('r', '\x0d'), ('e', '\x1b'),
    (' ', ' '), ('"', '"'), ('\\', '\\'), ('/', '/'), ('N', '\x85'),
    ('_', '\xa0'), ('L', '\u2028'), ('P', '\u2029')]

/-- The number of hexadecimal digits behind an escape letter. -/
def escapeWidth? : Char → Option Nat
  | 'x' => some 2
  | 'u' => some 4
  | 'U' => some 8
  | _ => none

/-- The value of a hexadecimal digit. -/
def hexDigitValue (character : Char) : Nat :=
  if character.isDigit then
    character.toNat - '0'.toNat
  else
    character.toLower.toNat - 'a'.toNat + 10

/-- The breaks behind the first one in a quoted scalar. -/
def quotedBreaks
    (found : List Char)
    (cursor : Cursor) :
    Nat →
    Except Fault Piece
  | 0 => .error .malformed
  | fuel + 1 =>
      if cursor.startsDocumentMark then
        .error .malformed
      else
        let cursor := cursor.skipWhile fun c => c == ' ' || c == '\t'
        if isBreak cursor.peek then
          let (lineBreak, cursor) := cursor.takeBreak
          quotedBreaks (found ++ lineBreak) cursor fuel
        else
          .ok (found, cursor)

/-- The character or fold that an escape stands for, behind its backslash. -/
def readEscape (cursor : Cursor) : Except Fault Piece :=
  let letter := cursor.peek
  if isBreak letter then
    let (_, cursor) := cursor.takeBreak
    quotedBreaks [] cursor (cursor.rest.length + 1)
  else
    match escapes.lookup letter with
    | some character => .ok ([character], cursor.next)
    | none =>
        match escapeWidth? letter with
        | none => .error .malformed
        | some width =>
            let cursor := cursor.next
            let digits := cursor.rest.take width
            if digits.length = width ∧ digits.all isHexDigit then
              let code :=
                digits.foldl (fun code c => code * 16 + hexDigitValue c) 0
              if code < 0x110000 then
                .ok ([Char.ofNat code], cursor.forward width)
              else
                .error (.noCharacter code)
            else
              .error .malformed

/-- A blank gap in a quoted scalar. -/
def quotedGap (cursor : Cursor) : Except Fault Piece :=
  let (blanks, cursor) := cursor.takeWhile fun c => c == ' ' || c == '\t'
  if cursor.rest.isEmpty then
    .error .malformed
  else if isBreak cursor.peek then
    let (lineBreak, cursor) := cursor.takeBreak
    (quotedBreaks [] cursor (cursor.rest.length + 1)).map
      fun (breaks, cursor) => (foldBreak lineBreak breaks, cursor)
  else
    .ok (blanks, cursor)

/-- A character that needs no care inside quotes. -/
def isOrdinary (character : Char) : Bool :=
  !(endsWord character || character == '\'' || character == '"' ||
    character == '\\')

/--
Read a quoted scalar up to its closing quote; `reversed` holds the characters
before the cursor in reverse.
-/
def quotedOn
    (double : Bool)
    (reversed : List Char)
    (cursor : Cursor) :
    Nat →
    Except Fault Piece
  | 0 => .error .malformed
  | fuel + 1 =>
      let (run, cursor) := cursor.takeWhile isOrdinary
      let reversed := run.reverse ++ reversed
      match cursor.rest with
      | '\'' :: '\'' :: _ =>
          if double then
            quotedOn double ('\'' :: reversed) cursor.next fuel
          else
            quotedOn double ('\'' :: reversed) (cursor.forward 2) fuel
      | '\'' :: _ =>
          if double then
            quotedOn double ('\'' :: reversed) cursor.next fuel
          else
            .ok (reversed.reverse, cursor.next)
      | '"' :: _ =>
          if double then
            .ok (reversed.reverse, cursor.next)
          else
            quotedOn double ('"' :: reversed) cursor.next fuel
      | '\\' :: _ =>
          if double then
            match readEscape cursor.next with
            | .error fault => .error fault
            | .ok (text, cursor) =>
                quotedOn double (text.reverse ++ reversed) cursor fuel
          else
            quotedOn double ('\\' :: reversed) cursor.next fuel
      | _ =>
          match quotedGap cursor with
          | .error fault => .error fault
          | .ok (text, cursor) =>
              quotedOn double (text.reverse ++ reversed) cursor fuel

/-- Read a quoted scalar that starts with its opening quote. -/
def readQuoted (cursor : Cursor) : Except Fault Piece :=
  quotedOn (cursor.peek == '"') [] cursor.next (2 * cursor.rest.length + 2)

/-- What a block scalar does with the line breaks at its end. -/
inductive Chomping
  | strip
  | clip
  | keep
  deriving Repr, DecidableEq

/-- The header of a block scalar. -/
structure BlockHeader where
  chomping : Chomping
  /-- The stated depth of the text, from one to nine. -/
  depth : Option Nat
  cursor : Cursor

/-- The chomping mark ahead. -/
def takeChomping (cursor : Cursor) : Option (Chomping × Cursor) :=
  match cursor.peek with
  | '+' => some (.keep, cursor.next)
  | '-' => some (.strip, cursor.next)
  | _ => none

/-- The depth digit ahead; zero is refused. -/
def takeDepth (cursor : Cursor) : Except Fault (Option Nat × Cursor) :=
  let character := cursor.peek
  if character.isDigit then
    if character = '0' then
      .error .malformed
    else
      .ok (some (character.toNat - '0'.toNat), cursor.next)
  else
    .ok (none, cursor)

/-- Read the marks and the rest of the line behind `|` or `>`. -/
def readBlockHeader (cursor : Cursor) : Except Fault BlockHeader := do
  let (chomping, depth, cursor) ←
    match takeChomping cursor with
    | some (chomping, cursor) => do
        let (depth, cursor) ← takeDepth cursor
        pure (chomping, depth, cursor)
    | none => do
        let (depth, cursor) ← takeDepth cursor
        match depth, takeChomping cursor with
        | some _, some (chomping, cursor) => pure (chomping, depth, cursor)
        | _, _ => pure (Chomping.clip, depth, cursor)
  if endsLine cursor.peek || cursor.peek == ' ' then
    let cursor := cursor.skipComment
    if endsLine cursor.peek then
      pure { chomping, depth, cursor := cursor.takeBreak.2 }
    else
      throw .malformed
  else
    throw .malformed

/-- The blank lines before a block scalar, and the deepest column among them. -/
def blockStart
    (found : List Char)
    (deepest : Nat)
    (cursor : Cursor) :
    Nat →
    List Char × Nat × Cursor
  | 0 => (found, deepest, cursor)
  | fuel + 1 =>
      if cursor.peek = ' ' then
        let cursor := cursor.next
        blockStart found (max deepest cursor.column) cursor fuel
      else if isBreak cursor.peek then
        let (lineBreak, cursor) := cursor.takeBreak
        blockStart (found ++ lineBreak) deepest cursor fuel
      else
        (found, deepest, cursor)

/-- Step over blanks up to a column. -/
def skipToColumn
    (column : Nat)
    (cursor : Cursor) :
    Cursor :=
  let blanks := cursor.rest.takeWhile (· == ' ')
  cursor.forward (min blanks.length (column - cursor.column))

/-- The blank lines between two lines of a block scalar. -/
def blockBreaks
    (column : Nat)
    (found : List Char)
    (cursor : Cursor) :
    Nat →
    Piece
  | 0 => (found, cursor)
  | fuel + 1 =>
      let cursor := skipToColumn column cursor
      if isBreak cursor.peek then
        let (lineBreak, cursor) := cursor.takeBreak
        blockBreaks column (found ++ lineBreak) cursor fuel
      else
        (found, cursor)

/-- The lines of a block scalar that stand at `column`, with the breaks after. -/
structure BlockLines where
  /-- The characters in reverse. -/
  reversed : List Char
  /-- The break that ends the last line. -/
  lineBreak : List Char
  /-- The breaks of the blank lines behind it. -/
  breaks : List Char
  cursor : Cursor

/-- Read the lines of a block scalar. -/
def blockLines
    (folded : Bool)
    (column : Nat)
    (read : BlockLines) :
    Nat →
    BlockLines
  | 0 => read
  | fuel + 1 =>
      if read.cursor.column = column ∧ ¬ read.cursor.rest.isEmpty then
        let startsBlank (cursor : Cursor) : Bool :=
          cursor.peek == ' ' || cursor.peek == '\t'
        let (line, cursor) := read.cursor.takeWhile (!isBreak ·)
        let (lineBreak, cursor) := cursor.takeBreak
        let (breaks, behind) := blockBreaks column [] cursor (fuel + 1)
        let continues := behind.column == column && !behind.rest.isEmpty
        let joint :=
          if !continues then
            []
          else if folded && lineBreak == ['\n'] && !startsBlank read.cursor &&
              !startsBlank behind then
            if breaks.isEmpty then [' '] else []
          else
            lineBreak
        blockLines
          folded
          column
          { reversed :=
              joint.reverse ++ line.reverse ++ read.breaks.reverse ++
                read.reversed
            lineBreak
            breaks
            cursor := behind }
          fuel
      else
        read

/-- Read a block scalar behind its `|` or `>` in a block at `indent`. -/
def readBlock
    (folded : Bool)
    (indent : Int)
    (cursor : Cursor) :
    Except Fault Piece := do
  let header ← readBlockHeader cursor
  let least := max 1 (indent + 1).toNat
  let start := header.cursor
  let fuel := start.rest.length + 1
  let (breaks, column, cursor) :=
    match header.depth with
    | none =>
        let (breaks, deepest, cursor) := blockStart [] 0 start fuel
        (breaks, max least deepest, cursor)
    | some depth =>
        let column := least + depth - 1
        let (breaks, cursor) := blockBreaks column [] start fuel
        (breaks, column, cursor)
  let read :=
    blockLines
      folded column { reversed := [], lineBreak := [], breaks, cursor } fuel
  let ending :=
    match header.chomping with
    | .strip => []
    | .clip => read.lineBreak
    | .keep => read.lineBreak ++ read.breaks
  pure (read.reversed.reverse ++ ending, read.cursor)

end HouseStyle.Yaml
