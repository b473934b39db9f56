import HouseStyle.Yaml.Fault

namespace HouseStyle.Yaml

/-!
# A place in a YAML text

A cursor is what is left of a text together with its place. Carriage returns,
line feeds and the three Unicode line separators break lines; a byte order mark
takes no column.
-/

/-- What is left of a text, and where it starts. -/
structure Cursor where
  rest : List Char
  offset : Nat
  line : Nat
  column : Nat
  deriving Repr, DecidableEq

/-- A character that ends a line. -/
def isBreak (character : Char) : Bool :=
  character == '\r' || character == '\n' || character == '\x85' ||
    character == '\u2028' || character == '\u2029'

/-- A character that ends a word; the end of the text reads as NUL. -/
def endsWord (character : Char) : Bool :=
  character == '\x00' || character == ' ' || character == '\t' ||
    isBreak character

/-- A character that ends a line, or the end of the text. -/
def endsLine (character : Char) : Bool :=
  character == '\x00' || isBreak character

namespace Cursor

/-- The start of a text. -/
def ofText (text : List Char) : Cursor :=
  { rest := text, offset := 0, line := 0, column := 0 }

/-- The character `distance` places ahead, NUL behind the end. -/
def peek
    (cursor : Cursor)
    (distance : Nat := 0) :
    Char :=
  (cursor.rest[distance]?).getD '\x00'

/-- Step over one character. -/
def next (cursor : Cursor) : Cursor :=
  match cursor.rest with
  | [] => cursor
  | character :: rest =>
      let breaks :=
        (isBreak character && character != '\r') ||
          (character == '\r' && rest.head? != some '\n')
      if breaks then
        { rest
          offset := cursor.offset + 1
          line := cursor.line + 1
          column := 0 }
      else
        { rest
          offset := cursor.offset + 1
          line := cursor.line
          column :=
            if character = '\ufeff' then cursor.column else cursor.column + 1 }

/-- Step over some characters. -/
def forward
    (cursor : Cursor) :
    Nat →
    Cursor
  | 0 => cursor
  | count + 1 => cursor.next.forward count

/-- The run of accepted characters ahead, and the cursor behind it. -/
def takeWhile
    (cursor : Cursor)
    (accepted : Char → Bool) :
    List Char × Cursor :=
  let run := cursor.rest.takeWhile accepted
  (run, cursor.forward run.length)

/-- Step over a run of accepted characters. -/
def skipWhile
    (cursor : Cursor)
    (accepted : Char → Bool) :
    Cursor :=
  (cursor.takeWhile accepted).2

/-- Step over a line break; the two Unicode separators stand for themselves. -/
def takeBreak (cursor : Cursor) : List Char × Cursor :=
  match cursor.rest with
  | '\r' :: '\n' :: _ => (['\n'], cursor.forward 2)
  | '\r' :: _ => (['\n'], cursor.next)
  | '\n' :: _ => (['\n'], cursor.next)
  | '\x85' :: _ => (['\n'], cursor.next)
  | '\u2028' :: _ => (['\u2028'], cursor.next)
  | '\u2029' :: _ => (['\u2029'], cursor.next)
  | _ => ([], cursor)

/-- Whether the three marks stand ahead as a word of their own. -/
def startsMarks
    (cursor : Cursor)
    (mark : Char) :
    Bool :=
  cursor.rest.take 3 == [mark, mark, mark] && endsWord (cursor.peek 3)

/-- Whether a line that starts or ends a document is ahead. -/
def startsDocumentMark (cursor : Cursor) : Bool :=
  cursor.startsMarks '-' || cursor.startsMarks '.'

/-- Step over blanks and a comment up to the end of the line. -/
def skipComment (cursor : Cursor) : Cursor :=
  let cursor := cursor.skipWhile (· == ' ')
  if cursor.peek = '#' then
    cursor.skipWhile (!isBreak ·)
  else
    cursor

end Cursor

end HouseStyle.Yaml
