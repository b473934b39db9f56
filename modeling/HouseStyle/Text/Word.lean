import HouseStyle.Text.Digit

namespace HouseStyle

/-!
# Words of names

A name such as `parseHTTPHeader2` is a row of words: a run of small letters
that a capital may start, a run of capitals that stops before the capital of
the next word, or a run of digits. Letters are ASCII, digits are of any script.
-/

/-- An ASCII capital. -/
def isCapital (character : Char) : Bool :=
  'A' ≤ character && character ≤ 'Z'

/-- An ASCII small letter. -/
def isSmallLetter (character : Char) : Bool :=
  'a' ≤ character && character ≤ 'z'

/-- The word of small letters at the head, with the capital that starts it. -/
def smallWord? (text : List Char) : Option (List Char) :=
  let (capital, rest) :=
    match text with
    | first :: rest => if isCapital first then ([first], rest) else ([], text)
    | [] => ([], [])
  match rest.takeWhile isSmallLetter with
  | [] => none
  | letters => some (capital ++ letters)

/-- The word of capitals at the head that no small letter follows. -/
def capitalWord? (text : List Char) : Option (List Char) :=
  let capitals := text.takeWhile isCapital
  let word :=
    match text.drop capitals.length with
    | next :: _ => if isSmallLetter next then capitals.dropLast else capitals
    | [] => capitals
  if word.isEmpty then none else some word

/-- The run of digits at the head. -/
def digitWord? (text : List Char) : Option (List Char) :=
  match text.takeWhile isDecimalDigit with
  | [] => none
  | digits => some digits

/-- The word at the head. -/
def wordAt? (text : List Char) : Option (List Char) :=
  (smallWord? text).or ((capitalWord? text).or (digitWord? text))

/-- The first word anywhere in a text. -/
def firstWord? : List Char → Option (List Char)
  | [] => none
  | first :: rest => (wordAt? (first :: rest)).or (firstWord? rest)

/-- The first word of a name in small letters, or nothing. -/
def leadingWord (name : String) : String :=
  let letters :=
    name.toList.dropWhile fun character =>
      character == '_' || character == '#' || character == '$'
  match firstWord? letters with
  | some word => String.ofList (word.map Char.toLower)
  | none => ""

example : leadingWord "parseHTTPHeader" = "parse" := by decide +kernel

example : leadingWord "_HTTPHeader" = "http" := by decide +kernel

end HouseStyle
