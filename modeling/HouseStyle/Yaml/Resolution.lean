import HouseStyle.Calendar.Reading
import HouseStyle.Document.Basic
import HouseStyle.Number.Numeral
import HouseStyle.Text.Base64
import HouseStyle.Text.Lowercase
import HouseStyle.Yaml.Tag

namespace HouseStyle.Yaml

/-!
# What words stand for

A plain word stands for null, a truth value, an integer, a decimal or a moment
when it is spelled like one, and for itself otherwise. Integers may be binary,
octal with a leading zero, decimal, hexadecimal or in base sixty; a decimal needs
a point. A tag can ask for a value that the word is not spelled like; what is
read then is wider than what a plain word can be.
-/

/-! ## The spelling of plain words -/

/-- Words that stand for truth or falsehood. -/
def truthWords : List String :=
  ["yes", "Yes", "YES", "true", "True", "TRUE", "on", "On", "ON",
    "no", "No", "NO", "false", "False", "FALSE", "off", "Off", "OFF"]

/-- Words that stand for nothing. -/
def nullWords : List String :=
  ["", "~", "null", "Null", "NULL"]

/-- Words that no document can hold as plain words. -/
def reservedWords : List String :=
  ["!", "&", "*"]

/-- A digit or the underscore that groups digits. -/
def isGrouped (digit : Char → Bool) (character : Char) : Bool :=
  digit character || character == '_'

/-- Drop underscores. -/
def ungroup (text : List Char) : List Char :=
  text.filter (· != '_')

/-- Split at every colon. -/
def splitColons (text : List Char) : List (List Char) :=
  text.foldr
    (fun character found =>
      if character = ':' then
        [] :: found
      else
        match found with
        | [] => [[character]]
        | piece :: rest => (character :: piece) :: rest)
    [[]]

/-- One or two digits below sixty. -/
def isSixtieth (piece : List Char) : Bool :=
  match piece with
  | [digit] => isAsciiDigit digit
  | [tens, digit] => ('0' ≤ tens && tens ≤ '5') && isAsciiDigit digit
  | _ => false

/-- Digits, and underscores behind the first one. -/
def isDigitGroup (text : List Char) : Bool :=
  text.head?.any isAsciiDigit && text.all (isGrouped isAsciiDigit)

/-- Whether an unsigned word is spelled like an integer. -/
def isIntegerWord (text : List Char) : Bool :=
  match text with
  | '0' :: 'b' :: digits =>
      !digits.isEmpty && digits.all (isGrouped fun c => c == '0' || c == '1')
  | '0' :: 'x' :: digits =>
      !digits.isEmpty && digits.all (isGrouped isHexDigit)
  | '0' :: digits => digits.all (isGrouped fun c => '0' ≤ c && c ≤ '7')
  | text =>
      match splitColons text with
      | whole :: sixtieths => isDigitGroup whole && sixtieths.all isSixtieth
      | [] => false

/-- Whether a text is the exponent of a decimal or nothing; it needs a sign. -/
def isExponentWord (text : List Char) : Bool :=
  match text with
  | [] => true
  | mark :: sign :: digits =>
      (mark == 'e' || mark == 'E') && (sign == '+' || sign == '-') &&
        !digits.isEmpty && digits.all isAsciiDigit
  | _ => false

/-- Whether a text is a point with grouped digits and an exponent behind it. -/
def isPlacesWord (text : List Char) : Bool :=
  match text with
  | '.' :: rest => isExponentWord (rest.dropWhile (isGrouped isAsciiDigit))
  | _ => false

/-- Whether a word in base sixty has places behind a point. -/
def isSixtyDecimal (text : List Char) : Bool :=
  match (splitColons text).reverse with
  | last :: middle :: before =>
      let whole := last.takeWhile (· != '.')
      let places := last.drop whole.length
      match (middle :: before).reverse with
      | first :: others =>
          isDigitGroup first && others.all isSixtieth && isSixtieth whole &&
            places.head? == some '.' &&
            (places.drop 1).all (isGrouped isAsciiDigit)
      | [] => false
  | _ => false

/-- Words for the infinite numbers, without their sign. -/
def infinityWords : List String :=
  [".inf", ".Inf", ".INF"]

/-- Words for the undefined number. -/
def undefinedWords : List String :=
  [".nan", ".NaN", ".NAN"]

/-- Whether a word is spelled like a decimal. -/
def isDecimalWord (text : List Char) : Bool :=
  let unsigned := (takeSign text).2
  let signed := unsigned.length < text.length
  let word := String.ofList unsigned
  let whole := unsigned.takeWhile (isGrouped isAsciiDigit)
  let places := unsigned.drop whole.length
  if infinityWords.contains word then
    true
  else if !signed && undefinedWords.contains word then
    true
  else if whole.isEmpty then
    !signed && (places.drop 1).head?.any isAsciiDigit && isPlacesWord places
  else
    isSixtyDecimal unsigned || (isDigitGroup whole && isPlacesWord places)

/-- What a plain word stands for; a line feed at its end does not matter. -/
def Tag.ofPlain (word : String) : Tag :=
  let text := word.toList
  let text :=
    if 1 < text.length && text.getLast? == some '\n' then
      text.dropLast
    else
      text
  let bare := String.ofList text
  if truthWords.contains bare then
    .bool
  else if nullWords.contains bare then
    .null
  else if isDecimalWord text then
    .float
  else if isIntegerWord (takeSign text).2 then
    .int
  else if isMomentWord text then
    .moment
  else if bare = "<<" then
    .merge
  else if bare = "=" then
    .value
  else if reservedWords.contains bare then
    .other
  else
    .text

/-! ## The values of words -/

/-- The truth value of a word in any letter case. -/
def readTruth (word : String) : Except Fault Bool :=
  let lower := lowerCase word
  if ["yes", "true", "on"].contains lower then
    .ok true
  else if ["no", "false", "off"].contains lower then
    .ok false
  else
    .error (.unknownTruth lower)

/-- An integer of a numeral in a base. -/
def readIn (base : Nat) (text : List Char) : Except Fault Int :=
  (readIntegerIn base (String.ofList text)).mapError .badInteger

/-- An integer without its sign; colons separate digits in base sixty. -/
def readUnsigned (text : List Char) : Except Fault Int :=
  match text with
  | [] => .error .emptyNumber
  | '0' :: 'b' :: digits => readIn 2 digits
  | '0' :: 'x' :: digits => readIn 16 digits
  | ['0'] => .ok 0
  | '0' :: _ => readIn 8 text
  | text =>
      ((splitColons text).mapM (readIn 10)).map fun digits =>
        digits.foldl (fun value digit => value * 60 + digit) 0

/-- The integer that a word spells. -/
def readWholeNumber (word : String) : Except Fault Int :=
  let text := ungroup word.toList
  if text.isEmpty then
    .error .emptyNumber
  else
    let (negative, unsigned) := takeSign text
    (readUnsigned unsigned).map fun value => if negative then -value else value

/-- The decimal that is equal or nearest to a natural number. -/
def decimalOfNat (value : Nat) : Binary64 :=
  .ofDecimal false value 0

/-- A decimal of a numeral. -/
def readPart (text : List Char) : Except Fault Binary64 :=
  match readDecimal? (String.ofList text) with
  | some value => .ok value
  | none => .error (.badDecimal (String.ofList text))

/-- The sum of digits in base sixty, last digit first, behind a first part. -/
def sumSixtieths
    (value : Binary64)
    (place : Nat) :
    List Binary64 →
    Binary64
  | [] => value
  | digit :: rest =>
      sumSixtieths
        (value.plus (digit.times (decimalOfNat (Nat.pow 60 place))))
        (place + 1)
        rest

/-- A decimal without its sign, in small letters. -/
def readUnsignedDecimal (text : List Char) : Except Fault Binary64 :=
  if text = ".inf".toList then
    .ok (.infinite false)
  else if text = ".nan".toList then
    .ok .undefined
  else if text.contains ':' then
    ((splitColons text).mapM readPart).map fun digits =>
      sumSixtieths (decimalOfNat 0) 0 digits.reverse
  else
    readPart text

/-- The decimal that a word spells. -/
def readFraction (word : String) : Except Fault Binary64 :=
  let text := ungroup (lowerCase word).toList
  if text.isEmpty then
    .error .emptyNumber
  else
    let (negative, unsigned) := takeSign text
    (readUnsignedDecimal unsigned).map fun value =>
      if negative then value.negate else value

/-- The moment that a word spells; a line feed at its end does not matter. -/
def readMoment (word : String) : Except Fault Moment :=
  let text := word.toList
  let text := if text.getLast? = some '\n' then text.dropLast else text
  match WrittenMoment.ofText? text with
  | some written => written.moment.mapError .badMoment
  | none => .error .unspelledMoment

/-- The bytes that a text spells. -/
def readBytes (text : String) : Except Fault (List UInt8) :=
  if text.toList.all (·.toNat < 0x80) then
    match readBase64? text with
    | some bytes => .ok bytes
    | none => .error .malformed
  else
    .error .malformed

/-- The value of a text under a tag; other tags are for no scalar. -/
def readScalar (tag : Tag) (text : String) : Except Fault Scalar :=
  match tag with
  | .null => .ok .null
  | .text => .ok (.text text)
  | .bool => (readTruth text).map .bool
  | .int => (readWholeNumber text).map .int
  | .float => (readFraction text).map .float
  | .moment => (readMoment text).map .moment
  | .bytes => (readBytes text).map .bytes
  | _ => .error .malformed

end HouseStyle.Yaml
