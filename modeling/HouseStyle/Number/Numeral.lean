import HouseStyle.Number.Binary64
import HouseStyle.Text.Blank
import HouseStyle.Text.Digit
import HouseStyle.Text.Quoted

namespace HouseStyle

/-!
# Reading numerals

Integers and decimals written in the digits of any script. Digits may be
grouped by single underscores. A decimal integer of more than 4300 digits is
refused.
-/

/-- The greatest number of digits of a decimal integer. -/
def greatestDigitCount : Nat := 4300

/-- The value of digits in a base. -/
def natOfDigits (base : Nat) (digits : List Nat) : Nat :=
  digits.foldl (fun value digit => value * base + digit) 0

/-- The value of a digit in bases up to sixteen. -/
def baseDigit? (base : Nat) (character : Char) : Option Nat :=
  let value? :=
    if 'a' ≤ character ∧ character ≤ 'f' then
      some (character.toNat - 'a'.toNat + 10)
    else if 'A' ≤ character ∧ character ≤ 'F' then
      some (character.toNat - 'A'.toNat + 10)
    else
      digitValue? character
  value?.filter (· < base)

/-- The rest of a run of digits, each of which one underscore may precede. -/
def digitsOn
    (base : Nat)
    (reversed : List Nat) :
    List Char →
    List Nat × List Char
  | '_' :: character :: rest =>
      match baseDigit? base character with
      | some digit => digitsOn base (digit :: reversed) rest
      | none => (reversed.reverse, '_' :: character :: rest)
  | character :: rest =>
      match baseDigit? base character with
      | some digit => digitsOn base (digit :: reversed) rest
      | none => (reversed.reverse, character :: rest)
  | [] => (reversed.reverse, [])

/-- The run of digits of a base at the head; it starts with no underscore. -/
def takeDigits
    (base : Nat)
    (text : List Char) :
    List Nat × List Char :=
  match text with
  | '_' :: _ => ([], text)
  | _ => digitsOn base [] text

/-- The sign at the head: whether it is a minus, and the rest. -/
def takeSign : List Char → Bool × List Char
  | '-' :: rest => (true, rest)
  | '+' :: rest => (false, rest)
  | text => (false, text)

/-- White space around a numeral; the information separators are none. -/
def surroundsNumeral (character : Char) : Bool :=
  isBlank character &&
    !(0x1C ≤ character.toNat && character.toNat ≤ 0x1F)

/-- A numeral without the white space around it. -/
def trimNumeral (text : List Char) : List Char :=
  let started := text.dropWhile surroundsNumeral
  (started.reverse.dropWhile surroundsNumeral).reverse

/-- The ASCII digit of the same value, or the character itself. -/
def asciiDigit (character : Char) : Char :=
  match digitValue? character with
  | some value => Char.ofNat ('0'.toNat + value)
  | none => character

/-- The letter that names a base behind a zero. -/
def baseLetter? : Nat → Option Char
  | 2 => some 'b'
  | 8 => some 'o'
  | 16 => some 'x'
  | _ => none

/-- Drop the mark of a base at the head, with an underscore behind it. -/
def dropBaseMark (base : Nat) : List Char → List Char
  | '0' :: letter :: rest =>
      if baseLetter? base = some letter.toLower then
        match rest with
        | '_' :: rest => rest
        | rest => rest
      else
        '0' :: letter :: rest
  | text => text

/-- Why a text is not an integer. -/
inductive IntegerFault
  | malformed (base : Nat) (text : String)
  | tooLong (digits : Nat)
  deriving Repr, DecidableEq

/-- The greatest number of characters that a message shows of a text. -/
def shownLength : Nat := 200

/-- The wording of a fault; a long text is cut, with its closing quote. -/
def IntegerFault.message : IntegerFault → String
  | .malformed base text =>
      "invalid literal for int() with base " ++ toString base ++ ": " ++
        String.ofList ((quoted text).toList.take shownLength)
  | .tooLong digits =>
      "Exceeds the limit (4300 digits) for integer string conversion: " ++
        "value has " ++ toString digits ++
        " digits; use sys.set_int_max_str_digits() to increase the limit"

/--
Read an integer in a base, which a mark may name again. Only decimal integers
are bounded in length, and the bound is met before what follows the digits.
-/
def readIntegerIn
    (base : Nat)
    (text : String) :
    Except IntegerFault Int :=
  let (negative, rest) :=
    takeSign ((trimNumeral text.toList).map asciiDigit)
  let (digits, after) := takeDigits base (dropBaseMark base rest)
  let tooLong := base = 10 ∧ greatestDigitCount < digits.length
  if digits.isEmpty ∨ after.head? = some '_' then
    .error (.malformed base text)
  else if tooLong then
    .error (.tooLong digits.length)
  else if after.isEmpty then
    let value : Int := natOfDigits base digits
    .ok (if negative then -value else value)
  else
    .error (.malformed base text)

/-- Read a decimal integer; white space around it is ignored. -/
def readInteger (text : String) : Except IntegerFault Int :=
  readIntegerIn 10 text

/-- The exponent at the end of a decimal. -/
def readExponent? : List Char → Option Int
  | [] => some 0
  | mark :: rest =>
      if mark = 'e' ∨ mark = 'E' then
        let (negative, rest) := takeSign rest
        match takeDigits 10 rest with
        | ([], _) => none
        | (digits, []) =>
            let value : Int := natOfDigits 10 digits
            some (if negative then -value else value)
        | (_, _ :: _) => none
      else
        none

/-- Read a decimal without its sign. -/
def readMagnitude?
    (negative : Bool)
    (text : List Char) :
    Option Binary64 :=
  let word := String.ofList (text.map Char.toLower)
  if word = "inf" ∨ word = "infinity" then
    some (.infinite negative)
  else if word = "nan" then
    some .undefined
  else
    let (whole, rest) := takeDigits 10 text
    let (places, rest) :=
      match rest with
      | '.' :: behind => takeDigits 10 behind
      | _ => ([], rest)
    if whole.isEmpty ∧ places.isEmpty then
      none
    else
      (readExponent? rest).map fun exponent =>
        .ofDecimal
          negative
          (natOfDigits 10 (whole ++ places))
          (exponent - places.length)

/-- Read a decimal number; white space around it is ignored. -/
def readDecimal? (text : String) : Option Binary64 :=
  let (negative, rest) := takeSign (trimNumeral text.toList)
  readMagnitude? negative rest

/-- The wording of the refusal of a text that is no decimal. -/
def malformedDecimalMessage (text : String) : String :=
  "could not convert string to float: " ++ quoted text

/-- Read a natural number whose digits all belong to a base. -/
def readInBase?
    (base : Nat)
    (text : List Char) :
    Option Nat :=
  if text.isEmpty then
    none
  else
    (text.mapM (baseDigit? base)).map (natOfDigits base)

/--
Read an integer as source code writes it: in the base its prefix names, or in
decimal with no leading zero unless it is zero. Digits may be of any script.
-/
def readSourceInteger? (text : List Char) : Option Nat :=
  match text.map asciiDigit with
  | '0' :: mark :: rest =>
      if mark = 'x' ∨ mark = 'X' then
        readInBase? 16 rest
      else if mark = 'b' ∨ mark = 'B' then
        readInBase? 2 rest
      else if mark = 'o' ∨ mark = 'O' then
        readInBase? 8 rest
      else
        readDecimalDigits ('0' :: mark :: rest)
  | text => readDecimalDigits text
where
  /-- Read decimal digits without a leading zero. -/
  readDecimalDigits (text : List Char) : Option Nat :=
    if greatestDigitCount < text.length then
      none
    else
      (readInBase? 10 text).filter fun value =>
        value == 0 || text.head?.bind digitValue? != some 0

end HouseStyle
