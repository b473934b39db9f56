import HouseStyle.Text.Printable

namespace HouseStyle

/-!
# Quoted text

Messages show a text between quotes. The quotes are single unless the text
holds single quotes and no double ones; what cannot be printed is escaped by
its code in as few digits as its size class needs. Bytes are shown in the same
way behind a mark of their own.
-/

/-- Lower-case hexadecimal digits, padded with zeros. -/
def hexDigits (width code : Nat) : List Char :=
  let digits := Nat.toDigits 16 code
  List.replicate (width - digits.length) '0' ++ digits

/-- One character between quotes of that shape. -/
def quoteCharacter (quote character : Char) : List Char :=
  let code := character.toNat
  if character = quote ∨ character = '\\' then
    ['\\', character]
  else if character = '\n' then
    ['\\', 'n']
  else if character = '\r' then
    ['\\', 'r']
  else if character = '\t' then
    ['\\', 't']
  else if isPrintable character then
    [character]
  else if code < 0x100 then
    '\\' :: 'x' :: hexDigits 2 code
  else if code < 0x10000 then
    '\\' :: 'u' :: hexDigits 4 code
  else
    '\\' :: 'U' :: hexDigits 8 code

/-- The quote that goes around some characters. -/
def quoteAround (characters : List Char) : Char :=
  if characters.contains '\'' && !characters.contains '"' then '"' else '\''

/-- A text between quotes. -/
def quoted (text : String) : String :=
  let characters := text.toList
  let quote := quoteAround characters
  String.ofList
    (quote :: characters.flatMap (quoteCharacter quote) ++ [quote])

/-- One byte between quotes of that shape; only ASCII stands for itself. -/
def quoteByte (quote : Char) (byte : UInt8) : List Char :=
  if byte < 0x80 then
    quoteCharacter quote (Char.ofNat byte.toNat)
  else
    '\\' :: 'x' :: hexDigits 2 byte.toNat

/-- Bytes between quotes. -/
def quotedBytes (bytes : List UInt8) : String :=
  let quote := quoteAround (bytes.map fun byte => Char.ofNat byte.toNat)
  String.ofList
    ('b' :: quote :: bytes.flatMap (quoteByte quote) ++ [quote])

end HouseStyle
