namespace HouseStyle

/-!
# UTF-8

Decoding bytes to text. Strict decoding refuses bytes that spell no character;
lenient decoding drops each byte at which no character starts.
-/

/-- The number of bytes of a character and the bits of its first byte. -/
def leadingByte? (byte : UInt8) : Option (Nat × Nat) :=
  let code := byte.toNat
  if code < 0x80 then
    some (1, code)
  else if 0xC2 ≤ code ∧ code < 0xE0 then
    some (2, code - 0xC0)
  else if 0xE0 ≤ code ∧ code < 0xF0 then
    some (3, code - 0xE0)
  else if 0xF0 ≤ code ∧ code < 0xF5 then
    some (4, code - 0xF0)
  else
    none

/-- The least code point that needs that many bytes. -/
def leastCode : Nat → Nat
  | 1 => 0
  | 2 => 0x80
  | 3 => 0x800
  | _ => 0x10000

/-- Whether a byte continues a character. -/
def isContinuation (byte : UInt8) : Bool :=
  0x80 ≤ byte.toNat && byte.toNat < 0xC0

/-- The character at the head of some bytes, and how many bytes it takes. -/
def decodeHead? : List UInt8 → Option (Char × Nat)
  | [] => none
  | first :: rest =>
      match leadingByte? first with
      | none => none
      | some (size, bits) =>
          let tail := rest.take (size - 1)
          let code :=
            tail.foldl (fun code byte => code * 64 + (byte.toNat - 0x80)) bits
          if tail.length + 1 = size ∧ tail.all isContinuation ∧
              leastCode size ≤ code ∧ code.isValidChar then
            some (Char.ofNat code, size)
          else
            none

/-- Decode bytes behind the characters in `reversed`. -/
def decodeOn
    (strict : Bool)
    (reversed : List Char)
    (bytes : List UInt8) :
    Option (List Char) :=
  match bytes with
  | [] => some reversed.reverse
  | first :: rest =>
      match decodeHead? (first :: rest) with
      | some (character, size) =>
          decodeOn strict (character :: reversed) (rest.drop (size - 1))
      | none =>
          if strict then none else decodeOn strict reversed rest
  termination_by bytes.length

/-- Decode bytes all of which have to spell characters. -/
def decodeStrict? (bytes : List UInt8) : Option (List Char) :=
  decodeOn true [] bytes

/-- Decode bytes, dropping those that spell no character. -/
def decodeLenient (bytes : List UInt8) : List Char :=
  (decodeOn false [] bytes).getD []

/-- Make every line end in a single line feed, behind the text in `reversed`. -/
def unifyBreaksOn (reversed : List Char) : List Char → List Char
  | [] => reversed.reverse
  | '\r' :: '\n' :: rest => unifyBreaksOn ('\n' :: reversed) rest
  | '\r' :: rest => unifyBreaksOn ('\n' :: reversed) rest
  | character :: rest => unifyBreaksOn (character :: reversed) rest

/-- Make every line end in a single line feed. -/
def unifyBreaks (text : List Char) : List Char :=
  unifyBreaksOn [] text

end HouseStyle
