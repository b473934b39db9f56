namespace HouseStyle

/-!
# Base 64

Bytes spelled with 64 characters of six bits each. Characters that are none of
them are passed over. Padding ends the bytes where it fills up a group of four
characters; where groups stay unfilled there are no bytes.
-/

/-- The six bits that a character stands for. -/
def sixBits? (character : Char) : Option Nat :=
  let code := character.toNat
  if 'A' ≤ character ∧ character ≤ 'Z' then
    some (code - 'A'.toNat)
  else if 'a' ≤ character ∧ character ≤ 'z' then
    some (code - 'a'.toNat + 26)
  else if '0' ≤ character ∧ character ≤ '9' then
    some (code - '0'.toNat + 52)
  else if character = '+' then
    some 62
  else if character = '/' then
    some 63
  else
    none

/-- The bytes that the six-bit digits of one group make. -/
def groupBytes : List Nat → List UInt8
  | [first, second] => [UInt8.ofNat (first * 4 + second / 16)]
  | [first, second, third] =>
      [UInt8.ofNat (first * 4 + second / 16),
        UInt8.ofNat (second % 16 * 16 + third / 4)]
  | [first, second, third, fourth] =>
      [UInt8.ofNat (first * 4 + second / 16),
        UInt8.ofNat (second % 16 * 16 + third / 4),
        UInt8.ofNat (third % 4 * 64 + fourth)]
  | _ => []

/--
The bytes of a text behind the digits of an open group, which are in `group`.
`pads` counts the padding right behind them.
-/
def bytesOfBase64
    (group : List Nat)
    (pads : Nat) :
    List Char →
    Option (List UInt8)
  | [] => if group.isEmpty then some [] else none
  | character :: rest =>
      if character = '=' then
        if group.length < 2 then
          bytesOfBase64 group pads rest
        else if 4 ≤ group.length + pads + 1 then
          some (groupBytes group)
        else
          bytesOfBase64 group (pads + 1) rest
      else
        match sixBits? character with
        | none => bytesOfBase64 group pads rest
        | some digit =>
            if group.length = 3 then
              (bytesOfBase64 [] 0 rest).map (groupBytes (group ++ [digit]) ++ ·)
            else
              bytesOfBase64 (group ++ [digit]) 0 rest

/-- The bytes that a text spells, if it spells any. -/
def readBase64? (text : String) : Option (List UInt8) :=
  bytesOfBase64 [] 0 text.toList

example : readBase64? "TGVhbg==" = some [76, 101, 97, 110] := by decide +kernel

end HouseStyle
