import HouseStyle.Pattern.Sign

namespace HouseStyle

/-!
# Escapes and sets of patterns

A backslash with a letter stands for a character, a kind of characters or a
place; with digits it stands for a character or for a group. A set lists
characters, ranges of them and kinds.
-/

/-- Characters that letters behind a backslash stand for. -/
def patternEscapes : List (Char × Char) :=
  [('a', '\x07'), ('f', '\x0c'), ('n', '\n'), ('r', '\r'), ('t', '\t'),
    ('v', '\x0b')]

/-- The kind that a letter behind a backslash stands for. -/
def escapedKind? : Char → Option (CharacterKind × Bool)
  | 'd' => some (.digit, false)
  | 'D' => some (.digit, true)
  | 'w' => some (.word, false)
  | 'W' => some (.word, true)
  | 's' => some (.blank, false)
  | 'S' => some (.blank, true)
  | _ => none

/-- The anchor that a letter behind a backslash stands for. -/
def escapedAnchor? (ascii : Bool) : Char → Option Anchor
  | 'A' => some .start
  | 'Z' => some .finish
  | 'b' => some (.wordEdge ascii false)
  | 'B' => some (.wordEdge ascii true)
  | _ => none

/-- A digit in base sixteen. -/
def isSixteenDigit (character : Char) : Bool :=
  (baseDigit? 16 character).isSome && character.toNat < 0x80

/-- A digit in base eight. -/
def isEightDigit (character : Char) : Bool :=
  '0' ≤ character && character ≤ '7'

/-- The value of digits in a base. -/
def digitsValue (base : Nat) (digits : String) : Nat :=
  natOfDigits base (digits.toList.filterMap (baseDigit? base))

/-- The greatest code point. -/
def greatestCodePoint : Nat := 0x10FFFF

/-- The greatest value of an escape in base eight. -/
def greatestEight : Nat := 0xFF

/-- How many digits behind a letter give a code point. -/
def codeLength? : Char → Option Nat
  | 'x' => some 2
  | 'u' => some 4
  | 'U' => some 8
  | _ => none

namespace PatternReader

/-- Stop at an escape that stands for nothing. -/
def failEscape {Value : Type} (escape : String) : PatternReader Value :=
  fail (.badEscape escape) escape.length

/-- Read the digits of a code point. -/
def readCode (sign : PatternSign) (length : Nat) : PatternReader Nat := do
  let digits ← takeMost isSixteenDigit length
  let escape := sign.text ++ digits
  if digits.length < length then
    fail (.incompleteEscape escape) escape.length
  else
    let code := digitsValue 16 digits
    if greatestCodePoint < code then failEscape escape else pure code

/-- Read the name of a character; no names are known. -/
def readCharacterName : PatternReader Nat := do
  if ← skip '\x7b' then
    let name ← takeUntil '\x7d' "character name"
    fail (.unknownCharacter name) (name.length + 4)
  else
    fail (.missing "\x7b") 0

/-- The code point of digits in base eight, if it is not too large. -/
def readEight (escape digits : String) : PatternReader Nat := do
  let code := digitsValue 8 digits
  if greatestEight < code then
    fail (.octalTooLarge escape) escape.length
  else
    pure code

/-- Read the code point of an escape without a meaning of its own. -/
def readEscapedCode
    (sign : PatternSign)
    (character : Char) :
    PatternReader Nat := do
  match patternEscapes.lookup character with
  | some plain => pure plain.toNat
  | none =>
      match codeLength? character with
      | some length => readCode sign length
      | none =>
          if character = 'N' then
            readCharacterName
          else if isAsciiLetter character then
            failEscape sign.text
          else
            pure character.toNat

/-- Read the member of a set that a sign starts. -/
def readMember (ascii : Bool) (sign : PatternSign) : PatternReader SetMember := do
  let character := sign.character.getD '\\'
  let code ←
    if !sign.escaped then
      pure character.toNat
    else
      match escapedKind? character with
      | some (kind, negated) => return .ofKind kind ascii negated
      | none =>
          if character = 'b' then
            pure 8
          else if isEightDigit character then
            let digits := character.toString ++ (← takeMost isEightDigit 2)
            readEight ("\\" ++ digits) digits
          else if isAsciiDigit character then
            failEscape sign.text
          else
            readEscapedCode sign character
  pure (.range code code)

/-- Read the range between two members of a set. -/
def readRange
    (low high : PatternSign)
    (first last : SetMember) :
    PatternReader SetMember := do
  let width := low.text.length + 1 + high.text.length
  let bad : PatternReader SetMember :=
    fail (.badRange low.text high.text) width
  match first, last with
  | .range low _, .range high _ =>
      if high < low then bad else pure (.range low high)
  | _, _ => bad

/-- Read the members of a set up to its closing bracket. -/
def readSet
    (ascii : Bool)
    (start : Nat)
    (reversed : List SetMember) :
    Nat →
    PatternReader (List SetMember)
  | 0 => failAt .unterminatedSet start
  | fuel + 1 => do
      match ← take? with
      | none => failAt .unterminatedSet start
      | some low =>
          if low.is ']' && !reversed.isEmpty then
            pure reversed.reverse
          else
            let first ← readMember ascii low
            if ← skip '-' then
              match ← take? with
              | none => failAt .unterminatedSet start
              | some high =>
                  if high.is ']' then
                    pure (.range 0x2D 0x2D :: first :: reversed).reverse
                  else
                    let last ← readMember ascii high
                    let member ← readRange low high first last
                    readSet ascii start (member :: reversed) fuel
            else
              readSet ascii start (first :: reversed) fuel

/-! ## References to groups -/

/-- The width of a group that is closed. -/
def closedWidth? (number : Nat) : PatternReader (Option PatternWidth) := do
  if number = 0 then
    pure none
  else
    pure ((← get).groups[number - 1]?).join

/-- Refuse a group that the part that looks behind holds itself. -/
def checkOutside (number : Nat) : PatternReader Unit := do
  match (← get).outside with
  | none => pure ()
  | some outside =>
      if (← closedWidth? number).isNone then
        fail .openReference 0
      else if outside < number then
        fail .innerReference 0

/-- Read a reference to a group; `back` leads to the start of its name. -/
def readReference
    (rule : CaseRule)
    (number back : Nat) :
    PatternReader Pattern := do
  match ← closedWidth? number with
  | none => fail .openReference back
  | some width =>
      checkOutside number
      pure (.reference rule number width)

/-- Read an escape that starts with a digit other than zero. -/
def readNumbered
    (rule : CaseRule)
    (first : Char) :
    PatternReader Pattern := do
  let second ← takeMost isAsciiDigit 1
  let digits := first.toString ++ second
  let isEight := !second.isEmpty && digits.toList.all isEightDigit
  let third ← if isEight then takeMost isEightDigit 1 else pure ""
  if third.isEmpty then
    let number := digitsValue 10 digits
    if number ≤ (← get).groups.length then
      readReference rule number (digits.length + 1)
    else
      fail (.invalidReference number) digits.length
  else
    let digits := digits ++ third
    pure (.literal rule (← readEight ("\\" ++ digits) digits))

/-- Read the pattern that an escape outside a set starts. -/
def readEscape
    (options : PatternOptions)
    (sign : PatternSign) :
    PatternReader Pattern := do
  let character := sign.character.getD '\\'
  match escapedKind? character, escapedAnchor? options.ascii character with
  | some (kind, negated), _ =>
      pure (.set .exact false [.ofKind kind options.ascii negated])
  | none, some anchor => pure (.anchor anchor)
  | none, none =>
      if character = '0' then
        let digits ← takeMost isEightDigit 2
        pure (.literal options.rule (digitsValue 8 digits))
      else if isAsciiDigit character then
        readNumbered options.rule character
      else
        pure (.literal options.rule (← readEscapedCode sign character))

end PatternReader

end HouseStyle
