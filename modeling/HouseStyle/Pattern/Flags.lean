import HouseStyle.Pattern.Sign

namespace HouseStyle

/-!
# Options inside patterns

Letters behind a question mark turn options on, and off behind a minus, for the
whole pattern or for the part behind a colon.
-/

/-- The letters of options. -/
def optionLetters : List Char := ['i', 'L', 'm', 's', 'x', 'a', 't', 'u']

/-- The letters of options that exclude each other. -/
def scriptLetters : List Char := ['a', 'L', 'u']

/-- Letters that turn options on and off. -/
structure OptionChange where
  on : List Char
  off : List Char
  deriving Repr, DecidableEq

/-- The options after a change. -/
def PatternOptions.change
    (options : PatternOptions)
    (change : OptionChange) :
    PatternOptions :=
  let after (letter : Char) (now : Bool) :=
    (now || change.on.contains letter) && !change.off.contains letter
  { ignoresCase := after 'i' options.ignoresCase
    byLine := after 'm' options.byLine
    dotAll := after 's' options.dotAll
    spaced := after 'x' options.spaced
    ascii := !change.on.contains 'u' && after 'a' options.ascii }

namespace PatternReader

/-- Stop at a sign that is no option, and in its place something is missing. -/
def failOption
    {Value : Type}
    (sign : PatternSign)
    (what : String) :
    PatternReader Value :=
  let cause :=
    if sign.isIn isLetter then .unknownFlag else .missing what
  fail cause sign.text.length
where
  /-- A letter of any script. -/
  isLetter (character : Char) : Bool :=
    isWordCharacter character && !isDecimalDigit character && character != '_'

/-- The letter of an option that a sign is. -/
def optionOf? (sign : PatternSign) : Option Char :=
  sign.character.filter fun letter =>
    !sign.escaped && optionLetters.contains letter

/-- Read the letters that turn options on, and the sign behind them. -/
def readOn
    (reversed : List Char)
    (letter : Char) :
    Nat →
    PatternReader (List Char × PatternSign)
  | 0 => fail (.missing "-, : or )") 0
  | fuel + 1 => do
      if letter = 'L' then
        fail .byteFlag 0
      else
        let reversed := letter :: reversed
        let scripts := scriptLetters.filter reversed.contains
        if scripts.contains letter && 1 < scripts.length then
          fail .exclusiveFlags 0
        else
          match ← take? with
          | none => fail (.missing "-, : or )") 0
          | some sign =>
              if sign.isIn [')', '-', ':'].contains then
                pure (reversed.reverse, sign)
              else
                match optionOf? sign with
                | some letter => readOn reversed letter fuel
                | none => failOption sign "-, : or )"

/-- Read the letters that turn options off, and the colon behind them. -/
def readOff
    (reversed : List Char)
    (letter : Char) :
    Nat →
    PatternReader (List Char)
  | 0 => fail (.missing ":") 0
  | fuel + 1 => do
      if scriptLetters.contains letter then
        fail .lastingFlags 0
      else
        let reversed := letter :: reversed
        match ← take? with
        | none => fail (.missing ":") 0
        | some sign =>
            if sign.is ':' then
              pure reversed.reverse
            else
              match optionOf? sign with
              | some letter => readOff reversed letter fuel
              | none => failOption sign ":"

/-- Read the letters behind a minus, and the colon behind them. -/
def readOffLetters (fuel : Nat) : PatternReader (List Char) := do
  match ← take? with
  | none => fail (.missing "flag") 0
  | some sign =>
      match optionOf? sign with
      | some letter => readOff [] letter fuel
      | none => failOption sign "flag"

/--
Read the letters of options, of which `sign` is the first or a minus. No change
means that they hold for the whole pattern.
-/
def readOptionLetters
    (sign : PatternSign)
    (fuel : Nat) :
    PatternReader (List Char × Option OptionChange) := do
  let (on, ending) ←
    match optionOf? sign with
    | some letter => readOn [] letter fuel
    | none => pure ([], sign)
  if ending.is ')' then
    pure (on, none)
  else if on.contains 't' then
    fail (.globalFlag true) 1
  else
    let off ← if ending.is '-' then readOffLetters fuel else pure []
    if off.contains 't' then
      fail (.globalFlag false) 1
    else if on.any off.contains then
      fail .contradictoryFlags 1
    else
      pure (on, some { on, off })

end PatternReader

end HouseStyle
