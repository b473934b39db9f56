import HouseStyle.Pattern.Fault

namespace HouseStyle

/-!
# Signs of patterns

A pattern's text is a row of signs: characters, and escapes of a backslash with
a character. A lone backslash at the end shows as soon as the sign before it has
been taken.
-/

/-- An element of a pattern's text: a character or an escape. -/
structure PatternSign where
  /-- The character, or the one behind a backslash; none for a lone backslash. -/
  character : Option Char
  escaped : Bool
  position : Nat
  deriving Repr, DecidableEq

namespace PatternSign

/-- Whether the sign is that unescaped character. -/
def is (sign : PatternSign) (character : Char) : Bool :=
  !sign.escaped && sign.character == some character

/-- Whether the sign is an unescaped character of a class. -/
def isIn (sign : PatternSign) (accepted : Char → Bool) : Bool :=
  !sign.escaped && sign.character.any accepted

/-- The sign as it is written. -/
def text (sign : PatternSign) : String :=
  let character := (sign.character.map Char.toString).getD ""
  if sign.escaped then "\\" ++ character else character

end PatternSign

/-- Cut a pattern into its signs. -/
def patternSigns (position : Nat) : List Char → List PatternSign
  | [] => []
  | '\\' :: character :: rest =>
      { character := some character, escaped := true, position } ::
        patternSigns (position + 2) rest
  | '\\' :: [] => [{ character := none, escaped := true, position }]
  | character :: rest =>
      { character := some character, escaped := false, position } ::
        patternSigns (position + 1) rest

/-- The options of a pattern or a part of it. -/
structure PatternOptions where
  ignoresCase : Bool := false
  /-- Anchors hold at every line. -/
  byLine : Bool := false
  /-- The dot stands for the line feed too. -/
  dotAll : Bool := false
  /-- Blanks and comments are left out. -/
  spaced : Bool := false
  /-- Kinds of characters are of ASCII alone. -/
  ascii : Bool := false
  deriving Repr, DecidableEq

/-- Which characters count as one under some options. -/
def PatternOptions.rule (options : PatternOptions) : CaseRule :=
  if !options.ignoresCase then
    .exact
  else if options.ascii then
    .asciiAlike
  else
    .alike

/-- What is left of a pattern, and what has been met in it. -/
structure PatternProgress where
  signs : List PatternSign
  /-- The position behind the last sign. -/
  length : Nat
  /-- The widths of the groups in order; an open group has none yet. -/
  groups : List (Option PatternWidth) := []
  /-- The names of groups, with their numbers. -/
  names : List (String × Nat) := []
  /-- Inside a part that looks behind, the number of groups in front of it. -/
  outside : Option Nat := none
  /-- The numbers that conditions ask for, and where; the first one last. -/
  conditions : List (Nat × Nat) := []
  /-- The options of the whole pattern. -/
  options : PatternOptions := {}
  /-- The letters of the options that hold for the whole pattern. -/
  letters : List Char := []
  deriving Repr

/-- A step in reading a pattern. -/
abbrev PatternReader := StateT PatternProgress (Except PatternFault)

namespace PatternReader

/-- The position of the next sign. -/
def position : PatternReader Nat := do
  let progress ← get
  pure ((progress.signs.head?.map PatternSign.position).getD progress.length)

/-- Stop with a fault at a position. -/
def failAt
    {Value : Type}
    (cause : PatternCause)
    (position : Nat) :
    PatternReader Value :=
  throw { cause, position }

/-- Stop with a fault so many characters before the next sign. -/
def fail
    {Value : Type}
    (cause : PatternCause)
    (back : Nat) :
    PatternReader Value := do
  failAt cause ((← position) - back)

/-- Refuse a lone backslash that is next. -/
def check : PatternReader Unit := do
  match (← get).signs with
  | { character := none, position, .. } :: _ =>
      failAt .danglingBackslash position
  | _ => pure ()

/-- The next sign, which is not taken. -/
def next? : PatternReader (Option PatternSign) := do
  pure (← get).signs.head?

/-- Whether that unescaped character is next. -/
def nextIs (character : Char) : PatternReader Bool := do
  pure ((← next?).any (·.is character))

/-- Take the next sign. -/
def take? : PatternReader (Option PatternSign) := do
  let sign ← next?
  modify fun progress => { progress with signs := progress.signs.drop 1 }
  check
  pure sign

/-- Take that character if it is next, and say whether it was. -/
def skip (character : Char) : PatternReader Bool := do
  if ← nextIs character then
    let _ ← take?
    pure true
  else
    pure false

/-- Take at most so many characters of a class. -/
def takeMost (accepted : Char → Bool) : Nat → PatternReader String
  | 0 => pure ""
  | count + 1 => do
      match ← next? with
      | none => pure ""
      | some sign =>
          if sign.isIn accepted then
            let _ ← take?
            pure (sign.text ++ (← takeMost accepted count))
          else
            pure ""

/-- Take all characters of a class. -/
def takeAll (accepted : Char → Bool) : PatternReader String := do
  takeMost accepted (← get).signs.length

/-- Take a name up to its terminator, `read` being what has been taken of it. -/
def takeName
    (terminator : Char)
    (what read : String) :
    Nat →
    PatternReader String
  | 0 => fail (.missing what) 0
  | fuel + 1 => do
      match ← take? with
      | none =>
          if read = "" then
            fail (.missing what) 0
          else
            fail (.unterminatedName terminator) read.length
      | some sign =>
          if sign.is terminator then
            if read = "" then fail (.missing what) 1 else pure read
          else
            takeName terminator what (read ++ sign.text) fuel

/-- Take a name and its terminator. -/
def takeUntil (terminator : Char) (what : String) : PatternReader String := do
  takeName terminator what "" ((← get).signs.length + 1)

end PatternReader

end HouseStyle
