import HouseStyle.Pattern.Escape
import HouseStyle.Pattern.Flags
import HouseStyle.Pattern.Matching

namespace HouseStyle

/-!
# Reading patterns

Patterns are written as regular expressions. A text that is none is refused with
the first fault and its position.
-/

namespace PatternReader

/-! ## Repetitions -/

/-- The least repetition count that is refused. -/
def repeatLimit : Nat := 4294967295

/-- A count of repetitions, if one is written. -/
def countOf? (digits : String) : PatternReader (Option Nat) := do
  if digits.isEmpty then
    pure none
  else if greatestDigitCount < digits.length then
    fail (.longCount digits.length) 0
  else
    let count := digitsValue 10 digits
    if repeatLimit ≤ count then fail .hugeCount 0 else pure (some count)

/-- The least and the greatest number of repetitions. -/
abbrev Counts := Nat × Option Nat

/-- Read the counts behind an opening brace; none if it is an ordinary one. -/
def readCounts : PatternReader (Option Counts) := do
  let before ← get
  let start ← position
  if ← nextIs '\x7d' then
    pure none
  else
    let low ← takeAll isAsciiDigit
    let high ← if ← skip ',' then takeAll isAsciiDigit else pure low
    if ← skip '\x7d' then
      let least := (← countOf? low).getD 0
      let most ← countOf? high
      if most.any (· < least) then
        failAt .minExceedsMax start
      else
        pure (some (least, most))
    else
      set before
      pure none

/-- The counts that a repetition mark asks for; none for an ordinary character. -/
def readRepetition (sign : PatternSign) : PatternReader (Option Counts) :=
  if sign.is '?' then
    pure (some (0, some 1))
  else if sign.is '*' then
    pure (some (0, none))
  else if sign.is '+' then
    pure (some (1, none))
  else
    readCounts

/-- Read how a repetition chooses. -/
def readEagerness : PatternReader Eagerness := do
  if ← skip '?' then
    pure .reluctant
  else if ← skip '+' then
    pure .possessive
  else
    pure .greedy

/-- Repeat the last part of a sequence. -/
def repeatLast
    (mark : Nat)
    (counts : Counts)
    (reversed : List Pattern) :
    PatternReader (List Pattern) := do
  match reversed with
  | [] => failAt .nothingToRepeat mark
  | .anchor _ :: _ => failAt .nothingToRepeat mark
  | .repeated .. :: _ => failAt .multipleRepeat mark
  | part :: before =>
      let eagerness ← readEagerness
      pure (.repeated eagerness counts.1 counts.2 part :: before)

/-! ## Groups -/

/-- What a parenthesis opens. -/
inductive GroupKind
  | numbered (name : Option String)
  | plain
  | atomic
  | look (behind negated : Bool)
  | changed (change : OptionChange)
  | condition (number : Nat)
  /-- There is nothing more to read than this part, if it is one. -/
  | closed (part : Option Pattern)
  /-- Letters of options for the whole pattern. -/
  | options (letters : List Char)

/-- Whether a text may name a group. -/
def isGroupName (name : String) : Bool :=
  match name.toList with
  | [] => false
  | first :: rest =>
      isWordCharacter first && !isDecimalDigit first &&
        rest.all isWordCharacter

/-- Read the name of a group up to its terminator. -/
def readGroupName (terminator : Char) : PatternReader String := do
  let name ← takeUntil terminator "group name"
  if isGroupName name then
    pure name
  else
    fail (.badGroupName name) (name.length + 1)

/-- The number of the group of a name that has just been read. -/
def groupOf (name : String) : PatternReader Nat := do
  match (← get).names.lookup name with
  | some number => pure number
  | none => fail (.unknownGroup name) (name.length + 1)

/-- The greatest number of groups. -/
def greatestGroup : Nat := 1073741823

/-- Read the number of a group that a condition asks for. -/
def readConditionNumber (name : String) : PatternReader Nat := do
  let back := name.length + 1
  match readInteger name with
  | .error _ => fail (.badGroupName name) back
  | .ok number =>
      if number < 0 then
        fail (.badGroupName name) back
      else if number = 0 then
        fail .badGroupNumber back
      else
        let number := number.toNat
        if greatestGroup ≤ number then
          fail (.invalidReference number) back
        else
          let place := (← position) - back
          modify fun progress =>
            { progress with
              conditions :=
                if (progress.conditions.lookup number).isSome then
                  progress.conditions
                else
                  (number, place) :: progress.conditions }
          pure number

/-- Read what a condition asks for. -/
def readCondition : PatternReader GroupKind := do
  let name ← takeUntil ')' "group name"
  let number ←
    if isGroupName name then groupOf name else readConditionNumber name
  checkOutside number
  pure (.condition number)

/-- Read what follows the letter of a name: a named group, or its text again. -/
def readNamed (rule : CaseRule) : PatternReader GroupKind := do
  if ← skip '<' then
    pure (.numbered (some (← readGroupName '>')))
  else if ← skip '=' then
    let name ← readGroupName ')'
    let number ← groupOf name
    let part ← readReference rule number (name.length + 1)
    pure (.closed (some part))
  else
    match ← take? with
    | none => fail .unexpectedEnd 0
    | some sign =>
        fail (.unknownExtension ("P" ++ sign.text)) (sign.text.length + 2)

/-- Read up to the parenthesis that closes a comment. -/
def skipComment (start : Nat) : Nat → PatternReader Unit
  | 0 => failAt .unterminatedComment start
  | fuel + 1 => do
      match ← next? with
      | none => failAt .unterminatedComment start
      | some sign =>
          let _ ← take?
          if sign.is ')' then pure () else skipComment start fuel

/-- Read what a part looks behind for. -/
def readBehind : PatternReader GroupKind := do
  match ← take? with
  | none => fail .unexpectedEnd 0
  | some sign =>
      if sign.is '=' then
        pure (.look true false)
      else if sign.is '!' then
        pure (.look true true)
      else
        fail (.unknownExtension ("<" ++ sign.text)) (sign.text.length + 2)

/-- Read what a parenthesis at a position opens. -/
def readGroupKind
    (rule : CaseRule)
    (start fuel : Nat) :
    PatternReader GroupKind := do
  if ← skip '?' then
    match ← take? with
    | none => fail .unexpectedEnd 0
    | some sign =>
        let unknown : PatternReader GroupKind :=
          fail (.unknownExtension sign.text) (sign.text.length + 1)
        if sign.escaped then
          unknown
        else
          match sign.character.getD '\\' with
          | 'P' => readNamed rule
          | ':' => pure .plain
          | '#' =>
              skipComment start fuel
              pure (.closed none)
          | '=' => pure (.look false false)
          | '!' => pure (.look false true)
          | '<' => readBehind
          | '(' => readCondition
          | '>' => pure .atomic
          | character =>
              if optionLetters.contains character || character == '-' then
                match ← readOptionLetters sign fuel with
                | (_, some change) => pure (.changed change)
                | (letters, none) => pure (.options letters)
              else
                unknown
  else
    pure (.numbered none)

/-- Turn on options for the whole pattern. -/
def addOptions (letters : List Char) : PatternReader PatternOptions := do
  let change : OptionChange := { on := letters, off := [] }
  let options := (← get).options.change change
  modify fun progress =>
    { progress with options, letters := progress.letters ++ letters }
  pure options

/-- Open a group, and give its number. -/
def openGroup (name : Option String) : PatternReader Nat := do
  let progress ← get
  let number := progress.groups.length + 1
  let names ←
    match name with
    | none => pure progress.names
    | some name =>
        match progress.names.lookup name with
        | some former =>
            fail (.repeatedGroup name number former) (name.length + 1)
        | none => pure ((name, number) :: progress.names)
  set { progress with groups := progress.groups ++ [none], names }
  pure number

/-- Close a group. -/
def closeGroup (number : Nat) (part : Pattern) : PatternReader Unit :=
  modify fun progress =>
    { progress with
      groups := progress.groups.set (number - 1) (some part.width) }

/-- Read the parenthesis that closes what was opened at a position. -/
def readClosing (start : Nat) : PatternReader Unit := do
  if !(← skip ')') then
    failAt .missingParenthesis start

/-- Read a part that looks behind: it knows the groups in front of it. -/
def inside
    (behind : Bool)
    (read : PatternReader Pattern) :
    PatternReader Pattern := do
  let before := (← get).outside
  if behind && before.isNone then
    modify fun progress =>
      { progress with outside := some progress.groups.length }
    let part ← read
    modify fun progress => { progress with outside := none }
    pure part
  else
    read

/-! ## Patterns -/

/-- Leave out a comment up to the end of its line. -/
def skipLine : Nat → PatternReader Unit
  | 0 => pure ()
  | fuel + 1 => do
      match ← take? with
      | none => pure ()
      | some sign => if sign.is '\n' then pure () else skipLine fuel

/-- A character that may be left out between the parts of a pattern. -/
def isSpace (character : Char) : Bool :=
  [' ', '\t', '\n', '\r', '\x0b', '\x0c'].contains character

/-- The part that a character without a backslash stands for. -/
def plainPart (options : PatternOptions) (character : Char) : Pattern :=
  match character with
  | '.' => .any options.dotAll
  | '^' => .anchor (if options.byLine then .lineStart else .start)
  | '$' => .anchor (if options.byLine then .lineEnd else .lastEnd)
  | _ => .literal options.rule character.toNat

mutual

/--
Read options up to the end of the pattern or a closing parenthesis. At the top
the options of the whole pattern hold.
-/
def readOptions
    (top : Bool)
    (options : PatternOptions)
    (reversed : List Pattern) :
    Nat →
    PatternReader Pattern
  | 0 => fail .unexpectedEnd 0
  | fuel + 1 => do
      let whole := (← get).options
      let options := if top then whole else options
      let parts ← readParts (top && reversed.isEmpty) options [] fuel
      let option := Pattern.sequence parts
      if ← skip '|' then
        readOptions top options (option :: reversed) fuel
      else
        match reversed with
        | [] => pure option
        | _ => pure (.choice (option :: reversed).reverse)

/-- Read the parts of one option; only the first one may start with options. -/
def readParts
    (first : Bool)
    (options : PatternOptions)
    (reversed : List Pattern) :
    Nat →
    PatternReader (List Pattern)
  | 0 => fail .unexpectedEnd 0
  | fuel + 1 => do
      match ← next? with
      | none => pure reversed.reverse
      | some sign =>
          if sign.is '|' || sign.is ')' then
            pure reversed.reverse
          else
            let _ ← take?
            let character := sign.character.getD '\\'
            if sign.escaped then
              let part ← readEscape options sign
              readParts first options (part :: reversed) fuel
            else if options.spaced && isSpace character then
              readParts first options reversed fuel
            else if options.spaced && character = '#' then
              skipLine fuel
              readParts first options reversed fuel
            else if character = '[' then
              let negated ← skip '^'
              let members ← readSet options.ascii sign.position [] fuel
              let part := Pattern.set options.rule negated members
              readParts first options (part :: reversed) fuel
            else if character = '(' then
              readGroup first options reversed sign.position fuel
            else if ['?', '*', '+', '\x7b'].contains character then
              match ← readRepetition sign with
              | none =>
                  let part := plainPart options character
                  readParts first options (part :: reversed) fuel
              | some counts =>
                  let reversed ← repeatLast sign.position counts reversed
                  readParts first options reversed fuel
            else
              let part := plainPart options character
              readParts first options (part :: reversed) fuel

/-- Read a group and the parts behind it. -/
def readGroup
    (first : Bool)
    (options : PatternOptions)
    (reversed : List Pattern)
    (start : Nat) :
    Nat →
    PatternReader (List Pattern)
  | 0 => fail .unexpectedEnd 0
  | fuel + 1 => do
      match ← readGroupKind options.rule start fuel with
      | .closed none => readParts first options reversed fuel
      | .closed (some part) => readParts first options (part :: reversed) fuel
      | .options letters =>
          if first && reversed.isEmpty then
            let options ← addOptions letters
            readParts first options reversed fuel
          else
            failAt .misplacedFlags start
      | .numbered name =>
          let number ← openGroup name
          let part ← readOptions false options [] fuel
          readClosing start
          closeGroup number part
          readParts first options (.group number part :: reversed) fuel
      | .plain =>
          let part ← readOptions false options [] fuel
          readClosing start
          readParts first options (.group none part :: reversed) fuel
      | .changed change =>
          let part ← readOptions false (options.change change) [] fuel
          readClosing start
          readParts first options (.group none part :: reversed) fuel
      | .atomic =>
          let part ← readOptions false options [] fuel
          readClosing start
          readParts first options (.atomic part :: reversed) fuel
      | .look behind negated =>
          let part ← inside behind (readOptions false options [] fuel)
          readClosing start
          let width := if behind then some part.width else none
          let part := Pattern.look width negated part
          readParts first options (part :: reversed) fuel
      | .condition number =>
          let present ← readParts false options [] fuel
          let absent ←
            if ← skip '|' then readParts false options [] fuel else pure []
          if ← nextIs '|' then
            fail .manyBranches 0
          else
            readClosing start
            let part :=
              Pattern.conditional number (.sequence present) (.sequence absent)
            readParts first options (part :: reversed) fuel

end

/-- Refuse conditions that ask for groups that there are not. -/
def checkConditions : PatternReader Unit := do
  let progress ← get
  let missing :=
    progress.conditions.reverse.find? fun (number, _) =>
      progress.groups.length < number
  match missing with
  | none => pure ()
  | some (number, place) => failAt (.invalidReference number) place

/-- Read a whole pattern. -/
def readPattern : PatternReader Pattern := do
  check
  let fuel := 3 * (← get).length + 3
  let pattern ← readOptions true {} [] fuel
  let letters := (← get).letters
  if letters.contains 'a' && letters.contains 'u' then
    fail .mixedScripts 0
  else if (← next?).isSome then
    fail .unbalancedParenthesis 0
  else
    checkConditions
    match pattern.cause? (letters.contains 't') with
    | some cause => fail cause 0
    | none => pure pattern

end PatternReader

/-- Read a pattern. -/
def Pattern.read (text : String) : Except PatternFault Pattern := do
  let characters := text.toList
  let progress : PatternProgress :=
    { signs := patternSigns 0 characters, length := characters.length }
  let (pattern, _) ← PatternReader.readPattern.run progress
  pure pattern

end HouseStyle
