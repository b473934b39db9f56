import HouseStyle.Files.Tree

namespace HouseStyle

/-!
# Options on the command line

An option has a long name behind two dashes and may have a letter behind one.
A value stands behind the name, joined by `=`, or in the next argument; behind a
letter it may follow directly. Two dashes alone end the options.
-/

/-- An option that a command takes. -/
structure OptionShape where
  long : String
  letter : Option Char := none
  takesValue : Bool := false
  deriving Repr, DecidableEq

/-- Why a command line is refused. -/
inductive UsageFault
  | unknownOption (name : String)
  | missingValue (option : String)
  | unwantedValue (option : String)
  | badValue (option value : String)
  | missingCommand
  | unknownCommand (name : String)
  | missingPaths
  | noSuchPath (path : String)
  /-- No path can hold a NUL. -/
  | nulInPath
  | unwantedArgument (argument : String)
  deriving Repr, DecidableEq

/-- The wording of a refusal. -/
def UsageFault.message : UsageFault → String
  | .unknownOption name => "no such option: " ++ name
  | .missingValue option => "option --" ++ option ++ " requires an argument"
  | .unwantedValue option => "option --" ++ option ++ " takes no value"
  | .badValue option value =>
      "invalid value for --" ++ option ++ ": " ++ value
  | .missingCommand => "missing command"
  | .unknownCommand name => "no such command: " ++ name
  | .missingPaths => "missing paths"
  | .noSuchPath path => "path does not exist: " ++ path
  | .nulInPath => LookupFault.embeddedNul.message
  | .unwantedArgument argument => "unexpected argument: " ++ argument

/-- An option as it is given; a flag has an empty value. -/
structure GivenOption where
  long : String
  value : String
  deriving Repr, DecidableEq

/-- What one argument gives: options, and one that still waits for its value. -/
structure ReadOption where
  given : List GivenOption
  waiting : Option String
  deriving Repr, DecidableEq

/-- The part of an argument before its first `=`, and the part behind it. -/
def splitValue (argument : List Char) : String × Option String :=
  let name := argument.takeWhile (· != '=')
  match argument.drop name.length with
  | [] => (String.ofList name, none)
  | _ :: value => (String.ofList name, some (String.ofList value))

/-- Read an argument that starts with two dashes. -/
def readLongOption
    (shapes : List OptionShape)
    (argument : String) :
    Except UsageFault ReadOption :=
  let (name, value) := splitValue (argument.toList.drop 2)
  match shapes.find? (·.long == name) with
  | none => .error (.unknownOption ("--" ++ name))
  | some shape =>
      match shape.takesValue, value with
      | true, some value =>
          .ok { given := [{ long := shape.long, value }], waiting := none }
      | true, none => .ok { given := [], waiting := some shape.long }
      | false, some _ => .error (.unwantedValue shape.long)
      | false, none =>
          .ok { given := [{ long := shape.long, value := "" }], waiting := none }

/-- Read the letters behind one dash. -/
def readLetters
    (shapes : List OptionShape) :
    List Char →
    Except UsageFault ReadOption
  | [] => .ok { given := [], waiting := none }
  | letter :: rest =>
      match shapes.find? (·.letter == some letter) with
      | none => .error (.unknownOption ("-" ++ letter.toString))
      | some shape =>
          if shape.takesValue then
            match rest with
            | [] => .ok { given := [], waiting := some shape.long }
            | _ =>
                .ok
                  { given :=
                      [{ long := shape.long, value := String.ofList rest }]
                    waiting := none }
          else
            (readLetters shapes rest).map fun found =>
              { found with
                given := { long := shape.long, value := "" } :: found.given }

/-- Read an argument that is an option. -/
def readOption
    (shapes : List OptionShape)
    (argument : String) :
    Except UsageFault ReadOption :=
  if argument.startsWith "--" then
    readLongOption shapes argument
  else
    readLetters shapes (argument.toList.drop 1)

/-- Whether an argument is an option. -/
def isOption (argument : String) : Bool :=
  argument.startsWith "-" && argument != "-"

/-- The options of a command in their order, and its other arguments. -/
structure Arguments where
  given : List GivenOption
  plain : List String
  deriving Repr, DecidableEq

namespace Arguments

/--
Read arguments behind those in `given` and `plain`, which are in reverse. In a
command that mixes, options may stand behind other arguments.
-/
def readFrom
    (shapes : List OptionShape)
    (mixes : Bool)
    (given : List GivenOption)
    (plain : List String) :
    List String →
    Except UsageFault Arguments
  | [] => .ok { given := given.reverse, plain := plain.reverse }
  | argument :: rest =>
      if argument = "--" then
        .ok { given := given.reverse, plain := plain.reverse ++ rest }
      else if isOption argument then
        match readOption shapes argument with
        | .error fault => .error fault
        | .ok found =>
            let given := found.given.reverse ++ given
            match found.waiting, rest with
            | none, rest => readFrom shapes mixes given plain rest
            | some long, [] => .error (.missingValue long)
            | some long, value :: rest =>
                readFrom shapes mixes ({ long, value } :: given) plain rest
      else if mixes then
        readFrom shapes mixes given (argument :: plain) rest
      else
        .ok { given := given.reverse, plain := plain.reverse ++ argument :: rest }

/-- Read arguments. -/
def read
    (shapes : List OptionShape)
    (mixes : Bool)
    (arguments : List String) :
    Except UsageFault Arguments :=
  readFrom shapes mixes [] [] arguments

/-- Every value of an option, in order. -/
def values
    (arguments : Arguments)
    (long : String) :
    List String :=
  (arguments.given.filter (·.long == long)).map GivenOption.value

/-- The value of an option; of several the last counts. -/
def value?
    (arguments : Arguments)
    (long : String) :
    Option String :=
  (arguments.values long).getLast?

/-- The first of some options that is given. -/
def firstOf?
    (arguments : Arguments)
    (longs : List String) :
    Option String :=
  (arguments.given.find? fun option => longs.contains option.long).map
    GivenOption.long

end Arguments

end HouseStyle
