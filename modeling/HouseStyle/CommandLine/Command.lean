import HouseStyle.CommandLine.Option
import HouseStyle.Files.Tree
import HouseStyle.Number.Numeral
import HouseStyle.Rule.Finding

namespace HouseStyle

/-!
# Commands

What a command line asks for: a check of some paths, a list of the rules or of
the languages, or a word about the program itself.
-/

/-- The form of a report. -/
inductive ReportForm
  | table
  | text
  | json
  deriving Repr, DecidableEq, Inhabited

/-- The form of that name. -/
def ReportForm.ofName? : String → Option ReportForm
  | "table" => some .table
  | "text" => some .text
  | "json" => some .json
  | _ => none

/-- A request to check some paths. -/
structure CheckRequest where
  /-- The configuration that is asked for. -/
  configuration : Option String := none
  paths : List String
  form : ReportForm := .table
  failOn : Option Severity := none
  jobs : Option Int := none
  timeout : Option Binary64 := none
  exclude : List String := []
  deriving Repr

/-- What help is about. -/
inductive HelpTopic
  | program
  | check
  | rules
  | languages
  deriving Repr, DecidableEq

/-- What a command line asks for. -/
inductive Command
  | help (topic : HelpTopic)
  | version
  | rules
  | languages
  | check (request : CheckRequest)
  deriving Repr

/-- The option that asks for help. -/
def helpOption : OptionShape := { long := "help" }

/-- The options in front of a command. -/
def programOptions : List OptionShape :=
  [{ long := "config", letter := some 'c', takesValue := true },
    { long := "verbose", letter := some 'v' },
    { long := "version" },
    helpOption]

/-- The options of a check. -/
def checkOptions : List OptionShape :=
  [{ long := "format", takesValue := true },
    { long := "fail-on", takesValue := true },
    { long := "jobs", letter := some 'j', takesValue := true },
    { long := "timeout", takesValue := true },
    { long := "exclude", letter := some 'e', takesValue := true },
    helpOption]

/-- What stands at a path as it is spelled; only a directory ends in a slash. -/
def spelledEntry?
    (surroundings : Surroundings)
    (spelling : String) :
    Except UsageFault (Option (FileNode ByteArray)) :=
  if spelling.contains '\x00' then
    .error .nulInPath
  else if spelling = "" ∨ greatestPathSize < spelling.utf8ByteSize then
    .ok none
  else
    match surroundings.entry (Path.ofString spelling) with
    | .error _ => .ok none
    | .ok node =>
        let endsOpen := spelling.endsWith "/" || spelling.endsWith "/."
        .ok (if endsOpen && !node.isDirectory then none else some node)

/-- Refuse a path that does not exist. -/
def existingPath
    (surroundings : Surroundings)
    (spelling : String) :
    Except UsageFault String := do
  match ← spelledEntry? surroundings spelling with
  | some _ => pure spelling
  | none => throw (.noSuchPath spelling)

/-- Refuse a configuration that is no file. -/
def existingFile
    (surroundings : Surroundings)
    (spelling : String) :
    Except UsageFault String := do
  match ← spelledEntry? surroundings spelling with
  | some (.file _) => pure spelling
  | _ => throw (.badValue "config" spelling)

/-- Read the value of an option that may not be given. -/
def readValue
    {Value : Type}
    (arguments : Arguments)
    (long : String)
    (read? : String → Option Value) :
    Except UsageFault (Option Value) :=
  match arguments.value? long with
  | none => .ok none
  | some text =>
      match read? text with
      | some value => .ok (some value)
      | none => .error (.badValue long text)

/-- Read a number of workers. -/
def readWorkers? (text : String) : Option Int :=
  match readInteger text with
  | .ok count => if 1 ≤ count then some count else none
  | .error _ => none

/-- Read a number of seconds. -/
def readSeconds? (text : String) : Option Binary64 :=
  (readDecimal? text).filter (!·.isNegative)

/-- Read the arguments of a check. -/
def readCheck
    (surroundings : Surroundings)
    (configuration : Option String)
    (arguments : Arguments) :
    Except UsageFault CheckRequest := do
  let form ← readValue arguments "format" ReportForm.ofName?
  let failOn ← readValue arguments "fail-on" Severity.ofName?
  let jobs ← readValue arguments "jobs" readWorkers?
  let timeout ← readValue arguments "timeout" readSeconds?
  if arguments.plain.isEmpty then
    throw .missingPaths
  let paths ← arguments.plain.mapM (existingPath surroundings)
  pure
    { configuration
      paths
      form := form.getD .table
      failOn
      jobs
      timeout
      exclude := arguments.values "exclude" }

/-- Read the arguments of a command that takes none but a request for help. -/
def readBare
    (command : Command)
    (topic : HelpTopic)
    (arguments : List String) :
    Except UsageFault Command := do
  let arguments ← Arguments.read [helpOption] true arguments
  match arguments.firstOf? ["help"], arguments.plain with
  | some _, _ => pure (.help topic)
  | none, [] => pure command
  | none, argument :: _ => throw (.unwantedArgument argument)

/-- What stands at the front of a command line. -/
inductive CommandLineFront
  /-- A request for help or for the version, which leaves the rest unread. -/
  | request (command : Command)
  /-- The configuration that is asked for, and the arguments behind the options. -/
  | options (configuration : Option String) (rest : List String)
  deriving Repr

/-- Read the options of the program. -/
def readProgramOptions
    (surroundings : Surroundings)
    (arguments : List String) :
    Except UsageFault CommandLineFront := do
  let arguments ← Arguments.read programOptions false arguments
  match arguments.firstOf? ["help", "version"] with
  | some "help" => pure (.request (.help .program))
  | some _ => pure (.request .version)
  | none =>
      match arguments.value? "config" with
      | none => pure (.options none arguments.plain)
      | some spelling =>
          let spelling ← existingFile surroundings spelling
          pure (.options (some spelling) arguments.plain)

/--
Refuse an argument that names no command. Behind two dashes it may be an option
of the program, so the arguments from there on are read as such once more; a
request among them is granted even then.
-/
def readUnnamed
    (surroundings : Surroundings)
    (name : String)
    (arguments : List String) :
    Except UsageFault Command := do
  match ← readProgramOptions surroundings (name :: arguments) with
  | .request command => pure command
  | .options _ _ => throw (.unknownCommand name)

/-- Read a command with its arguments. -/
def readNamed
    (surroundings : Surroundings)
    (configuration : Option String)
    (name : String)
    (arguments : List String) :
    Except UsageFault Command :=
  match name with
  | "rules" => readBare .rules .rules arguments
  | "languages" => readBare .languages .languages arguments
  | "check" => do
      let arguments ← Arguments.read checkOptions true arguments
      match arguments.firstOf? ["help"] with
      | some _ => pure (.help .check)
      | none => (readCheck surroundings configuration arguments).map .check
  | name => readUnnamed surroundings name arguments

/-- Read a command line. -/
def Command.ofArguments
    (surroundings : Surroundings)
    (arguments : List String) :
    Except UsageFault Command := do
  match ← readProgramOptions surroundings arguments with
  | .request command => pure command
  | .options _ [] => throw .missingCommand
  | .options configuration (name :: rest) =>
      readNamed surroundings configuration name rest

end HouseStyle
