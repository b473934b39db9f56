import HouseStyle.Files.Tree
import HouseStyle.Number.Numeral
import HouseStyle.Text.Quoted

namespace HouseStyle

/-!
# Settings of the program

What the environment says about a run: how many workers it has, when it is
cancelled, and where the user's configuration lies.
-/

/-- Settings apart from the configuration of rules. -/
structure Settings where
  /-- The directory of the user's configuration. -/
  directory : Path
  jobs : Option Int := none
  timeout : Option Binary64 := none
  deriving Repr

/-- Why the settings cannot be read. -/
inductive SettingsFault
  | badJobs (fault : IntegerFault)
  | malformedTimeout (text : String)
  | unknownHome
  deriving Repr, DecidableEq

/-- The wording of a fault. -/
def SettingsFault.message : SettingsFault → String
  | .badJobs fault => fault.message
  | .malformedTimeout text => malformedDecimalMessage text
  | .unknownHome => "Could not determine home directory."

namespace Settings

/-- A variable that is set to something. -/
def variableNamed?
    (surroundings : Surroundings)
    (name : String) :
    Option String :=
  (surroundings.environment? name).filter (· != "")

/-- The directory of the user's configuration. -/
def configurationDirectory
    (surroundings : Surroundings) :
    Except SettingsFault Path :=
  match variableNamed? surroundings "XDG_CONFIG_HOME" with
  | some spelling =>
      .ok ((Path.ofString spelling).join (Path.ofString "styleguard"))
  | none =>
      match surroundings.home? with
      | some home => .ok (home.join (Path.ofString ".config/styleguard"))
      | none => .error .unknownHome

/-- The number of workers that the environment asks for. -/
def readJobs
    (surroundings : Surroundings) :
    Except SettingsFault (Option Int) :=
  match variableNamed? surroundings "STYLEGUARD_JOBS" with
  | none => .ok none
  | some text =>
      match readInteger text with
      | .ok jobs => .ok (some jobs)
      | .error fault => .error (.badJobs fault)

/-- The time after which the environment cancels a run. -/
def readTimeout
    (surroundings : Surroundings) :
    Except SettingsFault (Option Binary64) :=
  match variableNamed? surroundings "STYLEGUARD_TIMEOUT" with
  | none => .ok none
  | some text =>
      match readDecimal? text with
      | some timeout => .ok (some timeout)
      | none => .error (.malformedTimeout text)

/-- Read the settings. -/
def ofSurroundings
    (surroundings : Surroundings) :
    Except SettingsFault Settings := do
  let directory ← configurationDirectory surroundings
  let jobs ← readJobs surroundings
  let timeout ← readTimeout surroundings
  pure { directory, jobs, timeout }

/-- The name of a project's configuration. -/
def projectFile : Path :=
  Path.ofString ".styleguard.yaml"

/--
The configuration file to use: the one asked for, else the project's, else the
user's.
-/
def configurationFile?
    (settings : Settings)
    (surroundings : Surroundings)
    (asked : Option String) :
    Except LookupFault (Option Path) :=
  match asked.filter (· != "") with
  | some spelling => .ok (some (Path.ofString spelling))
  | none => do
      let project := surroundings.anchor projectFile
      let user := settings.directory.join (Path.ofString "config.yaml")
      if ← surroundings.isFile project then
        pure (some project)
      else if ← surroundings.isFile user then
        pure (some user)
      else
        pure none

end Settings

end HouseStyle
