import HouseStyle.CommandLine.Program

namespace HouseStyle

/-!
# The program on a machine

The files that a command names are loaded into a tree, the command is carried
out, and its outcome is written. A configuration may name further files; each of
them is loaded when it is found to be missing from the tree.
-/

/-- The variables of the environment that the program reads. -/
def variableNames : List String :=
  ["HOME", "XDG_CONFIG_HOME", "STYLEGUARD_JOBS", "STYLEGUARD_TIMEOUT"]

/-- Load a file or directory; a link to a directory loads as an empty one. -/
partial def loadNode (spelling : String) : IO (Option (FileNode ByteArray)) := do
  try
    let path ← IO.FS.realPath spelling
    if ← path.isDir then
      let entries ← path.readDir
      let nodes ← entries.toList.mapM fun entry => do
        let spelling : String := entry.path.toString
        let real ← IO.FS.realPath spelling
        if real.toString != spelling && (← real.isDir) then
          pure (some (entry.fileName, FileNode.empty))
        else
          pure ((← loadNode spelling).map fun node => (entry.fileName, node))
      pure (some (.directory (nodes.filterMap id)))
    else
      pure (some (.file (← IO.FS.readBinFile path)))
  catch _ =>
    pure none

/-- Add what stands at a path to the tree. -/
def loadInto
    (surroundings : Surroundings)
    (path : Path) :
    IO Surroundings := do
  match ← loadNode path.render with
  | none => pure surroundings
  | some node =>
      let components := (surroundings.resolve path).components
      pure
        { surroundings with
          files := node.insert surroundings.files components }

/-- The home directories in a table of users, one user a line. -/
def homesOf (table : String) : List (String × String) :=
  (table.toList.splitOnP (· == '\n')).filterMap fun line =>
    match (line.splitOnP (· == ':')).map String.ofList with
    | [name, _, _, _, _, home, _] => some (name, home)
    | _ => none

/-- The home directories of the machine's users. -/
def readHomes : IO (List (String × String)) := do
  try
    pure (homesOf (← IO.FS.readFile "/etc/passwd"))
  catch _ =>
    pure []

/-- The working directory and the environment, with no file loaded. -/
def readSurroundings : IO Surroundings := do
  let directory := Path.ofString (← IO.currentDir).toString
  let environment ← variableNames.filterMapM fun name => do
    let value ← IO.getEnv name
    pure (value.map fun value => (name, value))
  pure
    { files := FileNode.empty.insert FileNode.empty directory.components
      directory
      environment
      homes := ← readHomes }

/-- The paths at which a configuration may lie without being named. -/
def usualPaths (surroundings : Surroundings) : List Path :=
  let user :=
    match Settings.configurationDirectory surroundings with
    | .ok directory => [directory.join (Path.ofString "config.yaml")]
    | .error _ => []
  Settings.projectFile :: user

/-- The path of a file that a configuration names and the tree misses. -/
def missingPath? : ConfigFailure → Option Path
  | .refused (.unreadable path .missing) => some path
  | .refused (.unreadableLexicon spelling .missing) =>
      some (Path.ofString spelling)
  | _ => none

/-- Load every file that the configuration of a check names. -/
partial def loadReferences
    (request : CheckRequest)
    (surroundings : Surroundings) :
    IO Surroundings := do
  match Settings.ofSurroundings surroundings with
  | .error _ => pure surroundings
  | .ok settings =>
      match request.prepare surroundings settings with
      | .ok _ => pure surroundings
      | .error failure =>
          match missingPath? failure with
          | none => pure surroundings
          | some path =>
              let loaded ← loadInto surroundings path
              match loaded.entry path with
              | .ok _ => loadReferences request loaded
              | .error _ => pure surroundings

/-- Write an outcome. -/
def writeOutcome (outcome : Outcome) : IO UInt32 := do
  IO.print outcome.output
  for part in outcome.screen do
    for line in part.lines do
      IO.eprintln line
  pure (UInt32.ofNat outcome.exitCode)

/-- Carry out a command line. -/
def runProgram (arguments : List String) : IO UInt32 := do
  let mut surroundings ← readSurroundings
  for path in usualPaths surroundings do
    surroundings ← loadInto surroundings path
  for argument in arguments do
    surroundings ← loadInto surroundings (Path.ofString argument)
  match Command.ofArguments surroundings arguments with
  | .error fault =>
      IO.eprintln ("Error: " ++ fault.message)
      pure 2
  | .ok command =>
      if let .check request := command then
        surroundings ← loadReferences request surroundings
      match command.execute surroundings with
      | .ok outcome => writeOutcome outcome
      | .error fault =>
          IO.eprintln ("Error: " ++ fault.message)
          pure 1

end HouseStyle

/-- The program's entry point. -/
def main (arguments : List String) : IO UInt32 :=
  HouseStyle.runProgram arguments
