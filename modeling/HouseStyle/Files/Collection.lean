import HouseStyle.Files.Glob
import HouseStyle.Files.Tree
import HouseStyle.Language.Detection

namespace HouseStyle

/-!
# Collecting files

Paths given by a user become the files to check. A directory stands for the
files below it that are written in a known language, in the order of a walk;
any other path stands for itself, or is skipped and counted. A path that cannot
be looked up ends the collection.
-/

/-- Directories that no walk enters. -/
def skippedDirectories : List String :=
  [".git", ".hg", ".svn", "node_modules", "__pycache__", ".mypy_cache",
    ".pytest_cache", ".ruff_cache", ".venv", "venv", "dist", "build", ".tox",
    ".eggs"]

/-- The greatest number of bytes of a file that is checked. -/
def greatestFileSize : Nat := 1048576

/-- Whether a pattern matches the name of a path or all of it. -/
def isExcluded
    (patterns : List String)
    (path : Path) :
    Bool :=
  patterns.any fun pattern =>
    globMatches pattern path.name || globMatches pattern path.render

/-- Whether a walk enters a directory. -/
def isEntered
    (patterns : List String)
    (name : String)
    (path : Path) :
    Bool :=
  !skippedDirectories.contains name &&
    !name.endsWith ".egg-info" &&
    !isExcluded patterns path

/-- Whether a walk lists a file. -/
def isListed
    (patterns : List String)
    (path : Path)
    (size : Nat) :
    Bool :=
  (Language.ofPath? path.render).isSome &&
    !isExcluded patterns path &&
    size ≤ greatestFileSize

/-- What a walk finds at one entry of a directory. -/
structure Discovery where
  name : String
  isDirectory : Bool
  paths : List Path
  deriving Repr

/-- What a walk finds, by name: first the files of a directory, then below it. -/
def inWalkOrder (found : List Discovery) : List Path :=
  let sorted := found.mergeSort fun left right => left.name ≤ right.name
  (sorted.filter (!·.isDirectory)).flatMap Discovery.paths ++
    (sorted.filter (·.isDirectory)).flatMap Discovery.paths

namespace FileNode

mutual

/-- The files that a walk finds below a node. -/
def walk
    (patterns : List String)
    (path : Path) :
    FileNode ByteArray →
    List Path
  | .file _ => []
  | .directory entries => inWalkOrder (walkEntries patterns path entries)

/-- What a walk finds at the entries of a directory. -/
def walkEntries
    (patterns : List String)
    (path : Path) :
    List (String × FileNode ByteArray) →
    List Discovery
  | [] => []
  | (name, node) :: rest =>
      let below := { path with components := path.components ++ [name] }
      let paths :=
        match node with
        | .file content =>
            if isListed patterns below content.size then [below] else []
        | .directory _ =>
            if isEntered patterns name below then
              node.walk patterns below
            else
              []
      { name, isDirectory := node.isDirectory, paths } ::
        walkEntries patterns path rest

end

end FileNode

/-- What becomes of a path that a user gives. -/
inductive Admission
  | files (spellings : List String)
  | excluded
  | skipped
  deriving Repr, DecidableEq

/-- What becomes of a path that stands for itself. -/
def fileAdmission
    (surroundings : Surroundings)
    (patterns : List String)
    (spelling : String) :
    Except LookupFault Admission :=
  let path := Path.ofString spelling
  if isExcluded patterns path then
    .ok .excluded
  else if (Language.ofPath? spelling).isNone then
    .ok .skipped
  else
    (surroundings.size? path).map fun size =>
      if greatestFileSize < size.getD 0 then
        .skipped
      else
        .files [spelling]

/-- What becomes of a path. -/
def admission
    (surroundings : Surroundings)
    (patterns : List String)
    (spelling : String) :
    Except LookupFault Admission := do
  let path := Path.ofString spelling
  match ← surroundings.entry? path with
  | some (.directory entries) =>
      let found := (FileNode.directory entries).walk patterns path
      pure (.files (found.map Path.render))
  | _ => fileAdmission surroundings patterns spelling

/-- The files that a path becomes. -/
def Admission.spellings : Admission → List String
  | .files spellings => spellings
  | _ => []

/-- The files to check, and how many given paths were skipped. -/
structure Collection where
  files : List String
  skipped : Nat
  deriving Repr, DecidableEq

/-- The files that some paths become; each is listed where it comes first. -/
def Collection.ofAdmissions (admissions : List Admission) : Collection :=
  { files := (admissions.flatMap Admission.spellings).eraseDups
    skipped := admissions.countP (· == .skipped) }

/-- Collect the files of some paths, all of which have to be looked up. -/
def collect
    (surroundings : Surroundings)
    (spellings patterns : List String) :
    Except LookupFault Collection :=
  (spellings.mapM (admission surroundings patterns)).map Collection.ofAdmissions

end HouseStyle
