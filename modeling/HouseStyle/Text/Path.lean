namespace HouseStyle

/-!
# Paths

A path is a root and a list of components. Reading one drops empty and `.`
components and keeps `..`, so that two spellings of a path that differ in
doubled slashes or `.` components are one path.
-/

/-- A normalised path. -/
structure Path where
  /-- Empty for a relative path, `/` or `//` for an absolute one. -/
  root : String
  components : List String
  deriving Repr, DecidableEq, Inhabited

namespace Path

/-- Split at every slash. -/
def pieces (text : List Char) : List (List Char) :=
  text.foldr
    (fun character found =>
      if character = '/' then
        [] :: found
      else
        match found with
        | [] => [[character]]
        | piece :: rest => (character :: piece) :: rest)
    [[]]

/-- The root a spelling starts with: exactly two slashes stay two. -/
def rootOf : List Char → String
  | '/' :: '/' :: '/' :: _ => "/"
  | '/' :: '/' :: _ => "//"
  | '/' :: _ => "/"
  | _ => ""

/-- Read a path from its spelling. -/
def ofString (spelling : String) : Path :=
  let text := spelling.toList
  { root := rootOf text
    components :=
      ((pieces text).map String.ofList).filter
        (fun component => component != "" && component != ".") }

/-- The normal spelling: the empty path is `.`. -/
def render (path : Path) : String :=
  let spelled := path.root ++ "/".intercalate path.components
  if spelled == "" then "." else spelled

/-- Whether the path starts at a root. -/
def isAbsolute (path : Path) : Bool :=
  path.root != ""

/-- `other` seen from `path`: an absolute path stands on its own. -/
def join
    (path other : Path) :
    Path :=
  if other.isAbsolute then
    other
  else
    { path with components := path.components ++ other.components }

/-- The path of the directory that holds `path`. -/
def parent (path : Path) : Path :=
  { path with components := path.components.dropLast }

/-- The last component, empty for a bare root. -/
def name (path : Path) : String :=
  path.components.getLast?.getD ""

/--
The extension of the last component from its last dot on. A dot at either end
of the component starts no extension.
-/
def extension (path : Path) : String :=
  let reversed := path.name.toList.reverse
  let letters := reversed.takeWhile (· != '.')
  let before := (reversed.dropWhile (· != '.')).drop 1
  if letters.isEmpty || before.isEmpty ||
      letters.length == reversed.length then
    ""
  else
    "." ++ String.ofList letters.reverse

end Path

end HouseStyle
