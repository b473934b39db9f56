import HouseStyle.Text.Path
import HouseStyle.Text.Utf8

namespace HouseStyle

/-!
# File trees

The files that a run can see, as a value: a tree of directories without links,
with a working directory and the variables of the environment. Reading a path
either finds an entry or gives the reason why there is none. A path with a NUL
or too many bytes is never looked up.
-/

/-- A file with its content, or a directory. -/
inductive FileNode (Content : Type)
  | file (content : Content)
  | directory (entries : List (String × FileNode Content))
  deriving Inhabited

/-- Why a path cannot be read. -/
inductive ReadFault
  | missing
  | notDirectory
  | isDirectory
  | nameTooLong
  | embeddedNul
  deriving Repr, DecidableEq

/-- The wording of a fault for a path. -/
def ReadFault.message (shownPath : String) : ReadFault → String
  | .missing => "[Errno 2] No such file or directory: " ++ shownPath
  | .notDirectory => "[Errno 20] Not a directory: " ++ shownPath
  | .isDirectory => "[Errno 21] Is a directory: " ++ shownPath
  | .nameTooLong => "[Errno 36] File name too long: " ++ shownPath
  | .embeddedNul => "embedded null byte"

/-- A path that cannot be looked up, where it is only asked what stands there. -/
inductive LookupFault
  | nameTooLong
  | embeddedNul
  deriving Repr, DecidableEq

/-- The wording of a fault. -/
def LookupFault.message : LookupFault → String
  | .nameTooLong => "File name too long"
  | .embeddedNul => "embedded null byte"

/-- The greatest number of bytes of a name in a directory. -/
def greatestNameSize : Nat := 255

/-- The greatest number of bytes of a path. -/
def greatestPathSize : Nat := 4095

namespace FileNode

variable {Content : Type}

/-- The empty directory. -/
def empty : FileNode Content :=
  .directory []

/-- The entry of that name. -/
def child?
    (node : FileNode Content)
    (name : String) :
    Option (FileNode Content) :=
  match node with
  | .file _ => none
  | .directory entries => entries.lookup name

/-- Whether the entry is a directory. -/
def isDirectory : FileNode Content → Bool
  | .file _ => false
  | .directory _ => true

/-- Put an entry below a directory, with the directories on the way to it. -/
def insert
    (added : FileNode Content)
    (node : FileNode Content) :
    List String →
    FileNode Content
  | [] =>
      match added, node with
      | .directory [], .directory entries => .directory entries
      | _, _ => added
  | name :: rest =>
      let entries :=
        match node with
        | .file _ => []
        | .directory entries => entries
      let below := (entries.lookup name).getD empty
      let others := entries.filter fun entry => entry.1 != name
      .directory (others ++ [(name, insert added below rest)])

/--
Follow components from a directory. `above` holds the directories on the way
down, the nearest first, for the component `..`.
-/
def follow
    (above : List (FileNode Content))
    (node : FileNode Content) :
    List String →
    Except ReadFault (FileNode Content)
  | [] => .ok node
  | name :: rest =>
      match node with
      | .file _ => .error .notDirectory
      | .directory entries =>
          if name = ".." then
            match above with
            | [] => follow [] node rest
            | parent :: beyond => follow beyond parent rest
          else if greatestNameSize < name.utf8ByteSize then
            .error .nameTooLong
          else
            match entries.lookup name with
            | none => .error .missing
            | some child => follow (node :: above) child rest

mutual

/-- The number of files at and below a node. -/
def count : FileNode Content → Nat
  | .file _ => 1
  | .directory entries => countAll entries

/-- The number of files at and below some entries. -/
def countAll : List (String × FileNode Content) → Nat
  | [] => 0
  | (_, node) :: rest => node.count + countAll rest

end

end FileNode

/-- What surrounds a run: its files, working directory and variables. -/
structure Surroundings where
  /-- The directory at the root of all absolute paths. -/
  files : FileNode ByteArray
  /-- The absolute path that relative paths start from. -/
  directory : Path
  environment : List (String × String)
  /-- The home directories of users by name. -/
  homes : List (String × String) := []

namespace Surroundings

/-- The value of an environment variable. -/
def environment?
    (surroundings : Surroundings)
    (name : String) :
    Option String :=
  surroundings.environment.lookup name

/-- A path seen from the working directory. -/
def anchor
    (surroundings : Surroundings)
    (path : Path) :
    Path :=
  surroundings.directory.join path

/-- The entry at a path. -/
def entry
    (surroundings : Surroundings)
    (path : Path) :
    Except ReadFault (FileNode ByteArray) :=
  let spelling := path.render
  if spelling.toList.contains '\x00' then
    .error .embeddedNul
  else if greatestPathSize < spelling.utf8ByteSize then
    .error .nameTooLong
  else
    surroundings.files.follow [] (surroundings.anchor path).components

/-- The entry at a path, if there is one; a path with a NUL has none. -/
def entry?
    (surroundings : Surroundings)
    (path : Path) :
    Except LookupFault (Option (FileNode ByteArray)) :=
  match surroundings.entry path with
  | .ok node => .ok (some node)
  | .error .nameTooLong => .error .nameTooLong
  | .error _ => .ok none

/-- Whether a file stands at a path. -/
def isFile
    (surroundings : Surroundings)
    (path : Path) :
    Except LookupFault Bool :=
  (surroundings.entry? path).map fun
    | some (.file _) => true
    | _ => false

/-- The bytes of the file at a path. -/
def bytes
    (surroundings : Surroundings)
    (path : Path) :
    Except ReadFault ByteArray :=
  match surroundings.entry path with
  | .ok (.file content) => .ok content
  | .ok (.directory _) => .error .isDirectory
  | .error fault => .error fault

/-- The number of bytes of the file at a path, if it can be read. -/
def size?
    (surroundings : Surroundings)
    (path : Path) :
    Except LookupFault (Option Nat) :=
  match surroundings.bytes path with
  | .ok content => .ok (some content.size)
  | .error .embeddedNul => .error .embeddedNul
  | .error _ => .ok none

/--
An absolute path without `..`: each one drops the component before it, and
those at the root drop nothing.
-/
def resolve
    (surroundings : Surroundings)
    (path : Path) :
    Path :=
  let absolute := surroundings.anchor path
  let components :=
    absolute.components.foldl
      (fun reversed component =>
        if component = ".." then
          reversed.drop 1
        else
          component :: reversed)
      []
  { root := "/", components := components.reverse }

/-- The home directory of the user, or of the user of that name. -/
def homeOf?
    (surroundings : Surroundings)
    (name : String) :
    Option String :=
  if name = "" then
    surroundings.environment? "HOME"
  else
    surroundings.homes.lookup name

/-- A spelling without the slashes at its end; nothing else is the root. -/
def dropSlashes (spelling : String) : String :=
  let kept := spelling.toList.reverse.dropWhile (· == '/')
  if kept.isEmpty then "/" else String.ofList kept.reverse

/--
Replace a leading `~` or `~name` by a home directory. There is no answer where
the directory is unknown or starts with `~` itself.
-/
def expandHome?
    (surroundings : Surroundings)
    (path : Path) :
    Option Path :=
  if path.isAbsolute then
    some path
  else
    match path.components with
    | [] => some path
    | first :: rest =>
        match first.toList with
        | '~' :: name => do
            let spelling ← surroundings.homeOf? (String.ofList name)
            let spelling := dropSlashes spelling
            let home := Path.ofString spelling
            if spelling.startsWith "~" then
              none
            else
              some { home with components := home.components ++ rest }
        | _ => some path

/-- The home directory, if it is known. -/
def home? (surroundings : Surroundings) : Option Path :=
  surroundings.expandHome? (Path.ofString "~")

end Surroundings

end HouseStyle
