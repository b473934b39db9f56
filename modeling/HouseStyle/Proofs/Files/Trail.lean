import HouseStyle.Files.Tree
import Mathlib.Data.List.Basic

namespace HouseStyle

/-!
# Trails down a file tree

Components that lead to a file, with any number of `..` among them, lead along
the tree to the place that they are resolved to. So a file can be spelled in any
number of ways, but resolved all of them are one of the paths that lead straight
down to files, and of these there are no more than files.
-/

namespace FileNode

variable {Content : Type}

mutual

/-- The paths that lead from a node down to its files. -/
def filePaths : FileNode Content → List (List String)
  | .file _ => [[]]
  | .directory entries => filePathsAll entries

/-- The paths that lead by some entries down to files. -/
def filePathsAll : List (String × FileNode Content) → List (List String)
  | [] => []
  | (name, node) :: rest => node.filePaths.map (name :: ·) ++ filePathsAll rest

end

mutual

theorem length_filePaths :
    ∀ node : FileNode Content, node.filePaths.length = node.count
  | .file _ => by rw [filePaths, count, List.length_singleton]
  | .directory entries => by rw [filePaths, count, length_filePathsAll entries]

theorem length_filePathsAll :
    ∀ entries : List (String × FileNode Content),
      (filePathsAll entries).length = countAll entries
  | [] => by rw [filePathsAll, countAll, List.length_nil]
  | (name, node) :: rest => by
      rw [filePathsAll, countAll, List.length_append, List.length_map,
        length_filePaths node, length_filePathsAll rest]

end

/-- A path from the entry of some name goes on from its directory. -/
theorem mem_filePathsAll_of_lookup
    {entries : List (String × FileNode Content)}
    {name : String}
    {child : FileNode Content}
    (isChild : entries.lookup name = some child)
    {path : List String}
    (below : path ∈ child.filePaths) :
    name :: path ∈ filePathsAll entries := by
  induction entries with
  | nil =>
      cases isChild
  | cons entry rest inductionHypothesis =>
      obtain ⟨named, node⟩ := entry
      rw [filePathsAll, List.mem_append]
      rw [List.lookup_cons] at isChild
      split at isChild
      · next isNamed =>
          obtain rfl := Option.some.inj isChild
          obtain rfl := beq_iff_eq.mp isNamed
          exact .inl (List.mem_map_of_mem below)
      · exact .inr (inductionHypothesis isChild)

/--
The way from a root down to a node: the names on it and the directories that it
leads through, the nearest first.
-/
inductive Trail (root : FileNode Content) :
    List String →
    List (FileNode Content) →
    FileNode Content →
    Prop
  | start : Trail root [] [] root
  | down
      {trail : List String}
      {above : List (FileNode Content)}
      {entries : List (String × FileNode Content)}
      {name : String}
      {child : FileNode Content} :
      Trail root trail above (.directory entries) →
      entries.lookup name = some child →
      Trail root (name :: trail) (.directory entries :: above) child

/-- Below a trail, the paths go on to those from the root. -/
theorem Trail.mem_filePaths
    {root node : FileNode Content}
    {trail : List String}
    {above : List (FileNode Content)}
    (isTrail : Trail root trail above node)
    {path : List String}
    (below : path ∈ node.filePaths) :
    trail.reverse ++ path ∈ root.filePaths := by
  induction isTrail generalizing path with
  | start =>
      exact below
  | @down trail above entries name child _ isChild inductionHypothesis =>
      rw [List.reverse_cons, List.append_assoc, List.singleton_append]
      refine inductionHypothesis ?_
      rw [filePaths]
      exact mem_filePathsAll_of_lookup isChild below

/-- All files at and below a node have contents of some kind. -/
inductive AllFiles (isOfKind : Content → Prop) : FileNode Content → Prop
  | file {content : Content} :
      isOfKind content →
      AllFiles isOfKind (.file content)
  | directory {entries : List (String × FileNode Content)} :
      (∀ entry ∈ entries, AllFiles isOfKind entry.2) →
      AllFiles isOfKind (.directory entries)

/-- What all files of a tree are holds of all files below a trail. -/
theorem Trail.allFiles
    {isOfKind : Content → Prop}
    {root node : FileNode Content}
    {trail : List String}
    {above : List (FileNode Content)}
    (isTrail : Trail root trail above node)
    (ofRoot : root.AllFiles isOfKind) :
    node.AllFiles isOfKind := by
  induction isTrail with
  | start =>
      exact ofRoot
  | down _ isChild inductionHypothesis =>
      obtain ⟨_, _, rfl, _⟩ := List.lookup_eq_some_iff.mp isChild
      cases inductionHypothesis with
      | directory ofEntries =>
          exact ofEntries _ (List.mem_append_right _ (List.mem_cons_self ..))

/-- One component further on a path that is written backwards. -/
def resolveStep (reversed : List String) (component : String) : List String :=
  if component = ".." then
    reversed.drop 1
  else
    component :: reversed

/-- Where components lead, their resolved spelling leads too. -/
theorem Trail.exists_of_follow
    {root node found : FileNode Content}
    {trail components : List String}
    {above : List (FileNode Content)}
    (isTrail : Trail root trail above node)
    (isFound : node.follow above components = .ok found) :
    ∃ above, Trail root (components.foldl resolveStep trail) above found := by
  induction components generalizing node trail above with
  | nil =>
      rw [follow, Except.ok.injEq] at isFound
      subst isFound
      exact ⟨above, isTrail⟩
  | cons name rest inductionHypothesis =>
      rw [List.foldl_cons]
      cases node with
      | file content =>
          cases isFound
      | directory entries =>
          simp only [follow] at isFound
          by_cases goesUp : name = ".."
          · rw [if_pos goesUp] at isFound
            rw [resolveStep, if_pos goesUp]
            cases isTrail with
            | start => exact inductionHypothesis .start isFound
            | down isParent _ => exact inductionHypothesis isParent isFound
          · rw [if_neg goesUp] at isFound
            rw [resolveStep, if_neg goesUp]
            split at isFound
            · cases isFound
            · split at isFound
              · cases isFound
              · next child isChild =>
                  exact inductionHypothesis (isTrail.down isChild) isFound

end FileNode

namespace Surroundings

/-- The paths of all files, resolved. -/
def filePaths (surroundings : Surroundings) : List Path :=
  surroundings.files.filePaths.map fun components => { root := "/", components }

theorem length_filePaths (surroundings : Surroundings) :
    surroundings.filePaths.length = surroundings.files.count := by
  rw [filePaths, List.length_map, FileNode.length_filePaths]

/-- The path of a file that can be read is among them when it is resolved. -/
theorem resolve_mem_filePaths
    {surroundings : Surroundings}
    {path : Path}
    {content : ByteArray}
    (isRead : surroundings.bytes path = .ok content) :
    surroundings.resolve path ∈ surroundings.filePaths := by
  have isFile :
      surroundings.files.follow [] (surroundings.anchor path).components =
        .ok (.file content) := by
    unfold bytes entry at isRead
    split at isRead
    · next isEntry =>
        simp only at isEntry
        split at isEntry
        · cases isEntry
        · split at isEntry
          · cases isEntry
          · cases isRead
            exact isEntry
    · cases isRead
    · cases isRead
  obtain ⟨above, isTrail⟩ := FileNode.Trail.start.exists_of_follow isFile
  have below : [] ∈ (FileNode.file content).filePaths := by
    rw [FileNode.filePaths]
    exact List.mem_singleton_self []
  have member := isTrail.mem_filePaths below
  rw [List.append_nil] at member
  exact List.mem_map_of_mem member

end Surroundings

end HouseStyle
