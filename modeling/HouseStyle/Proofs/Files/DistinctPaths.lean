import HouseStyle.Proofs.Files.Collecting

namespace HouseStyle

/-!
# Files of one path

A collection holds a given path as it is spelled, and what a walk finds by its
normal spelling. In a tree each file that it holds is at the path that its
spelling is read as. So two of its files are of one path only where a given path
is spelled in two ways, or is spelled in another way than a walk spells it.
-/

variable {surroundings : Surroundings} {patterns spellings : List String}

/-- In a tree a walk goes along names that can be spelled. -/
theorem FileNode.Reaches.areComponents
    {path : Path}
    {entries : List (String × FileNode ByteArray)}
    {names : List String}
    {content : ByteArray}
    (reaches : Reaches patterns path entries names content)
    (isTree : (FileNode.directory entries).IsTree) :
    ∀ name ∈ names, Path.IsComponent name := by
  induction reaches with
  | file isEntry =>
      cases isTree with
      | directory _ areComponents _ =>
          exact List.forall_mem_singleton.mpr (areComponents _ isEntry)
  | directory isEntry _ _ inductionHypothesis =>
      cases isTree with
      | directory _ areComponents areTrees =>
          exact
            List.forall_mem_cons.mpr
              ⟨areComponents _ isEntry, inductionHypothesis (areTrees _ isEntry)⟩

/-- In a tree a file is at the path that its spelling is read as. -/
theorem StandsFor.ofString_eq
    {spelling file : String}
    {path : Path}
    (standsFor : StandsFor surroundings patterns spelling path file)
    (isTree : surroundings.files.IsTree) :
    Path.ofString file = path := by
  cases standsFor with
  | itself _ =>
      rfl
  | below isDirectory reaches _ =>
      have isNormal := Path.isNormal_ofString spelling
      have areComponents :=
        reaches.areComponents (Surroundings.isTree_of_entry isTree isDirectory)
      refine Path.IsNormal.ofString_render ⟨isNormal.root, ?_⟩
      exact List.forall_mem_append.mpr ⟨isNormal.components, areComponents⟩

/-- Whether a given path stands for itself does not depend on how it is spelled. -/
theorem IsKept.of_samePath
    {spelling other : String}
    (isKept : IsKept surroundings patterns spelling)
    (samePath : Path.ofString spelling = Path.ofString other) :
    IsKept surroundings patterns other := by
  obtain ⟨notDirectory, notExcluded, isKnown, notTooLarge⟩ := isKept
  unfold Language.ofPath? at isKnown
  rw [samePath] at notDirectory notExcluded isKnown notTooLarge
  exact ⟨notDirectory, notExcluded, isKnown, notTooLarge⟩

/-- A walk from some given path lists the file at a path. -/
def IsWalked
    (surroundings : Surroundings)
    (patterns spellings : List String)
    (path : Path) :
    Prop :=
  ∃ spelling ∈ spellings,
    ∃ entries names content,
      surroundings.entry (Path.ofString spelling) = .ok (.directory entries) ∧
        FileNode.Reaches patterns (Path.ofString spelling) entries names
          content ∧
        path = (Path.ofString spelling).below names ∧
        isListed patterns path content.size = true

/-- What a walk lists is gathered by its normal spelling. -/
theorem Gathers.render_mem_of_isWalked
    {collection : Collection}
    {path : Path}
    (gathers : Gathers surroundings patterns spellings collection)
    (isWalked : IsWalked surroundings patterns spellings path) :
    path.render ∈ collection.files := by
  obtain ⟨spelling, isGiven, entries, names, content, isDirectory, reaches, rfl,
    listed⟩ := isWalked
  exact
    (gathers.mem_files_iff _).mpr
      ⟨spelling, isGiven, _, .below isDirectory reaches listed⟩

/-- What is gathered is a given path, or a walk lists it by its normal spelling. -/
theorem Gathers.isKept_or_isWalked
    {collection : Collection}
    {file : String}
    (gathers : Gathers surroundings patterns spellings collection)
    (isTree : surroundings.files.IsTree)
    (member : file ∈ collection.files) :
    (file ∈ spellings ∧ IsKept surroundings patterns file) ∨
      (IsWalked surroundings patterns spellings (Path.ofString file) ∧
        file = (Path.ofString file).render) := by
  obtain ⟨spelling, isGiven, path, standsFor⟩ :=
    (gathers.mem_files_iff file).mp member
  have samePath := standsFor.ofString_eq isTree
  cases standsFor with
  | itself isKept =>
      exact .inl ⟨isGiven, isKept⟩
  | @below entries names content isDirectory reaches listed =>
      rw [samePath]
      exact
        .inr
          ⟨⟨spelling, isGiven, entries, names, content, isDirectory, reaches,
              rfl, listed⟩,
            rfl⟩

/-- Paths that stand for themselves are spelled in one way, which is that of walks. -/
structure AreSpelledOnce
    (surroundings : Surroundings)
    (patterns spellings : List String) :
    Prop where
  given :
    ∀ spelling ∈ spellings,
      ∀ other ∈ spellings,
        IsKept surroundings patterns spelling →
        Path.ofString spelling = Path.ofString other →
        spelling = other
  walked :
    ∀ spelling ∈ spellings,
      IsKept surroundings patterns spelling →
      IsWalked surroundings patterns spellings (Path.ofString spelling) →
      spelling = (Path.ofString spelling).render

/-- Paths in their normal spelling are spelled in one way. -/
theorem areSpelledOnce_of_normal
    (areNormal :
      ∀ spelling ∈ spellings, spelling = (Path.ofString spelling).render) :
    AreSpelledOnce surroundings patterns spellings where
  given spelling isGiven other otherGiven _ samePath := by
    calc
      spelling = (Path.ofString spelling).render := areNormal spelling isGiven
      _ = (Path.ofString other).render := by rw [samePath]
      _ = other := (areNormal other otherGiven).symm
  walked spelling isGiven _ _ := areNormal spelling isGiven

/-- The disk with one file is a tree. -/
theorem isTree_oneFileDisk : oneFileDisk.files.IsTree := by
  have isComponent : Path.IsComponent "a.py" :=
    ⟨by decide, by decide, by decide⟩
  refine .directory (List.nodup_singleton _) ?_ ?_
  · exact List.forall_mem_singleton.mpr isComponent
  · exact List.forall_mem_singleton.mpr .file

/-- A walk from its root finds the file. -/
theorem walk_oneFileDisk :
    (FileNode.directory [("a.py", .file ByteArray.empty)]).walk []
        (Path.ofString ".") =
      [{ root := "", components := ["a.py"] }] := by
  have listed :
      isListed [] ((Path.ofString ".").below ["a.py"]) ByteArray.empty.size =
        true := by
    decide +kernel
  rw [FileNode.walk, inWalkOrder_eq_flatMap, FileNode.walkEntries_eq_map,
    List.map_singleton, visitOrder, List.mergeSort_singleton]
  simp only [FileNode.walkEntry, listed, if_true]
  rfl

/--
In a tree the files of a collection are of different paths exactly if no given
path that stands for itself is spelled in two ways, and each that is found by a
walk too is spelled as the walk spells it.
-/
theorem nodup_paths_iff_of_collect
    {collection : Collection}
    (isTree : surroundings.files.IsTree)
    (collected : collect surroundings spellings patterns = .ok collection) :
    (collection.files.map Path.ofString).Nodup ↔
      AreSpelledOnce surroundings patterns spellings := by
  have gathers := gathers_of_collect collected
  have kept
      {spelling : String}
      (isGiven : spelling ∈ spellings)
      (isKept : IsKept surroundings patterns spelling) :
      spelling ∈ collection.files :=
    (gathers.mem_files_iff spelling).mpr ⟨spelling, isGiven, _, .itself isKept⟩
  rw [List.nodup_map_iff_inj_on gathers.nodup]
  constructor
  · intro distinct
    refine ⟨?_, ?_⟩
    · intro spelling isGiven other otherGiven isKept samePath
      exact
        distinct spelling (kept isGiven isKept) other
          (kept otherGiven (isKept.of_samePath samePath)) samePath
    · intro spelling isGiven isKept isWalked
      exact
        distinct spelling (kept isGiven isKept) _
          (gathers.render_mem_of_isWalked isWalked)
          (Path.ofString_render_ofString spelling).symm
  · intro once file member other otherMember samePath
    rcases gathers.isKept_or_isWalked isTree member with
      ⟨isGiven, isKept⟩ | ⟨isWalked, isNormal⟩
    · rcases gathers.isKept_or_isWalked isTree otherMember with
        ⟨otherGiven, _⟩ | ⟨otherWalked, otherNormal⟩
      · exact once.given file isGiven other otherGiven isKept samePath
      · rw [otherNormal, ← samePath]
        rw [← samePath] at otherWalked
        exact once.walked file isGiven isKept otherWalked
    · rcases gathers.isKept_or_isWalked isTree otherMember with
        ⟨otherGiven, otherKept⟩ | ⟨_, otherNormal⟩
      · rw [isNormal, samePath]
        rw [samePath] at isWalked
        exact (once.walked other otherGiven otherKept isWalked).symm
      · rw [isNormal, otherNormal, samePath]

/-- A file that is given in its normal spelling is found by a walk as the same. -/
theorem nodup_paths_of_fileAndDirectory :
    oneFileDisk.files.IsTree ∧
      collect oneFileDisk [".", "a.py"] [] = .ok ⟨["a.py"], 0⟩ ∧
      AreSpelledOnce oneFileDisk [] [".", "a.py"] := by
  have isDirectory :
      oneFileDisk.entry (Path.ofString ".") = .ok oneFileDisk.files :=
    rfl
  have ofDirectory :
      admission oneFileDisk [] "." = .ok (.files ["a.py"]) := by
    rw [admission_of_directory isDirectory, walk_oneFileDisk]
    rfl
  have ofFile : admission oneFileDisk [] "a.py" = .ok (.files ["a.py"]) := by
    decide +kernel
  have collected :
      collect oneFileDisk [".", "a.py"] [] = .ok ⟨["a.py"], 0⟩ := by
    rw [collect, List.mapM_cons, ofDirectory, ok_bind, List.mapM_cons, ofFile]
    rfl
  refine ⟨isTree_oneFileDisk, collected, ?_⟩
  exact (nodup_paths_iff_of_collect isTree_oneFileDisk collected).mp (by decide)

/-- A file that is given in two spellings is in the collection twice. -/
theorem repeats_path_of_twoSpellings :
    collect oneFileDisk ["a.py", "./a.py"] [] = .ok ⟨["a.py", "./a.py"], 0⟩ ∧
      Path.ofString "a.py" = Path.ofString "./a.py" := by
  decide +kernel

end HouseStyle
