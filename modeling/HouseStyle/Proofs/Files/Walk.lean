import HouseStyle.Files.Collection
import HouseStyle.Proofs.Text.PathSpelling

namespace HouseStyle

/-!
# Walks down a file tree

A walk from a directory gets to a file along names: each but the last is that of
a directory that the walk enters. It lists exactly the files that it gets to and
that are worth checking, whatever order the entries of a directory have. In a
tree, where no two entries of a directory share a name, the files of a directory
come by name in front of all that is further down.
-/

/-! ## Paths below a path -/

/-- The path that names lead to from a path. -/
def Path.below
    (path : Path)
    (names : List String) :
    Path :=
  { path with components := path.components ++ names }

theorem Path.below_append
    (path : Path)
    (names others : List String) :
    (path.below names).below others = path.below (names ++ others) := by
  simp only [below, List.append_assoc]

namespace FileNode

variable {patterns : List String}

/-! ## What a walk gets to -/

/--
What holds of files, and of a directory when it holds of its entries, holds of
all nodes.
-/
theorem inductionOn
    {Content : Type}
    {motive : FileNode Content → Prop}
    (file : ∀ content, motive (.file content))
    (directory :
      ∀ entries,
        (∀ entry ∈ entries, motive entry.2) →
        motive (.directory entries))
    (node : FileNode Content) :
    motive node :=
  @FileNode.rec Content motive
    (fun entries => ∀ entry ∈ entries, motive entry.2)
    (fun entry => motive entry.2)
    file
    directory
    (List.forall_mem_nil _)
    (fun _ _ ofFirst ofRest => List.forall_mem_cons.mpr ⟨ofFirst, ofRest⟩)
    (fun _ _ ofNode => ofNode)
    node

/--
The names that lead a walk from the entries of the directory at a path down to a
file with some content.
-/
inductive Reaches (patterns : List String) :
    Path →
    List (String × FileNode ByteArray) →
    List String →
    ByteArray →
    Prop
  | file
      {path : Path}
      {entries : List (String × FileNode ByteArray)}
      {name : String}
      {content : ByteArray} :
      (name, .file content) ∈ entries →
      Reaches patterns path entries [name] content
  | directory
      {path : Path}
      {entries inner : List (String × FileNode ByteArray)}
      {name : String}
      {names : List String}
      {content : ByteArray} :
      (name, .directory inner) ∈ entries →
      isEntered patterns name (path.below [name]) = true →
      Reaches patterns (path.below [name]) inner names content →
      Reaches patterns path entries (name :: names) content

theorem Reaches.ne_nil
    {path : Path}
    {entries : List (String × FileNode ByteArray)}
    {names : List String}
    {content : ByteArray}
    (reaches : Reaches patterns path entries names content) :
    names ≠ [] := by
  cases reaches <;> exact List.cons_ne_nil _ _

/-- The files that a walk finds at an entry of the directory at a path. -/
def walkEntry
    (patterns : List String)
    (path : Path)
    (name : String) :
    FileNode ByteArray →
    List Path
  | .file content =>
      if isListed patterns (path.below [name]) content.size then
        [path.below [name]]
      else
        []
  | .directory inner =>
      if isEntered patterns name (path.below [name]) then
        (FileNode.directory inner).walk patterns (path.below [name])
      else
        []

/-- The entries of a directory are gone through one by one. -/
theorem walkEntries_eq_map
    (path : Path)
    (entries : List (String × FileNode ByteArray)) :
    walkEntries patterns path entries =
      entries.map fun entry =>
        { name := entry.1
          isDirectory := entry.2.isDirectory
          paths := walkEntry patterns path entry.1 entry.2 } := by
  induction entries with
  | nil =>
      rw [walkEntries, List.map_nil]
  | cons entry rest inductionHypothesis =>
      obtain ⟨name, node⟩ := entry
      unfold walkEntries
      rw [List.map_cons, inductionHypothesis]
      cases node <;> rfl

end FileNode

/-- The discoveries in the order that a walk goes to them. -/
def visitOrder (found : List Discovery) : List Discovery :=
  let sorted := found.mergeSort fun left right => left.name ≤ right.name
  sorted.filter (!·.isDirectory) ++ sorted.filter (·.isDirectory)

/-- A walk goes from one discovery to the next. -/
theorem inWalkOrder_eq_flatMap (found : List Discovery) :
    inWalkOrder found = (visitOrder found).flatMap Discovery.paths := by
  rw [visitOrder, List.flatMap_append]
  rfl

/-- A walk leaves out no discovery and goes to nothing else. -/
theorem mem_visitOrder
    {found : List Discovery}
    {discovery : Discovery} :
    discovery ∈ visitOrder found ↔ discovery ∈ found := by
  unfold visitOrder
  simp only [List.mem_append, List.mem_filter, List.mem_mergeSort,
    ← and_or_left]
  cases discovery.isDirectory <;> simp

namespace FileNode

variable {patterns : List String}

/-- What a walk finds below a directory, it finds at one of its entries. -/
theorem mem_walk_directory
    {path file : Path}
    {entries : List (String × FileNode ByteArray)} :
    file ∈ (FileNode.directory entries).walk patterns path ↔
      ∃ entry ∈ entries, file ∈ walkEntry patterns path entry.1 entry.2 := by
  rw [walk, inWalkOrder_eq_flatMap, walkEntries_eq_map, List.mem_flatMap]
  simp only [mem_visitOrder, List.mem_map, exists_exists_and_eq_and]

/-- A walk lists what it gets to. -/
theorem Reaches.mem_walk
    {path : Path}
    {entries : List (String × FileNode ByteArray)}
    {names : List String}
    {content : ByteArray}
    (reaches : Reaches patterns path entries names content)
    (listed : isListed patterns (path.below names) content.size = true) :
    path.below names ∈ (FileNode.directory entries).walk patterns path := by
  induction reaches with
  | @file path entries name content isEntry =>
      refine mem_walk_directory.mpr ⟨_, isEntry, ?_⟩
      rw [walkEntry, if_pos listed]
      exact List.mem_singleton_self _
  | @directory path entries inner name names content isEntry entered _
      inductionHypothesis =>
      have isBelow :
          (path.below [name]).below names = path.below (name :: names) :=
        Path.below_append ..
      rw [isBelow] at inductionHypothesis
      refine mem_walk_directory.mpr ⟨_, isEntry, ?_⟩
      rw [walkEntry, if_pos entered]
      exact inductionHypothesis listed

/-- A walk gets to what it lists. -/
theorem exists_reaches_of_mem_walk
    {path file : Path}
    {entries : List (String × FileNode ByteArray)}
    (member : file ∈ (FileNode.directory entries).walk patterns path) :
    ∃ names content,
      Reaches patterns path entries names content ∧
        isListed patterns (path.below names) content.size = true ∧
        file = path.below names := by
  generalize isNode : FileNode.directory entries = node at member
  induction node using inductionOn generalizing path entries with
  | file content =>
      cases isNode
  | directory entries inductionHypothesis =>
      cases isNode
      obtain ⟨⟨name, node⟩, isEntry, member⟩ := mem_walk_directory.mp member
      cases node with
      | file content =>
          rw [walkEntry] at member
          split at member
          · next listed =>
              exact
                ⟨[name], content, .file isEntry, listed,
                  List.mem_singleton.mp member⟩
          · cases member
      | directory inner =>
          rw [walkEntry] at member
          split at member
          · next entered =>
              obtain ⟨names, content, reaches, listed, rfl⟩ :=
                inductionHypothesis _ isEntry rfl member
              rw [Path.below_append] at listed ⊢
              exact
                ⟨name :: names, content, .directory isEntry entered reaches,
                  listed, rfl⟩
          · cases member

/-- A walk lists exactly the files that it gets to and that are worth checking. -/
theorem mem_walk
    {path file : Path}
    {entries : List (String × FileNode ByteArray)} :
    file ∈ (FileNode.directory entries).walk patterns path ↔
      ∃ names content,
        Reaches patterns path entries names content ∧
          isListed patterns (path.below names) content.size = true ∧
          file = path.below names := by
  refine ⟨exists_reaches_of_mem_walk, ?_⟩
  rintro ⟨names, content, reaches, listed, rfl⟩
  exact reaches.mem_walk listed

/-! ## The order of a walk -/

/-- Below a directory no two entries share a name, and each can be spelled. -/
inductive IsTree {Content : Type} : FileNode Content → Prop
  | file {content : Content} :
      IsTree (.file content)
  | directory {entries : List (String × FileNode Content)} :
      (entries.map Prod.fst).Nodup →
      (∀ entry ∈ entries, Path.IsComponent entry.1) →
      (∀ entry ∈ entries, IsTree entry.2) →
      IsTree (.directory entries)

end FileNode

/--
The order of walks, by components: of one directory the files by name, then what
is below its directories, again by name.
-/
inductive ComesBefore : List String → List String → Prop
  | files {name other : String} :
      name < other →
      ComesBefore [name] [other]
  | above {name other : String} {others : List String} :
      others ≠ [] →
      ComesBefore [name] (other :: others)
  | apart {name other : String} {names others : List String} :
      name < other →
      names ≠ [] →
      others ≠ [] →
      ComesBefore (name :: names) (other :: others)
  | together {name : String} {names others : List String} :
      ComesBefore names others →
      ComesBefore (name :: names) (name :: others)

/-- What comes first below a path comes first. -/
theorem ComesBefore.append_left
    {names others : List String}
    (comesBefore : ComesBefore names others)
    (above : List String) :
    ComesBefore (above ++ names) (above ++ others) := by
  induction above with
  | nil =>
      exact comesBefore
  | cons name above inductionHypothesis =>
      exact .together inductionHypothesis

/-- Whether a walk goes to a discovery first: to files, and then by name. -/
def Discovery.Precedes (discovery other : Discovery) : Prop :=
  (discovery.isDirectory = false ∧ other.isDirectory = true) ∨
    (discovery.isDirectory = other.isDirectory ∧ discovery.name < other.name)

/-- What is found at an entry of the directory at a path. -/
structure Discovery.IsBelow
    (discovery : Discovery)
    (path : Path) :
    Prop where
  inOrder :
    discovery.paths.Pairwise fun file other =>
      ComesBefore file.components other.components
  below :
    ∀ file ∈ discovery.paths,
      ∃ names,
        file = path.below (discovery.name :: names) ∧
          (discovery.isDirectory = true ↔ names ≠ [])

/-- What is found at the first of two entries comes first. -/
theorem Discovery.IsBelow.comesBefore
    {discovery other : Discovery}
    {path file found : Path}
    (isBelow : discovery.IsBelow path)
    (otherBelow : other.IsBelow path)
    (precedes : discovery.Precedes other)
    (member : file ∈ discovery.paths)
    (otherMember : found ∈ other.paths) :
    ComesBefore file.components found.components := by
  obtain ⟨names, rfl, inside⟩ := isBelow.below file member
  obtain ⟨others, rfl, otherInside⟩ := otherBelow.below found otherMember
  refine ComesBefore.append_left ?_ path.components
  rcases precedes with ⟨isFile, otherDirectory⟩ | ⟨sameKind, byName⟩
  · have noNames : names = [] := by simpa [isFile] using inside
    subst noNames
    exact .above (otherInside.mp otherDirectory)
  · cases isDirectory : discovery.isDirectory with
    | true =>
        have otherDirectory : other.isDirectory = true := by
          rw [← sameKind, isDirectory]
        exact
          .apart byName (inside.mp isDirectory) (otherInside.mp otherDirectory)
    | false =>
        have otherFile : other.isDirectory = false := by
          rw [← sameKind, isDirectory]
        have noNames : names = [] := by simpa [isDirectory] using inside
        have noOthers : others = [] := by simpa [otherFile] using otherInside
        subst noNames noOthers
        exact .files byName

/-- Discoveries with other names are sorted strictly. -/
theorem pairwise_name_mergeSort
    {found : List Discovery}
    (distinct : (found.map Discovery.name).Nodup) :
    (found.mergeSort fun left right => left.name ≤ right.name).Pairwise
      fun left right => left.name < right.name := by
  have sorted :
      (found.mergeSort fun left right => left.name ≤ right.name).Pairwise
        fun left right => left.name ≤ right.name := by
    refine (List.pairwise_mergeSort ?_ ?_ found).imp of_decide_eq_true
    · intro first second third
      simpa only [decide_eq_true_eq] using le_trans
    · intro left right
      simpa only [Bool.or_eq_true, decide_eq_true_eq] using le_total ..
  have different :
      (found.mergeSort fun left right => left.name ≤ right.name).Pairwise
        fun left right => left.name ≠ right.name := by
    refine List.pairwise_map.mp ?_
    exact ((List.mergeSort_perm ..).map Discovery.name).nodup_iff.mpr distinct
  exact sorted.imp₂ (fun _ _ => lt_of_le_of_ne) different

/-- A walk goes to discoveries with other names in order. -/
theorem pairwise_visitOrder
    {found : List Discovery}
    (distinct : (found.map Discovery.name).Nodup) :
    (visitOrder found).Pairwise Discovery.Precedes := by
  have byName := pairwise_name_mergeSort distinct
  refine List.pairwise_append.mpr ⟨?_, ?_, ?_⟩
  · refine (byName.filter _).imp_of_mem fun member otherMember byName => ?_
    have isFile := (List.mem_filter.mp member).2
    have otherFile := (List.mem_filter.mp otherMember).2
    rw [Bool.not_eq_true'] at isFile otherFile
    exact .inr ⟨isFile.trans otherFile.symm, byName⟩
  · refine (byName.filter _).imp_of_mem fun member otherMember byName => ?_
    have isDirectory := (List.mem_filter.mp member).2
    have otherDirectory := (List.mem_filter.mp otherMember).2
    exact .inr ⟨isDirectory.trans otherDirectory.symm, byName⟩
  · intro discovery member other otherMember
    have isFile := (List.mem_filter.mp member).2
    rw [Bool.not_eq_true'] at isFile
    exact .inl ⟨isFile, (List.mem_filter.mp otherMember).2⟩

/-- What is found below a directory is listed in order. -/
theorem pairwise_inWalkOrder
    {found : List Discovery}
    (path : Path)
    (distinct : (found.map Discovery.name).Nodup)
    (areBelow : ∀ discovery ∈ found, discovery.IsBelow path) :
    (inWalkOrder found).Pairwise fun file other =>
      ComesBefore file.components other.components := by
  have isBelow
      {discovery : Discovery}
      (member : discovery ∈ visitOrder found) :
      discovery.IsBelow path :=
    areBelow discovery (mem_visitOrder.mp member)
  rw [inWalkOrder_eq_flatMap]
  refine List.pairwise_flatMap.mpr
    ⟨fun discovery member => (isBelow member).inOrder, ?_⟩
  refine (pairwise_visitOrder distinct).imp_of_mem ?_
  intro discovery other member otherMember precedes file isFound next isNext
  exact
    (isBelow member).comesBefore (isBelow otherMember) precedes isFound isNext

namespace FileNode

/-- What a walk finds at an entry of a directory stands below it. -/
theorem exists_below_of_mem_walkEntry
    {patterns : List String}
    {path file : Path}
    {name : String}
    {node : FileNode ByteArray}
    (member : file ∈ walkEntry patterns path name node) :
    ∃ names,
      file = path.below (name :: names) ∧
        (node.isDirectory = true ↔ names ≠ []) := by
  cases node with
  | file content =>
      rw [walkEntry] at member
      split at member
      · exact ⟨[], List.mem_singleton.mp member, by simp [isDirectory]⟩
      · cases member
  | directory inner =>
      rw [walkEntry] at member
      split at member
      · obtain ⟨names, _, reaches, _, rfl⟩ := mem_walk.mp member
        rw [Path.below_append]
        exact ⟨names, rfl, by simp [isDirectory, reaches.ne_nil]⟩
      · cases member

/-- A walk of a tree lists files in order. -/
theorem IsTree.pairwise_walk
    {patterns : List String}
    {node : FileNode ByteArray}
    (isTree : node.IsTree)
    (path : Path) :
    (node.walk patterns path).Pairwise fun file other =>
      ComesBefore file.components other.components := by
  induction node using inductionOn generalizing path with
  | file content =>
      rw [walk]
      exact .nil
  | directory entries inductionHypothesis =>
      cases isTree with
      | directory distinct _ areTrees =>
          rw [walk, walkEntries_eq_map]
          refine pairwise_inWalkOrder path ?_ ?_
          · rw [List.map_map]
            exact distinct
          · intro discovery isFound
            obtain ⟨⟨name, node⟩, isEntry, rfl⟩ := List.mem_map.mp isFound
            refine ⟨?_, fun file => exists_below_of_mem_walkEntry⟩
            have inside :=
              inductionHypothesis _ isEntry (areTrees _ isEntry)
                (path.below [name])
            cases node <;>
              · simp only [walkEntry]
                split <;> simp [inside]

end FileNode

end HouseStyle
