import HouseStyle.Proofs.Answer
import HouseStyle.Proofs.Files.Trail
import HouseStyle.Proofs.Files.Walk

namespace HouseStyle

/-!
# What is collected

A collection holds the files that given paths stand for, in the order in which
they come first, and counts the given paths that were skipped. The only paths
that end it are those that cannot be looked up. More patterns never let in more
files and never skip more paths.
-/

/-! ## First occurrences -/

/-- What duplicates are erased from keeps its order of first occurrences. -/
theorem pairwise_eraseDups (spellings : List String) :
    spellings.eraseDups.Pairwise fun file other =>
      ∃ before after,
        spellings = before ++ file :: after ∧ other ≠ file ∧ other ∉ before := by
  match spellings with
  | [] =>
      exact .nil
  | first :: rest =>
      have shorter :
          (rest.filter fun other => !other == first).length <
            (first :: rest).length :=
        Nat.lt_succ_of_le (List.length_filter_le _ rest)
      have inRest := pairwise_eraseDups (rest.filter fun other => !other == first)
      rw [List.eraseDups_cons]
      refine List.pairwise_cons.mpr ⟨?_, inRest.imp_of_mem ?_⟩
      · intro other member
        have isOther : other ≠ first := by
          simpa using (List.mem_filter.mp (List.mem_eraseDups.mp member)).2
        exact ⟨[], rest, rfl, isOther, List.not_mem_nil⟩
      · rintro file other - member ⟨before, after, areKept, isOther, notBefore⟩
        have notFirst : other ≠ first := by
          simpa using (List.mem_filter.mp (List.mem_eraseDups.mp member)).2
        obtain ⟨front, behind, rfl, isFront, isBehind⟩ :=
          List.filter_eq_append_iff.mp areKept
        obtain ⟨dropped, others, rfl, areDropped, _, _⟩ :=
          List.filter_eq_cons_iff.mp isBehind
        refine ⟨first :: (front ++ dropped), others, by simp, isOther, ?_⟩
        intro isBefore
        rcases List.mem_cons.mp isBefore with isFirst | isBefore
        · exact notFirst isFirst
        rcases List.mem_append.mp isBefore with inFront | isDropped
        · refine notBefore ?_
          rw [← isFront]
          exact List.mem_filter.mpr ⟨inFront, by simpa using notFirst⟩
        · exact areDropped other isDropped (by simpa using notFirst)
termination_by spellings.length
decreasing_by exact shorter

theorem nodup_eraseDups (spellings : List String) :
    spellings.eraseDups.Nodup := by
  refine (pairwise_eraseDups spellings).imp ?_
  rintro file other ⟨_, _, _, isOther, _⟩
  exact isOther.symm

/--
Where each item stands at places that come in order, items without duplicates
come in the order of their first places.
-/
theorem pairwise_eraseDups_of_places
    {Place : Type}
    {standsAt : Place → String → Prop}
    {comesBefore : Place → Place → Prop}
    {places : List Place}
    {spellings : List String}
    (listed : List.Forall₂ standsAt places spellings)
    (inOrder : places.Pairwise comesBefore)
    (complete : ∀ place file, standsAt place file → place ∈ places)
    (unique :
      ∀ place file other,
        standsAt place file → standsAt place other → file = other) :
    spellings.eraseDups.Pairwise fun file other =>
      ∃ place,
        standsAt place file ∧
          ∀ later, standsAt later other → comesBefore place later := by
  refine (pairwise_eraseDups spellings).imp ?_
  rintro file other ⟨before, after, rfl, isOther, notBefore⟩
  have inFront := List.forall₂_take_append _ _ _ listed
  have areBehind := List.forall₂_drop_append _ _ _ listed
  rw [← List.take_append_drop before.length places] at inOrder complete
  generalize places.take before.length = front at inFront inOrder complete
  generalize places.drop before.length = rest at areBehind inOrder complete
  cases areBehind with
  | @cons place _ behind _ isFile _ =>
      refine ⟨place, isFile, fun later isLater => ?_⟩
      rcases List.mem_append.mp (complete later other isLater) with
        isBefore | isBehind
      · obtain ⟨earlier, isEarlier, alsoThere⟩ :=
          exists_of_forall₂_mem inFront.flip isBefore
        obtain rfl := unique later earlier other alsoThere isLater
        exact (notBefore isEarlier).elim
      rcases List.mem_cons.mp isBehind with rfl | isBehind
      · exact (isOther (unique later other file isLater isFile)).elim
      · have ofRest := (List.pairwise_append.mp inOrder).2.1
        exact (List.pairwise_cons.mp ofRest).1 later isBehind

/-! ## What becomes of a given path -/

/-- A directory stands at a path. -/
def Surroundings.IsDirectory
    (surroundings : Surroundings)
    (path : Path) :
    Prop :=
  ∃ entries, surroundings.entry path = .ok (.directory entries)

/-- A file that is too large to be checked stands at a path. -/
def Surroundings.IsTooLarge
    (surroundings : Surroundings)
    (path : Path) :
    Prop :=
  ∃ content,
    surroundings.entry path = .ok (.file content) ∧
      greatestFileSize < content.size

instance (surroundings : Surroundings) (path : Path) :
    Decidable (surroundings.IsDirectory path) :=
  match isEntry : surroundings.entry path with
  | .ok (.directory entries) => isTrue ⟨entries, isEntry⟩
  | .ok (.file _) =>
      isFalse fun ⟨_, isDirectory⟩ => by cases isEntry.symm.trans isDirectory
  | .error _ =>
      isFalse fun ⟨_, isDirectory⟩ => by cases isEntry.symm.trans isDirectory

instance (surroundings : Surroundings) (path : Path) :
    Decidable (surroundings.IsTooLarge path) :=
  match isEntry : surroundings.entry path with
  | .ok (.file content) =>
      decidable_of_iff (greatestFileSize < content.size)
        ⟨fun isLarge => ⟨content, isEntry, isLarge⟩,
          fun ⟨_, isFile, isLarge⟩ => by
            cases isEntry.symm.trans isFile
            exact isLarge⟩
  | .ok (.directory _) =>
      isFalse fun ⟨_, isFile, _⟩ => by cases isEntry.symm.trans isFile
  | .error _ =>
      isFalse fun ⟨_, isFile, _⟩ => by cases isEntry.symm.trans isFile

/-- A given path that stands for itself. -/
structure IsKept
    (surroundings : Surroundings)
    (patterns : List String)
    (spelling : String) :
    Prop where
  notDirectory : ¬ surroundings.IsDirectory (Path.ofString spelling)
  notExcluded : isExcluded patterns (Path.ofString spelling) = false
  isKnown : (Language.ofPath? spelling).isSome = true
  notTooLarge : ¬ surroundings.IsTooLarge (Path.ofString spelling)

/-- A given path that is counted as skipped. -/
structure IsSkipped
    (surroundings : Surroundings)
    (patterns : List String)
    (spelling : String) :
    Prop where
  notDirectory : ¬ surroundings.IsDirectory (Path.ofString spelling)
  notExcluded : isExcluded patterns (Path.ofString spelling) = false
  unsuited :
    Language.ofPath? spelling = none ∨
      surroundings.IsTooLarge (Path.ofString spelling)

instance
    (surroundings : Surroundings)
    (patterns : List String)
    (spelling : String) :
    Decidable (IsSkipped surroundings patterns spelling) :=
  decidable_of_iff
    (¬ surroundings.IsDirectory (Path.ofString spelling) ∧
      isExcluded patterns (Path.ofString spelling) = false ∧
      (Language.ofPath? spelling = none ∨
        surroundings.IsTooLarge (Path.ofString spelling)))
    ⟨fun ⟨notDirectory, notExcluded, unsuited⟩ =>
        ⟨notDirectory, notExcluded, unsuited⟩,
      fun ⟨notDirectory, notExcluded, unsuited⟩ =>
        ⟨notDirectory, notExcluded, unsuited⟩⟩

/-- A given path that cannot be looked up: a NUL is only met by asking for a size. -/
inductive Refuses
    (surroundings : Surroundings)
    (patterns : List String)
    (spelling : String) :
    LookupFault →
    Prop
  | nameTooLong :
      surroundings.entry (Path.ofString spelling) = .error .nameTooLong →
      Refuses surroundings patterns spelling .nameTooLong
  | embeddedNul :
      surroundings.entry (Path.ofString spelling) = .error .embeddedNul →
      isExcluded patterns (Path.ofString spelling) = false →
      (Language.ofPath? spelling).isSome = true →
      Refuses surroundings patterns spelling .embeddedNul

/-- The five ends that a given path can come to. -/
inductive Admits
    (surroundings : Surroundings)
    (patterns : List String)
    (spelling : String) :
    Except LookupFault Admission →
    Prop
  | refused {fault : LookupFault} :
      Refuses surroundings patterns spelling fault →
      Admits surroundings patterns spelling (.error fault)
  | directory {entries : List (String × FileNode ByteArray)} :
      surroundings.entry (Path.ofString spelling) = .ok (.directory entries) →
      Admits surroundings patterns spelling
        (.ok (.files
          (((FileNode.directory entries).walk patterns
            (Path.ofString spelling)).map Path.render)))
  | excluded :
      ¬ surroundings.IsDirectory (Path.ofString spelling) →
      isExcluded patterns (Path.ofString spelling) = true →
      Admits surroundings patterns spelling (.ok .excluded)
  | skipped :
      IsSkipped surroundings patterns spelling →
      Admits surroundings patterns spelling (.ok .skipped)
  | kept :
      IsKept surroundings patterns spelling →
      Admits surroundings patterns spelling (.ok (.files [spelling]))

/-- A path at which no directory stands is excluded, skipped, kept or refused. -/
theorem admits_fileAdmission
    {surroundings : Surroundings}
    {patterns : List String}
    {spelling : String}
    (notDirectory : ¬ surroundings.IsDirectory (Path.ofString spelling))
    (notTooLong :
      surroundings.entry (Path.ofString spelling) ≠ .error .nameTooLong) :
    Admits surroundings patterns spelling
      (fileAdmission surroundings patterns spelling) := by
  unfold fileAdmission
  simp only
  split
  · next isExcluded => exact .excluded notDirectory isExcluded
  · next notExcluded =>
      rw [Bool.not_eq_true] at notExcluded
      split
      · next isUnknown =>
          exact .skipped
            ⟨notDirectory, notExcluded, .inl (Option.isNone_iff_eq_none.mp isUnknown)⟩
      · next isKnown =>
          have isKnown : (Language.ofPath? spelling).isSome = true := by
            simpa [Option.isSome_iff_ne_none] using isKnown
          have kept
              (notTooLarge :
                ¬ surroundings.IsTooLarge (Path.ofString spelling)) :
              IsKept surroundings patterns spelling :=
            ⟨notDirectory, notExcluded, isKnown, notTooLarge⟩
          unfold Surroundings.size? Surroundings.bytes
          cases isEntry : surroundings.entry (Path.ofString spelling) with
          | ok node =>
              cases node with
              | directory entries =>
                  exact (notDirectory ⟨entries, isEntry⟩).elim
              | file content =>
                  simp only [Except.map, Option.getD_some]
                  split
                  · next isLarge =>
                      exact .skipped
                        ⟨notDirectory, notExcluded,
                          .inr ⟨content, isEntry, isLarge⟩⟩
                  · next notLarge =>
                      refine .kept (kept ?_)
                      rintro ⟨other, isOther, isLarge⟩
                      cases isEntry.symm.trans isOther
                      exact notLarge isLarge
          | error fault =>
              have notTooLarge :
                  ¬ surroundings.IsTooLarge (Path.ofString spelling) := by
                rintro ⟨_, isFile, _⟩
                cases isEntry.symm.trans isFile
              cases fault with
              | embeddedNul =>
                  exact .refused (.embeddedNul isEntry notExcluded isKnown)
              | nameTooLong => exact (notTooLong isEntry).elim
              | _ => exact .kept (kept notTooLarge)

/-- A directory is admitted for what a walk finds below it. -/
theorem admission_of_directory
    {surroundings : Surroundings}
    {patterns : List String}
    {spelling : String}
    {entries : List (String × FileNode ByteArray)}
    (isDirectory :
      surroundings.entry (Path.ofString spelling) = .ok (.directory entries)) :
    admission surroundings patterns spelling =
      .ok
        (.files
          (((FileNode.directory entries).walk patterns
            (Path.ofString spelling)).map Path.render)) := by
  simp only [admission, Surroundings.entry?, isDirectory, bind, Except.bind]
  rfl

/-- What cannot be looked up is refused. -/
theorem admission_of_refuses
    {surroundings : Surroundings}
    {patterns : List String}
    {spelling : String}
    {fault : LookupFault}
    (refuses : Refuses surroundings patterns spelling fault) :
    admission surroundings patterns spelling = .error fault := by
  cases refuses with
  | nameTooLong isEntry =>
      simp only [admission, Surroundings.entry?, isEntry, bind, Except.bind]
  | embeddedNul isEntry notExcluded isKnown =>
      have notUnknown : (Language.ofPath? spelling).isNone = false := by
        simpa using isKnown
      simp [admission, Surroundings.entry?, isEntry, bind, Except.bind,
        fileAdmission, notExcluded, notUnknown, Surroundings.size?,
        Surroundings.bytes, Except.map]

/-- Each path comes to one of the five ends. -/
theorem admits_admission
    (surroundings : Surroundings)
    (patterns : List String)
    (spelling : String) :
    Admits surroundings patterns spelling
      (admission surroundings patterns spelling) := by
  cases isEntry : surroundings.entry (Path.ofString spelling) with
  | ok node =>
      cases node with
      | directory entries =>
          rw [admission_of_directory isEntry]
          exact .directory isEntry
      | file content =>
          simp only [admission, Surroundings.entry?, isEntry, bind, Except.bind]
          refine admits_fileAdmission ?_ ?_
          · rintro ⟨_, isDirectory⟩
            cases isEntry.symm.trans isDirectory
          · rw [isEntry]
            simp
  | error fault =>
      have notDirectory :
          ¬ surroundings.IsDirectory (Path.ofString spelling) := by
        rintro ⟨_, isDirectory⟩
        cases isEntry.symm.trans isDirectory
      cases fault with
      | nameTooLong =>
          rw [admission_of_refuses (.nameTooLong isEntry)]
          exact .refused (.nameTooLong isEntry)
      | _ =>
          simp only [admission, Surroundings.entry?, isEntry, bind, Except.bind]
          refine admits_fileAdmission notDirectory ?_
          rw [isEntry]
          simp

/-- What is skipped is what is counted. -/
theorem Admits.eq_skipped_iff
    {surroundings : Surroundings}
    {patterns : List String}
    {spelling : String}
    {admission : Admission}
    (admits : Admits surroundings patterns spelling (.ok admission)) :
    admission = .skipped ↔ IsSkipped surroundings patterns spelling := by
  cases admits with
  | directory isDirectory =>
      refine ⟨fun isSkipped => (by cases isSkipped), fun isSkipped => ?_⟩
      exact (isSkipped.notDirectory ⟨_, isDirectory⟩).elim
  | excluded _ isExcluded =>
      refine ⟨fun isSkipped => (by cases isSkipped), fun isSkipped => ?_⟩
      have notExcluded := isSkipped.notExcluded
      rw [isExcluded] at notExcluded
      cases notExcluded
  | skipped isSkipped =>
      exact ⟨fun _ => isSkipped, fun _ => rfl⟩
  | kept isKept =>
      refine ⟨fun isSkipped => (by cases isSkipped), fun isSkipped => ?_⟩
      rcases isSkipped.unsuited with isUnknown | isTooLarge
      · have isKnown := isKept.isKnown
        rw [isUnknown] at isKnown
        cases isKnown
      · exact (isKept.notTooLarge isTooLarge).elim

/-! ## What given paths stand for -/

/-- A file that a given path stands for, at its path and as it is spelled. -/
inductive StandsFor
    (surroundings : Surroundings)
    (patterns : List String)
    (spelling : String) :
    Path →
    String →
    Prop
  | itself :
      IsKept surroundings patterns spelling →
      StandsFor surroundings patterns spelling (Path.ofString spelling) spelling
  | below
      {entries : List (String × FileNode ByteArray)}
      {names : List String}
      {content : ByteArray} :
      surroundings.entry (Path.ofString spelling) = .ok (.directory entries) →
      FileNode.Reaches patterns (Path.ofString spelling) entries names content →
      isListed patterns ((Path.ofString spelling).below names) content.size =
        true →
      StandsFor surroundings patterns spelling
        ((Path.ofString spelling).below names)
        ((Path.ofString spelling).below names).render

namespace StandsFor

variable {surroundings : Surroundings} {patterns : List String}
  {spelling : String}

/-- At a path stands one file. -/
theorem unique
    {path : Path}
    {file other : String}
    (standsFor : StandsFor surroundings patterns spelling path file)
    (alsoStandsFor : StandsFor surroundings patterns spelling path other) :
    file = other := by
  generalize samePath : path = otherPath at alsoStandsFor
  cases standsFor with
  | itself isKept =>
      cases alsoStandsFor with
      | itself => rfl
      | below isDirectory => exact (isKept.notDirectory ⟨_, isDirectory⟩).elim
  | below isDirectory =>
      cases alsoStandsFor with
      | itself isKept => exact (isKept.notDirectory ⟨_, isDirectory⟩).elim
      | below => rw [samePath]

/-- A path that is excluded, skipped or refused stands for nothing. -/
theorem isKept_of_notDirectory
    {path : Path}
    {file : String}
    (standsFor : StandsFor surroundings patterns spelling path file)
    (notDirectory : ¬ surroundings.IsDirectory (Path.ofString spelling)) :
    IsKept surroundings patterns spelling := by
  cases standsFor with
  | itself isKept => exact isKept
  | below isDirectory => exact (notDirectory ⟨_, isDirectory⟩).elim

end StandsFor

/-- A directory of a tree is a tree. -/
theorem FileNode.Trail.isTree
    {Content : Type}
    {root node : FileNode Content}
    {trail : List String}
    {above : List (FileNode Content)}
    (isTrail : Trail root trail above node)
    (isTree : root.IsTree) :
    node.IsTree := by
  induction isTrail with
  | start =>
      exact isTree
  | down _ isChild inductionHypothesis =>
      obtain ⟨_, _, rfl, _⟩ := List.lookup_eq_some_iff.mp isChild
      cases inductionHypothesis with
      | directory _ _ areTrees =>
          exact areTrees _ (List.mem_append_right _ (List.mem_cons_self ..))

/-- What stands at a path of a tree is a tree. -/
theorem Surroundings.isTree_of_entry
    {surroundings : Surroundings}
    {path : Path}
    {node : FileNode ByteArray}
    (isTree : surroundings.files.IsTree)
    (isEntry : surroundings.entry path = .ok node) :
    node.IsTree := by
  unfold entry at isEntry
  simp only at isEntry
  split at isEntry
  · cases isEntry
  split at isEntry
  · cases isEntry
  obtain ⟨_, isTrail⟩ := FileNode.Trail.start.exists_of_follow isEntry
  exact isTrail.isTree isTree

/--
The paths of all files that a given path is admitted for, and in a tree they are
in order.
-/
theorem exists_paths_of_admits
    {surroundings : Surroundings}
    {patterns : List String}
    {spelling : String}
    {admission : Admission}
    (admits : Admits surroundings patterns spelling (.ok admission)) :
    ∃ paths,
      List.Forall₂ (StandsFor surroundings patterns spelling) paths
          admission.spellings ∧
        (∀ path file,
          StandsFor surroundings patterns spelling path file → path ∈ paths) ∧
        (surroundings.files.IsTree →
          paths.Pairwise fun path later =>
            ComesBefore path.components later.components) := by
  cases admits with
  | @directory entries isDirectory =>
      refine
        ⟨(FileNode.directory entries).walk patterns (Path.ofString spelling),
          ?_, ?_, ?_⟩
      · refine List.forall₂_map_right_iff.mpr (List.forall₂_same.mpr ?_)
        intro path member
        obtain ⟨names, content, reaches, listed, rfl⟩ :=
          FileNode.mem_walk.mp member
        exact .below isDirectory reaches listed
      · intro path file standsFor
        cases standsFor with
        | itself isKept => exact (isKept.notDirectory ⟨_, isDirectory⟩).elim
        | below isThere reaches listed =>
            cases isDirectory.symm.trans isThere
            exact reaches.mem_walk listed
      · exact fun isTree =>
          (Surroundings.isTree_of_entry isTree isDirectory).pairwise_walk _
  | kept isKept =>
      refine
        ⟨[Path.ofString spelling], .cons (.itself isKept) .nil, ?_,
          fun _ => List.pairwise_singleton ..⟩
      intro path file standsFor
      cases standsFor with
      | itself => exact List.mem_singleton_self _
      | below isDirectory =>
          exact (isKept.notDirectory ⟨_, isDirectory⟩).elim
  | excluded notDirectory isExcluded =>
      refine ⟨[], .nil, ?_, fun _ => .nil⟩
      intro path file standsFor
      have isKept := standsFor.isKept_of_notDirectory notDirectory
      rw [isKept.notExcluded] at isExcluded
      cases isExcluded
  | skipped isSkipped =>
      refine ⟨[], .nil, ?_, fun _ => .nil⟩
      intro path file standsFor
      have isKept := standsFor.isKept_of_notDirectory isSkipped.notDirectory
      rcases isSkipped.unsuited with isUnknown | isTooLarge
      · have isKnown := isKept.isKnown
        rw [isUnknown] at isKnown
        cases isKnown
      · exact (isKept.notTooLarge isTooLarge).elim

/-! ## Where files come in the given paths -/

/-- A place in what given paths stand for: the number of one, and a path from it. -/
structure Occurrence where
  index : Nat
  path : Path

/-- The order of places: of given paths, and of the walk of one of them. -/
def Occurrence.ComesBefore (place later : Occurrence) : Prop :=
  place.index < later.index ∨
    (place.index = later.index ∧
      HouseStyle.ComesBefore place.path.components later.path.components)

/-- A given path stands for a file at a place. -/
def Occurs
    (surroundings : Surroundings)
    (patterns spellings : List String)
    (place : Occurrence)
    (file : String) :
    Prop :=
  ∃ spelling,
    spellings[place.index]? = some spelling ∧
      StandsFor surroundings patterns spelling place.path file

/-- At a place comes one file. -/
theorem Occurs.unique
    {surroundings : Surroundings}
    {patterns spellings : List String}
    {place : Occurrence}
    {file other : String}
    (occurs : Occurs surroundings patterns spellings place file)
    (alsoOccurs : Occurs surroundings patterns spellings place other) :
    file = other := by
  obtain ⟨spelling, isGiven, standsFor⟩ := occurs
  obtain ⟨_, alsoGiven, alsoStandsFor⟩ := alsoOccurs
  obtain rfl := Option.some.inj (isGiven.symm.trans alsoGiven)
  exact standsFor.unique alsoStandsFor

/-- All places of what some paths are admitted for, and in a tree they are in order. -/
theorem exists_places_of_admits
    {surroundings : Surroundings}
    {patterns spellings : List String}
    {admissions : List Admission}
    (admitted :
      List.Forall₂
        (fun spelling admission =>
          Admits surroundings patterns spelling (.ok admission))
        spellings admissions) :
    ∃ places,
      List.Forall₂ (Occurs surroundings patterns spellings) places
          (admissions.flatMap Admission.spellings) ∧
        (∀ place file,
          Occurs surroundings patterns spellings place file → place ∈ places) ∧
        (surroundings.files.IsTree →
          places.Pairwise Occurrence.ComesBefore) := by
  induction admitted with
  | nil =>
      refine ⟨[], .nil, ?_, fun _ => .nil⟩
      rintro place file ⟨spelling, isGiven, _⟩
      cases isGiven
  | @cons spelling admission spellings admissions admits _ inductionHypothesis =>
      obtain ⟨paths, stand, complete, inOrder⟩ := exists_paths_of_admits admits
      obtain ⟨places, occur, allPlaces, placesInOrder⟩ := inductionHypothesis
      refine
        ⟨paths.map (Occurrence.mk 0) ++
          places.map fun place => { place with index := place.index + 1 },
          ?_, ?_, ?_⟩
      · rw [List.flatMap_cons]
        refine List.rel_append ?_ ?_
        · refine List.forall₂_map_left_iff.mpr (stand.imp ?_)
          exact fun path file standsFor => ⟨spelling, rfl, standsFor⟩
        · refine List.forall₂_map_left_iff.mpr (occur.imp ?_)
          exact fun place file occurs => occurs
      · rintro ⟨index, path⟩ file ⟨other, isGiven, standsFor⟩
        refine List.mem_append.mpr ?_
        cases index with
        | zero =>
            obtain rfl := Option.some.inj isGiven
            exact .inl (List.mem_map_of_mem (complete path file standsFor))
        | succ index =>
            have isPlace :=
              allPlaces ⟨index, path⟩ file ⟨other, isGiven, standsFor⟩
            exact .inr (List.mem_map.mpr ⟨_, isPlace, rfl⟩)
      · intro isTree
        refine List.pairwise_append.mpr ⟨?_, ?_, ?_⟩
        · refine List.pairwise_map.mpr ((inOrder isTree).imp ?_)
          exact fun comesBefore => .inr ⟨rfl, comesBefore⟩
        · refine List.pairwise_map.mpr ((placesInOrder isTree).imp ?_)
          rintro place later (isEarlier | ⟨sameIndex, comesBefore⟩)
          · exact .inl (Nat.succ_lt_succ isEarlier)
          · exact .inr ⟨congrArg Nat.succ sameIndex, comesBefore⟩
        · intro place member later laterMember
          obtain ⟨path, _, rfl⟩ := List.mem_map.mp member
          obtain ⟨place, _, rfl⟩ := List.mem_map.mp laterMember
          exact .inl (Nat.succ_pos _)

/-! ## What a collection holds -/

/-- What a collection holds of some given paths. -/
structure Gathers
    (surroundings : Surroundings)
    (patterns spellings : List String)
    (collection : Collection) :
    Prop where
  nodup : collection.files.Nodup
  mem_files_iff :
    ∀ file,
      file ∈ collection.files ↔
        ∃ spelling ∈ spellings,
          ∃ path, StandsFor surroundings patterns spelling path file
  inOrder :
    surroundings.files.IsTree →
    collection.files.Pairwise fun file other =>
      ∃ place,
        Occurs surroundings patterns spellings place file ∧
          ∀ later,
            Occurs surroundings patterns spellings later other →
            place.ComesBefore later
  skipped_eq :
    collection.skipped =
      spellings.countP fun spelling => IsSkipped surroundings patterns spelling

/-- What comes at some place is what some given path stands for. -/
theorem exists_occurs_iff
    {surroundings : Surroundings}
    {patterns spellings : List String}
    {file : String} :
    (∃ place, Occurs surroundings patterns spellings place file) ↔
      ∃ spelling ∈ spellings,
        ∃ path, StandsFor surroundings patterns spelling path file := by
  constructor
  · rintro ⟨place, spelling, isGiven, standsFor⟩
    exact ⟨spelling, List.mem_of_getElem? isGiven, place.path, standsFor⟩
  · rintro ⟨spelling, member, path, standsFor⟩
    obtain ⟨index, isGiven⟩ := List.mem_iff_getElem?.mp member
    exact ⟨⟨index, path⟩, spelling, isGiven, standsFor⟩

/-- What some paths are admitted for is gathered. -/
theorem gathers_ofAdmissions
    {surroundings : Surroundings}
    {patterns spellings : List String}
    {admissions : List Admission}
    (admitted :
      List.Forall₂
        (fun spelling admission =>
          Admits surroundings patterns spelling (.ok admission))
        spellings admissions) :
    Gathers surroundings patterns spellings
      (.ofAdmissions admissions) := by
  obtain ⟨places, occur, complete, inOrder⟩ := exists_places_of_admits admitted
  refine ⟨nodup_eraseDups _, fun file => ?_, fun isTree => ?_, ?_⟩
  · refine Iff.trans ?_ exists_occurs_iff
    rw [Collection.ofAdmissions, List.mem_eraseDups]
    constructor
    · intro member
      obtain ⟨place, _, occurs⟩ := exists_of_forall₂_mem occur member
      exact ⟨place, occurs⟩
    · rintro ⟨place, occurs⟩
      obtain ⟨other, isThere, alsoOccurs⟩ :=
        exists_of_forall₂_mem occur.flip (complete place file occurs)
      rw [occurs.unique alsoOccurs]
      exact isThere
  · exact
      pairwise_eraseDups_of_places occur (inOrder isTree) complete
        fun _ _ _ => Occurs.unique
  · rw [Collection.ofAdmissions]
    clear occur complete inOrder
    induction admitted with
    | nil =>
        rfl
    | @cons spelling admission _ _ admits _ inductionHypothesis =>
        have sameCount :
            (admission == .skipped) =
              decide (IsSkipped surroundings patterns spelling) := by
          rw [Bool.eq_iff_iff, beq_iff_eq, decide_eq_true_eq]
          exact admits.eq_skipped_iff
        simp only at inductionHypothesis ⊢
        rw [List.countP_cons, List.countP_cons, inductionHypothesis, sameCount]

/-- A given path can be looked up. -/
def IsLookedUp
    (surroundings : Surroundings)
    (patterns : List String)
    (spelling : String) :
    Prop :=
  ∀ fault, ¬ Refuses surroundings patterns spelling fault

/-- All paths are admitted, or there is a first one that is refused. -/
theorem admitted_or_refused
    (surroundings : Surroundings)
    (patterns spellings : List String) :
    (∃ admissions,
        spellings.mapM (admission surroundings patterns) = .ok admissions ∧
          List.Forall₂
            (fun spelling admission =>
              IsLookedUp surroundings patterns spelling ∧
                Admits surroundings patterns spelling (.ok admission))
            spellings admissions) ∨
      ∃ before spelling after fault,
        spellings = before ++ spelling :: after ∧
          (∀ earlier ∈ before, IsLookedUp surroundings patterns earlier) ∧
          Refuses surroundings patterns spelling fault ∧
          spellings.mapM (admission surroundings patterns) = .error fault := by
  induction spellings with
  | nil =>
      exact .inl ⟨[], rfl, .nil⟩
  | cons spelling rest inductionHypothesis =>
      have admits := admits_admission surroundings patterns spelling
      rw [List.mapM_cons]
      cases isAdmitted : admission surroundings patterns spelling with
      | error fault =>
          rw [isAdmitted] at admits
          cases admits with
          | refused refuses =>
              exact
                .inr
                  ⟨[], spelling, rest, fault, rfl, List.forall_mem_nil _,
                    refuses, rfl⟩
      | ok admission =>
          have lookedUp : IsLookedUp surroundings patterns spelling := by
            intro fault refuses
            cases isAdmitted.symm.trans (admission_of_refuses refuses)
          rw [isAdmitted] at admits
          rcases inductionHypothesis with
            ⟨admissions, areAdmitted, each⟩ |
              ⟨before, other, after, fault, rfl, areLookedUp, refuses, isRefused⟩
          · rw [areAdmitted]
            exact
              .inl ⟨admission :: admissions, rfl, .cons ⟨lookedUp, admits⟩ each⟩
          · rw [isRefused]
            exact
              .inr
                ⟨spelling :: before, other, after, fault, rfl,
                  List.forall_mem_cons.mpr ⟨lookedUp, areLookedUp⟩, refuses,
                  rfl⟩

/-- A collection gathers what the given paths stand for. -/
theorem gathers_of_collect
    {surroundings : Surroundings}
    {patterns spellings : List String}
    {collection : Collection}
    (collected : collect surroundings spellings patterns = .ok collection) :
    Gathers surroundings patterns spellings collection := by
  unfold collect at collected
  rcases admitted_or_refused surroundings patterns spellings with
    ⟨admissions, areAdmitted, each⟩ | ⟨_, _, _, fault, _, _, _, isRefused⟩
  · rw [areAdmitted] at collected
    cases collected
    exact gathers_ofAdmissions (each.imp fun _ _ => And.right)
  · rw [isRefused] at collected
    cases collected

/-- There is a collection of paths that can be looked up. -/
theorem exists_collection_of_lookedUp
    {surroundings : Surroundings}
    {patterns spellings : List String}
    (areLookedUp :
      ∀ spelling ∈ spellings, IsLookedUp surroundings patterns spelling) :
    ∃ collection, collect surroundings spellings patterns = .ok collection := by
  rcases admitted_or_refused surroundings patterns spellings with
    ⟨admissions, areAdmitted, _⟩ |
      ⟨before, spelling, after, fault, rfl, _, refuses, _⟩
  · exact ⟨.ofAdmissions admissions, by rw [collect, areAdmitted]; rfl⟩
  · have member : spelling ∈ before ++ spelling :: after :=
      List.mem_append_right _ (List.mem_cons_self ..)
    exact (areLookedUp spelling member fault refuses).elim

/-! ## More patterns -/

variable {surroundings : Surroundings} {patterns more : List String}

theorem isExcluded_of_subset
    {path : Path}
    (moreThan : patterns ⊆ more)
    (notExcluded : isExcluded more path = false) :
    isExcluded patterns path = false := by
  simp only [isExcluded, List.any_eq_false] at notExcluded ⊢
  exact fun pattern member => notExcluded pattern (moreThan member)

/-- A walk gets no further with more patterns. -/
theorem FileNode.Reaches.of_subset
    (moreThan : patterns ⊆ more)
    {path : Path}
    {entries : List (String × FileNode ByteArray)}
    {names : List String}
    {content : ByteArray}
    (reaches : Reaches more path entries names content) :
    Reaches patterns path entries names content := by
  induction reaches with
  | file isEntry =>
      exact .file isEntry
  | directory isEntry entered _ inductionHypothesis =>
      refine .directory isEntry ?_ inductionHypothesis
      simp only [isEntered, Bool.and_eq_true, Bool.not_eq_true'] at entered ⊢
      exact ⟨entered.1, isExcluded_of_subset moreThan entered.2⟩

/-- With more patterns a path stands for no more files. -/
theorem StandsFor.of_subset
    (moreThan : patterns ⊆ more)
    {spelling file : String}
    {path : Path}
    (standsFor : StandsFor surroundings more spelling path file) :
    StandsFor surroundings patterns spelling path file := by
  cases standsFor with
  | itself isKept =>
      exact
        .itself
          { isKept with
            notExcluded := isExcluded_of_subset moreThan isKept.notExcluded }
  | below isDirectory reaches listed =>
      refine .below isDirectory (reaches.of_subset moreThan) ?_
      simp only [isListed, Bool.and_eq_true, Bool.not_eq_true'] at listed ⊢
      exact ⟨⟨listed.1.1, isExcluded_of_subset moreThan listed.1.2⟩, listed.2⟩

theorem IsSkipped.of_subset
    (moreThan : patterns ⊆ more)
    {spelling : String}
    (isSkipped : IsSkipped surroundings more spelling) :
    IsSkipped surroundings patterns spelling :=
  { isSkipped with
    notExcluded := isExcluded_of_subset moreThan isSkipped.notExcluded }

/-- With more patterns no more paths are refused. -/
theorem IsLookedUp.of_subset
    (moreThan : patterns ⊆ more)
    {spelling : String}
    (lookedUp : IsLookedUp surroundings patterns spelling) :
    IsLookedUp surroundings more spelling := by
  intro fault refuses
  cases refuses with
  | nameTooLong isEntry =>
      exact lookedUp _ (.nameTooLong isEntry)
  | embeddedNul isEntry notExcluded isKnown =>
      have notExcluded := isExcluded_of_subset moreThan notExcluded
      exact lookedUp _ (.embeddedNul isEntry notExcluded isKnown)

/--
With more patterns a collection never holds more files, and never counts more
skipped paths.
-/
theorem Gathers.of_subset
    (moreThan : patterns ⊆ more)
    {spellings : List String}
    {collection fewer : Collection}
    (gathers : Gathers surroundings patterns spellings collection)
    (gathersFewer : Gathers surroundings more spellings fewer) :
    fewer.files ⊆ collection.files ∧ fewer.skipped ≤ collection.skipped := by
  constructor
  · intro file member
    obtain ⟨spelling, isGiven, path, standsFor⟩ :=
      (gathersFewer.mem_files_iff file).mp member
    exact
      (gathers.mem_files_iff file).mpr
        ⟨spelling, isGiven, path, standsFor.of_subset moreThan⟩
  · rw [gathersFewer.skipped_eq, gathers.skipped_eq]
    refine List.countP_mono_left fun spelling _ isSkipped => ?_
    exact decide_eq_true ((of_decide_eq_true isSkipped).of_subset moreThan)

/--
A collection ends at the first path that cannot be looked up. If there is none,
it holds exactly the files that the given paths stand for, each once and in the
order in which they come first; and with more patterns there is a collection too
that holds no other files and counts no more skipped paths.
-/
theorem collect_gathers_or_refuses
    (surroundings : Surroundings)
    (patterns spellings : List String) :
    (∃ before spelling after fault,
        spellings = before ++ spelling :: after ∧
          (∀ earlier ∈ before, IsLookedUp surroundings patterns earlier) ∧
          Refuses surroundings patterns spelling fault ∧
          collect surroundings spellings patterns = .error fault) ∨
      ((∀ spelling ∈ spellings, IsLookedUp surroundings patterns spelling) ∧
        ∃ collection,
          collect surroundings spellings patterns = .ok collection ∧
            Gathers surroundings patterns spellings collection ∧
            ∀ more,
              patterns ⊆ more →
              ∃ fewer,
                collect surroundings spellings more = .ok fewer ∧
                  Gathers surroundings more spellings fewer ∧
                  fewer.files ⊆ collection.files ∧
                  fewer.skipped ≤ collection.skipped) := by
  rcases admitted_or_refused surroundings patterns spellings with
    ⟨admissions, _, each⟩ |
      ⟨before, spelling, after, fault, split, areLookedUp, refuses, isRefused⟩
  · have areLookedUp :
        ∀ spelling ∈ spellings, IsLookedUp surroundings patterns spelling := by
      intro spelling member
      obtain ⟨_, _, lookedUp, _⟩ := exists_of_forall₂_mem each.flip member
      exact lookedUp
    obtain ⟨collection, isCollected⟩ := exists_collection_of_lookedUp areLookedUp
    have gathers := gathers_of_collect isCollected
    refine .inr ⟨areLookedUp, collection, isCollected, gathers, ?_⟩
    intro more moreThan
    obtain ⟨fewer, fewerCollected⟩ :=
      exists_collection_of_lookedUp fun spelling member =>
        (areLookedUp spelling member).of_subset moreThan
    have gathersFewer := gathers_of_collect fewerCollected
    exact
      ⟨fewer, fewerCollected, gathersFewer,
        gathers.of_subset moreThan gathersFewer⟩
  · refine
      .inl ⟨before, spelling, after, fault, split, areLookedUp, refuses, ?_⟩
    rw [collect, isRefused]
    rfl

/-- A disk with one small file. -/
def oneFileDisk : Surroundings where
  files := .directory [("a.py", .file ByteArray.empty)]
  directory := Path.ofString "/"
  environment := []

/-- There a name of too many bytes cannot be looked up. -/
theorem entry_of_tooLong
    {name : String}
    (isComponent : Path.IsComponent name)
    (notAbove : name ≠ "..")
    (noNul : '\x00' ∉ name.toList)
    (isLong : greatestNameSize < name.utf8ByteSize) :
    oneFileDisk.entry (Path.ofString name) = .error .nameTooLong := by
  have isSpelled : Path.render { root := "", components := [name] } = name := by
    simp [Path.render, String.intercalate_singleton, isComponent.notEmpty]
  have components :
      (oneFileDisk.anchor { root := "", components := [name] }).components =
        [name] := by
    rw [Surroundings.anchor, oneFileDisk, Path.ofString_eq]
    rfl
  rw [isComponent.ofString_eq, Surroundings.entry, isSpelled, components]
  simp only [List.contains_eq_mem, noNul, decide_false, Bool.false_eq_true,
    if_false]
  split
  · rfl
  · rw [oneFileDisk, FileNode.follow, if_neg notAbove, if_pos isLong]

/-- A name of some letters. -/
def lettered (count : Nat) : String :=
  String.ofList (List.replicate count 'a') ++ ".py"

/-- There a name of too many letters cannot be looked up. -/
theorem entry_of_lettered
    {count : Nat}
    (isLong : greatestNameSize < (lettered count).utf8ByteSize) :
    oneFileDisk.entry (Path.ofString (lettered count)) =
      .error .nameTooLong := by
  have isSpelled :
      (lettered count).toList = List.replicate count 'a' ++ ['.', 'p', 'y'] := by
    rw [lettered, String.toList_append, String.toList_ofList]
    rfl
  have length : (lettered count).toList.length = count + 3 := by
    simp [isSpelled]
  have isOther
      {name : String}
      (isShort : name.toList.length < 3) :
      lettered count ≠ name := by
    rintro rfl
    omega
  have isComponent : Path.IsComponent (lettered count) :=
    ⟨isOther (by decide), isOther (by decide), by simp [isSpelled]⟩
  exact
    entry_of_tooLong isComponent (isOther (by decide)) (by simp [isSpelled])
      isLong

/--
A long name ends the collection, although it names no directory, and so does a
path with a NUL, which stands for itself as a path does at which nothing stands.
The file behind it is lost.
-/
theorem collect_of_unseen :
    collect oneFileDisk [lettered 300, "a.py"] [] = .error .nameTooLong ∧
      IsKept oneFileDisk [] "a\x00.py" ∧
      collect oneFileDisk ["a\x00.py", "a.py"] [] = .error .embeddedNul := by
  refine ⟨?_, ⟨?_, rfl, ?_, ?_⟩, ?_⟩
  · have isLong : greatestNameSize < (lettered 300).utf8ByteSize := by
      decide +kernel
    have isEntry := entry_of_lettered isLong
    rw [collect, List.mapM_cons, admission_of_refuses (.nameTooLong isEntry)]
    rfl
  · decide +kernel
  · decide +kernel
  · decide +kernel
  · decide +kernel

end HouseStyle
