import HouseStyle.Configuration.Inheritance
import HouseStyle.Proofs.Answer
import HouseStyle.Proofs.Document.Entries
import HouseStyle.Proofs.Files.Trail

namespace HouseStyle

/-!
# The recursion through what sheets extend

Reading a sheet asks for all sheets that it extends, with its own key among those
being read. No chain of such visits goes on forever: presets extend nothing, files
have finitely many keys, and a key that is being read already stops the chain. So
the bound on the number of steps is never met, and what reads sheets is the only
answer to the equation that describes it.
-/

namespace Sheet

/-- One sheet extends another if one of its references stands for it. -/
def Extends
    (surroundings : Surroundings)
    (sheet parent : Sheet) :
    Prop :=
  ∃ own references reference,
    sheet.anchored surroundings = .ok own ∧
      referencesOf own = .ok references ∧
        reference ∈ references ∧
          referenced surroundings sheet.base reference = .ok parent

/-- A sheet that is looked at while the sheets of some keys are being read. -/
structure Visit where
  opened : List String
  sheet : Sheet

/-- Reading the sheet of one visit leads to another visit. -/
structure Visit.Leads
    (surroundings : Surroundings)
    (outer inner : Visit) :
    Prop where
  isNew : outer.sheet.key ∉ outer.opened
  extended : outer.sheet.Extends surroundings inner.sheet
  opened : inner.opened = outer.sheet.key :: outer.opened

variable {surroundings : Surroundings}

/-- What a sheet extends is what one of the references read from it stands for. -/
theorem Extends.exists_reference
    {sheet parent : Sheet}
    (extended : sheet.Extends surroundings parent)
    {own : Entries}
    {references : List Document}
    (isAnchored : sheet.anchored surroundings = .ok own)
    (areReferences : referencesOf own = .ok references) :
    ∃ reference ∈ references,
      referenced surroundings sheet.base reference = .ok parent := by
  obtain ⟨_, _, reference, isOwn, areOwn, member, isReferenced⟩ := extended
  rw [isAnchored, Except.ok.injEq] at isOwn
  subst isOwn
  rw [areReferences, Except.ok.injEq] at areOwn
  subst areOwn
  exact ⟨reference, member, isReferenced⟩

/-! ## Presets and files -/

/-- To change the value under one key keeps what stands under the others. -/
theorem get?_of_changeValue
    {key other : String}
    (different : key ≠ other)
    {change : Document → Except ConfigFailure Document}
    {entries changed : Entries}
    (isChanged : changeValue key change entries = .ok changed) :
    changed.get? other = entries.get? other := by
  unfold changeValue at isChanged
  split at isChanged
  · obtain ⟨value, _, isPut⟩ := exists_of_bind_eq_ok isChanged
    cases isPut
    exact Entries.get?_put_of_ne different entries value
  · cases isChanged
    rfl

/-- To anchor the word lists of a sheet keeps what it extends. -/
theorem extends_of_anchored
    {sheet : Sheet}
    {own : Entries}
    (isAnchored : sheet.anchored surroundings = .ok own) :
    own.get? "extends" = sheet.entries.get? "extends" := by
  obtain ⟨entries, inRules, inLanguages⟩ := exists_of_bind_eq_ok isAnchored
  calc
    own.get? "extends" = entries.get? "extends" :=
      get?_of_changeValue (by decide) inLanguages
    _ = sheet.entries.get? "extends" :=
      get?_of_changeValue (by decide) inRules

/-- The packaged configurations. -/
def packagedEntries : List Entries :=
  [Packaged.defaults, Packaged.relaxed, Packaged.strict]

/-- The packaged tree holds nothing else. -/
theorem packaged_allFiles :
    (FileNode.directory [("styleguard", Packaged.programDirectory)]).AllFiles
      (· ∈ packagedEntries) := by
  have ofPresets :
      Packaged.presetDirectory.AllFiles (· ∈ packagedEntries) := by
    refine .directory ?_
    simp only [Packaged.presets, List.map_cons, List.map_nil,
      List.forall_mem_cons]
    exact
      ⟨.file (by simp [packagedEntries]), .file (by simp [packagedEntries]),
        by simp⟩
  have ofAll :
      Packaged.configurationDirectory.AllFiles (· ∈ packagedEntries) := by
    refine .directory ?_
    simp only [List.forall_mem_cons]
    exact ⟨.file (by simp [packagedEntries]), ofPresets, by simp⟩
  have ofProgram :
      Packaged.programDirectory.AllFiles (· ∈ packagedEntries) :=
    .directory (by simpa using ofAll)
  exact .directory (by simpa using ofProgram)

/-- A preset is one of the packaged configurations. -/
theorem mem_packagedEntries_of_preset
    {name : String}
    {entries : Entries}
    (isPreset : Packaged.preset? name = .ok (some entries)) :
    entries ∈ packagedEntries := by
  have isTrail :
      (FileNode.directory [("styleguard", Packaged.programDirectory)]).Trail
        ["presets", "ruleset", "styleguard"] Packaged.directoriesAbove
        Packaged.presetDirectory := by
    refine .down (.down (.down .start ?_) ?_) ?_ <;> rfl
  unfold Packaged.preset? at isPreset
  simp only at isPreset
  split at isPreset
  · cases isPreset
  · split at isPreset
    · cases isPreset
    · split at isPreset
      · next found isFound =>
          cases isPreset
          obtain ⟨above, isTrail⟩ := isTrail.exists_of_follow isFound
          cases isTrail.allFiles packaged_allFiles with
          | file isPackaged => exact isPackaged
      · cases isPreset
      · cases isPreset

/-- The packaged configurations extend nothing. -/
theorem extends_of_packaged :
    ∀ entries ∈ packagedEntries, entries.get? "extends" = none := by
  simp only [packagedEntries, List.forall_mem_cons]
  exact ⟨rfl, rfl, rfl, by simp⟩

/-- The sheet of a preset holds a packaged configuration. -/
theorem ofPreset_eq
    {name : String}
    {preset : Sheet}
    (isPreset : ofPreset name = .ok preset) :
    preset.entries ∈ packagedEntries ∧ preset.origin = .plain := by
  unfold ofPreset at isPreset
  split at isPreset
  · cases isPreset
  · next entries isEntries =>
      cases isPreset
      exact ⟨mem_packagedEntries_of_preset isEntries, rfl⟩
  · cases isPreset

/-- What a sheet extends is said by its own entries. -/
theorem referencesOf_of_anchored
    {sheet : Sheet}
    {own : Entries}
    (isAnchored : sheet.anchored surroundings = .ok own) :
    referencesOf own = referencesOf sheet.entries := by
  rw [referencesOf, referencesOf, extends_of_anchored isAnchored]

/-- No sheet of a preset extends another one. -/
theorem not_extends_of_ofPreset
    {name : String}
    {preset parent : Sheet}
    (isPreset : ofPreset name = .ok preset) :
    ¬ preset.Extends surroundings parent := by
  rintro ⟨own, references, reference, isAnchored, areReferences, member, _⟩
  have isPackaged := (ofPreset_eq isPreset).1
  rw [referencesOf_of_anchored isAnchored, referencesOf,
    extends_of_packaged _ isPackaged] at areReferences
  cases areReferences
  cases member

/-- The keys that the sheets of files have. -/
def fileKeys (surroundings : Surroundings) : List String :=
  surroundings.filePaths.map Path.render

/-- The key of a file's sheet is among them. -/
theorem key_mem_of_ofFile
    {path : Path}
    {sheet : Sheet}
    (isRead : ofFile surroundings path = .ok sheet) :
    sheet.key ∈ fileKeys surroundings := by
  unfold ofFile at isRead
  split at isRead
  · cases isRead
  · cases isRead
  · next content isContent =>
      obtain ⟨_, _, isRead⟩ := exists_of_bind_eq_ok isRead
      obtain ⟨_, _, isRead⟩ := exists_of_bind_eq_ok isRead
      cases isRead
      exact List.mem_map_of_mem (Surroundings.resolve_mem_filePaths isContent)

/-- What a sheet extends has the key of a file or extends nothing itself. -/
theorem Extends.fileKey_or_preset
    {sheet parent : Sheet}
    (extended : sheet.Extends surroundings parent) :
    parent.key ∈ fileKeys surroundings ∨
      ∀ further, ¬ parent.Extends surroundings further := by
  obtain ⟨_, _, reference, _, _, _, isReferenced⟩ := extended
  obtain ⟨spelling, _, isParent⟩ := exists_of_bind_eq_ok isReferenced
  unfold ofReference at isParent
  split at isParent
  · exact .inr fun further => not_extends_of_ofPreset isParent
  · obtain ⟨path, _, isRead⟩ := exists_of_bind_eq_ok isParent
    exact .inl (key_mem_of_ofFile isRead)

/-! ## Chains of visits -/

/-- The keys of files that are not being read. -/
def unopened
    (surroundings : Surroundings)
    (opened : List String) :
    List String :=
  (fileKeys surroundings).filter (· ∉ opened)

/-- To open the key of a file leaves fewer of them. -/
theorem length_unopened_cons_lt
    {key : String}
    {opened : List String}
    (isFile : key ∈ fileKeys surroundings)
    (isNew : key ∉ opened) :
    (unopened surroundings (key :: opened)).length <
      (unopened surroundings opened).length := by
  have isUnopened : key ∈ unopened surroundings opened :=
    List.mem_filter.mpr ⟨isFile, decide_eq_true isNew⟩
  have further :
      unopened surroundings (key :: opened) =
        (unopened surroundings opened).filter (· ≠ key) := by
    rw [unopened, unopened, List.filter_filter]
    refine List.filter_congr ?_
    intro other _
    simp
  rw [further]
  exact List.length_filter_lt_length_iff_exists.mpr ⟨key, isUnopened, by simp⟩

/-- There are no more of them than files. -/
theorem length_unopened_le
    (surroundings : Surroundings)
    (opened : List String) :
    (unopened surroundings opened).length ≤ surroundings.files.count := by
  calc
    (unopened surroundings opened).length ≤ (fileKeys surroundings).length :=
      List.length_filter_le _ _
    _ = surroundings.files.count := by
      rw [fileKeys, List.length_map, Surroundings.length_filePaths]

namespace Visit

/-- No chain of visits from the sheet of a file goes on forever. -/
theorem acc_of_fileKey
    {visit : Visit}
    (isFile : visit.sheet.key ∈ fileKeys surroundings) :
    Acc (fun inner outer => outer.Leads surroundings inner) visit := by
  -- A step down opens the key of a file, and there are only so many of them.
  induction count : (unopened surroundings visit.opened).length
      using Nat.strongRecOn generalizing visit with
  | ind count inductionHypothesis =>
      refine .intro visit ?_
      intro inner leads
      rcases leads.extended.fileKey_or_preset with isFileToo | isPreset
      · refine inductionHypothesis _ ?_ isFileToo rfl
        rw [← count, leads.opened]
        exact length_unopened_cons_lt isFile leads.isNew
      · exact .intro inner fun further next => (isPreset _ next.extended).elim

/-- No chain of visits goes on forever. -/
theorem wellFounded_leads (surroundings : Surroundings) :
    WellFounded fun inner outer : Visit => outer.Leads surroundings inner := by
  refine ⟨fun visit => .intro visit ?_⟩
  intro inner leads
  rcases leads.extended.fileKey_or_preset with isFile | isPreset
  · exact acc_of_fileKey isFile
  · exact .intro inner fun further next => (isPreset _ next.extended).elim

end Visit

/-! ## Loaders -/

/-- A loader that hands back the keys that it is given. -/
def Loader.Restores (load : Loader) : Prop :=
  ∀ opened sheet entries rest,
    load opened sheet = .ok (entries, rest) → rest = opened

/-- References are merged with the same keys opened before and after. -/
theorem opened_of_mergeReferences
    {load : Loader}
    (restores : load.Restores)
    {base : Path}
    {references : List Document}
    {lower all : Entries}
    {opened rest : List String}
    (areMerged :
      mergeReferences surroundings load base lower opened references =
        .ok (all, rest)) :
    rest = opened := by
  induction references generalizing lower opened with
  | nil =>
      cases areMerged
      rfl
  | cons reference others inductionHypothesis =>
      obtain ⟨parent, _, areMerged⟩ := exists_of_bind_eq_ok areMerged
      obtain ⟨⟨entries, next⟩, isLoaded, areMerged⟩ :=
        exists_of_bind_eq_ok areMerged
      have isRestored := restores opened parent entries next isLoaded
      exact (inductionHypothesis areMerged).trans isRestored

/-- What a loader on top of another one found when it gives an answer. -/
theorem exists_of_inheritWith
    {load : Loader}
    {sheet : Sheet}
    {all : Entries}
    {opened rest : List String}
    (isLoaded :
      inheritWith surroundings load opened sheet = .ok (all, rest)) :
    sheet.key ∉ opened ∧
      ∃ own references merged next,
        sheet.anchored surroundings = .ok own ∧
          referencesOf own = .ok references ∧
            mergeReferences
                surroundings load sheet.base [] (sheet.key :: opened)
                references =
              .ok (merged, next) ∧
            all =
              (merged.merge own).put (.text "extends") (.list references) ∧
            rest = next.erase sheet.key := by
  unfold inheritWith at isLoaded
  split at isLoaded
  · cases isLoaded
  · next isNew =>
      obtain ⟨own, isAnchored, isLoaded⟩ := exists_of_bind_eq_ok isLoaded
      obtain ⟨references, areReferences, isLoaded⟩ :=
        exists_of_bind_eq_ok isLoaded
      obtain ⟨⟨merged, next⟩, areMerged, isLoaded⟩ :=
        exists_of_bind_eq_ok isLoaded
      cases isLoaded
      refine
        ⟨?_, own, references, merged, next, isAnchored, areReferences,
          areMerged, rfl, rfl⟩
      rwa [List.contains_iff_mem] at isNew

/-- A loader on top of one that hands back keys hands them back. -/
theorem restores_inheritWith
    {load : Loader}
    (restores : load.Restores) :
    (inheritWith surroundings load).Restores := by
  intro opened sheet all rest isLoaded
  obtain ⟨_, own, references, merged, next, _, _, areMerged, _, rfl⟩ :=
    exists_of_inheritWith isLoaded
  rw [opened_of_mergeReferences restores areMerged, List.erase_cons_head]

/-- Sheets are read with the same keys opened before and after. -/
theorem restores_inherit (surroundings : Surroundings) (depth : Nat) :
    (inherit surroundings depth).Restores := by
  induction depth with
  | zero =>
      intro opened sheet entries rest isLoaded
      cases isLoaded
  | succ depth inductionHypothesis =>
      exact restores_inheritWith inductionHypothesis

/-- Loaders that agree on all that references stand for merge them alike. -/
theorem mergeReferences_congr
    {load other : Loader}
    (restores : other.Restores)
    {base : Path}
    {opened : List String}
    {references : List Document}
    (agree :
      ∀ reference ∈ references,
      ∀ parent,
        referenced surroundings base reference = .ok parent →
        load opened parent = other opened parent)
    (lower : Entries) :
    mergeReferences surroundings load base lower opened references =
      mergeReferences surroundings other base lower opened references := by
  induction references generalizing lower with
  | nil =>
      rfl
  | cons reference rest inductionHypothesis =>
      have agreeBehind := fun another member =>
        agree another (List.mem_cons_of_mem reference member)
      rw [mergeReferences, mergeReferences]
      refine bind_congr_of_ok fun parent isReferenced => ?_
      rw [agree reference (List.mem_cons_self ..) parent isReferenced]
      refine bind_congr_of_ok fun answer isLoaded => ?_
      obtain rfl := restores opened parent answer.1 answer.2 isLoaded
      exact inductionHypothesis agreeBehind (lower.merge answer.1)

/-- Loaders that agree on all visits that one leads to agree on top of them. -/
theorem inheritWith_congr
    {load other : Loader}
    (restores : other.Restores)
    (visit : Visit)
    (agree :
      ∀ inner,
        visit.Leads surroundings inner →
        load inner.opened inner.sheet = other inner.opened inner.sheet) :
    inheritWith surroundings load visit.opened visit.sheet =
      inheritWith surroundings other visit.opened visit.sheet := by
  unfold inheritWith
  split
  · rfl
  · next isNew =>
      rw [List.contains_iff_mem] at isNew
      refine bind_congr_of_ok fun own isAnchored => ?_
      refine bind_congr_of_ok fun references areReferences => ?_
      rw [mergeReferences_congr restores]
      intro reference member parent isReferenced
      exact
        agree ⟨visit.sheet.key :: visit.opened, parent⟩
          { isNew
            extended :=
              ⟨own, references, reference, isAnchored, areReferences, member,
                isReferenced⟩
            opened := rfl }

/-- One step reads a sheet that extends nothing. -/
theorem inherit_of_childless
    {visit : Visit}
    (childless : ∀ parent, ¬ visit.sheet.Extends surroundings parent)
    {depth : Nat}
    (isPositive : 0 < depth) :
    inherit surroundings depth visit.opened visit.sheet =
      inherit surroundings (depth + 1) visit.opened visit.sheet := by
  obtain ⟨depth, rfl⟩ := Nat.exists_eq_succ_of_ne_zero isPositive.ne'
  refine inheritWith_congr (restores_inherit surroundings (depth + 1)) visit ?_
  intro inner leads
  exact (childless inner.sheet leads.extended).elim

/-- A step for each file that is not opened, and one more, read a file's sheet. -/
theorem inherit_of_fileKey
    {visit : Visit}
    (isFile : visit.sheet.key ∈ fileKeys surroundings)
    {depth : Nat}
    (isEnough : (unopened surroundings visit.opened).length < depth) :
    inherit surroundings depth visit.opened visit.sheet =
      inherit surroundings (depth + 1) visit.opened visit.sheet := by
  induction depth generalizing visit with
  | zero =>
      exact absurd isEnough (Nat.not_lt_zero _)
  | succ depth inductionHypothesis =>
      refine inheritWith_congr (restores_inherit surroundings (depth + 1)) visit ?_
      intro inner leads
      have isLess :
          (unopened surroundings inner.opened).length <
            (unopened surroundings visit.opened).length := by
        rw [leads.opened]
        exact length_unopened_cons_lt isFile leads.isNew
      rcases leads.extended.fileKey_or_preset with isFileToo | childless
      · exact inductionHypothesis isFileToo (by omega)
      · exact inherit_of_childless childless (by omega)

/-- What reads a sheet reads all that it extends with itself. -/
theorem load_eq
    (surroundings : Surroundings)
    (opened : List String)
    (sheet : Sheet) :
    load surroundings opened sheet =
      inheritWith surroundings (load surroundings) opened sheet := by
  -- The bound leaves a step for the root, which need not be the sheet of a file.
  have restores := restores_inherit surroundings (chainBound surroundings)
  refine inheritWith_congr restores ⟨opened, sheet⟩ ?_
  intro inner leads
  rcases leads.extended.fileKey_or_preset with isFile | childless
  · refine inherit_of_fileKey isFile ?_
    have atMost := length_unopened_le surroundings inner.opened
    omega
  · exact inherit_of_childless childless (Nat.succ_pos _)

/-- What reads sheets hands back the keys that it is given. -/
theorem restores_load (surroundings : Surroundings) :
    (load surroundings).Restores :=
  restores_inherit surroundings (chainBound surroundings)

/-- No other loader reads all that a sheet extends with itself. -/
theorem eq_load
    {other : Loader}
    (isSolution :
      ∀ opened sheet,
        other opened sheet = inheritWith surroundings other opened sheet) :
    other = load surroundings := by
  have sameAt (visit : Visit) :
      other visit.opened visit.sheet =
        load surroundings visit.opened visit.sheet := by
    induction visit using (Visit.wellFounded_leads surroundings).induction with
    | h visit inductionHypothesis =>
        rw [isSolution, load_eq]
        exact
          inheritWith_congr (restores_load surroundings) visit
            inductionHypothesis
  funext opened sheet
  exact sameAt ⟨opened, sheet⟩

end Sheet

end HouseStyle
