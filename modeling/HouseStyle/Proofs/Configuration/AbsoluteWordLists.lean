import HouseStyle.Proofs.Configuration.LoadedTrees
import HouseStyle.Proofs.Text.PathSpelling

namespace HouseStyle

/-!
# Word lists of absolute paths

In a sheet that is read from an absolute path, each relative path of a word list
is anchored to an absolute one, however many rules share it. Merging adds no path,
and each sheet that is extended is read from an absolute path too. So the paths
in a loaded configuration are absolute, but for those that start with `~`: these
are left as they are spelled where they expand to an absolute path, and what is
read is another path, below the working directory.
-/

open Yaml (Origin Reading)

variable {surroundings : Surroundings} {base : Path}

/-! ## Parameters -/

/-- A text names a word list by a path that is absolute when `~` is expanded. -/
def ExpandsToAbsolute (surroundings : Surroundings) (spelling : String) : Prop :=
  ∃ path,
    Sheet.expand surroundings spelling = .ok path ∧ path.isAbsolute = true

/-- An absolute path needs no expansion. -/
theorem expandsToAbsolute_of_isAbsolute
    {spelling : String}
    (isAbsolute : (Path.ofString spelling).isAbsolute = true) :
    ExpandsToAbsolute surroundings spelling := by
  refine ⟨Path.ofString spelling, ?_, isAbsolute⟩
  rw [Sheet.expand, Surroundings.expandHome?, if_pos isAbsolute]

/-- What is expanded has the root of a path that was read. -/
theorem root_of_expand
    {spelling : String}
    {path : Path}
    (isExpanded : Sheet.expand surroundings spelling = .ok path) :
    path.root = "" ∨ path.root = "/" ∨ path.root = "//" := by
  unfold Sheet.expand at isExpanded
  split at isExpanded
  · next found isFound =>
      cases isExpanded
      have isRoot := (Path.isNormal_ofString spelling).root
      unfold Surroundings.expandHome? at isFound
      split at isFound
      · cases isFound
        exact isRoot
      split at isFound
      · cases isFound
        exact isRoot
      split at isFound
      · obtain ⟨home, _, isFound⟩ := Option.bind_eq_some_iff.mp isFound
        simp only at isFound
        split at isFound
        · cases isFound
        · cases isFound
          exact (Path.isNormal_ofString _).root
      · cases isFound
        exact isRoot
  · cases isExpanded

/-- Parameters name no relative path exactly if what they name expands to none. -/
theorem namesRelative_eq_false_iff
    {params : Entries} :
    namesRelative surroundings params = false ↔
      ∀ spelling,
        params.get? "lexicon_file" = some (.text spelling) →
        spelling ≠ "" →
        ExpandsToAbsolute surroundings spelling := by
  unfold namesRelative
  split
  · next spelling isSpelled =>
      rw [isSpelled]
      cases isPath : Sheet.expand surroundings spelling with
      | error failure =>
          simp [ExpandsToAbsolute, isPath, Document.text]
      | ok path =>
          simp [ExpandsToAbsolute, isPath, Document.text]
  · next notSpelled =>
      refine ⟨fun _ spelling isSpelled => ?_, fun _ => rfl⟩
      exact (notSpelled spelling isSpelled).elim

/-- Parameters that are anchored to an absolute path name no relative one. -/
theorem namesRelative_of_anchorParams
    (isRooted : base.IsRooted)
    {params changed : Entries}
    (areAnchored : anchorParams surroundings base params = .ok changed) :
    namesRelative surroundings changed = false := by
  rw [namesRelative_eq_false_iff]
  intro other isOther notEmpty
  unfold anchorParams at areAnchored
  split at areAnchored
  · next spelling isSpelled =>
      split at areAnchored
      · next isEmpty =>
          cases areAnchored
          rw [isSpelled] at isOther
          cases isOther
          exact (notEmpty isEmpty).elim
      · obtain ⟨path, isPath, areAnchored⟩ := exists_of_bind_eq_ok areAnchored
        split at areAnchored
        · next isAbsolute =>
            cases areAnchored
            rw [isSpelled] at isOther
            cases isOther
            exact ⟨path, isPath, isAbsolute⟩
        · cases areAnchored
          rw [Entries.get?_put_self] at isOther
          cases isOther
          have isJoined := isRooted.join (root_of_expand isPath)
          exact
            expandsToAbsolute_of_isAbsolute isJoined.isAbsolute_ofString_render
  · next notSpelled =>
      cases areAnchored
      exact (notSpelled other isOther).elim

/-- So do parameters that are anchored several times, but at least once. -/
theorem namesRelative_of_anchorRepeatedly
    (isRooted : base.IsRooted)
    {times : Nat}
    (isCounted : 0 < times)
    {params changed : Entries}
    (areAnchored :
      anchorRepeatedly surroundings base params times = .ok changed) :
    namesRelative surroundings changed = false := by
  cases times with
  | zero =>
      exact (Nat.lt_irrefl 0 isCounted).elim
  | succ times =>
      obtain ⟨once, isOnce, areAnchored⟩ := exists_of_bind_eq_ok areAnchored
      have settled := namesRelative_of_anchorParams isRooted isOnce
      rw [anchorRepeatedly_of_settled settled] at areAnchored
      cases areAnchored
      exact settled

/-- A mapping among anchored parameters was there before. -/
theorem find?_map_of_anchorRepeatedly
    {times : Nat}
    {params changed : Entries}
    (areAnchored :
      anchorRepeatedly surroundings base params times = .ok changed)
    {key : Scalar}
    {below : Entries}
    (isThere : changed.find? key = some (.map below)) :
    params.find? key = some (.map below) := by
  induction times generalizing params with
  | zero =>
      cases areAnchored
      exact isThere
  | succ times inductionHypothesis =>
      obtain ⟨once, isOnce, areAnchored⟩ := exists_of_bind_eq_ok areAnchored
      have isThere := inductionHypothesis areAnchored
      unfold anchorParams at isOnce
      split at isOnce
      · split at isOnce
        · cases isOnce
          exact isThere
        · obtain ⟨path, _, isOnce⟩ := exists_of_bind_eq_ok isOnce
          split at isOnce
          · cases isOnce
            exact isThere
          · cases isOnce
            by_cases same : (Scalar.text "lexicon_file").name = key.name
            · rw [← Entries.find?_congr same, Entries.find?_put_self] at isThere
              cases isThere
            · rwa [Entries.find?_put_of_ne same] at isThere
      · cases isOnce
        exact isThere

/-! ## Documents -/

/-- A mapping that was anchored was one, and it was anchored in two steps. -/
theorem exists_of_anchored_map
    {params : List Nat}
    {origin : Origin}
    {document : Document}
    {changed : Entries}
    (traced : Reading.Traced { document, origin })
    (isAnchored :
      document.anchored surroundings base params origin = .ok (.map changed)) :
    ∃ number table entries once,
      document = .map entries ∧
        origin = .map number table ∧
        anchoredEntries surroundings base params origin entries = .ok once ∧
        anchorRepeatedly surroundings base once (params.count number) =
          .ok changed := by
  cases document with
  | map entries =>
      obtain ⟨⟨number, table, rfl⟩, _⟩ := traced.map
      obtain ⟨once, isOnce, isAnchored⟩ := exists_of_bind_eq_ok isAnchored
      obtain ⟨often, isOften, isAnchored⟩ := exists_of_bind_eq_ok isAnchored
      cases isAnchored
      exact ⟨number, table, entries, once, rfl, rfl, isOnce, isOften⟩
  | list items =>
      unfold Document.anchored at isAnchored
      split at isAnchored
      · obtain ⟨_, _, isAnchored⟩ := exists_of_map_eq_ok isAnchored
        cases isAnchored
      · cases isAnchored
  | _ => cases isAnchored

/-- A mapping under a key of an anchored one was anchored itself. -/
theorem exists_of_find?_anchored
    {params : List Nat}
    {origin : Origin}
    {document : Document}
    {changed below : Entries}
    {key : Scalar}
    (traced : Reading.Traced { document, origin })
    (isAnchored :
      document.anchored surroundings base params origin = .ok (.map changed))
    (isThere : changed.find? key = some (.map below)) :
    ∃ (entries : Entries) (own : Document),
      document = .map entries ∧
        entries.find? key = some own ∧
        Reading.Traced { document := own, origin := origin.at key } ∧
        own.anchored surroundings base params (origin.at key) =
          .ok (.map below) := by
  obtain ⟨number, table, entries, once, rfl, rfl, areOnce, areOften⟩ :=
    exists_of_anchored_map traced isAnchored
  obtain ⟨_, eachValue⟩ := exists_of_anchoredEntries areOnce
  obtain ⟨own, isOwn, ofOwn⟩ :=
    eachValue key _ (find?_map_of_anchorRepeatedly areOften isThere)
  obtain ⟨_, _, values⟩ := traced.map
  exact ⟨entries, own, rfl, isOwn, values key own isOwn, ofOwn⟩

/-- Parameters that are counted name no relative path once they are anchored. -/
theorem namesRelative_of_anchored
    (isRooted : base.IsRooted)
    {params : List Nat}
    {origin : Origin}
    {settings : Document}
    {changed below : Entries}
    (traced : Reading.Traced { document := settings, origin })
    (areCounted : (paramsNumber? settings origin).toList ⊆ params)
    (isAnchored :
      settings.anchored surroundings base params origin = .ok (.map changed))
    (isThere : changed.get? "params" = some (.map below)) :
    namesRelative surroundings below = false := by
  obtain ⟨entries, own, rfl, isOwn, ofOwn, ownAnchored⟩ :=
    exists_of_find?_anchored traced isAnchored isThere
  obtain ⟨number, table, inner, once, rfl, isOrigin, _, areOften⟩ :=
    exists_of_anchored_map ofOwn ownAnchored
  have isNumber : paramsNumber? (.map entries) origin = some number := by
    unfold paramsNumber?
    simp only [Entries.get?, isOwn, Origin.under, isOrigin]
  have isCounted : number ∈ params :=
    areCounted (Option.mem_toList.mpr isNumber)
  exact
    namesRelative_of_anchorRepeatedly isRooted (List.count_pos_iff.mpr isCounted)
      areOften

theorem mem_valuesOf
    {entries : Entries}
    {key : Scalar}
    {value : Document}
    (isFound : entries.find? key = some value)
    (origin : Origin) :
    (value, origin.at key) ∈ valuesOf (.map entries) origin := by
  obtain ⟨present, same, isEntry⟩ := Entries.exists_mem_of_find? isFound
  rw [← origin_at_congr same origin]
  exact List.mem_map.mpr ⟨(present, value), isEntry, rfl⟩

/-- What stands behind two keys stands behind one in a mapping. -/
theorem exists_of_at?_cons_cons
    {entries : Entries}
    {first second : Scalar}
    {rest : List Scalar}
    {value : Document}
    (isThere :
      (Document.map entries).at? (first :: second :: rest) = some value) :
    ∃ below : Entries,
      entries.find? first = some (.map below) ∧
        (Document.map below).at? (second :: rest) = some value := by
  rw [Document.at?_map] at isThere
  obtain ⟨found, isFound, isThere⟩ := Option.bind_eq_some_iff.mp isThere
  cases found with
  | map below => exact ⟨below, isFound, isThere⟩
  | _ => cases isThere

/-- In an anchored table the parameters of rules name no relative path. -/
theorem namesRelative_of_anchoredTable
    (isRooted : base.IsRooted)
    {params : List Nat}
    {origin : Origin}
    {table : Document}
    {changed below : Entries}
    {id : Scalar}
    (traced : Reading.Traced { document := table, origin })
    (areCounted : paramsOfTable table origin ⊆ params)
    (isAnchored :
      table.anchored surroundings base params origin = .ok (.map changed))
    (isThere :
      (Document.map changed).at? [id, .text "params"] = some (.map below)) :
    namesRelative surroundings below = false := by
  obtain ⟨settings, areSettings, isThere⟩ := exists_of_at?_cons_cons isThere
  obtain ⟨entries, own, rfl, isOwn, ofOwn, ownAnchored⟩ :=
    exists_of_find?_anchored traced isAnchored areSettings
  refine
    namesRelative_of_anchored isRooted ofOwn (fun number member => ?_)
      ownAnchored (Entries.get?_of_at? isThere)
  refine areCounted (List.mem_filterMap.mpr ⟨_, mem_valuesOf isOwn origin, ?_⟩)
  exact Option.mem_toList.mp member

/-- In anchored tables of languages the parameters of rules name none either. -/
theorem namesRelative_of_anchoredLanguages
    (isRooted : base.IsRooted)
    {params : List Nat}
    {origin : Origin}
    {languages : Document}
    {changed below : Entries}
    {language id : Scalar}
    (traced : Reading.Traced { document := languages, origin })
    (areCounted : paramsOfLanguages languages origin ⊆ params)
    (isAnchored :
      languages.anchored surroundings base params origin = .ok (.map changed))
    (isThere :
      (Document.map changed).at? [language, id, .text "params"] =
        some (.map below)) :
    namesRelative surroundings below = false := by
  obtain ⟨table, isTable, isThere⟩ := exists_of_at?_cons_cons isThere
  obtain ⟨entries, own, rfl, isOwn, ofOwn, ownAnchored⟩ :=
    exists_of_find?_anchored traced isAnchored isTable
  refine
    namesRelative_of_anchoredTable isRooted ofOwn (fun number member => ?_)
      ownAnchored isThere
  exact
    areCounted (List.mem_flatMap.mpr ⟨_, mem_valuesOf isOwn origin, member⟩)

/-! ## Sheets -/

/-- Every word list that entries name by a path expands to an absolute one. -/
def AreSettled (surroundings : Surroundings) (entries : Entries) : Prop :=
  ∀ place,
    IsWordListPlace place →
    ∀ spelling,
      (Document.map entries).at? place = some (.text spelling) →
      spelling ≠ "" →
      ExpandsToAbsolute surroundings spelling

theorem areSettled_nil : AreSettled surroundings [] := by
  rintro place isPlace spelling isThere -
  cases isPlace <;> cases isThere

/-- A place of word lists is behind that of their parameters. -/
theorem exists_params_of_at?
    {document : Document}
    (place : List Scalar)
    {spelling : String}
    (isThere :
      document.at? (place ++ [.text "lexicon_file"]) = some (.text spelling)) :
    ∃ params : Entries,
      document.at? place = some (.map params) ∧
        params.get? "lexicon_file" = some (.text spelling) := by
  rw [Document.at?_append] at isThere
  obtain ⟨found, isFound, isThere⟩ := Option.bind_eq_some_iff.mp isThere
  obtain ⟨params, rfl, isSpelled⟩ := Document.exists_of_at?_singleton isThere
  exact ⟨params, isFound, isSpelled⟩

/-- What stands under a key that was changed was changed as it is asked. -/
theorem exists_of_changeValue
    {key : String}
    {change : Document → Except ConfigFailure Document}
    {entries changed : Entries}
    {after : Document}
    (isChanged : changeValue key change entries = .ok changed)
    (isThere : changed.get? key = some after) :
    ∃ value, entries.get? key = some value ∧ change value = .ok after := by
  unfold changeValue at isChanged
  split at isChanged
  · next value isValue =>
      obtain ⟨found, isFound, isChanged⟩ := exists_of_bind_eq_ok isChanged
      cases isChanged
      rw [Entries.get?_put_self] at isThere
      cases isThere
      exact ⟨value, isValue, isFound⟩
  · next notThere =>
      cases isChanged
      rw [notThere] at isThere
      cases isThere

namespace Sheet

/-- The word lists of a sheet from a rooted directory are settled once anchored. -/
theorem areSettled_of_anchored
    {sheet : Sheet}
    {own : Entries}
    (isRooted : sheet.base.IsRooted)
    (traced :
      Reading.Traced
        { document := .map sheet.entries, origin := sheet.origin })
    (isAnchored : sheet.anchored surroundings = .ok own) :
    AreSettled surroundings own := by
  obtain ⟨inRules, areRules, areLanguages⟩ := exists_of_bind_eq_ok isAnchored
  obtain ⟨_, _, values⟩ := traced.map
  intro place isPlace spelling isThere notEmpty
  cases isPlace with
  | ofRule id =>
      obtain ⟨params, areParams, isSpelled⟩ :=
        exists_params_of_at? [.text "rules", id, .text "params"] isThere
      obtain ⟨table, isTable, areParams⟩ := exists_of_at?_cons_cons areParams
      have isTable : inRules.get? "rules" = some (.map table) :=
        (get?_of_changeValue (by decide) areLanguages).symm.trans isTable
      obtain ⟨part, isPart, partAnchored⟩ := exists_of_changeValue areRules isTable
      have settled :=
        namesRelative_of_anchoredTable isRooted (values _ part isPart)
          (List.Subset.refl _) partAnchored areParams
      exact namesRelative_eq_false_iff.mp settled spelling isSpelled notEmpty
  | ofLanguage language id =>
      obtain ⟨params, areParams, isSpelled⟩ :=
        exists_params_of_at? [.text "languages", language, id, .text "params"]
          isThere
      obtain ⟨tables, areTables, areParams⟩ := exists_of_at?_cons_cons areParams
      obtain ⟨part, isPart, partAnchored⟩ :=
        exists_of_changeValue areLanguages areTables
      have isPart : sheet.entries.get? "languages" = some part :=
        (get?_of_changeValue (by decide) areRules).symm.trans isPart
      have settled :=
        namesRelative_of_anchoredLanguages isRooted (values _ part isPart)
          (List.Subset.refl _) partAnchored areParams
      exact namesRelative_eq_false_iff.mp settled spelling isSpelled notEmpty

end Sheet

/-- No packaged configuration names a word list by a relative path. -/
theorem areSettled_of_packaged
    {entries : Entries}
    (isPackaged : entries ∈ Sheet.packagedEntries) :
    AreSettled surroundings entries := by
  intro place isPlace spelling isThere notEmpty
  -- To anchor them to the root changes nothing, so a path in them is absolute.
  have anchors :=
    anchorsAt_of_anchoredOnce
      (Sheet.anchoredOnce_of_packaged surroundings { root := "/", components := [] }
        entries isPackaged)
      isPlace
  obtain ⟨shown, isShown, alsoThere⟩ := anchors.present _ isThere
  rw [isThere, Option.some.injEq] at alsoThere
  subst alsoThere
  rw [Document.text, anchoredPath, if_neg notEmpty] at isShown
  obtain ⟨path, isPath, isShown⟩ := exists_of_bind_eq_ok isShown
  cases isAbsolute : path.isAbsolute with
  | true =>
      exact ⟨path, isPath, isAbsolute⟩
  | false =>
      rw [isAbsolute] at isShown
      simp only [Bool.false_eq_true, if_false] at isShown
      have isSpelled :
          (Path.join { root := "/", components := [] } path).render = spelling := by
        injection isShown with isShown
        injection isShown with isShown
        injection isShown
      have isRooted : Path.IsRooted { root := "/", components := [] } := .inl rfl
      have isJoined := isRooted.join (root_of_expand isPath)
      rw [← isSpelled]
      exact expandsToAbsolute_of_isAbsolute isJoined.isAbsolute_ofString_render

/-- Merging adds no word list. -/
theorem AreSettled.merge
    {lower upper : Entries}
    (distinct : (Document.map upper).Distinct)
    (ofLower : AreSettled surroundings lower)
    (ofUpper : AreSettled surroundings upper) :
    AreSettled surroundings (lower.merge upper) := by
  intro place isPlace spelling isThere notEmpty
  rw [← Document.map_over_map] at isThere
  rcases Document.leaf_at?_over distinct rfl isThere with inUpper | inLower
  · exact ofUpper place isPlace spelling inUpper notEmpty
  · exact ofLower place isPlace spelling inLower notEmpty

/-- What is extended is named at no place of a word list. -/
theorem AreSettled.put_extends
    {entries : Entries}
    (areSettled : AreSettled surroundings entries)
    (value : Document) :
    AreSettled surroundings (entries.put (.text "extends") value) := by
  intro place isPlace spelling isThere notEmpty
  refine areSettled place isPlace spelling ?_ notEmpty
  cases isPlace with
  | ofRule id =>
      rwa [Document.at?_map, Entries.find?_put_of_ne (by decide)] at isThere
  | ofLanguage language id =>
      rwa [Document.at?_map, Entries.find?_put_of_ne (by decide)] at isThere

/-! ## Inheritance -/

namespace Sheet

/-- The relative paths in a file start from the directory that holds it. -/
theorem base_of_ofFile
    {path : Path}
    {sheet : Sheet}
    (isFile : ofFile surroundings path = .ok sheet) :
    sheet.base = path.parent := by
  unfold ofFile at isFile
  split at isFile
  · cases isFile
  · cases isFile
  · obtain ⟨_, _, isFile⟩ := exists_of_bind_eq_ok isFile
    obtain ⟨_, _, isFile⟩ := exists_of_bind_eq_ok isFile
    cases isFile
    rfl

/-- A sheet that was read from a file at a rooted path, or is a preset. -/
def IsReadFromRoot (surroundings : Surroundings) (sheet : Sheet) : Prop :=
  (∃ path, path.IsRooted ∧ ofFile surroundings path = .ok sheet) ∨
    ∃ name, ofPreset name = .ok sheet

namespace IsReadFromRoot

variable {sheet : Sheet} (isReadFromRoot : sheet.IsReadFromRoot surroundings)

include isReadFromRoot

theorem isRead : sheet.IsRead surroundings :=
  isReadFromRoot.imp_left fun ⟨path, _, isFile⟩ => ⟨path, isFile⟩

/-- Its own word lists are settled once they are anchored. -/
theorem areSettled
    {own : Entries}
    (isAnchored : sheet.anchored surroundings = .ok own) :
    AreSettled surroundings own := by
  rcases isReadFromRoot with ⟨path, isRooted, isFile⟩ | ⟨name, isPreset⟩
  · rcases traced_of_ofFile isFile with isEmpty | traced
    · have noEntries : own = [] := by
        rw [anchored, anchoredPart, anchoredPart, isEmpty] at isAnchored
        cases isAnchored
        rfl
      rw [noEntries]
      exact areSettled_nil
    · refine areSettled_of_anchored ?_ traced isAnchored
      rw [base_of_ofFile isFile]
      exact isRooted
  · obtain ⟨isPackaged, isPlain⟩ := ofPreset_eq isPreset
    rw [anchored_of_plain isPlain] at isAnchored
    cases isAnchored
    exact areSettled_of_packaged isPackaged

/-- What it extends was read from a rooted path too, or is a preset. -/
theorem of_referenced
    {references : List Document}
    {reference : Document}
    {parent : Sheet}
    (areReferences : referencesOf sheet.entries = .ok references)
    (member : reference ∈ references)
    (isReferenced :
      referenced surroundings sheet.base reference = .ok parent) :
    parent.IsReadFromRoot surroundings := by
  rcases isReadFromRoot with ⟨path, isRooted, isFile⟩ | ⟨name, isPreset⟩
  · obtain ⟨spelling, _, isParent⟩ := exists_of_bind_eq_ok isReferenced
    unfold ofReference at isParent
    split at isParent
    · exact .inr ⟨_, isParent⟩
    · obtain ⟨found, isFound, isParent⟩ := exists_of_bind_eq_ok isParent
      have isBase : sheet.base.IsRooted := by
        rw [base_of_ofFile isFile]
        exact isRooted
      exact .inl ⟨_, isBase.join (root_of_expand isFound), isParent⟩
  · -- A packaged configuration extends nothing.
    have noReferences := extends_of_packaged _ (ofPreset_eq isPreset).1
    rw [referencesOf, noReferences] at areReferences
    cases areReferences
    cases member

end IsReadFromRoot

/-- The word lists of a sheet with all that it extends are settled. -/
theorem areSettled_of_inherit
    {depth : Nat}
    {opened rest : List String}
    {sheet : Sheet}
    {all : Entries}
    (isReadFromRoot : sheet.IsReadFromRoot surroundings)
    (isInherited : inherit surroundings depth opened sheet = .ok (all, rest)) :
    AreSettled surroundings all := by
  induction depth generalizing opened sheet all rest with
  | zero =>
      cases isInherited
  | succ depth inductionHypothesis =>
      obtain
        ⟨_, own, references, merged, next, isAnchored, areReferences, areMerged,
          rfl, _⟩ :=
        exists_of_inheritWith isInherited
      rw [referencesOf_of_anchored isAnchored] at areReferences
      have ofMerged :
          (Document.map merged).Distinct ∧ AreSettled surroundings merged := by
        refine
          of_mergeReferences
            (motive := fun entries =>
              (Document.map entries).Distinct ∧ AreSettled surroundings entries)
            ?_ ?_ ?_ areMerged
        · exact fun lower upper ofLower ofUpper =>
            ⟨distinct_merge ofLower.1 ofUpper.1,
              ofLower.2.merge ofUpper.1 ofUpper.2⟩
        · intro reference member parent opened answer isParent isAnswer
          have ofParent :=
            isReadFromRoot.of_referenced areReferences member isParent
          exact
            ⟨distinct_of_inherit ofParent.isRead.distinct isAnswer,
              inductionHypothesis ofParent isAnswer⟩
        · exact ⟨Document.distinct_of_isDistinct _ rfl, areSettled_nil⟩
      have ofOwn := distinct_of_anchored isReadFromRoot.isRead.distinct isAnchored
      exact
        (ofMerged.2.merge ofOwn (isReadFromRoot.areSettled isAnchored)).put_extends
          _

end Sheet

/-! ## Configurations -/

namespace Configuration

variable {configuration : Configuration} {file : String}

/-- A text, not empty, by which the settings of a rule name a word list. -/
def NamesWordList
    (configuration : Configuration)
    (file : String) :
    Prop :=
  file ≠ "" ∧
    ∃ (id : String) (settings params : Entries),
      configuration.Holds id settings ∧
        settings.get? "params" = some (.map params) ∧
        params.get? "lexicon_file" = some (.text file)

/-- The word lists of a configuration are named in its document. -/
theorem NamesWordList.exists_place
    {entries : Entries}
    {source : Option Path}
    (isNamed : configuration.NamesWordList file)
    (distinct : (Document.map entries).Distinct)
    (isRead : ofEntries entries source = .ok configuration) :
    ∃ place,
      IsWordListPlace place ∧
        (Document.map entries).at? place = some (.text file) := by
  obtain ⟨_, id, settings, params, holds, areParams, isSpelled⟩ := isNamed
  obtain ⟨place, value, label, isPlace, isThere, areSettings⟩ :=
    exists_settingsPlace_of_ofEntries distinct isRead holds
  have isMap : value = .map settings := by
    refine (eq_map_or_eq_nil_of_readSettings areSettings).resolve_right ?_
    rintro rfl
    cases areParams
  have isFile :
      (Document.map settings).at? [.text "params", .text "lexicon_file"] =
        some (.text file) := by
    rw [Document.at?_map]
    refine Option.bind_eq_some_iff.mpr ⟨_, areParams, ?_⟩
    rw [Document.at?_map]
    exact Option.bind_eq_some_iff.mpr ⟨_, isSpelled, Document.at?_nil _⟩
  refine ⟨place ++ [.text "params", .text "lexicon_file"], ?_, ?_⟩
  · cases isPlace with
    | ofRule id => exact .ofRule id
    | ofLanguage language id => exact .ofLanguage language id
  · rw [Document.at?_append, isThere, Option.bind_some, isMap, isFile]

/-- In a file at an absolute path, word lists expand to absolute paths. -/
theorem NamesWordList.expandsToAbsolute
    {spelling : String}
    (isNamed : configuration.NamesWordList file)
    (isAbsolute : (Path.ofString spelling).isAbsolute = true)
    (isLoaded :
      ofFile surroundings (Path.ofString spelling) = .ok configuration) :
    ExpandsToAbsolute surroundings file := by
  obtain ⟨root, isFile, isLoaded⟩ := exists_of_bind_eq_ok isLoaded
  obtain ⟨all, areMerged, isRead⟩ := exists_of_bind_eq_ok isLoaded
  obtain ⟨⟨merged, rest⟩, isInherited, rfl⟩ := exists_of_map_eq_ok areMerged
  have isRooted :=
    Path.isRooted_of_isAbsolute (Path.isNormal_ofString spelling).root isAbsolute
  have isReadFromRoot : root.IsReadFromRoot surroundings :=
    .inl ⟨_, isRooted, isFile⟩
  have distinct :=
    Sheet.distinct_of_inherit isReadFromRoot.isRead.distinct isInherited
  have areSettled := Sheet.areSettled_of_inherit isReadFromRoot isInherited
  obtain ⟨place, isPlace, isThere⟩ := isNamed.exists_place distinct isRead
  exact areSettled place isPlace file isThere isNamed.1

end Configuration

/-! ## Working directories -/

/-- The same surroundings with another working directory. -/
def Surroundings.movedTo
    (surroundings : Surroundings)
    (directory : Path) :
    Surroundings :=
  { surroundings with directory }

/-- A relative path whose first component starts with `~`. -/
def Path.StartsAtHome (path : Path) : Prop :=
  path.root = "" ∧
    ∃ first rest,
      path.components = first :: rest ∧ first.toList.head? = some '~'

/-- A word list that is read from the same path in every working directory. -/
def IsReadAnywhere (surroundings : Surroundings) (file : String) : Prop :=
  (Path.ofString file).isAbsolute = true ∧
    ∀ directory,
      readLexicon (surroundings.movedTo directory) file =
        readLexicon surroundings file

/--
A word list that stands for an absolute path by its `~`, but is read from the
directory of that name in the working directory.
-/
def IsReadBelowDirectory (surroundings : Surroundings) (file : String) : Prop :=
  (Path.ofString file).StartsAtHome ∧
    ExpandsToAbsolute surroundings file ∧
    ∀ directory,
      (surroundings.movedTo directory).anchor (Path.ofString file) =
        { directory with
          components :=
            directory.components ++ (Path.ofString file).components }

/-- A relative path expands to an absolute one only by its `~`. -/
theorem ExpandsToAbsolute.startsAtHome
    {file : String}
    (expands : ExpandsToAbsolute surroundings file)
    (isRelative : (Path.ofString file).isAbsolute = false) :
    (Path.ofString file).StartsAtHome := by
  obtain ⟨path, isExpanded, isAbsolute⟩ := expands
  have noRoot : (Path.ofString file).root = "" := by
    simpa [Path.isAbsolute] using isRelative
  refine ⟨noRoot, ?_⟩
  have unchanged : path ≠ Path.ofString file := by
    rintro rfl
    rw [isRelative] at isAbsolute
    cases isAbsolute
  unfold Sheet.expand at isExpanded
  split at isExpanded
  · next found isFound =>
      cases isExpanded
      unfold Surroundings.expandHome? at isFound
      rw [isRelative] at isFound
      simp only [Bool.false_eq_true, if_false] at isFound
      split at isFound
      · cases isFound
        exact (unchanged rfl).elim
      · next first rest areComponents =>
          refine ⟨first, rest, areComponents, ?_⟩
          split at isFound
          · next name isSpelled =>
              rw [isSpelled]
              rfl
          · cases isFound
            exact (unchanged rfl).elim
  · cases isExpanded

/-- The file at an absolute path is the same in every working directory. -/
theorem readLexicon_movedTo
    {file : String}
    (isAbsolute : (Path.ofString file).isAbsolute = true)
    (directory : Path) :
    readLexicon (surroundings.movedTo directory) file =
      readLexicon surroundings file := by
  have sameEntry :
      (surroundings.movedTo directory).entry (Path.ofString file) =
        surroundings.entry (Path.ofString file) := by
    unfold Surroundings.entry Surroundings.anchor Path.join
    rw [if_pos isAbsolute, if_pos isAbsolute]
    rfl
  have sameBytes :
      (surroundings.movedTo directory).bytes (Path.ofString file) =
        surroundings.bytes (Path.ofString file) := by
    rw [Surroundings.bytes, Surroundings.bytes, sameEntry]
  rw [readLexicon, readLexicon, sameBytes]

/--
Two files at absolute paths: one takes its word list from a file in the home
directory, the other names one there itself.
-/
def homeSamples : Surroundings where
  files :=
    .directory
      [("shared.yaml", .file "extends: ~/style/base.yaml".toUTF8),
        ("own.yaml", .file (named "~/verbs.txt").toUTF8),
        ("home",
          .directory
            [("verbs.txt", .file "fetch\n".toUTF8),
              ("style",
                .directory
                  [("base.yaml", .file (named "../verbs.txt").toUTF8)])]),
        ("work",
          .directory
            [("~", .directory [("verbs.txt", .file "load\n".toUTF8)])])]
  directory := Path.ofString "/work"
  environment := [("HOME", "/home")]
where
  named (spelling : String) : String :=
    "rules:\n  verb-named-method:\n    params:\n      lexicon_file: " ++
      spelling

/-- How the settings of a rule in a sample spell the path of a word list. -/
def spelledIn? (name : String) : Option String := do
  let configuration ←
    (Configuration.ofFile homeSamples (Path.ofString name)).toOption
  let settings ← configuration.rules.lookup "verb-named-method"
  Configuration.spellingAt? settings [.text "params", .text "lexicon_file"]

/-- What is spelled so is the name of a word list in the configuration. -/
theorem exists_namesWordList_of_spelledIn
    {name file : String}
    (isSpelled : spelledIn? name = some file)
    (notEmpty : file ≠ "") :
    ∃ configuration,
      Configuration.ofFile homeSamples (Path.ofString name) =
          .ok configuration ∧
        configuration.NamesWordList file := by
  obtain ⟨configuration, isLoaded, isSpelled⟩ :=
    Option.bind_eq_some_iff.mp isSpelled
  obtain ⟨settings, isFound, isSpelled⟩ := Option.bind_eq_some_iff.mp isSpelled
  refine ⟨configuration, eq_ok_of_toOption_eq_some isLoaded, notEmpty, ?_⟩
  have isThere :
      (Document.map settings).at? ([.text "params"] ++ [.text "lexicon_file"]) =
        some (.text file) := by
    unfold Configuration.spellingAt? at isSpelled
    split at isSpelled
    · next spelling isThere =>
        cases isSpelled
        exact isThere
    · cases isSpelled
  obtain ⟨params, areParams, isFile⟩ := exists_params_of_at? _ isThere
  exact
    ⟨_, settings, params, ⟨_, List.mem_cons_self .., mem_of_lookup isFound⟩,
      Entries.get?_of_at? areParams, isFile⟩

end HouseStyle
