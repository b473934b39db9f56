import HouseStyle.Proofs.Configuration.Circle
import HouseStyle.Proofs.Configuration.WordListPlace

namespace HouseStyle

/-!
# Listings of configurations

What a configuration extends is merged as a tree: parents among themselves before
they reach the sheet that extends them. Unless a mapping is replaced and comes
back, this gives the same as to list all documents, parents first, and to lay one
over the other; a shared parent is listed each time that it is reached.
-/

namespace Sheet

variable {surroundings : Surroundings}

/--
The document that stands for a sheet in a listing: each of its word lists is
anchored once, and what it extends is a list.
-/
def listedAs
    (surroundings : Surroundings)
    (sheet : Sheet) :
    Except ConfigFailure Entries := do
  let own ← sheet.entries.anchoredOnce surroundings sheet.base
  let references ← referencesOf sheet.entries
  pure (own.put (.text "extends") (.list references))

/--
A sheet and all that it extends, in order: what its references stand for, one
after the other and each with all that it extends itself, and then the sheet.
-/
inductive Lists (surroundings : Surroundings) : Sheet → List Sheet → Prop
  | intro
      {sheet : Sheet}
      {references : List Document}
      {parents : List (Sheet × List Sheet)} :
      referencesOf sheet.entries = .ok references →
      List.Forall₂
        (fun reference parent =>
          referenced surroundings sheet.base reference = .ok parent.1)
        references parents →
      (∀ parent ∈ parents, Lists surroundings parent.1 parent.2) →
      Lists surroundings sheet (parents.flatMap Prod.snd ++ [sheet])

/-- The listing of a sheet that extends nothing over `depth` steps. -/
def listing
    (surroundings : Surroundings) :
    Nat →
    Sheet →
    Except ConfigFailure (List Sheet)
  | 0, sheet => circular sheet.key
  | depth + 1, sheet => do
      let references ← referencesOf sheet.entries
      let parents ← references.mapM fun reference => do
        let parent ← referenced surroundings sheet.base reference
        let sheets ← listing surroundings depth parent
        pure (parent, sheets)
      pure (parents.flatMap Prod.snd ++ [sheet])

/-- What is computed as the listing of a sheet is its listing. -/
theorem lists_of_listing
    {depth : Nat}
    {sheet : Sheet}
    {sheets : List Sheet}
    (isListing : sheet.listing surroundings depth = .ok sheets) :
    sheet.Lists surroundings sheets := by
  induction depth generalizing sheet sheets with
  | zero =>
      cases isListing
  | succ depth inductionHypothesis =>
      obtain ⟨references, areReferences, isListing⟩ :=
        exists_of_bind_eq_ok isListing
      obtain ⟨parents, areParents, isListing⟩ := exists_of_bind_eq_ok isListing
      cases isListing
      have eachParent :
          List.Forall₂
            (fun reference parent =>
              referenced surroundings sheet.base reference = .ok parent.1 ∧
                parent.1.Lists surroundings parent.2)
            references parents := by
        refine (forall₂_of_mapM_eq_ok areParents).imp ?_
        intro reference parent isFound
        obtain ⟨found, isReferenced, isFound⟩ := exists_of_bind_eq_ok isFound
        obtain ⟨below, isBelow, isFound⟩ := exists_of_bind_eq_ok isFound
        cases isFound
        exact ⟨isReferenced, inductionHypothesis isBelow⟩
      refine .intro areReferences (eachParent.imp fun _ _ both => both.1) ?_
      intro parent isParent
      obtain ⟨_, _, _, lists⟩ := exists_of_forall₂_mem eachParent isParent
      exact lists

/-- A sheet that was read from a file or is a preset. -/
def IsRead (surroundings : Surroundings) (sheet : Sheet) : Prop :=
  (∃ path, ofFile surroundings path = .ok sheet) ∨
    ∃ name, ofPreset name = .ok sheet

/-- What a reference stands for was read. -/
theorem isRead_of_referenced
    {base : Path}
    {reference : Document}
    {parent : Sheet}
    (isReferenced : referenced surroundings base reference = .ok parent) :
    parent.IsRead surroundings := by
  obtain ⟨spelling, _, isParent⟩ := exists_of_bind_eq_ok isReferenced
  unfold ofReference at isParent
  split at isParent
  · exact .inr ⟨_, isParent⟩
  · obtain ⟨path, _, isFile⟩ := exists_of_bind_eq_ok isParent
    exact .inl ⟨_, isFile⟩

/-! ## Sheets that were read -/

/-- The entries of a text are traced, unless it holds none. -/
theorem traced_of_parseEntries
    {origin text : String}
    {entries : Entries}
    {mappings : Yaml.Origin}
    (isParsed : parseEntries origin text = .ok (entries, mappings)) :
    entries = [] ∨
      Yaml.Reading.Traced { document := .map entries, origin := mappings } := by
  unfold parseEntries at isParsed
  split at isParsed
  · cases isParsed
  · cases isParsed
  · next reading isReading =>
      have traced := Yaml.traced_of_read isReading
      split at isParsed
      · cases isParsed
        exact .inl rfl
      · next found isDocument =>
          obtain ⟨_, _, isParsed⟩ := exists_of_bind_eq_ok isParsed
          cases isParsed
          rw [← isDocument]
          exact .inr traced
      · cases isParsed

/-- The entries of a sheet in a file are traced, unless there are none. -/
theorem traced_of_ofFile
    {path : Path}
    {sheet : Sheet}
    (isFile : ofFile surroundings path = .ok sheet) :
    sheet.entries = [] ∨
      Yaml.Reading.Traced
        { document := .map sheet.entries, origin := sheet.origin } := by
  unfold ofFile at isFile
  split at isFile
  · cases isFile
  · cases isFile
  · obtain ⟨text, _, isFile⟩ := exists_of_bind_eq_ok isFile
    obtain ⟨⟨entries, origin⟩, isParsed, isFile⟩ := exists_of_bind_eq_ok isFile
    cases isFile
    exact traced_of_parseEntries isParsed

/-- The packaged configurations have distinct names. -/
theorem distinct_of_packaged :
    ∀ entries ∈ packagedEntries, (Document.map entries).Distinct := by
  have isChecked :
      packagedEntries.all fun entries => (Document.map entries).isDistinct := by
    decide +kernel
  intro entries isPackaged
  exact
    Document.distinct_of_isDistinct _
      (List.all_eq_true.mp isChecked entries isPackaged)

/-- The packaged configurations name no word list. -/
theorem anchoredOnce_of_packaged
    (surroundings : Surroundings)
    (base : Path) :
    ∀ entries ∈ packagedEntries,
      entries.anchoredOnce surroundings base = .ok entries := by
  simp only [packagedEntries, List.forall_mem_cons]
  exact ⟨rfl, rfl, rfl, by simp⟩

/-- A sheet that comes from no text is not anchored. -/
theorem anchored_of_plain
    {sheet : Sheet}
    (isPlain : sheet.origin = .plain) :
    sheet.anchored surroundings = .ok sheet.entries := by
  have ofPart
      (key : String)
      (paramsOf : Document → Yaml.Origin → List Nat) :
      sheet.anchoredPart surroundings key paramsOf sheet.entries =
        .ok sheet.entries := by
    unfold anchoredPart changeValue
    rw [isPlain]
    cases isThere : sheet.entries.get? key with
    | none =>
        rfl
    | some part =>
        have unchanged :
            part.anchored surroundings sheet.base
                (paramsOf part .plain) .plain =
              .ok part := by
          cases part <;> rfl
        have stays : sheet.entries.put (.text key) part = sheet.entries :=
          Entries.put_of_find? isThere
        simp only [Yaml.Origin.under, Yaml.Origin.at, unchanged, ok_bind, stays]
        rfl
  rw [anchored, ofPart, ok_bind, ofPart]

namespace IsRead

variable {sheet : Sheet} (isRead : sheet.IsRead surroundings)

include isRead

/-- What was read has distinct names. -/
theorem distinct : (Document.map sheet.entries).Distinct := by
  rcases isRead with ⟨path, isFile⟩ | ⟨name, isPreset⟩
  · rcases traced_of_ofFile isFile with isEmpty | traced
    · rw [isEmpty]
      exact Document.distinct_of_isDistinct _ rfl
    · exact traced.distinct
  · exact distinct_of_packaged _ (ofPreset_eq isPreset).1

/-- The word lists of what was read are anchored once. -/
theorem anchored_eq
    (sharesNone : sheet.SharesNoWordList surroundings) :
    sheet.anchored surroundings =
      sheet.entries.anchoredOnce surroundings sheet.base := by
  rcases isRead with ⟨path, isFile⟩ | ⟨name, isPreset⟩
  · rcases traced_of_ofFile isFile with isEmpty | traced
    · rw [anchored, anchoredPart, anchoredPart, isEmpty]
      rfl
    · exact anchored_eq_anchoredOnce traced sharesNone
  · obtain ⟨isPackaged, isPlain⟩ := ofPreset_eq isPreset
    rw [anchored_of_plain isPlain, anchoredOnce_of_packaged _ _ _ isPackaged]

/-- The document that stands for what was read has distinct names. -/
theorem distinct_listedAs
    {document : Entries}
    (isListed : sheet.listedAs surroundings = .ok document) :
    (Document.map document).Distinct := by
  obtain ⟨own, isAnchored, isListed⟩ := exists_of_bind_eq_ok isListed
  obtain ⟨references, _, isListed⟩ := exists_of_bind_eq_ok isListed
  cases isListed
  exact
    (distinct_of_anchoredOnce isRead.distinct isAnchored).put
      (.text "extends") (.leaf rfl)

end IsRead

/-! ## The listing of what can be read -/

/-- What can be read has a listing. -/
theorem exists_lists_of_load
    (visit : Visit)
    {answer : Entries × List String}
    (isLoaded : load surroundings visit.opened visit.sheet = .ok answer) :
    ∃ sheets, visit.sheet.Lists surroundings sheets := by
  induction visit using (Visit.wellFounded_leads surroundings).induction
      generalizing answer with
  | h visit inductionHypothesis =>
      rw [load_eq] at isLoaded
      obtain ⟨isNew, own, references, merged, next, isAnchored, areReferences,
        areMerged, _⟩ := exists_of_inheritWith isLoaded
      have areLoaded := exists_load_of_mergeReferences areMerged
      have eachListed :
          ∀ reference ∈ references,
            ∃ parent : Sheet × List Sheet,
              referenced surroundings visit.sheet.base reference =
                  .ok parent.1 ∧
                parent.1.Lists surroundings parent.2 := by
        intro reference member
        obtain ⟨parent, entries, isReferenced, isLoaded⟩ :=
          areLoaded reference member
        obtain ⟨sheets, lists⟩ :=
          inductionHypothesis ⟨visit.sheet.key :: visit.opened, parent⟩
            { isNew
              extended :=
                ⟨own, references, reference, isAnchored, areReferences, member,
                  isReferenced⟩
              opened := rfl } isLoaded
        exact ⟨(parent, sheets), isReferenced, lists⟩
      obtain ⟨parents, areParents⟩ := exists_forall₂ eachListed
      refine ⟨_, .intro ?_ (areParents.imp fun _ _ both => both.1) ?_⟩
      · rw [← referencesOf_of_anchored isAnchored]
        exact areReferences
      · intro parent isParent
        obtain ⟨_, _, _, lists⟩ := exists_of_forall₂_mem areParents isParent
        exact lists

/-! ## Merging a tree -/

/-- Documents that stand for sheets, each with distinct names. -/
structure StandFor
    (surroundings : Surroundings)
    (sheets : List Sheet)
    (documents : List Entries) :
    Prop where
  listed :
    List.Forall₂
      (fun sheet document => sheet.listedAs surroundings = .ok document)
      sheets documents
  distinct : AreDistinct documents

/-- What stands for two lists of sheets stands for both together. -/
theorem StandFor.append
    {sheets others : List Sheet}
    {documents further : List Entries}
    (standFor : StandFor surroundings sheets documents)
    (standForOthers : StandFor surroundings others further) :
    StandFor surroundings (sheets ++ others) (documents ++ further) where
  listed := List.rel_append standFor.listed standForOthers.listed
  distinct document member := by
    rcases List.mem_append.mp member with isFirst | isOther
    · exact standFor.distinct document isFirst
    · exact standForOthers.distinct document isOther

/-- What a sheet holds, with its own list of references, stands for it alone. -/
theorem IsRead.standFor_own
    {sheet : Sheet}
    {own : Entries}
    {references : List Document}
    (isRead : sheet.IsRead surroundings)
    (isOwn : sheet.entries.anchoredOnce surroundings sheet.base = .ok own)
    (areReferences : referencesOf sheet.entries = .ok references) :
    StandFor surroundings [sheet]
      [own.put (.text "extends") (.list references)] := by
  have isListed :
      sheet.listedAs surroundings =
        .ok (own.put (.text "extends") (.list references)) := by
    rw [listedAs, isOwn, ok_bind, areReferences, ok_bind]
    rfl
  exact
    { listed := .cons isListed .nil
      distinct :=
        List.forall_mem_singleton.mpr (isRead.distinct_listedAs isListed) }

/-- The entries that a sheet gives are those of its listing. -/
def MergesAs
    (surroundings : Surroundings)
    (sheet : Sheet)
    (sheets : List Sheet) :
    Prop :=
  ∀ opened answer,
    load surroundings opened sheet = .ok answer →
    ∃ documents,
      StandFor surroundings sheets documents ∧
        (Steady documents → answer.1 = mergeAll documents)

/-- Where parents merge as their listings, references merge as all of them. -/
theorem exists_standFor_of_mergeReferences
    {base : Path}
    {references : List Document}
    {parents : List (Sheet × List Sheet)}
    (areParents :
      List.Forall₂
        (fun reference parent =>
          referenced surroundings base reference = .ok parent.1)
        references parents)
    (mergeAs :
      ∀ parent ∈ parents, MergesAs surroundings parent.1 parent.2)
    {lower merged : Entries}
    {opened next : List String}
    (areMerged :
      mergeReferences surroundings (load surroundings) base lower opened
          references =
        .ok (merged, next)) :
    ∃ documents,
      StandFor surroundings (parents.flatMap Prod.snd) documents ∧
        ∀ before,
          AreDistinct before →
          Steady (before ++ documents) →
          lower = mergeAll before →
          merged = mergeAll (before ++ documents) := by
  induction areParents generalizing lower opened with
  | nil =>
      cases areMerged
      refine ⟨[], ⟨.nil, List.forall_mem_nil _⟩, ?_⟩
      intro before _ _ isLower
      rw [List.append_nil, isLower]
  | @cons reference parent rest others isReferenced _ inductionHypothesis =>
      -- `lower` holds what was merged before, so the rest is merged on top of
      -- that and of the first parent.
      obtain ⟨sheet, isSheet, isMerged⟩ := exists_of_bind_eq_ok areMerged
      rw [isReferenced, Except.ok.injEq] at isSheet
      subst isSheet
      obtain ⟨⟨entries, handed⟩, isLoaded, restMerged⟩ :=
        exists_of_bind_eq_ok isMerged
      obtain ⟨first, standFor, ofFirst⟩ :=
        mergeAs parent (List.mem_cons_self ..) opened _ isLoaded
      obtain ⟨documents, standForOthers, ofOthers⟩ :=
        inductionHypothesis
          (fun other member => mergeAs other (List.mem_cons_of_mem _ member))
          restMerged
      refine ⟨first ++ documents, standFor.append standForOthers, ?_⟩
      intro before distinct steady isLower
      rw [← List.append_assoc] at steady ⊢
      have steadyBefore : Steady (before ++ first) :=
        steady.sublist (List.sublist_append_left _ _)
      have distinctBefore : AreDistinct (before ++ first) := by
        intro document member
        rcases List.mem_append.mp member with isBefore | isFirst
        · exact distinct document isBefore
        · exact standFor.distinct document isFirst
      refine ofOthers (before ++ first) distinctBefore steady ?_
      rw [mergeAll_append distinctBefore steadyBefore, isLower,
        ← ofFirst (steadyBefore.sublist (List.sublist_append_right _ _))]

/-- Every sheet that shares no word list below it merges as its listing. -/
theorem mergesAs_of_lists
    {root : Sheet}
    {sheets : List Sheet}
    (lists : root.Lists surroundings sheets)
    (isRead : root.IsRead surroundings)
    (shareNone : ∀ sheet ∈ sheets, sheet.SharesNoWordList surroundings) :
    MergesAs surroundings root sheets := by
  induction lists with
  | @intro sheet references parents areReferences areParents _
      inductionHypothesis =>
      intro opened answer isLoaded
      rw [load_eq] at isLoaded
      obtain ⟨_, own, found, merged, next, isAnchored, isFound, areMerged,
        isAnswer, _⟩ := exists_of_inheritWith isLoaded
      rw [referencesOf_of_anchored isAnchored, areReferences,
        Except.ok.injEq] at isFound
      subst isFound
      have parentsMerge :
          ∀ parent ∈ parents, MergesAs surroundings parent.1 parent.2 := by
        intro parent isParent
        obtain ⟨reference, _, isReferenced⟩ :=
          exists_of_forall₂_mem areParents isParent
        refine
          inductionHypothesis parent isParent
            (isRead_of_referenced isReferenced) ?_
        intro other member
        exact
          shareNone other
            (List.mem_append_left _ (List.mem_flatMap.mpr ⟨parent, isParent, member⟩))
      obtain ⟨documents, standFor, ofParents⟩ :=
        exists_standFor_of_mergeReferences areParents parentsMerge areMerged
      have isOwn :
          sheet.entries.anchoredOnce surroundings sheet.base = .ok own := by
        rw [← isRead.anchored_eq (shareNone sheet (by simp)), isAnchored]
      refine
        ⟨_, standFor.append (IsRead.standFor_own isRead isOwn areReferences), ?_⟩
      intro steady
      have isMerged : merged = mergeAll documents := by
        refine ofParents [] (List.forall_mem_nil _) ?_ rfl
        exact steady.sublist (List.sublist_append_left _ _)
      have mergedNames : merged.names.Nodup :=
        isMerged ▸ (distinct_mergeAll standFor.distinct).names
      have ownNames : own.names.Nodup :=
        (distinct_of_anchoredOnce isRead.distinct isOwn).names
      -- A sheet's own `extends` is put in last, behind all that it extends.
      calc
        answer.1 = (merged.merge own).put (.text "extends") (.list references) :=
          isAnswer
        _ = merged.merge (own.put (.text "extends") (.list references)) :=
          Entries.put_merge mergedNames ownNames _ _
        _ =
            mergeAll
              (documents ++ [own.put (.text "extends") (.list references)]) := by
          rw [mergeAll_concat, isMerged]

end Sheet

namespace Configuration

/-- What is read from a file whose documents are merged as its listing. -/
structure MergesListing
    (surroundings : Surroundings)
    (path : Path)
    (root : Sheet)
    (sheets : List Sheet)
    (documents : List Entries) :
    Prop where
  merged : root.merged surroundings = .ok (mergeAll documents)
  configuration :
    ofFile surroundings path = ofEntries (mergeAll documents) (some path)
  /-- What the configuration extends is the root's own list. -/
  references :
    ∃ references,
      referencesOf root.entries = .ok references ∧
        (mergeAll documents).get? "extends" = some (.list references)
  /--
  The word list of a rule is that of the last sheet that names one, seen from
  the directory of that sheet, unless a later sheet has something else than a
  mapping on the way to it.
  -/
  wordList :
    ∀ place,
      IsWordListPlace place →
      ∀ before sheet after,
        sheets = before ++ sheet :: after →
        (∀ later ∈ after, (Document.map later.entries).at? place = none) →
        ∀ value,
          (Document.map sheet.entries).at? place = some value →
          value.entries? = none →
          ∃ shown,
            anchoredPath surroundings sheet.base value = .ok shown ∧
              (Document.map (mergeAll documents)).at? place =
                if after.any fun later =>
                    (Document.map later.entries).blocks place then
                  none
                else
                  some shown
  /-- Where no sheet names a word list, there is none. -/
  noWordList :
    ∀ place,
      IsWordListPlace place →
      (∀ sheet ∈ sheets, (Document.map sheet.entries).at? place = none) →
      (Document.map (mergeAll documents)).at? place = none

/-- The document that stands for a sheet has its word lists anchored. -/
theorem anchorsAt_of_listedAs
    {surroundings : Surroundings}
    {sheet : Sheet}
    {document : Entries}
    (isListed : sheet.listedAs surroundings = .ok document)
    {place : List Scalar}
    (isPlace : IsWordListPlace place) :
    AnchorsAt surroundings sheet.base place (.map sheet.entries)
      (.map document) := by
  obtain ⟨own, isAnchored, isListed⟩ := exists_of_bind_eq_ok isListed
  obtain ⟨references, _, isListed⟩ := exists_of_bind_eq_ok isListed
  cases isListed
  have anchors := anchorsAt_of_anchoredOnce isAnchored isPlace
  cases isPlace with
  | ofRule id =>
      exact anchors.congr rfl (Entries.get?_put_of_ne (by decide) own _)
  | ofLanguage language id =>
      exact anchors.congr rfl (Entries.get?_put_of_ne (by decide) own _)

/-- No place of a word list is the whole document. -/
theorem exists_key_of_isWordListPlace
    {place : List Scalar}
    (isPlace : IsWordListPlace place) :
    ∃ key rest, place = key :: rest := by
  cases isPlace with
  | ofRule id => exact ⟨_, _, rfl⟩
  | ofLanguage language id => exact ⟨_, _, rfl⟩

/-- What stands for sheets is blocked where one of them is, and has nothing else. -/
theorem absent_of_listed
    {surroundings : Surroundings}
    {sheets : List Sheet}
    {documents : List Entries}
    (listed :
      List.Forall₂
        (fun sheet document => sheet.listedAs surroundings = .ok document)
        sheets documents)
    {place : List Scalar}
    (isPlace : IsWordListPlace place)
    (areAbsent :
      ∀ sheet ∈ sheets, (Document.map sheet.entries).at? place = none) :
    (∀ document ∈ documents, (Document.map document).at? place = none) ∧
      (documents.any fun document => (Document.map document).blocks place) =
        sheets.any fun sheet => (Document.map sheet.entries).blocks place := by
  induction listed with
  | nil =>
      exact ⟨List.forall_mem_nil _, rfl⟩
  | @cons sheet document _ _ isListed _ inductionHypothesis =>
      obtain ⟨isAbsent, othersAbsent⟩ := List.forall_mem_cons.mp areAbsent
      have anchors := anchorsAt_of_listedAs isListed isPlace
      obtain ⟨ofOthers, sameBlocks⟩ := inductionHypothesis othersAbsent
      refine ⟨List.forall_mem_cons.mpr ⟨anchors.absent isAbsent, ofOthers⟩, ?_⟩
      rw [List.any_cons, List.any_cons, anchors.blocks, sameBlocks]

/-- What stands for a listing and merges as it gives the word lists of it. -/
theorem mergesListing_of_standFor
    {surroundings : Surroundings}
    {path : Path}
    {root : Sheet}
    {sheets : List Sheet}
    {documents : List Entries}
    (isFile : Sheet.ofFile surroundings path = .ok root)
    (standFor : Sheet.StandFor surroundings sheets documents)
    (isMerged : root.merged surroundings = .ok (mergeAll documents)) :
    MergesListing surroundings path root sheets documents where
  merged := isMerged
  configuration := by
    rw [ofFile, isFile, ok_bind, isMerged, ok_bind]
  references := by
    obtain ⟨answer, isLoaded, isAnswer⟩ := exists_of_map_eq_ok isMerged
    rw [Sheet.load_eq] at isLoaded
    obtain ⟨_, own, references, merged, next, isAnchored, areReferences, _,
      isAll, _⟩ := Sheet.exists_of_inheritWith isLoaded
    refine ⟨references, ?_, ?_⟩
    · rw [← Sheet.referencesOf_of_anchored isAnchored]
      exact areReferences
    · rw [← isAnswer, isAll]
      exact Entries.get?_put_self _ _ _
  wordList := by
    intro place isPlace before sheet after isSplit areAbsent value isThere isLeaf
    have listed := standFor.listed
    rw [isSplit] at listed
    obtain ⟨front, document, back, rfl, isListed, behind⟩ :=
      exists_parts_of_forall₂ listed
    obtain ⟨areAbsentToo, sameBlocks⟩ :=
      absent_of_listed behind isPlace areAbsent
    have anchors := anchorsAt_of_listedAs isListed isPlace
    obtain ⟨shown, isShown, isThereToo⟩ := anchors.present value isThere
    refine ⟨shown, isShown, ?_⟩
    rw [at?_mergeAll_of_last standFor.distinct isThereToo
      (entries?_of_anchoredPath isLeaf isShown) areAbsentToo, sameBlocks]
  noWordList := by
    intro place isPlace areAbsent
    obtain ⟨areAbsentToo, _⟩ :=
      absent_of_listed standFor.listed isPlace areAbsent
    obtain ⟨key, rest, rfl⟩ := exists_key_of_isWordListPlace isPlace
    exact at?_mergeAll_of_none standFor.distinct areAbsentToo

/-- What is found of a configuration file and all that it extends. -/
structure Survey where
  root : Sheet
  sheets : List Sheet
  documents : List Entries
  merged : Entries

/-- Survey a configuration file that extends nothing over `depth` steps. -/
def survey
    (surroundings : Surroundings)
    (depth : Nat)
    (path : Path) :
    Except ConfigFailure Survey := do
  let root ← Sheet.ofFile surroundings path
  let sheets ← root.listing surroundings depth
  let documents ← sheets.mapM (Sheet.listedAs surroundings)
  let merged ← root.merged surroundings
  pure { root, sheets, documents, merged }

/-- What a survey of sound configurations without a circle says. -/
structure Survey.IsOf
    (survey : Survey)
    (surroundings : Surroundings)
    (path : Path) :
    Prop where
  isFile : Sheet.ofFile surroundings path = .ok survey.root
  isSound : survey.root.IsSoundBelow surroundings
  noCircle : ¬ survey.root.HasCircle surroundings
  lists : survey.root.Lists surroundings survey.sheets
  listed :
    List.Forall₂
      (fun sheet document => sheet.listedAs surroundings = .ok document)
      survey.sheets survey.documents
  merged : survey.root.merged surroundings = .ok survey.merged

/-- What a survey says is so. -/
theorem isOf_of_survey
    {surroundings : Surroundings}
    {depth : Nat}
    {path : Path}
    {found : Survey}
    (isSurvey : survey surroundings depth path = .ok found)
    (isSound : found.root.isSoundWithin surroundings depth [] = true) :
    found.IsOf surroundings path := by
  obtain ⟨root, isFile, isSurvey⟩ := exists_of_bind_eq_ok isSurvey
  obtain ⟨sheets, isListing, isSurvey⟩ := exists_of_bind_eq_ok isSurvey
  obtain ⟨documents, areListed, isSurvey⟩ := exists_of_bind_eq_ok isSurvey
  obtain ⟨merged, isMerged, isSurvey⟩ := exists_of_bind_eq_ok isSurvey
  cases isSurvey
  exact
    { isFile
      isSound := Sheet.isSoundBelow_of_check isSound
      noCircle := Sheet.not_hasCircle_of_merged isMerged
      lists := Sheet.lists_of_listing isListing
      listed := forall₂_of_mapM_eq_ok areListed
      merged := isMerged }

/-- Three files that name a word list for one rule, and one that takes it away. -/
def wordListSamples : Surroundings where
  files :=
    .directory
      [("base.yaml", .file (named "").toUTF8),
        ("muted.yaml",
          .file "extends: base.yaml\nrules:\n  verb-named-method: null".toUTF8),
        ("team",
          .directory
            [("own.yaml", .file (named "extends: ../base.yaml\n").toUTF8)]),
        ("shared",
          .directory [("twice.yaml", .file shared.toUTF8)])]
  directory := Path.ofString "/"
  environment := []
where
  named (above : String) : String :=
    above ++
      "rules:\n  verb-named-method:\n    params:\n      lexicon_file: verbs.txt"
  shared : String :=
    "languages:\n  java:\n    verb-named-method: &one\n      params:\n" ++
      "        lexicon_file: verbs.txt\n  python:\n    verb-named-method: *one"

/-- Where the samples name a word list for all languages. -/
def verbsPlace : List Scalar :=
  [.text "rules", .text "verb-named-method", .text "params",
    .text "lexicon_file"]

/-- Where the samples name a word list for one language. -/
def pythonVerbsPlace : List Scalar :=
  [.text "languages", .text "python", .text "verb-named-method",
    .text "params", .text "lexicon_file"]

/-- The text at a place. -/
def spellingAt? (entries : Entries) (place : List Scalar) : Option String :=
  match (Document.map entries).at? place with
  | some (.scalar (.text spelling)) => some spelling
  | _ => none

/-- Whether a sample can be surveyed, is sound and passes a test. -/
def passes (name : String) (test : Survey → Bool) : Bool :=
  let found? := (survey wordListSamples 3 (Path.ofString name)).toOption
  let found? := found?.filter fun found =>
    found.root.isSoundWithin wordListSamples 3 [] &&
      decide (found.documents.length ≤ 2) &&
      test found
  found?.isSome

/-- A sample that passes a test has a survey of which the test holds. -/
theorem exists_of_passes
    {name : String}
    {test : Survey → Bool}
    (hasPassed : passes name test = true) :
    ∃ found : Survey,
      found.IsOf wordListSamples (Path.ofString name) ∧
        Steady found.documents ∧ test found = true := by
  obtain ⟨found, isFound⟩ := Option.isSome_iff_exists.mp hasPassed
  obtain ⟨isFound, hasPassed⟩ := Option.filter_eq_some_iff.mp isFound
  simp only [Bool.and_eq_true, decide_eq_true_eq] at hasPassed
  obtain ⟨⟨isSound, areFew⟩, ofTest⟩ := hasPassed
  have isSurvey := eq_ok_of_toOption_eq_some isFound
  exact ⟨found, isOf_of_survey isSurvey isSound, steady_of_length_le areFew, ofTest⟩

end Configuration

end HouseStyle
