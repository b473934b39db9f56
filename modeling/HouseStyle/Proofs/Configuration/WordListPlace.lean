import HouseStyle.Proofs.Configuration.AnchoringOnce

namespace HouseStyle

/-!
# The places of word lists

The path of a word list stands in the parameters of a rule, for all languages or
for one. To anchor a document changes what stands there and nothing else about
the place, and keeps the names in all mappings distinct.
-/

variable {surroundings : Surroundings} {base : Path}

/-- Where the path of a word list can stand. -/
inductive IsWordListPlace : List Scalar → Prop
  | ofRule (id : Scalar) :
      IsWordListPlace
        [.text "rules", id, .text "params", .text "lexicon_file"]
  | ofLanguage (language id : Scalar) :
      IsWordListPlace
        [.text "languages", language, id, .text "params",
          .text "lexicon_file"]

/-- The path of a word list as it is seen from a directory. -/
def anchoredPath
    (surroundings : Surroundings)
    (base : Path) :
    Document →
    Except ConfigFailure Document
  | .scalar (.text spelling) =>
      if spelling = "" then
        .ok (.text spelling)
      else do
        let path ← Sheet.expand surroundings spelling
        pure
          (.text
            (if path.isAbsolute then spelling else (base.join path).render))
  | other => .ok other

/-- A path that is no mapping is anchored as none. -/
theorem entries?_of_anchoredPath
    {value shown : Document}
    (isLeaf : value.entries? = none)
    (isShown : anchoredPath surroundings base value = .ok shown) :
    shown.entries? = none := by
  unfold anchoredPath at isShown
  split at isShown
  · split at isShown
    · cases isShown
      rfl
    · obtain ⟨path, _, isShown⟩ := exists_of_bind_eq_ok isShown
      cases isShown
      rfl
  · cases isShown
    exact isLeaf

/-- Parameters are anchored in the path that they hold. -/
theorem anchorParams_eq_changeValue (params : Entries) :
    anchorParams surroundings base params =
      changeValue "lexicon_file" (anchoredPath surroundings base) params := by
  unfold anchorParams changeValue
  cases isThere : params.get? "lexicon_file" with
  | none =>
      rfl
  | some value =>
      have stays : params.put (.text "lexicon_file") value = params :=
        Entries.put_of_find? isThere
      have unchanged :
          (do
            let found ← (.ok value : Except ConfigFailure Document)
            pure (params.put (.text "lexicon_file") found)) =
              (.ok params : Except ConfigFailure Entries) := by
        rw [ok_bind, stays]
        rfl
      cases value with
      | scalar scalar =>
          cases scalar with
          | text spelling =>
              simp only [anchoredPath]
              by_cases isEmpty : spelling = ""
              · rw [if_pos isEmpty, if_pos isEmpty]
                exact unchanged.symm
              · rw [if_neg isEmpty, if_neg isEmpty]
                cases Sheet.expand surroundings spelling with
                | error failure =>
                    rfl
                | ok path =>
                    simp only [ok_bind]
                    by_cases isAbsolute : path.isAbsolute = true
                    · rw [if_pos isAbsolute, if_pos isAbsolute]
                      exact unchanged.symm
                    · rw [if_neg isAbsolute, if_neg isAbsolute]
                      rfl
          | _ => exact unchanged.symm
      | _ => exact unchanged.symm

/-- What is found behind a change of all values was changed as it is asked. -/
theorem find?_changeValues
    {change : Document → Except ConfigFailure Document}
    {entries changed : Entries}
    (areChanged : changeValues change entries = .ok changed)
    (key : Scalar) :
    (entries.find? key = none → changed.find? key = none) ∧
      ∀ value,
        entries.find? key = some value →
        ∃ after,
          changed.find? key = some after ∧ change value = .ok after := by
  induction entries generalizing changed with
  | nil =>
      cases areChanged
      simp
  | cons entry others inductionHypothesis =>
      obtain ⟨first, value⟩ := entry
      obtain ⟨after, isAfter, areChanged⟩ := exists_of_bind_eq_ok areChanged
      obtain ⟨behind, areBehind, areChanged⟩ := exists_of_bind_eq_ok areChanged
      cases areChanged
      by_cases same : first.name = key.name
      · rw [Entries.find?_cons_of_eq same, Entries.find?_cons_of_eq same]
        refine ⟨fun isNone => (by cases isNone), ?_⟩
        rintro _ ⟨⟩
        exact ⟨after, rfl, isAfter⟩
      · rw [Entries.find?_cons_of_ne same, Entries.find?_cons_of_ne same]
        exact inductionHypothesis areBehind

/-- The names stay as they are when values are changed. -/
theorem names_changeValues
    {change : Document → Except ConfigFailure Document}
    {entries changed : Entries}
    (areChanged : changeValues change entries = .ok changed) :
    changed.names = entries.names := by
  induction entries generalizing changed with
  | nil =>
      cases areChanged
      rfl
  | cons entry others inductionHypothesis =>
      obtain ⟨after, _, areChanged⟩ := exists_of_bind_eq_ok areChanged
      obtain ⟨behind, areBehind, areChanged⟩ := exists_of_bind_eq_ok areChanged
      cases areChanged
      rw [Entries.names_cons, Entries.names_cons, inductionHypothesis areBehind]

/-- Of a document only the path at a place was changed, to be seen from `base`. -/
structure AnchorsAt
    (surroundings : Surroundings)
    (base : Path)
    (place : List Scalar)
    (before after : Document) :
    Prop where
  blocks : after.blocks place = before.blocks place
  absent : before.at? place = none → after.at? place = none
  present :
    ∀ value,
      before.at? place = some value →
      ∃ shown,
        anchoredPath surroundings base value = .ok shown ∧
          after.at? place = some shown

namespace AnchorsAt

/-- What holds no mapping has no place behind a key. -/
theorem leaf
    {document : Document}
    (isLeaf : document.entries? = none)
    (key : Scalar)
    (rest : List Scalar) :
    AnchorsAt surroundings base (key :: rest) document document where
  blocks := rfl
  absent isAbsent := isAbsent
  present value isPresent := by
    rw [Document.at?_leaf isLeaf] at isPresent
    cases isPresent

/-- What was changed under a key was changed behind it. -/
theorem under
    {entries changed : Entries}
    {key : Scalar}
    {rest : List Scalar}
    (ofValue :
      ∀ value,
        entries.find? key = some value →
        ∃ found,
          changed.find? key = some found ∧
            AnchorsAt surroundings base rest value found)
    (ofNone : entries.find? key = none → changed.find? key = none) :
    AnchorsAt surroundings base (key :: rest) (.map entries) (.map changed) := by
  cases isThere : entries.find? key with
  | none =>
      have notThere := ofNone isThere
      refine ⟨?_, ?_, ?_⟩
      · rw [Document.blocks, Document.blocks, isThere, notThere]
      · intro _
        rw [Document.at?_map, notThere]
        rfl
      · intro value isPresent
        rw [Document.at?_map, isThere] at isPresent
        cases isPresent
  | some value =>
      obtain ⟨found, isFound, anchors⟩ := ofValue value isThere
      refine ⟨?_, ?_, ?_⟩
      · rw [Document.blocks, Document.blocks, isThere, isFound]
        exact anchors.blocks
      · rw [Document.at?_map, Document.at?_map, isThere, isFound]
        exact anchors.absent
      · intro below isPresent
        rw [Document.at?_map, isThere] at isPresent
        rw [Document.at?_map, isFound]
        exact anchors.present below isPresent

/-- Only the values under its first key matter to a place. -/
theorem congr
    {before after others changed : Entries}
    {key : Scalar}
    {rest : List Scalar}
    (anchors :
      AnchorsAt surroundings base (key :: rest) (.map before) (.map after))
    (sameBefore : others.find? key = before.find? key)
    (sameAfter : changed.find? key = after.find? key) :
    AnchorsAt surroundings base (key :: rest) (.map others) (.map changed) := by
  have sameAt
      {left right : Entries}
      (same : left.find? key = right.find? key) :
      (Document.map left).at? (key :: rest) =
          (Document.map right).at? (key :: rest) ∧
        (Document.map left).blocks (key :: rest) =
          (Document.map right).blocks (key :: rest) := by
    rw [Document.at?_map, Document.at?_map, Document.blocks, Document.blocks,
      same]
    exact ⟨rfl, rfl⟩
  refine ⟨?_, ?_, ?_⟩
  · rw [(sameAt sameBefore).2, (sameAt sameAfter).2]
    exact anchors.blocks
  · rw [(sameAt sameBefore).1, (sameAt sameAfter).1]
    exact anchors.absent
  · rw [(sameAt sameBefore).1, (sameAt sameAfter).1]
    exact anchors.present

/-- The value under a key is changed as it is asked. -/
theorem changeValue
    {change : Document → Except ConfigFailure Document}
    {key : String}
    {rest : List Scalar}
    (ofValue :
      ∀ value changed,
        change value = .ok changed →
        AnchorsAt surroundings base rest value changed)
    {entries changed : Entries}
    (isChanged : changeValue key change entries = .ok changed) :
    AnchorsAt surroundings base (.text key :: rest) (.map entries)
      (.map changed) := by
  unfold HouseStyle.changeValue Entries.get? at isChanged
  split at isChanged
  · next value isThere =>
      obtain ⟨found, isFound, isPut⟩ := exists_of_bind_eq_ok isChanged
      cases isPut
      refine .under ?_ ?_
      · intro other isOther
        rw [isThere, Option.some.injEq] at isOther
        subst isOther
        exact ⟨found, Entries.find?_put_self .., ofValue value found isFound⟩
      · intro notThere
        rw [isThere] at notThere
        cases notThere
  · next notThere =>
      cases isChanged
      refine .under ?_ fun isNone => isNone
      intro value isThere
      rw [notThere] at isThere
      cases isThere

/-- All values of a mapping are changed as it is asked. -/
theorem changeValues
    {change : Document → Except ConfigFailure Document}
    {key : Scalar}
    {rest : List Scalar}
    (ofValue :
      ∀ value changed,
        change value = .ok changed →
        AnchorsAt surroundings base rest value changed)
    {entries changed : Entries}
    (areChanged : changeValues change entries = .ok changed) :
    AnchorsAt surroundings base (key :: rest) (.map entries)
      (.map changed) := by
  have found := find?_changeValues areChanged
  refine .under ?_ (found key).1
  intro value isThere
  obtain ⟨after, isAfter, isChange⟩ := (found key).2 value isThere
  exact ⟨after, isAfter, ofValue value after isChange⟩

/-- A path is changed to what it is seen as. -/
theorem path
    {value shown : Document}
    (isShown : anchoredPath surroundings base value = .ok shown) :
    AnchorsAt surroundings base [] value shown where
  blocks := by rw [Document.blocks, Document.blocks]
  absent isAbsent := by
    rw [Document.at?_nil] at isAbsent
    cases isAbsent
  present found isFound := by
    rw [Document.at?_nil, Option.some.injEq] at isFound
    subst isFound
    exact ⟨shown, isShown, Document.at?_nil shown⟩

/-- The entries of a mapping are changed as it is asked. -/
theorem onMapping
    {change : Entries → Except ConfigFailure Entries}
    {key : Scalar}
    {rest : List Scalar}
    (ofEntries :
      ∀ entries changed,
        change entries = .ok changed →
        AnchorsAt surroundings base (key :: rest) (.map entries)
          (.map changed))
    {value changed : Document}
    (isChanged : onMapping change value = .ok changed) :
    AnchorsAt surroundings base (key :: rest) value changed := by
  cases value with
  | map entries =>
      obtain ⟨after, isAfter, rfl⟩ := exists_of_map_eq_ok isChanged
      exact ofEntries entries after isAfter
  | _ =>
      cases isChanged
      exact .leaf rfl key rest

/-- The path in some parameters is anchored. -/
theorem anchoredParams
    {value changed : Document}
    (isAnchored : anchoredParams surroundings base value = .ok changed) :
    AnchorsAt surroundings base [.text "lexicon_file"] value changed := by
  refine onMapping (fun params after isAfter => ?_) isAnchored
  rw [anchorParams_eq_changeValue] at isAfter
  exact changeValue (fun _ _ => path) isAfter

/-- The path in the settings of a rule is anchored. -/
theorem anchoredSettings
    {value changed : Document}
    (isAnchored : anchoredSettings surroundings base value = .ok changed) :
    AnchorsAt surroundings base [.text "params", .text "lexicon_file"]
      value changed :=
  onMapping (fun _ _ => changeValue fun _ _ => anchoredParams) isAnchored

/-- The paths in a table of rules are anchored. -/
theorem anchoredTable
    {value changed : Document}
    (isAnchored : anchoredTable surroundings base value = .ok changed)
    (id : Scalar) :
    AnchorsAt surroundings base [id, .text "params", .text "lexicon_file"]
      value changed :=
  onMapping (fun _ _ => changeValues fun _ _ => anchoredSettings) isAnchored

/-- The paths in the tables of languages are anchored. -/
theorem anchoredLanguages
    {value changed : Document}
    (isAnchored : anchoredLanguages surroundings base value = .ok changed)
    (language id : Scalar) :
    AnchorsAt surroundings base
      [language, id, .text "params", .text "lexicon_file"] value changed :=
  onMapping
    (fun _ _ => changeValues fun _ _ isTable => anchoredTable isTable id)
    isAnchored

end AnchorsAt

/-- An anchored document has its paths anchored, and is changed nowhere else. -/
theorem anchorsAt_of_anchoredOnce
    {entries own : Entries}
    (isAnchored : entries.anchoredOnce surroundings base = .ok own)
    {place : List Scalar}
    (isPlace : IsWordListPlace place) :
    AnchorsAt surroundings base place (.map entries) (.map own) := by
  obtain ⟨inRules, areRules, areLanguages⟩ := exists_of_bind_eq_ok isAnchored
  cases isPlace with
  | ofRule id =>
      have anchors :=
        AnchorsAt.changeValue
          (fun _ _ isChange => AnchorsAt.anchoredTable isChange id) areRules
      exact
        anchors.congr rfl (Sheet.get?_of_changeValue (by decide) areLanguages)
  | ofLanguage language id =>
      have anchors :=
        AnchorsAt.changeValue
          (fun _ _ isChange =>
            AnchorsAt.anchoredLanguages isChange language id)
          areLanguages
      have sameBefore :
          inRules.get? "languages" = entries.get? "languages" :=
        Sheet.get?_of_changeValue (by decide) areRules
      exact anchors.congr sameBefore.symm rfl

/-! ## Distinct names -/

/-- A change that keeps the names of distinct documents distinct. -/
def KeepsDistinct (change : Document → Except ConfigFailure Document) : Prop :=
  ∀ value changed,
    value.Distinct → change value = .ok changed → changed.Distinct

namespace KeepsDistinct

/-- To change the value under a key keeps names distinct. -/
theorem changeValue
    {change : Document → Except ConfigFailure Document}
    (keeps : KeepsDistinct change)
    (key : String)
    {entries changed : Entries}
    (distinct : (Document.map entries).Distinct)
    (isChanged : changeValue key change entries = .ok changed) :
    (Document.map changed).Distinct := by
  unfold HouseStyle.changeValue at isChanged
  split at isChanged
  · next value isThere =>
      obtain ⟨found, isFound, isPut⟩ := exists_of_bind_eq_ok isChanged
      cases isPut
      have ofValue : value.Distinct := by
        cases distinct with
        | leaf isLeaf => cases isLeaf
        | map _ values => exact values (.text key) value isThere
      exact distinct.put (.text key) (keeps value found ofValue isFound)
  · cases isChanged
    exact distinct

/-- To change all values keeps names distinct. -/
theorem changeValues
    {change : Document → Except ConfigFailure Document}
    (keeps : KeepsDistinct change)
    {entries changed : Entries}
    (distinct : (Document.map entries).Distinct)
    (areChanged : changeValues change entries = .ok changed) :
    (Document.map changed).Distinct := by
  cases distinct with
  | leaf isLeaf =>
      cases isLeaf
  | map names values =>
      refine .map ?_ ?_
      · rw [names_changeValues areChanged]
        exact names
      · intro key after isAfter
        obtain ⟨ofNone, ofSome⟩ := find?_changeValues areChanged key
        cases isThere : entries.find? key with
        | none =>
            rw [ofNone isThere] at isAfter
            cases isAfter
        | some value =>
            obtain ⟨found, isFound, isChange⟩ := ofSome value isThere
            rw [isAfter, Option.some.injEq] at isFound
            rw [isFound]
            exact keeps value found (values key value isThere) isChange

/-- To change mappings alone keeps names distinct if it does so in mappings. -/
theorem onMapping
    {change : Entries → Except ConfigFailure Entries}
    (keeps :
      ∀ entries changed,
        (Document.map entries).Distinct →
        change entries = .ok changed →
        (Document.map changed).Distinct) :
    KeepsDistinct (onMapping change) := by
  intro value changed distinct isChanged
  cases value with
  | map entries =>
      obtain ⟨after, isAfter, rfl⟩ := exists_of_map_eq_ok isChanged
      exact keeps entries after distinct isAfter
  | _ =>
      cases isChanged
      exact distinct

end KeepsDistinct

/-- To anchor the path of a word list keeps names distinct. -/
theorem keepsDistinct_anchoredPath :
    KeepsDistinct (anchoredPath surroundings base) := by
  intro value changed distinct isAnchored
  unfold anchoredPath at isAnchored
  split at isAnchored
  · split at isAnchored
    · cases isAnchored
      exact .leaf rfl
    · obtain ⟨path, _, isAnchored⟩ := exists_of_bind_eq_ok isAnchored
      cases isAnchored
      exact .leaf rfl
  · cases isAnchored
    exact distinct

/-- To anchor a table of rules keeps names distinct. -/
theorem keepsDistinct_anchoredTable :
    KeepsDistinct (anchoredTable surroundings base) := by
  have ofParams : KeepsDistinct (anchoredParams surroundings base) := by
    refine .onMapping fun params changed distinct isAnchored => ?_
    rw [anchorParams_eq_changeValue] at isAnchored
    exact
      keepsDistinct_anchoredPath.changeValue "lexicon_file" distinct isAnchored
  have ofSettings : KeepsDistinct (anchoredSettings surroundings base) :=
    .onMapping fun _ _ => ofParams.changeValue "params"
  exact .onMapping fun _ _ => ofSettings.changeValues

/-- To anchor the tables of languages keeps names distinct. -/
theorem keepsDistinct_anchoredLanguages :
    KeepsDistinct (anchoredLanguages surroundings base) :=
  .onMapping fun _ _ => keepsDistinct_anchoredTable.changeValues

/-- An anchored document has distinct names if it had them before. -/
theorem distinct_of_anchoredOnce
    {entries own : Entries}
    (distinct : (Document.map entries).Distinct)
    (isAnchored : entries.anchoredOnce surroundings base = .ok own) :
    (Document.map own).Distinct := by
  obtain ⟨inRules, areRules, areLanguages⟩ := exists_of_bind_eq_ok isAnchored
  have distinctRules :=
    keepsDistinct_anchoredTable.changeValue "rules" distinct areRules
  exact
    keepsDistinct_anchoredLanguages.changeValue
      "languages" distinctRules areLanguages

end HouseStyle
