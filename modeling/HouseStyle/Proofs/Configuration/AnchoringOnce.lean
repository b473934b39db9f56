import HouseStyle.Proofs.Configuration.Anchoring

namespace HouseStyle

/-!
# Anchoring rule by rule

Where parameters that name a relative path stand in one place each, the sheet that
holds them is anchored as its shape says: the parameters of each rule once, and
nothing else.
-/

open Yaml (Origin Reading)

variable {surroundings : Surroundings} {base : Path}

/-! ## Anchoring table by table -/

/-- To change each value of a mapping in the same way is to change all values. -/
theorem anchoredEntries_eq_changeValues
    {params : List Nat}
    {origin : Origin}
    {change : Document → Except ConfigFailure Document}
    {entries : Entries}
    (each :
      ∀ key value,
        (key, value) ∈ entries →
        value.anchored surroundings base params (origin.at key) =
          change value) :
    anchoredEntries surroundings base params origin entries =
      changeValues change entries := by
  induction entries with
  | nil =>
      rfl
  | cons entry rest inductionHypothesis =>
      obtain ⟨key, value⟩ := entry
      rw [anchoredEntries, changeValues, each key value (List.mem_cons_self ..),
        inductionHypothesis fun other found member =>
          each other found (List.mem_cons_of_mem _ member)]

/-- A value may stand where it stands already. -/
theorem Entries.put_of_find?
    {entries : Entries}
    {key : Scalar}
    {value : Document}
    (isFound : entries.find? key = some value) :
    entries.put key value = entries := by
  induction entries with
  | nil =>
      cases isFound
  | cons entry rest inductionHypothesis =>
      obtain ⟨first, old⟩ := entry
      rw [put]
      by_cases same : first.name = key.name
      · rw [find?_cons_of_eq same, Option.some.injEq] at isFound
        rw [if_pos ((first.same_iff key).mpr same), isFound]
      · rw [find?_cons_of_ne same] at isFound
        rw [if_neg fun isSame => same ((first.same_iff key).mp isSame),
          inductionHypothesis isFound]

/-- To change the value under one key alone is to change that value. -/
theorem anchoredEntries_eq_changeValue
    {params : List Nat}
    {origin : Origin}
    {change : Document → Except ConfigFailure Document}
    {key : String}
    {entries : Entries}
    (distinct : entries.names.Nodup)
    (atKey :
      ∀ present value,
        (present, value) ∈ entries →
        present.name = .text key →
        value.anchored surroundings base params (origin.at present) =
          change value)
    (elsewhere :
      ∀ present value,
        (present, value) ∈ entries →
        present.name ≠ .text key →
        value.anchored surroundings base params (origin.at present) =
          .ok value) :
    anchoredEntries surroundings base params origin entries =
      changeValue key change entries := by
  induction entries with
  | nil =>
      rfl
  | cons entry rest inductionHypothesis =>
      obtain ⟨present, value⟩ := entry
      rw [Entries.names_cons] at distinct
      obtain ⟨isNew, restDistinct⟩ := List.nodup_cons.mp distinct
      have ofRest :=
        inductionHypothesis restDistinct
          (fun other found member =>
            atKey other found (List.mem_cons_of_mem _ member))
          (fun other found member =>
            elsewhere other found (List.mem_cons_of_mem _ member))
      rw [anchoredEntries, ofRest]
      unfold changeValue Entries.get?
      by_cases same : present.name = .text key
      · have notBehind : Entries.find? rest (.text key) = none :=
          Entries.find?_eq_none_iff.mpr fun member => isNew (same ▸ member)
        have isSame : present.same (.text key) = true :=
          (present.same_iff (.text key)).mpr same
        rw [Entries.find?_cons_of_eq same, notBehind,
          atKey present value (List.mem_cons_self ..) same]
        refine bind_congr_of_ok fun changed _ => ?_
        rw [Entries.put, if_pos isSame]
        rfl
      · have notSame : ¬ present.same (.text key) = true :=
          fun isSame => same ((present.same_iff (.text key)).mp isSame)
        rw [Entries.find?_cons_of_ne same,
          elsewhere present value (List.mem_cons_self ..) same, ok_bind]
        cases Entries.find? rest (.text key) with
        | none =>
            rfl
        | some found =>
            simp only [Entries.put, if_neg notSame]
            cases change found <;> rfl

/-- Keys of one name have one origin. -/
theorem origin_at_congr
    {key other : Scalar}
    (same : key.name = other.name)
    (origin : Origin) :
    origin.at key = origin.at other := by
  have sameKeys :
      (fun entry : Scalar × Origin => entry.1.same key) =
        fun entry => entry.1.same other := by
    funext entry
    rw [Bool.eq_iff_iff, Scalar.same_iff, Scalar.same_iff, same]
  cases origin with
  | map number table => rw [Origin.at, Origin.at, sameKeys]
  | _ => rfl

/-- What stands below entries of different names stands in two places. -/
theorem two_le_count_of_different
    {origin : Origin}
    {entries : Entries}
    {key other : Scalar}
    {value found : Document}
    (isEntry : (key, value) ∈ entries)
    (isOther : (other, found) ∈ entries)
    (different : key.name ≠ other.name)
    {number : Nat}
    (isBelow : number ∈ value.numbers (origin.at key))
    (isBelowOther : number ∈ found.numbers (origin.at other)) :
    2 ≤ (numbersOfEntries origin entries).count number := by
  induction entries with
  | nil =>
      cases isEntry
  | cons entry rest inductionHypothesis =>
      obtain ⟨first, head⟩ := entry
      rw [numbersOfEntries_cons, List.count_append]
      rcases List.mem_cons.mp isEntry with isFirst | inRest
      · rcases List.mem_cons.mp isOther with isFirstToo | otherInRest
        · cases isFirst
          cases isFirstToo
          exact (different rfl).elim
        · cases isFirst
          have inHead := List.count_pos_iff.mpr isBelow
          have inRest :=
            List.count_pos_iff.mpr (numbers_subset_of_mem otherInRest isBelowOther)
          omega
      · rcases List.mem_cons.mp isOther with isFirst | otherInRest
        · cases isFirst
          have inHead := List.count_pos_iff.mpr isBelowOther
          have inRest :=
            List.count_pos_iff.mpr (numbers_subset_of_mem inRest isBelow)
          omega
        · have ofRest := inductionHypothesis inRest otherInRest
          omega

/-- A mapping that stands below itself stands in two places. -/
theorem two_le_count_of_below
    {number : Nat}
    {table : List (Scalar × Origin)}
    {entries : Entries}
    (isBelow : number ∈ numbersOfEntries (.map number table) entries) :
    2 ≤ ((Document.map entries).numbers (.map number table)).count number := by
  have isInside := List.count_pos_iff.mpr isBelow
  rw [Document.numbers_map, List.count_cons_self]
  omega

/-- The parameters of settings are known by the mapping that they are. -/
theorem exists_of_paramsNumber?
    {entries : Entries}
    {origin : Origin}
    {number : Nat}
    (isNumber : paramsNumber? (.map entries) origin = some number) :
    ∃ present params,
      present.name = .text "params" ∧
        (present, .map params) ∈ entries ∧
          number ∈ (Document.map params).numbers (origin.at present) := by
  unfold paramsNumber? at isNumber
  simp only at isNumber
  split at isNumber
  · next params table isParams isOrigin =>
      cases isNumber
      obtain ⟨present, same, isEntry⟩ := Entries.exists_mem_of_find? isParams
      refine ⟨present, _, same, isEntry, ?_⟩
      rw [origin_at_congr same, ← Origin.under, isOrigin, Document.numbers_map]
      exact List.mem_cons_self ..
  · cases isNumber

/-- The parameters of settings are one of the mappings in them. -/
theorem paramsNumber?_subset (settings : Document) (origin : Origin) :
    (paramsNumber? settings origin).toList ⊆ settings.numbers origin := by
  intro number member
  have isNumber := Option.mem_toList.mp member
  cases settings with
  | map entries =>
      obtain ⟨present, params, _, isEntry, isBelow⟩ :=
        exists_of_paramsNumber? isNumber
      have inEntries := numbers_subset_of_mem isEntry isBelow
      cases origin with
      | map outer others => exact List.mem_cons_of_mem outer inEntries
      | _ => cases isBelow
  | _ => cases isNumber

/-- A mapping whose parameters are all below it is anchored in its values. -/
theorem anchored_of_below
    {params : List Nat}
    {number : Nat}
    {table : List (Scalar × Origin)}
    {entries : Entries}
    {answer : Except ConfigFailure Entries}
    (apart :
      StandApart surroundings
        ((Document.map entries).mappings (.map number table)) params)
    (areBelow : params ⊆ numbersOfEntries (.map number table) entries)
    (ofEntries :
      anchoredEntries surroundings base params (.map number table) entries =
        answer) :
    (Document.map entries).anchored surroundings base params
        (.map number table) =
      answer.map .map := by
  unfold Document.anchored
  simp only [ofEntries]
  cases answer with
  | error failure =>
      rfl
  | ok changed =>
      have unchanged :
          anchorRepeatedly surroundings base changed (params.count number) =
            .ok changed := by
        cases isRelative : namesRelative surroundings entries with
        | true =>
            have notCounted : params.count number = 0 := by
              refine List.count_eq_zero.mpr fun isParams => ?_
              have isOnce :
                  ((Document.map entries).numbers (.map number table)).count
                      number ≤ 1 :=
                apart (number, entries) (List.mem_cons_self ..) isParams isRelative
              have isTwice := two_le_count_of_below (areBelow isParams)
              omega
            rw [notCounted, anchorRepeatedly]
        | false =>
            have settled := namesRelative_of_anchoredEntries ofEntries
            rw [isRelative] at settled
            exact anchorRepeatedly_of_settled settled _
      rw [ok_bind, unchanged]
      rfl

/-- Parameters that are counted once are anchored once. -/
theorem anchored_eq_anchoredParams
    {params : Entries}
    {number : Nat}
    {table : List (Scalar × Origin)}
    (apart :
      StandApart surroundings
        ((Document.map params).mappings (.map number table)) [number]) :
    (Document.map params).anchored surroundings base [number]
        (.map number table) =
      anchoredParams surroundings base (.map params) := by
  have ofEntries :
      anchoredEntries surroundings base [number] (.map number table) params =
        .ok params := by
    refine anchoredEntries_of_absent params fun mapping member isRelative => ?_
    intro isNumber
    have isOnce :
        ((Document.map params).numbers (.map number table)).count mapping.1 ≤
          1 :=
      apart mapping (List.mem_cons_of_mem _ member) isNumber isRelative
    have isBelow : mapping.1 ∈ numbersOfEntries (.map number table) params :=
      List.mem_map_of_mem member
    rw [List.mem_singleton.mp isNumber] at isOnce isBelow
    -- Its number stands at the parameters themselves and once more below them.
    have isTwice := two_le_count_of_below isBelow
    omega
  rw [Document.anchored, ofEntries, ok_bind, List.count_singleton_self,
    anchorRepeatedly, anchoredParams, onMapping]
  cases anchorParams surroundings base params <;> rfl

/-- The parameters of settings are below them. -/
theorem paramsNumber?_subset_entries
    (entries : Entries)
    (origin : Origin) :
    (paramsNumber? (.map entries) origin).toList ⊆
      numbersOfEntries origin entries := by
  intro number member
  obtain ⟨_, _, _, isEntry, isBelow⟩ :=
    exists_of_paramsNumber? (Option.mem_toList.mp member)
  exact numbers_subset_of_mem isEntry isBelow

section Settings

variable
  {entries : Entries}
  {number : Nat}
  {table : List (Scalar × Origin)}
  (apart :
    StandApart surroundings
      ((Document.map entries).mappings (.map number table))
      (paramsNumber? (.map entries) (.map number table)).toList)
  {present : Scalar}
  {value : Document}
  (member : (present, value) ∈ entries)

include apart member

/-- What stands under `params` in settings is anchored as parameters. -/
theorem anchored_of_params
    (traced :
      Reading.Traced
        { document := .map entries, origin := .map number table })
    (same : present.name = .text "params") :
    value.anchored surroundings base
        (paramsNumber? (.map entries) (.map number table)).toList
        ((Origin.map number table).at present) =
      anchoredParams surroundings base value := by
  obtain ⟨_, names, values⟩ := traced.map
  have sameName : present.name = (Scalar.text "params").name := same
  have isParams : Entries.get? entries "params" = some value := by
    rw [Entries.get?, ← Entries.find?_congr sameName entries]
    exact Entries.find?_of_mem names member
  have atParams := origin_at_congr sameName (.map number table)
  cases value with
  | map params =>
      obtain ⟨⟨inner, further, isOrigin⟩, _⟩ :=
        (values (.text "params") _ isParams).map
      have isNumber :
          paramsNumber? (.map entries) (.map number table) = some inner := by
        rw [paramsNumber?, isParams, Origin.under, isOrigin]
      have apartBelow :=
        apart.part
          ((mappings_sublist_of_mem member).trans (List.sublist_cons_self ..))
          (List.Subset.refl _)
      rw [isNumber, atParams, isOrigin] at apartBelow
      rw [isNumber, atParams, isOrigin]
      exact anchored_eq_anchoredParams apartBelow
  | _ =>
      have noNumber :
          paramsNumber? (.map entries) (.map number table) = none := by
        rw [paramsNumber?, isParams]
      rw [noNumber]
      exact Document.anchored_nil _

/-- What stands beside `params` in settings stays as it is. -/
theorem anchored_beside_params
    (different : present.name ≠ .text "params") :
    value.anchored surroundings base
        (paramsNumber? (.map entries) (.map number table)).toList
        ((Origin.map number table).at present) =
      .ok value := by
  refine Document.anchored_of_absent value ?_
  intro mapping isBelow isRelative isParams
  obtain ⟨key, params, isKey, isEntry, isBelowParams⟩ :=
    exists_of_paramsNumber? (Option.mem_toList.mp isParams)
  have isInside := (mappings_sublist_of_mem member).subset isBelow
  have isOnce :
      ((Document.map entries).numbers (.map number table)).count mapping.1 ≤
        1 :=
    apart mapping (List.mem_cons_of_mem _ isInside) isParams isRelative
  -- It would stand below the parameters and below this value.
  have isTwice :=
    two_le_count_of_different member isEntry (isKey ▸ different)
      (List.mem_map_of_mem isBelow) isBelowParams
  rw [Document.numbers_map, List.count_cons] at isOnce
  omega

end Settings

/-- Settings are anchored in their parameters. -/
theorem anchored_eq_anchoredSettings
    {settings : Document}
    {origin : Origin}
    (traced : Reading.Traced { document := settings, origin })
    (apart :
      StandApart surroundings (settings.mappings origin)
        (paramsNumber? settings origin).toList) :
    settings.anchored surroundings base
        (paramsNumber? settings origin).toList origin =
      anchoredSettings surroundings base settings := by
  cases settings with
  | map entries =>
      obtain ⟨⟨number, table, rfl⟩, names, _⟩ := traced.map
      refine anchored_of_below apart (paramsNumber?_subset_entries _ _) ?_
      exact
        anchoredEntries_eq_changeValue names
          (fun _ _ member => anchored_of_params apart member traced)
          (fun _ _ => anchored_beside_params apart)
  | list items =>
      exact Document.anchored_nil (.list items)
  | _ => rfl

/-- What is counted of a value's mappings is what was selected below it. -/
theorem count_flatMap_select
    {select : Document → Origin → List Nat}
    (within : ∀ value origin, select value origin ⊆ value.numbers origin)
    {origin : Origin}
    {entries : Entries}
    {number : Nat}
    (isOnce :
      (number ∈ entries.flatMap fun entry => select entry.2 (origin.at entry.1)) →
      (numbersOfEntries origin entries).count number ≤ 1)
    {key : Scalar}
    {value : Document}
    (member : (key, value) ∈ entries)
    (isBelow : number ∈ value.numbers (origin.at key)) :
    (entries.flatMap fun entry => select entry.2 (origin.at entry.1)).count
        number =
      (select value (origin.at key)).count number := by
  induction entries with
  | nil =>
      cases member
  | cons entry rest inductionHypothesis =>
      obtain ⟨first, head⟩ := entry
      rw [numbersOfEntries_cons, List.count_append, List.flatMap_cons,
        List.mem_append] at isOnce
      rw [List.flatMap_cons, List.count_append]
      rcases List.mem_cons.mp member with isFirst | inRest
      · cases isFirst
        have notBehind :
            (rest.flatMap fun entry =>
              select entry.2 (origin.at entry.1)).count number = 0 := by
          refine List.count_eq_zero.mpr fun isSelected => ?_
          obtain ⟨⟨other, found⟩, isEntry, ofEntry⟩ :=
            List.mem_flatMap.mp isSelected
          have inHead := List.count_pos_iff.mpr isBelow
          have inRest :=
            List.count_pos_iff.mpr
              (numbers_subset_of_mem isEntry (within _ _ ofEntry))
          have isOnce := isOnce (.inr isSelected)
          omega
        rw [notBehind, Nat.add_zero]
      · have notInFront : (select head (origin.at first)).count number = 0 := by
          refine List.count_eq_zero.mpr fun isSelected => ?_
          have inHead := List.count_pos_iff.mpr (within _ _ isSelected)
          have inRest :=
            List.count_pos_iff.mpr (numbers_subset_of_mem inRest isBelow)
          have isOnce := isOnce (.inl isSelected)
          omega
        rw [notInFront, Nat.zero_add]
        refine inductionHypothesis (fun isSelected => ?_) inRest
        have isOnce := isOnce (.inr isSelected)
        omega

/-- A mapping is anchored value by value. -/
theorem anchored_of_each
    {select : Document → Origin → List Nat}
    (within : ∀ value origin, select value origin ⊆ value.numbers origin)
    {change : Document → Except ConfigFailure Document}
    {entries : Entries}
    {number : Nat}
    {table : List (Scalar × Origin)}
    (apart :
      StandApart surroundings
        ((Document.map entries).mappings (.map number table))
        (entries.flatMap fun entry =>
          select entry.2 ((Origin.map number table).at entry.1)))
    (each :
      ∀ key value,
        (key, value) ∈ entries →
        StandApart surroundings
          (value.mappings ((Origin.map number table).at key))
          (select value ((Origin.map number table).at key)) →
        value.anchored surroundings base
            (select value ((Origin.map number table).at key))
            ((Origin.map number table).at key) =
          change value) :
    (Document.map entries).anchored surroundings base
        (entries.flatMap fun entry =>
          select entry.2 ((Origin.map number table).at entry.1))
        (.map number table) =
      (changeValues change entries).map .map := by
  have areBelow :
      (entries.flatMap fun entry =>
          select entry.2 ((Origin.map number table).at entry.1)) ⊆
        numbersOfEntries (.map number table) entries := by
    intro other isSelected
    obtain ⟨⟨key, value⟩, isEntry, ofEntry⟩ := List.mem_flatMap.mp isSelected
    exact numbers_subset_of_mem isEntry (within _ _ ofEntry)
  refine anchored_of_below apart areBelow ?_
  refine anchoredEntries_eq_changeValues fun key value member => ?_
  have apartInside :=
    apart.part (List.sublist_cons_self ..) (List.Subset.refl _)
  rw [← each key value member
    (apartInside.part (mappings_sublist_of_mem member) fun other isSelected =>
      List.mem_flatMap.mpr ⟨(key, value), member, isSelected⟩)]
  refine Document.anchored_congr value fun mapping isBelow isRelative => ?_
  refine count_flatMap_select within (fun isSelected => ?_) member
    (List.mem_map_of_mem isBelow)
  exact
    apartInside mapping ((mappings_sublist_of_mem member).subset isBelow)
      isSelected isRelative

theorem paramsOfTable_map (table : Entries) (origin : Origin) :
    paramsOfTable (.map table) origin =
      table.flatMap fun entry =>
        (paramsNumber? entry.2 (origin.at entry.1)).toList := by
  rw [paramsOfTable, valuesOf, List.filterMap_eq_flatMap_toList,
    List.flatMap_map]

/-- The parameters in a table are mappings of it. -/
theorem paramsOfTable_subset (table : Document) (origin : Origin) :
    paramsOfTable table origin ⊆ table.numbers origin := by
  intro number member
  cases table with
  | map entries =>
      rw [paramsOfTable_map] at member
      obtain ⟨⟨key, settings⟩, isEntry, ofEntry⟩ := List.mem_flatMap.mp member
      have isBelow := paramsNumber?_subset _ _ ofEntry
      have inEntries := numbers_subset_of_mem isEntry isBelow
      cases origin with
      | map outer others => exact List.mem_cons_of_mem outer inEntries
      | _ =>
          simp only [Origin.at, Document.numbers, Document.mappings_plain] at isBelow
          cases isBelow
  | _ => cases member

/-- A table is anchored rule by rule. -/
theorem anchored_eq_anchoredTable
    {table : Document}
    {origin : Origin}
    (traced : Reading.Traced { document := table, origin })
    (apart :
      StandApart surroundings (table.mappings origin)
        (paramsOfTable table origin)) :
    table.anchored surroundings base (paramsOfTable table origin) origin =
      anchoredTable surroundings base table := by
  cases table with
  | map entries =>
      obtain ⟨⟨number, others, rfl⟩, names, values⟩ := traced.map
      rw [paramsOfTable_map] at apart ⊢
      refine
        anchored_of_each
          (fun settings origin => paramsNumber?_subset settings origin)
          apart ?_
      intro key settings member apartBelow
      exact
        anchored_eq_anchoredSettings
          (values key settings (Entries.find?_of_mem names member)) apartBelow
  | list items =>
      exact Document.anchored_nil (.list items)
  | _ => rfl

/-- The tables of languages are anchored table by table. -/
theorem anchored_eq_anchoredLanguages
    {languages : Document}
    {origin : Origin}
    (traced : Reading.Traced { document := languages, origin })
    (apart :
      StandApart surroundings (languages.mappings origin)
        (paramsOfLanguages languages origin)) :
    languages.anchored surroundings base (paramsOfLanguages languages origin)
        origin =
      anchoredLanguages surroundings base languages := by
  cases languages with
  | map entries =>
      obtain ⟨⟨number, others, rfl⟩, names, values⟩ := traced.map
      rw [paramsOfLanguages, valuesOf, List.flatMap_map] at apart ⊢
      refine anchored_of_each paramsOfTable_subset apart ?_
      intro key table member apartBelow
      exact
        anchored_eq_anchoredTable
          (values key table (Entries.find?_of_mem names member)) apartBelow
  | list items =>
      exact Document.anchored_nil (.list items)
  | _ => rfl

/-! ## Sheets -/

namespace Sheet

/--
No parameters that name a relative path stand in a second place too, of the
rules or of the languages.
-/
def SharesNoWordList (surroundings : Surroundings) (sheet : Sheet) : Prop :=
  ∀ part ∈
      [("rules", paramsOfTable), ("languages", paramsOfLanguages)],
  ∀ value,
    sheet.entries.get? part.1 = some value →
    StandApart surroundings (value.mappings (sheet.origin.under part.1))
      (part.2 value (sheet.origin.under part.1))

instance (surroundings : Surroundings) (sheet : Sheet) :
    Decidable (sheet.SharesNoWordList surroundings) :=
  inferInstanceAs
    (Decidable
      (∀ part ∈
          [("rules", paramsOfTable), ("languages", paramsOfLanguages)],
      ∀ value,
        sheet.entries.get? part.1 = some value →
        StandApart surroundings (value.mappings (sheet.origin.under part.1))
          (part.2 value (sheet.origin.under part.1))))

/-- The word lists of a sheet that was read are anchored once. -/
theorem anchored_eq_anchoredOnce
    {sheet : Sheet}
    (traced :
      Reading.Traced
        { document := .map sheet.entries, origin := sheet.origin })
    (sharesNone : sheet.SharesNoWordList surroundings) :
    sheet.anchored surroundings =
      sheet.entries.anchoredOnce surroundings sheet.base := by
  obtain ⟨_, _, values⟩ := traced.map
  have ofPart
      {key : String}
      {paramsOf : Document → Origin → List Nat}
      {change : Document → Except ConfigFailure Document}
      {entries : Entries}
      (same : entries.get? key = sheet.entries.get? key)
      (isChange :
        ∀ part,
          sheet.entries.get? key = some part →
          part.anchored surroundings sheet.base
              (paramsOf part (sheet.origin.under key))
              (sheet.origin.under key) =
            change part) :
      sheet.anchoredPart surroundings key paramsOf entries =
        changeValue key change entries := by
    rw [anchoredPart, changeValue, changeValue, same]
    cases isPart : sheet.entries.get? key with
    | none => rfl
    | some part => simp only [isChange part isPart]
  rw [anchored, Entries.anchoredOnce,
    ofPart rfl fun part isPart =>
      anchored_eq_anchoredTable
        (values (.text "rules") part isPart)
        (sharesNone ("rules", paramsOfTable) (by simp) part isPart)]
  refine bind_congr_of_ok fun entries isChanged => ?_
  refine ofPart (get?_of_changeValue (by decide) isChanged) ?_
  intro part isPart
  exact
    anchored_eq_anchoredLanguages
      (values (.text "languages") part isPart)
      (sharesNone ("languages", paramsOfLanguages) (by simp) part isPart)

end Sheet

end HouseStyle
