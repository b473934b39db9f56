import HouseStyle.Proofs.Document.LastValue

namespace HouseStyle

/-!
# Laws of merging

The empty mapping changes nothing and is changed to what is laid over it. What has
been laid over a mapping changes nothing when it is laid over it once more. What is no
mapping stands at its place whatever it is laid over.

Three mappings may be merged in either order as long as nothing hides a mapping from
a mapping above it. Where something does, the order shows: merging the upper two first
brings back what the lowest one has there.
-/

namespace Entries

/-! ## Nothing and the same once more -/

theorem nodup_names_nil : (names []).Nodup := List.nodup_nil

/-- What is laid over nothing stays as it is. -/
theorem nil_merge
    {upper : Entries}
    (distinct : upper.names.Nodup) :
    Entries.merge [] upper = upper := by
  apply ext_find? (nodup_names_merge nodup_names_nil upper)
  · rw [keys_merge distinct]
    simp
  · intro key _
    rw [find?_merge distinct]
    cases isUpper : upper.find? key with
    | none => rfl
    | some value =>
        have stays : value.over none = value := Document.over_other (by simp) value
        exact congrArg some stays

/-- No name is new among names that have been laid over. -/
theorem keys_merge_merge
    {upper : Entries}
    (distinct : upper.names.Nodup)
    (lower : Entries) :
    ((lower.merge upper).merge upper).keys = (lower.merge upper).keys := by
  rw [keys_merge distinct (lower.merge upper)]
  apply List.append_right_eq_self.mpr
  apply List.filter_eq_nil_iff.mpr
  intro key member
  have isThere : key.name ∈ (lower.merge upper).names := by
    rw [mem_names_merge distinct, names_eq_map_keys upper]
    exact .inr (List.mem_map_of_mem member)
  simpa using isThere

/-- A mapping may be laid over a second time if each of its values may. -/
theorem merge_merge_of_values
    {lower upper : Entries}
    (lowerDistinct : lower.names.Nodup)
    (distinct : upper.names.Nodup)
    (again :
      ∀ key value,
        upper.find? key = some value →
        value.over (some (value.over (lower.find? key))) =
          value.over (lower.find? key)) :
    (lower.merge upper).merge upper = lower.merge upper := by
  have mergedDistinct := nodup_names_merge lowerDistinct upper
  apply ext_find? (nodup_names_merge mergedDistinct upper)
  · exact keys_merge_merge distinct lower
  · intro key _
    rw [find?_merge distinct, find?_merge distinct]
    cases isUpper : upper.find? key with
    | none => rfl
    | some value => exact congrArg some (again key value isUpper)

end Entries

namespace Document

open Entries

/-- A distinct document is so as what may be there to lay something over. -/
theorem Distinct.ofSome
    {document : Document}
    (distinct : document.Distinct) :
    ∀ other, some document = some other → other.Distinct := by
  rintro _ ⟨⟩
  exact distinct

/-- What has been laid over a document changes nothing when it is laid over again. -/
theorem over_over_self
    {upper : Document}
    (upperDistinct : upper.Distinct)
    {lower : Option Document}
    (lowerDistinct : ∀ document, lower = some document → document.Distinct) :
    upper.over (some (upper.over lower)) = upper.over lower := by
  induction upperDistinct generalizing lower with
  | leaf isLeaf =>
      rw [over_leaf isLeaf, over_leaf isLeaf]
  | @map upper distinct values inductionHypothesis =>
      by_cases isMap : ∃ entries, lower = some (.map entries)
      · obtain ⟨entries, rfl⟩ := isMap
        cases lowerDistinct _ rfl with
        | leaf isLeaf => cases isLeaf
        | map entriesDistinct lowerValues =>
            rw [map_over_map, map_over_map]
            apply congrArg Document.map
            apply merge_merge_of_values entriesDistinct distinct
            intro key value isUpper
            exact inductionHypothesis key value isUpper (lowerValues key)
      -- Over anything else the mapping stands as over the empty mapping.
      · rw [over_other (not_exists.mp isMap), map_over_map]
        apply congrArg Document.map
        have twice : ((Entries.merge [] upper).merge upper) = Entries.merge [] upper := by
          apply merge_merge_of_values nodup_names_nil distinct
          intro key value isUpper
          exact inductionHypothesis key value isUpper nofun
        rwa [nil_merge distinct] at twice

/-- A document changes nothing when it is laid over itself. -/
theorem over_self
    {document : Document}
    (distinct : document.Distinct) :
    document.over (some document) = document := by
  have again :
      document.over (some (document.over none)) = document.over none :=
    over_over_self distinct nofun
  have stays : document.over none = document := over_other (by simp) document
  rwa [stays] at again

/-! ## Places on both sides -/

/-- Where both have a value, that of the upper one is laid over that of the lower one. -/
theorem at?_over_of_both
    {lower upper : Document}
    (distinct : upper.Distinct)
    {place : List Scalar}
    {below above : Document}
    (isBelow : lower.at? place = some below)
    (isAbove : upper.at? place = some above) :
    (upper.over (some lower)).at? place = some (above.over (some below)) := by
  induction place generalizing lower upper with
  | nil =>
      rw [at?_nil, Option.some.injEq] at isBelow isAbove
      rw [at?_nil, isBelow, isAbove]
  | cons key rest inductionHypothesis =>
      cases distinct with
      | leaf isLeaf =>
          rw [at?_leaf isLeaf] at isAbove
          cases isAbove
      | @map upper names values =>
          cases lower with
          | map lower =>
              rw [at?_map] at isBelow isAbove
              obtain ⟨inLower, isLower, isBelow⟩ := Option.bind_eq_some_iff.mp isBelow
              obtain ⟨inUpper, isUpper, isAbove⟩ := Option.bind_eq_some_iff.mp isAbove
              rw [map_over_map, at?_map, find?_merge names, isUpper, isLower]
              exact inductionHypothesis (values key inUpper isUpper) isBelow isAbove
          | _ => cases isBelow

end Document

namespace Entries

open Document

/-! ## Regrouping -/

/--
At a place, something that is no mapping hides a mapping below it from a mapping above
it.
-/
structure HidesAt (lower middle upper : Entries) (place : List Scalar) : Prop where
  below : (Document.map lower).HasMap place
  between : (Document.map middle).HasLeaf place
  above : (Document.map upper).HasMap place

section Regrouping

variable
  {lower middle upper : Entries}
  (middleDistinct : (Document.map middle).Distinct)
  (upperDistinct : (Document.map upper).Distinct)

include middleDistinct upperDistinct

/-- Where nothing is hidden, the order of merging does not show. -/
theorem merge_assoc_of_not_hidesAt
    (lowerDistinct : (Document.map lower).Distinct)
    (noneHides : ∀ place, ¬ HidesAt lower middle upper place) :
    (lower.merge middle).merge upper = lower.merge (middle.merge upper) := by
  have areSteady : AreSteady (some (.map lower)) (.map middle) (.map upper) := by
    rintro place ⟨_, ⟨⟩, isBelow⟩ isBetween isAbove
    exact noneHides place ⟨isBelow, isBetween, isAbove⟩
  have inEitherOrder :=
    over_assoc upperDistinct middleDistinct lowerDistinct.ofSome areSteady
  simpa only [map_over_map, Document.map.injEq] using inEitherOrder

variable
  {place : List Scalar}
  {entries : Entries}
  (isBetween : (Document.map middle).HasLeaf place)
  (isAbove : (Document.map upper).at? place = some (.map entries))

include isBetween isAbove

/-- What hides a mapping is forgotten by the time the upper one is laid over it. -/
theorem at?_merge_merge_of_leaf (lower : Entries) :
    (Document.map ((lower.merge middle).merge upper)).at? place =
      some (.map entries) := by
  obtain ⟨value, isThere, isLeaf⟩ := isBetween
  have stays : (Document.map (lower.merge middle)).at? place = some value :=
    at?_over_of_leaf middleDistinct (some (.map lower)) isThere isLeaf
  have merged := at?_over_of_both upperDistinct stays isAbove
  rwa [map_over_map, over_other] at merged
  rintro others ⟨⟩
  cases isLeaf

/-- Merging the upper two first brings a hidden mapping back. -/
theorem at?_merge_merge_of_map
    {hidden : Entries}
    (isBelow : (Document.map lower).at? place = some (.map hidden)) :
    (Document.map (lower.merge (middle.merge upper))).at? place =
      some (.map (hidden.merge entries)) := by
  obtain ⟨value, isThere, isLeaf⟩ := isBetween
  have replaced : (Document.map (middle.merge upper)).at? place = some (.map entries) := by
    have merged := at?_over_of_both upperDistinct isThere isAbove
    rwa [map_over_map, over_other] at merged
    rintro others ⟨⟩
    cases isLeaf
  have mergedDistinct : (Document.map (middle.merge upper)).Distinct := by
    rw [← map_over_map]
    exact upperDistinct.over middleDistinct.ofSome
  exact at?_over_of_both mergedDistinct isBelow replaced

omit isBetween isAbove in
/-- The order of merging shows at a key of a hidden mapping that the upper one lacks. -/
theorem at?_merge_merge_of_hidesAt
    {key : Scalar}
    {value : Document}
    (hides : HidesAt lower middle upper place)
    (isThere : (Document.map lower).at? (place ++ [key]) = some value)
    (isMissing : (Document.map upper).at? (place ++ [key]) = none) :
    (Document.map ((lower.merge middle).merge upper)).at? (place ++ [key]) = none ∧
      (Document.map (lower.merge (middle.merge upper))).at? (place ++ [key]) =
        some value ∧
      (lower.merge middle).merge upper ≠ lower.merge (middle.merge upper) := by
  obtain ⟨⟨hidden, isBelow⟩, isBetween, ⟨entries, isAbove⟩⟩ := hides
  rw [at?_append, isBelow, Option.bind_some, at?_map] at isThere
  rw [at?_append, isAbove, Option.bind_some, at?_map] at isMissing
  have names : (names entries).Nodup := (upperDistinct.at? isAbove).names
  have lacksKey : Entries.find? entries key = none := by simpa using isMissing
  have isLost :
      (Document.map ((lower.merge middle).merge upper)).at? (place ++ [key]) = none := by
    rw [at?_append, at?_merge_merge_of_leaf middleDistinct upperDistinct isBetween isAbove]
    exact isMissing
  have isBack :
      (Document.map (lower.merge (middle.merge upper))).at? (place ++ [key]) =
        some value := by
    rw [at?_append,
      at?_merge_merge_of_map middleDistinct upperDistinct isBetween isAbove isBelow,
      Option.bind_some, at?_map, find?_merge names, lacksKey]
    exact isThere
  refine ⟨isLost, isBack, fun same => ?_⟩
  rw [same, isBack] at isLost
  cases isLost

end Regrouping

/-- What merging does with two mappings, and with one more that is laid over them. -/
structure MergeLaws (lower middle upper : Entries) : Prop where
  onNothing : Entries.merge [] lower = lower
  byNothing : lower.merge [] = lower
  onItself : lower.merge lower = lower
  onceMore : (lower.merge middle).merge middle = lower.merge middle
  keepsLeaf :
    ∀ place value,
      (Document.map middle).at? place = some value →
      value.entries? = none →
      (Document.map (lower.merge middle)).at? place = some value
  regroups :
    (∀ place, ¬ HidesAt lower middle upper place) →
    (lower.merge middle).merge upper = lower.merge (middle.merge upper)
  /-- The order shows at each key of a hidden mapping that the one above lacks. -/
  bringsBack :
    ∀ place key value,
      HidesAt lower middle upper place →
      (Document.map lower).at? (place ++ [key]) = some value →
      (Document.map upper).at? (place ++ [key]) = none →
      (Document.map ((lower.merge middle).merge upper)).at? (place ++ [key]) = none ∧
        (Document.map (lower.merge (middle.merge upper))).at? (place ++ [key]) =
          some value ∧
        (lower.merge middle).merge upper ≠ lower.merge (middle.merge upper)

/-- Mappings that name everything once are merged by these laws. -/
theorem mergeLaws_of_distinct
    {lower middle upper : Entries}
    (lowerDistinct : (Document.map lower).Distinct)
    (middleDistinct : (Document.map middle).Distinct)
    (upperDistinct : (Document.map upper).Distinct) :
    MergeLaws lower middle upper where
  onNothing := nil_merge lowerDistinct.names
  byNothing := rfl
  onItself := Document.map.inj (over_self lowerDistinct)
  onceMore := by
    have again :
        (Document.map middle).over (some (.map (lower.merge middle))) =
          .map (lower.merge middle) :=
      over_over_self middleDistinct lowerDistinct.ofSome
    exact Document.map.inj again
  keepsLeaf := fun _ _ isThere isLeaf =>
    at?_over_of_leaf middleDistinct (some (.map lower)) isThere isLeaf
  regroups := merge_assoc_of_not_hidesAt middleDistinct upperDistinct lowerDistinct
  bringsBack := fun _ _ _ hides isBelow isMissing =>
    at?_merge_merge_of_hidesAt middleDistinct upperDistinct hides isBelow isMissing

/-- The parameters of a rule under a number. -/
def numberedParams : Entries :=
  [(.int 1,
    .map [(.text "verbs", .list [.text "get"]), (.text "lexicon_file", .text "words")])]

/-- The number as a truth value has no parameters. -/
def noParams : Entries :=
  [(.bool true, .null)]

/-- The number has one parameter. -/
def ownVerbs : Entries :=
  [(.int 1, .map [(.text "verbs", .list [.text "make"])])]

/-- What `noParams` hides comes back if `ownVerbs` is laid over it first. -/
theorem mergeLaws_of_hiddenParams :
    (Document.map numberedParams).Distinct ∧
      (Document.map noParams).Distinct ∧
      (Document.map ownVerbs).Distinct ∧
      MergeLaws numberedParams noParams ownVerbs ∧
      HidesAt numberedParams noParams ownVerbs [.int 1] ∧
      (numberedParams.merge noParams).merge ownVerbs ≠
        numberedParams.merge (noParams.merge ownVerbs) := by
  have lowerDistinct : (Document.map numberedParams).Distinct :=
    distinct_of_isDistinct _ (by decide +kernel)
  have middleDistinct : (Document.map noParams).Distinct :=
    distinct_of_isDistinct _ (by decide +kernel)
  have upperDistinct : (Document.map ownVerbs).Distinct :=
    distinct_of_isDistinct _ (by decide +kernel)
  have laws : MergeLaws numberedParams noParams ownVerbs :=
    mergeLaws_of_distinct lowerDistinct middleDistinct upperDistinct
  have hides : HidesAt numberedParams noParams ownVerbs [.int 1] :=
    ⟨⟨_, rfl⟩, ⟨_, rfl, rfl⟩, ⟨_, rfl⟩⟩
  obtain ⟨_, _, differ⟩ :=
    laws.bringsBack [.int 1] (.text "lexicon_file") (.text "words") hides rfl rfl
  exact ⟨lowerDistinct, middleDistinct, upperDistinct, laws, hides, differ⟩

end Entries

end HouseStyle
