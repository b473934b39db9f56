import HouseStyle.Document.Basic
import HouseStyle.Proofs.Document.Entries
import Mathlib.Data.List.Induction

namespace HouseStyle

/-!
# Merging in a row and in a tree

Merging is not associative: a value that replaces a mapping is forgotten as soon
as it is laid under a mapping, but the mapping that it replaced is not. Where
nothing of the kind happens, documents may be merged among themselves before they
are laid over others, and a tree of documents gives what its listing gives.
-/

namespace Document

/-- The entries of a mapping. -/
def entries? : Document → Option Entries
  | .map entries => some entries
  | _ => none

/-- The value at a place: behind a key in a mapping behind a key, and so on. -/
def at? : List Scalar → Document → Option Document
  | [], document => some document
  | key :: rest, .map entries => (Entries.find? entries key).bind (at? rest)
  | _ :: _, _ => none

/-- Mappings all the way down whose entries have distinct names. -/
inductive Distinct : Document → Prop
  | map {entries : Entries} :
      entries.names.Nodup →
      (∀ key value, entries.find? key = some value → value.Distinct) →
      Distinct (.map entries)
  | leaf {document : Document} :
      document.entries? = none →
      Distinct document

mutual

/-- Whether the entries of all mappings have distinct names. -/
def isDistinct : Document → Bool
  | .map entries =>
      decide (Entries.names entries).Nodup && areDistinct entries
  | _ => true

/-- The same for the values of a mapping. -/
def areDistinct : List (Scalar × Document) → Bool
  | [] => true
  | (_, value) :: rest => value.isDistinct && areDistinct rest

end

mutual

/-- What passes the check is distinct. -/
theorem distinct_of_isDistinct :
    (document : Document) →
    document.isDistinct = true →
    document.Distinct
  | .map entries, isChecked => by
      rw [isDistinct, Bool.and_eq_true, decide_eq_true_eq] at isChecked
      refine .map isChecked.1 ?_
      intro key value isFound
      obtain ⟨present, _, isEntry⟩ := Entries.exists_mem_of_find? isFound
      exact distinct_of_areDistinct entries isChecked.2 (present, value) isEntry
  | .scalar _, _ => .leaf rfl
  | .list _, _ => .leaf rfl
  | .pair _ _, _ => .leaf rfl
  | .set _, _ => .leaf rfl

/-- The same for the values of a mapping. -/
theorem distinct_of_areDistinct :
    (entries : List (Scalar × Document)) →
    areDistinct entries = true →
    ∀ entry ∈ entries, entry.2.Distinct
  | [], _, _, member => by
      cases member
  | (key, value) :: rest, isChecked, entry, member => by
      rw [areDistinct, Bool.and_eq_true] at isChecked
      rcases List.mem_cons.mp member with isFirst | inRest
      · rw [isFirst]
        exact distinct_of_isDistinct value isChecked.1
      · exact distinct_of_areDistinct rest isChecked.2 entry inRest

end

/-- A document without entries is not changed by what it is laid over. -/
theorem over_leaf
    {upper : Document}
    (isLeaf : upper.entries? = none)
    (lower : Option Document) :
    upper.over lower = upper := by
  cases upper with
  | map entries => cases isLeaf
  | _ => rfl

/-- Laid over no mapping, a document stays as it is. -/
theorem over_other
    {lower : Option Document}
    (noMap : ∀ entries, lower ≠ some (.map entries))
    (upper : Document) :
    upper.over lower = upper := by
  cases upper with
  | map entries =>
      unfold Document.over
      split
      · next other => exact (noMap other rfl).elim
      · rfl
  | _ => rfl

theorem map_over_map (lower upper : Entries) :
    (Document.map upper).over (some (.map lower)) =
      .map (lower.merge upper) := rfl

theorem entries?_eq_none
    {document : Document}
    (noMap : ∀ entries, document ≠ .map entries) :
    document.entries? = none := by
  cases document with
  | map entries => exact (noMap entries rfl).elim
  | _ => rfl

end Document

namespace Entries

/-! ## What merging gives -/

/-- What is found in merged entries. -/
theorem find?_merge
    {upper : Entries}
    (distinct : upper.names.Nodup)
    (lower : Entries)
    (key : Scalar) :
    (lower.merge upper).find? key =
      match upper.find? key with
      | some value => some (value.over (lower.find? key))
      | none => lower.find? key := by
  unfold merge
  induction upper generalizing lower with
  | nil =>
      rfl
  | cons entry rest inductionHypothesis =>
      obtain ⟨first, value⟩ := entry
      rw [names_cons] at distinct
      obtain ⟨isNew, restDistinct⟩ := List.nodup_cons.mp distinct
      rw [mergeOver, inductionHypothesis restDistinct]
      by_cases isFirst : first.name = key.name
      · rw [find?_cons_of_eq isFirst, find?_congr isFirst.symm rest,
          find?_eq_none_iff.mpr isNew, ← find?_congr isFirst, find?_put_self,
          find?_congr isFirst]
      · rw [find?_cons_of_ne isFirst, find?_put_of_ne isFirst]

/-- Merged entries keep the keys below, and behind them those that are new. -/
theorem keys_merge
    {upper : Entries}
    (distinct : upper.names.Nodup)
    (lower : Entries) :
    (lower.merge upper).keys =
      lower.keys ++ upper.keys.filter (·.name ∉ lower.names) := by
  unfold merge
  induction upper generalizing lower with
  | nil =>
      simp [mergeOver]
  | cons entry rest inductionHypothesis =>
      obtain ⟨first, value⟩ := entry
      rw [names_cons] at distinct
      obtain ⟨isNew, restDistinct⟩ := List.nodup_cons.mp distinct
      rw [mergeOver, inductionHypothesis restDistinct, keys_cons,
        List.filter_cons]
      by_cases isBelow : first.name ∈ lower.names
      · rw [names_eq_map_keys (lower.put _ _), keys_put_of_mem isBelow,
          ← names_eq_map_keys, if_neg (by simpa using isBelow)]
      · rw [put_of_not_mem isBelow, if_pos (by simpa using isBelow)]
        have sameFilter :
            (keys rest).filter
                (·.name ∉ names (lower ++ [(first, value.over (lower.find? first))])) =
              (keys rest).filter (·.name ∉ lower.names) := by
          refine List.filter_congr ?_
          intro key member
          have different : key.name ≠ first.name := by
            intro same
            refine isNew ?_
            rw [← same, names_eq_map_keys]
            exact List.mem_map_of_mem member
          rw [decide_eq_decide]
          simp [names, different]
        rw [sameFilter]
        simp [keys]

/-- The names of merged entries are distinct. -/
theorem nodup_names_merge
    {lower : Entries}
    (distinct : lower.names.Nodup)
    (upper : Entries) :
    (lower.merge upper).names.Nodup := by
  unfold merge
  induction upper generalizing lower with
  | nil =>
      exact distinct
  | cons entry rest inductionHypothesis =>
      exact inductionHypothesis (nodup_names_put distinct entry.1 _)

/-- A name is among those of merged entries if it is on either side. -/
theorem mem_names_merge
    {upper : Entries}
    (distinct : upper.names.Nodup)
    (lower : Entries)
    (name : Scalar.Name) :
    name ∈ (lower.merge upper).names ↔
      name ∈ lower.names ∨ name ∈ upper.names := by
  rw [names_eq_map_keys, keys_merge distinct, List.map_append, List.mem_append,
    ← names_eq_map_keys]
  constructor
  · rintro (isBelow | isAbove)
    · exact .inl isBelow
    · obtain ⟨key, member, rfl⟩ := List.mem_map.mp isAbove
      rw [names_eq_map_keys upper]
      exact .inr (List.mem_map_of_mem (List.mem_of_mem_filter member))
  · rintro (isBelow | isAbove)
    · exact .inl isBelow
    · by_cases isBelow : name ∈ lower.names
      · exact .inl isBelow
      · rw [names_eq_map_keys upper] at isAbove
        obtain ⟨key, member, rfl⟩ := List.mem_map.mp isAbove
        exact
          .inr
            (List.mem_map_of_mem
              (List.mem_filter.mpr ⟨member, by simpa using isBelow⟩))

/-- The keys of three mappings come in one order, whichever are merged first. -/
theorem keys_merge_assoc
    (lower : Entries)
    {middle upper : Entries}
    (middleDistinct : middle.names.Nodup)
    (upperDistinct : upper.names.Nodup) :
    ((lower.merge middle).merge upper).keys =
      (lower.merge (middle.merge upper)).keys := by
  rw [keys_merge upperDistinct, keys_merge middleDistinct,
    keys_merge (nodup_names_merge middleDistinct upper),
    keys_merge upperDistinct, List.filter_append, List.append_assoc,
    List.filter_filter]
  refine congrArg _ (congrArg _ (List.filter_congr ?_))
  intro key _
  simp [mem_names_merge middleDistinct, not_or]

/-- To put a list into merged entries is to merge entries with the list. -/
theorem put_merge
    {lower upper : Entries}
    (lowerDistinct : lower.names.Nodup)
    (upperDistinct : upper.names.Nodup)
    (key : Scalar)
    (items : List Document) :
    (lower.merge upper).put key (.list items) =
      lower.merge (upper.put key (.list items)) := by
  have putDistinct := nodup_names_put upperDistinct key (.list items)
  refine ext_find? ?_ ?_ ?_
  · exact nodup_names_put (nodup_names_merge lowerDistinct upper) key _
  · rw [keys_merge putDistinct]
    by_cases isAbove : key.name ∈ upper.names
    · rw [keys_put_of_mem ((mem_names_merge upperDistinct lower _).mpr (.inr isAbove)),
        keys_put_of_mem isAbove, keys_merge upperDistinct]
    · rw [put_of_not_mem isAbove]
      by_cases isBelow : key.name ∈ lower.names
      · rw [keys_put_of_mem ((mem_names_merge upperDistinct lower _).mpr (.inl isBelow)),
          keys_merge upperDistinct]
        simp [keys, isBelow]
      · have isNew : key.name ∉ (lower.merge upper).names := by
          rw [mem_names_merge upperDistinct, not_or]
          exact ⟨isBelow, isAbove⟩
        rw [put_of_not_mem isNew]
        have sameKeys := keys_merge upperDistinct lower
        simp only [keys] at sameKeys
        simp [keys, sameKeys, isBelow]
  · intro other _
    rw [find?_merge putDistinct]
    by_cases same : key.name = other.name
    · rw [← find?_congr same, find?_put_self, ← find?_congr same, find?_put_self]
      rfl
    · rw [find?_put_of_ne same, find?_put_of_ne same, find?_merge upperDistinct]

end Entries

namespace Document

open Entries

/-! ## Values at places -/

@[simp]
theorem at?_nil (document : Document) : document.at? [] = some document := by
  cases document <;> rfl

theorem at?_map (entries : Entries) (key : Scalar) (rest : List Scalar) :
    (Document.map entries).at? (key :: rest) =
      (entries.find? key).bind (at? rest) := rfl

/-- There is nothing behind a key in anything else. -/
theorem at?_leaf
    {document : Document}
    (isLeaf : document.entries? = none)
    (key : Scalar)
    (rest : List Scalar) :
    document.at? (key :: rest) = none := by
  cases document with
  | map entries => cases isLeaf
  | _ => rfl

/-- What stands in a distinct document is distinct. -/
theorem Distinct.at?
    {document : Document}
    (distinct : document.Distinct)
    {place : List Scalar}
    {value : Document}
    (isThere : document.at? place = some value) :
    value.Distinct := by
  induction place generalizing document with
  | nil =>
      rw [at?_nil, Option.some.injEq] at isThere
      rwa [← isThere]
  | cons key rest inductionHypothesis =>
      cases distinct with
      | leaf isLeaf =>
          rw [at?_leaf isLeaf] at isThere
          cases isThere
      | @map entries names values =>
          rw [at?_map] at isThere
          obtain ⟨found, isFound, isThere⟩ := Option.bind_eq_some_iff.mp isThere
          exact inductionHypothesis (values key found isFound) isThere

/-- The entries of a distinct mapping have distinct names. -/
theorem Distinct.names
    {entries : Entries}
    (distinct : (Document.map entries).Distinct) :
    entries.names.Nodup := by
  cases distinct with
  | leaf isLeaf => cases isLeaf
  | map names => exact names

/-- There is a mapping at a place. -/
def HasMap (document : Document) (place : List Scalar) : Prop :=
  ∃ entries, document.at? place = some (.map entries)

/-- There is something else than a mapping at a place. -/
def HasLeaf (document : Document) (place : List Scalar) : Prop :=
  ∃ value, document.at? place = some value ∧ value.entries? = none

/--
No place holds a mapping in `lower`, something else in `middle` and again a
mapping in `upper`.
-/
def AreSteady (lower : Option Document) (middle upper : Document) : Prop :=
  ∀ place,
    (∃ document, lower = some document ∧ document.HasMap place) →
    middle.HasLeaf place →
    ¬ upper.HasMap place

/-- A mapping stays distinct when a distinct value is put into it. -/
theorem Distinct.put
    {entries : Entries}
    (distinct : (Document.map entries).Distinct)
    (key : Scalar)
    {value : Document}
    (ofValue : value.Distinct) :
    (Document.map (entries.put key value)).Distinct := by
  cases distinct with
  | leaf isLeaf =>
      cases isLeaf
  | map names values =>
      refine .map (nodup_names_put names key value) ?_
      intro other found isFound
      by_cases same : key.name = other.name
      · rw [← find?_congr same, find?_put_self, Option.some.injEq] at isFound
        rw [← isFound]
        exact ofValue
      · rw [find?_put_of_ne same] at isFound
        exact values other found isFound

/-- Steady documents are steady under each key. -/
theorem AreSteady.under
    {lower middle upper : Entries}
    (steady : AreSteady (some (.map lower)) (.map middle) (.map upper))
    {key : Scalar}
    {inMiddle inUpper : Document}
    (isMiddle : middle.find? key = some inMiddle)
    (isUpper : upper.find? key = some inUpper) :
    AreSteady (lower.find? key) inMiddle inUpper := by
  rintro place ⟨inLower, isLower, entries, isMap⟩ ⟨value, isValue, isLeaf⟩
    ⟨others, isOther⟩
  refine steady (key :: place) ⟨_, rfl, entries, ?_⟩ ⟨value, ?_, isLeaf⟩ ⟨others, ?_⟩
  · rw [at?_map, isLower]
    exact isMap
  · rw [at?_map, isMiddle]
    exact isValue
  · rw [at?_map, isUpper]
    exact isOther

/-! ## Associativity -/

/-- What is laid over distinct entries has distinct entries. -/
theorem Distinct.over
    {upper : Document}
    (upperDistinct : upper.Distinct)
    {lower : Option Document}
    (lowerDistinct : ∀ document, lower = some document → document.Distinct) :
    (upper.over lower).Distinct := by
  induction upperDistinct generalizing lower with
  | leaf isLeaf =>
      rw [over_leaf isLeaf]
      exact .leaf isLeaf
  | @map upper distinct values inductionHypothesis =>
      by_cases isMap : ∃ entries, lower = some (.map entries)
      · obtain ⟨entries, rfl⟩ := isMap
        rw [map_over_map]
        cases lowerDistinct _ rfl with
        | leaf isLeaf => cases isLeaf
        | map entriesDistinct lowerValues =>
            refine .map (nodup_names_merge entriesDistinct upper) ?_
            intro key value isFound
            rw [find?_merge distinct] at isFound
            split at isFound
            · next found isUpper =>
                obtain rfl := Option.some.inj isFound
                exact inductionHypothesis key found isUpper (lowerValues key)
            · exact lowerValues key value isFound
      · rw [over_other (not_exists.mp isMap)]
        exact .map distinct values

/--
Three documents may be merged in either order unless the upper one has a mapping
where the middle one has replaced a mapping by something else.
-/
theorem over_assoc
    {upper : Document}
    (upperDistinct : upper.Distinct)
    {middle : Document}
    (middleDistinct : middle.Distinct)
    {lower : Option Document}
    (lowerDistinct : ∀ document, lower = some document → document.Distinct)
    (steady : AreSteady lower middle upper) :
    upper.over (some (middle.over lower)) =
      (upper.over (some middle)).over lower := by
  induction upperDistinct generalizing middle lower with
  | leaf isLeaf =>
      rw [over_leaf isLeaf, over_leaf isLeaf, over_leaf isLeaf]
  | @map upper distinct values inductionHypothesis =>
      cases middleDistinct with
      | leaf isLeaf =>
          have noMap : ∀ entries, some middle ≠ some (.map entries) := by
            rintro entries same
            cases same
            cases isLeaf
          have noMapBelow : ∀ entries, lower ≠ some (.map entries) := by
            rintro entries rfl
            -- Steadiness excludes something else between two mappings.
            exact
              steady [] ⟨_, rfl, entries, at?_nil _⟩ ⟨_, at?_nil _, isLeaf⟩
                ⟨upper, at?_nil _⟩
          rw [over_leaf isLeaf, over_other noMap, over_other noMapBelow]
      | @map middle middleNames middleValues =>
          by_cases isMap : ∃ entries, lower = some (.map entries)
          · obtain ⟨lower, rfl⟩ := isMap
            simp only [map_over_map, map.injEq]
            cases lowerDistinct _ rfl with
            | leaf isLeaf => cases isLeaf
            | map lowerNames lowerValues =>
            refine
              ext_find?
                (nodup_names_merge (nodup_names_merge lowerNames middle) upper)
                ?_ ?_
            · exact Entries.keys_merge_assoc lower middleNames distinct
            · intro key _
              rw [find?_merge distinct, find?_merge middleNames,
                find?_merge (nodup_names_merge middleNames upper),
                find?_merge distinct]
              cases isUpper : upper.find? key with
              | none =>
                  rfl
              | some inUpper =>
                  cases isMiddle : middle.find? key with
                  | none =>
                      have stays : inUpper.over none = inUpper :=
                        over_other (by simp) inUpper
                      simp only [stays]
                  | some inMiddle =>
                      exact
                        congrArg some
                          (inductionHypothesis key inUpper isUpper
                            (middleValues key inMiddle isMiddle)
                            (lowerValues key)
                            (steady.under isMiddle isUpper))
          · have noMap := not_exists.mp isMap
            rw [over_other noMap, map_over_map, over_other noMap]

/-! ## Where merged values come from -/

/-- What stands at a place stands there on one side, mapping or not. -/
theorem at?_over
    {upper : Document}
    (distinct : upper.Distinct)
    {lower : Option Document}
    {place : List Scalar}
    {value : Document}
    (isThere : (upper.over lower).at? place = some value) :
    (∃ found,
        upper.at? place = some found ∧
          found.entries?.isSome = value.entries?.isSome) ∨
      lower.bind (at? place) = some value := by
  induction place generalizing upper lower with
  | nil =>
      refine .inl ⟨upper, at?_nil upper, ?_⟩
      rw [at?_nil, Option.some.injEq] at isThere
      rw [← isThere]
      cases distinct with
      | leaf isLeaf =>
          rw [over_leaf isLeaf]
      | map =>
          unfold Document.over
          split <;> rfl
  | cons key rest inductionHypothesis =>
      cases distinct with
      | leaf isLeaf =>
          rw [over_leaf isLeaf, at?_leaf isLeaf] at isThere
          cases isThere
      | @map upper names values =>
          by_cases isMap : ∃ entries, lower = some (.map entries)
          · obtain ⟨lower, rfl⟩ := isMap
            rw [map_over_map, at?_map, find?_merge names] at isThere
            cases isUpper : upper.find? key with
            | none =>
                rw [isUpper] at isThere
                exact .inr isThere
            | some inUpper =>
                rw [isUpper] at isThere
                rw [at?_map, isUpper]
                exact inductionHypothesis (values key inUpper isUpper) isThere
          · rw [over_other (not_exists.mp isMap)] at isThere
            exact .inl ⟨value, isThere, rfl⟩

/-- What is no mapping stands at its place whatever it is laid over. -/
theorem at?_over_of_leaf
    {upper : Document}
    (distinct : upper.Distinct)
    (lower : Option Document)
    {place : List Scalar}
    {value : Document}
    (isThere : upper.at? place = some value)
    (isLeaf : value.entries? = none) :
    (upper.over lower).at? place = some value := by
  induction place generalizing upper lower with
  | nil =>
      rw [at?_nil, Option.some.injEq] at isThere
      subst isThere
      rw [over_leaf isLeaf, at?_nil]
  | cons key rest inductionHypothesis =>
      cases distinct with
      | leaf noMap =>
          rw [at?_leaf noMap] at isThere
          cases isThere
      | @map upper names values =>
          by_cases isMap : ∃ entries, lower = some (.map entries)
          · obtain ⟨lower, rfl⟩ := isMap
            rw [map_over_map, at?_map, find?_merge names]
            cases isUpper : upper.find? key with
            | none =>
                rw [at?_map, isUpper] at isThere
                cases isThere
            | some inUpper =>
                rw [at?_map, isUpper] at isThere
                exact
                  inductionHypothesis (values key inUpper isUpper)
                    (Entries.find? lower key) isThere
          · rw [over_other (not_exists.mp isMap)]
            exact isThere

/-- Whether something else than a mapping stands on the way to a place. -/
def blocks : List Scalar → Document → Bool
  | [], _ => false
  | key :: rest, .map entries =>
      match Entries.find? entries key with
      | some value => value.blocks rest
      | none => false
  | _ :: _, _ => true

/-- A document that has nothing at a place keeps what is below, or blocks it. -/
theorem at?_over_of_none
    {upper : Document}
    (distinct : upper.Distinct)
    (lower : Option Document)
    {place : List Scalar}
    (isMissing : upper.at? place = none) :
    (upper.over lower).at? place =
      if upper.blocks place then none else lower.bind (at? place) := by
  induction place generalizing upper lower with
  | nil =>
      rw [at?_nil] at isMissing
      cases isMissing
  | cons key rest inductionHypothesis =>
      cases distinct with
      | leaf noMap =>
          have isBlocked : upper.blocks (key :: rest) = true := by
            cases upper with
            | map entries => cases noMap
            | _ => rfl
          rw [over_leaf noMap, isMissing, if_pos isBlocked]
      | @map upper names values =>
          rw [at?_map] at isMissing
          by_cases isMap : ∃ entries, lower = some (.map entries)
          · obtain ⟨lower, rfl⟩ := isMap
            rw [map_over_map, at?_map, find?_merge names, blocks,
              Option.bind_some, at?_map]
            cases isUpper : upper.find? key with
            | none =>
                rfl
            | some inUpper =>
                rw [isUpper] at isMissing
                exact
                  inductionHypothesis (values key inUpper isUpper)
                    (Entries.find? lower key) isMissing
          · have nothingBelow : lower.bind (at? (key :: rest)) = none := by
              cases lower with
              | none =>
                  rfl
              | some document =>
                  refine at?_leaf (entries?_eq_none fun entries same => ?_) key rest
                  exact isMap ⟨entries, congrArg some same⟩
            rw [over_other (not_exists.mp isMap), at?_map, isMissing,
              nothingBelow, ite_self]

end Document

/-! ## Listings -/

/-- Documents laid over each other, the first one at the bottom. -/
def mergeAll (documents : List Entries) : Entries :=
  documents.foldl Entries.merge []

theorem mergeAll_concat (documents : List Entries) (last : Entries) :
    mergeAll (documents ++ [last]) = (mergeAll documents).merge last := by
  rw [mergeAll, List.foldl_append]
  rfl

/--
No place holds a mapping in one document of a listing, something else in a later
one and again a mapping in a still later one.
-/
def Steady (documents : List Entries) : Prop :=
  ∀ first middle last place,
    [first, middle, last].Sublist documents →
    (Document.map first).HasMap place →
    (Document.map middle).HasLeaf place →
    ¬ (Document.map last).HasMap place

/-- Entries with distinct names in all their mappings. -/
abbrev AreDistinct (documents : List Entries) : Prop :=
  ∀ document ∈ documents, (Document.map document).Distinct

/-- Parts of a steady listing are steady. -/
theorem Steady.sublist
    {documents others : List Entries}
    (steady : Steady documents)
    (isSublist : others.Sublist documents) :
    Steady others := by
  intro first middle last place inOthers
  exact steady first middle last place (inOthers.trans isSublist)

/-- A listing of fewer than three documents is steady. -/
theorem steady_of_length_le
    {documents : List Entries}
    (areFew : documents.length ≤ 2) :
    Steady documents := by
  intro first middle last place inDocuments
  have isLonger := inDocuments.length_le
  simp only [List.length_cons, List.length_nil] at isLonger
  omega

/-- Distinct documents give a distinct one. -/
theorem distinct_mergeAll
    {documents : List Entries}
    (distinct : AreDistinct documents) :
    (Document.map (mergeAll documents)).Distinct := by
  induction documents using List.reverseRecOn with
  | nil =>
      refine .map List.nodup_nil ?_
      rintro key value ⟨⟩
  | append_singleton rest last inductionHypothesis =>
      rw [mergeAll_concat, ← Document.map_over_map]
      refine (distinct last (by simp)).over ?_
      rintro document ⟨⟩
      exact
        inductionHypothesis fun document member =>
          distinct document (List.mem_append_left _ member)

/-- What stands at a place of merged documents stands there in one of them. -/
theorem exists_of_at?_mergeAll
    {documents : List Entries}
    (distinct : AreDistinct documents)
    {key : Scalar}
    {rest : List Scalar}
    {value : Document}
    (isThere :
      (Document.map (mergeAll documents)).at? (key :: rest) = some value) :
    ∃ document ∈ documents,
      ∃ found,
        (Document.map document).at? (key :: rest) = some found ∧
          found.entries?.isSome = value.entries?.isSome := by
  induction documents using List.reverseRecOn with
  | nil =>
      cases isThere
  | append_singleton others last inductionHypothesis =>
      rw [mergeAll_concat, ← Document.map_over_map] at isThere
      rcases Document.at?_over (distinct last (by simp)) isThere with
        ⟨found, isFound, same⟩ | isBelow
      · exact ⟨last, by simp, found, isFound, same⟩
      · obtain ⟨document, member, isFound⟩ :=
          inductionHypothesis
            (fun document member =>
              distinct document (List.mem_append_left _ member))
            isBelow
        exact ⟨document, List.mem_append_left _ member, isFound⟩

/-- A steady listing stays steady when parts of it are merged. -/
theorem areSteady_mergeAll
    {lower middle : List Entries}
    {last : Entries}
    (distinctLower : AreDistinct lower)
    (distinctMiddle : AreDistinct middle)
    (steady : Steady (lower ++ middle ++ [last])) :
    Document.AreSteady
      (some (.map (mergeAll lower))) (.map (mergeAll middle)) (.map last) := by
  rintro place ⟨_, ⟨⟩, entries, isMap⟩ ⟨value, isValue, isLeaf⟩ isMapAgain
  cases place with
  | nil =>
      rw [Document.at?_nil, Option.some.injEq] at isValue
      rw [← isValue] at isLeaf
      cases isLeaf
  | cons key rest =>
      -- Both merged values come from documents, and these stand in that order.
      obtain ⟨first, inLower, found, isFound, isMapToo⟩ :=
        exists_of_at?_mergeAll distinctLower isMap
      obtain ⟨second, inMiddle, other, isOther, isLeafToo⟩ :=
        exists_of_at?_mergeAll distinctMiddle isValue
      have inOrder :
          [first, second, last].Sublist (lower ++ middle ++ [last]) := by
        rw [List.append_assoc]
        exact
          (List.singleton_sublist.mpr inLower).append
            ((List.singleton_sublist.mpr inMiddle).append
              (List.Sublist.refl [last]))
      refine steady first second last (key :: rest) inOrder ?_ ?_ isMapAgain
      · cases found with
        | map entries => exact ⟨entries, isFound⟩
        | _ => cases isMapToo
      · refine ⟨other, isOther, ?_⟩
        rw [isLeaf] at isLeafToo
        exact Option.isNone_iff_eq_none.mp (by simpa using isLeafToo)

/-- A part of a steady listing may be merged before it is laid over the rest. -/
theorem mergeAll_append
    {lower upper : List Entries}
    (distinct : AreDistinct (lower ++ upper))
    (steady : Steady (lower ++ upper)) :
    mergeAll (lower ++ upper) = (mergeAll lower).merge (mergeAll upper) := by
  induction upper using List.reverseRecOn with
  | nil =>
      rw [List.append_nil]
      rfl
  | append_singleton middle last inductionHypothesis =>
      rw [← List.append_assoc] at distinct steady ⊢
      have distinctBefore : AreDistinct (lower ++ middle) :=
        fun document member => distinct document (List.mem_append_left _ member)
      have distinctLower : AreDistinct lower :=
        fun document member => distinctBefore document (List.mem_append_left _ member)
      have distinctMiddle : AreDistinct middle :=
        fun document member => distinctBefore document (List.mem_append_right _ member)
      have steadyBefore := steady.sublist (List.sublist_append_left _ [last])
      have inEitherOrder :=
        Document.over_assoc (distinct last (by simp))
          (distinct_mergeAll distinctMiddle)
          (by
            rintro document ⟨⟩
            exact distinct_mergeAll distinctLower)
          (areSteady_mergeAll distinctLower distinctMiddle steady)
      simp only [Document.map_over_map, Document.map.injEq] at inEitherOrder
      calc
        mergeAll (lower ++ middle ++ [last]) =
            ((mergeAll lower).merge (mergeAll middle)).merge last := by
          rw [mergeAll_concat, inductionHypothesis distinctBefore steadyBefore]
        _ = (mergeAll lower).merge (mergeAll (middle ++ [last])) := by
          rw [inEitherOrder, mergeAll_concat]

/--
A value that is no mapping is effective if it stands in the last document that
has any at its place, unless a later document blocks the place.
-/
theorem at?_mergeAll_of_last
    {before after : List Entries}
    {last : Entries}
    (distinct : AreDistinct (before ++ last :: after))
    {place : List Scalar}
    {value : Document}
    (isThere : (Document.map last).at? place = some value)
    (isLeaf : value.entries? = none)
    (isLast : ∀ document ∈ after, (Document.map document).at? place = none) :
    (Document.map (mergeAll (before ++ last :: after))).at? place =
      if after.any fun document => (Document.map document).blocks place then
        none
      else
        some value := by
  induction after using List.reverseRecOn with
  | nil =>
      rw [mergeAll_concat, ← Document.map_over_map]
      exact
        Document.at?_over_of_leaf (distinct last (by simp)) _ isThere isLeaf
  | append_singleton between final inductionHypothesis =>
      have asConcat :
          before ++ last :: (between ++ [final]) =
            (before ++ last :: between) ++ [final] := by
        simp
      rw [asConcat] at distinct ⊢
      rw [mergeAll_concat, ← Document.map_over_map,
        Document.at?_over_of_none (distinct final (by simp)) _
          (isLast final (by simp)),
        Option.bind_some,
        inductionHypothesis
          (fun document member =>
            distinct document (List.mem_append_left _ member))
          (fun document member =>
            isLast document (List.mem_append_left _ member))]
      by_cases isBlocked : (Document.map final).blocks place = true
      · simp [isBlocked]
      · simp [isBlocked]

/-- Where no document has a value at a place, none is effective. -/
theorem at?_mergeAll_of_none
    {documents : List Entries}
    (distinct : AreDistinct documents)
    {key : Scalar}
    {rest : List Scalar}
    (isMissing :
      ∀ document ∈ documents, (Document.map document).at? (key :: rest) = none) :
    (Document.map (mergeAll documents)).at? (key :: rest) = none := by
  cases isThere : (Document.map (mergeAll documents)).at? (key :: rest) with
  | none =>
      rfl
  | some value =>
      obtain ⟨document, member, found, isFound, _⟩ :=
        exists_of_at?_mergeAll distinct isThere
      rw [isMissing document member] at isFound
      cases isFound

end HouseStyle
