import HouseStyle.Proofs.Document.Merging

namespace HouseStyle

/-!
# The last value at a place

Documents that are merged in a row hold, at every place, what the last of them
says that says anything about it, as far as none of them has something else than a
mapping on the way there. That takes in the values that are mappings: they are
merged, and stay mappings.
-/

/-- The value at a place in the last documents that have one there. -/
def lastAt?
    (place : List Scalar)
    (documents : List Entries) :
    Option Document :=
  documents.reverse.findSome? fun entries => (Document.map entries).at? place

/-- The last value at a place stands in a document behind which there is none. -/
theorem exists_of_lastAt?
    {place : List Scalar}
    {documents : List Entries}
    {value : Document}
    (isLast : lastAt? place documents = some value) :
    ∃ before last after,
      documents = before ++ last :: after ∧
        (Document.map last).at? place = some value ∧
        ∀ document ∈ after, (Document.map document).at? place = none := by
  obtain ⟨after, last, before, isSplit, isThere, noneBehind⟩ :=
    List.findSome?_eq_some_iff.mp isLast
  refine ⟨before.reverse, last, after.reverse, ?_, isThere, ?_⟩
  · rw [← List.reverse_reverse documents, isSplit]
    simp
  · simpa using noneBehind

theorem forall_of_lastAt?_eq_none
    {place : List Scalar}
    {documents : List Entries}
    (isMissing : lastAt? place documents = none) :
    ∀ document ∈ documents, (Document.map document).at? place = none := by
  simpa [lastAt?] using isMissing

/-- Merged documents have the last value that is no mapping, if none hides it. -/
theorem at?_mergeAll_eq_lastAt?
    {documents : List Entries}
    (distinct : AreDistinct documents)
    {key : Scalar}
    {rest : List Scalar}
    (noneBlocks :
      ∀ document ∈ documents,
        (Document.map document).blocks (key :: rest) = false)
    (isLeaf :
      ∀ value,
        lastAt? (key :: rest) documents = some value →
        value.entries? = none) :
    (Document.map (mergeAll documents)).at? (key :: rest) =
      lastAt? (key :: rest) documents := by
  cases isLast : lastAt? (key :: rest) documents with
  | none =>
      exact at?_mergeAll_of_none distinct (forall_of_lastAt?_eq_none isLast)
  | some value =>
      obtain ⟨before, last, after, rfl, isThere, noneBehind⟩ :=
        exists_of_lastAt? isLast
      rw [at?_mergeAll_of_last distinct isThere (isLeaf value isLast) noneBehind,
        if_neg]
      rw [List.any_eq_true]
      rintro ⟨document, isBehind, blocks⟩
      rw [noneBlocks document (by simp [isBehind])] at blocks
      cases blocks

/-- A mapping that is laid over something is a mapping there too. -/
theorem Document.exists_map_at?_over
    {upper : Document}
    (distinct : upper.Distinct)
    (lower : Option Document)
    {place : List Scalar}
    {entries : Entries}
    (isThere : upper.at? place = some (.map entries)) :
    ∃ others, (upper.over lower).at? place = some (.map others) := by
  induction place generalizing upper lower with
  | nil =>
      rw [at?_nil, Option.some.injEq] at isThere
      subst isThere
      unfold Document.over
      split
      · exact ⟨_, rfl⟩
      · exact ⟨_, rfl⟩
  | cons key rest inductionHypothesis =>
      cases distinct with
      | leaf noMap =>
          rw [at?_leaf noMap] at isThere
          cases isThere
      | @map upper names values =>
          by_cases isMap : ∃ entries, lower = some (.map entries)
          · obtain ⟨lower, rfl⟩ := isMap
            rw [at?_map] at isThere
            cases isUpper : upper.find? key with
            | none =>
                rw [isUpper] at isThere
                cases isThere
            | some inUpper =>
                rw [isUpper] at isThere
                rw [map_over_map, at?_map, Entries.find?_merge names, isUpper]
                exact
                  inductionHypothesis (values key inUpper isUpper)
                    (Entries.find? lower key) isThere
          · rw [over_other (not_exists.mp isMap)]
            exact ⟨entries, isThere⟩

/-- Merged documents have a mapping where the last value is one that none hides. -/
theorem exists_map_at?_mergeAll
    {before after : List Entries}
    {last : Entries}
    (distinct : AreDistinct (before ++ last :: after))
    {place : List Scalar}
    {entries : Entries}
    (isThere : (Document.map last).at? place = some (.map entries))
    (noneBehind :
      ∀ document ∈ after,
        (Document.map document).at? place = none ∧
          (Document.map document).blocks place = false) :
    ∃ others,
      (Document.map (mergeAll (before ++ last :: after))).at? place =
        some (.map others) := by
  induction after using List.reverseRecOn with
  | nil =>
      rw [mergeAll_concat, ← Document.map_over_map]
      exact Document.exists_map_at?_over (distinct last (by simp)) _ isThere
  | append_singleton between final inductionHypothesis =>
      have asConcat :
          before ++ last :: (between ++ [final]) =
            (before ++ last :: between) ++ [final] := by
        simp
      rw [asConcat] at distinct ⊢
      obtain ⟨isMissing, noBlock⟩ := noneBehind final (by simp)
      rw [mergeAll_concat, ← Document.map_over_map,
        Document.at?_over_of_none (distinct final (by simp)) _ isMissing, noBlock]
      refine inductionHypothesis ?_ ?_
      · exact fun document member => distinct document (List.mem_append_left _ member)
      · exact fun document member => noneBehind document (List.mem_append_left _ member)

/-- A value that is no mapping stands at its place on one side of a merge. -/
theorem Document.leaf_at?_over
    {upper : Document}
    (distinct : upper.Distinct)
    {lower : Option Document}
    {place : List Scalar}
    {value : Document}
    (isLeaf : value.entries? = none)
    (isThere : (upper.over lower).at? place = some value) :
    upper.at? place = some value ∨ lower.bind (at? place) = some value := by
  refine (at?_over distinct isThere).imp_left ?_
  rintro ⟨found, isFound, sameShape⟩
  rw [isLeaf, Option.isSome_none] at sameShape
  have stays :=
    at?_over_of_leaf distinct lower isFound
      (Option.not_isSome_iff_eq_none.mp (by simp [sameShape]))
  rw [isThere, Option.some.injEq] at stays
  rw [stays]
  exact isFound

/-- A value that is no mapping stands at its place in one of merged documents. -/
theorem exists_leaf_of_at?_mergeAll
    {documents : List Entries}
    (distinct : AreDistinct documents)
    {key : Scalar}
    {rest : List Scalar}
    {value : Document}
    (isLeaf : value.entries? = none)
    (isThere :
      (Document.map (mergeAll documents)).at? (key :: rest) = some value) :
    ∃ document ∈ documents,
      (Document.map document).at? (key :: rest) = some value := by
  induction documents using List.reverseRecOn with
  | nil =>
      cases isThere
  | append_singleton others last inductionHypothesis =>
      rw [mergeAll_concat, ← Document.map_over_map] at isThere
      rcases Document.leaf_at?_over (distinct last (by simp)) isLeaf isThere with
        inLast | isBelow
      · exact ⟨last, by simp, inLast⟩
      · obtain ⟨document, member, isFound⟩ :=
          inductionHypothesis
            (fun document member =>
              distinct document (List.mem_append_left _ member))
            isBelow
        exact ⟨document, List.mem_append_left _ member, isFound⟩

/-- What stands behind a place stands at the end of a longer one. -/
theorem Document.at?_append
    (document : Document)
    (place rest : List Scalar) :
    document.at? (place ++ rest) = (document.at? place).bind (at? rest) := by
  induction place generalizing document with
  | nil =>
      rw [List.nil_append, at?_nil, Option.bind_some]
  | cons key others inductionHypothesis =>
      cases document with
      | map entries =>
          rw [List.cons_append, at?_map, at?_map, Option.bind_assoc]
          congr 1
          funext value
          exact inductionHypothesis value
      | _ => rfl

/-- What stands behind a key stands in a mapping. -/
theorem Document.exists_of_at?_singleton
    {document value : Document}
    {key : Scalar}
    (isThere : document.at? [key] = some value) :
    ∃ entries : Entries,
      document = .map entries ∧ entries.find? key = some value := by
  cases document with
  | map entries =>
      rw [at?_map] at isThere
      obtain ⟨found, isFound, isThere⟩ := Option.bind_eq_some_iff.mp isThere
      rw [at?_nil] at isThere
      exact ⟨entries, rfl, isFound.trans isThere⟩
  | _ => cases isThere

theorem Document.blocks_singleton
    (entries : Entries)
    (key : Scalar) :
    (Document.map entries).blocks [key] = false := by
  rw [blocks]
  split <;> rfl

/-- What stands behind one key is found under it. -/
theorem Entries.get?_of_at?
    {settings : Entries}
    {key : String}
    {value : Document}
    (isThere : (Document.map settings).at? [.text key] = some value) :
    settings.get? key = some value := by
  obtain ⟨entries, isMap, isFound⟩ := Document.exists_of_at?_singleton isThere
  cases isMap
  exact isFound

end HouseStyle
