import HouseStyle.Proofs.Answer
import HouseStyle.Proofs.Document.Merging
import HouseStyle.Yaml.Reading

namespace HouseStyle.Yaml

/-!
# Readings with traced mappings

Every mapping that is read from a text has entries of distinct names, and its
origin tells for each of them where the mappings below it come from.
-/

namespace Reading

/-- Mappings all the way down whose origin is that of their entries. -/
inductive Traced : Reading → Prop
  | leaf {reading : Reading} :
      reading.document.entries? = none →
      Traced reading
  | entries {number : Nat} {found : List (Scalar × Reading)} :
      (∀ entry ∈ found, entry.2.Traced) →
      Traced (.ofEntries number found)

end Reading

/-! ## Entries of equal names -/

/-- The last of all pairs of a name stays. -/
theorem find?_ofPairs (pairs : List (Scalar × Document)) (key : Scalar) :
    (Entries.ofPairs pairs).find? key =
      (pairs.reverse.find? fun pair => pair.1.same key).map Prod.snd := by
  induction pairs using List.reverseRecOn with
  | nil =>
      rfl
  | append_singleton rest last inductionHypothesis =>
      rw [Entries.ofPairs, List.foldl_append, List.reverse_append,
        List.reverse_singleton, List.singleton_append, List.find?_cons]
      change (Entries.put (Entries.ofPairs rest) last.1 last.2).find? key = _
      by_cases same : last.1.name = key.name
      · rw [← Entries.find?_congr same, Entries.find?_put_self,
          (last.1.same_iff key).mpr same]
        rfl
      · have notSame : last.1.same key = false :=
          Bool.eq_false_iff.mpr fun isSame => same ((last.1.same_iff key).mp isSame)
        rw [Entries.find?_put_of_ne same, inductionHypothesis, notSame]

/-- The entries of pairs have distinct names. -/
theorem nodup_names_ofPairs (pairs : List (Scalar × Document)) :
    (Entries.ofPairs pairs).names.Nodup := by
  induction pairs using List.reverseRecOn with
  | nil =>
      exact List.nodup_nil
  | append_singleton rest last inductionHypothesis =>
      rw [Entries.ofPairs, List.foldl_append]
      exact Entries.nodup_names_put inductionHypothesis last.1 last.2

namespace Reading

/-- Under a key of what is read stands one of the readings that it was made of. -/
theorem exists_of_find?_ofEntries
    (number : Nat)
    {found : List (Scalar × Reading)}
    {entries : Entries}
    (isDocument : (ofEntries number found).document = .map entries)
    {key : Scalar}
    {value : Document}
    (isFound : entries.find? key = some value) :
    ∃ entry ∈ found,
      entry.2.document = value ∧
        (ofEntries number found).origin.at key = entry.2.origin := by
  obtain rfl := Document.map.inj isDocument
  rw [find?_ofPairs, ← List.map_reverse, List.find?_map] at isFound
  simp only [Option.map_map, Option.map_eq_some_iff, Function.comp_def] at isFound
  obtain ⟨entry, isLast, isValue⟩ := isFound
  refine
    ⟨entry, List.mem_reverse.mp (List.mem_of_find?_eq_some isLast), isValue, ?_⟩
  rw [ofEntries, Origin.at, ← List.map_reverse, List.find?_map]
  simp only [Function.comp_def, isLast, Option.map_some]

/-- What a traced mapping tells of itself. -/
theorem Traced.map
    {entries : Entries}
    {origin : Origin}
    (traced : Traced { document := .map entries, origin }) :
    (∃ number table, origin = .map number table) ∧
      entries.names.Nodup ∧
        ∀ key value,
          entries.find? key = some value →
          Traced { document := value, origin := origin.at key } := by
  generalize isReading : Reading.mk (.map entries) origin = reading at traced
  cases traced with
  | leaf isLeaf =>
      rw [← isReading] at isLeaf
      cases isLeaf
  | @entries number found areTraced =>
      obtain ⟨isDocument, isOrigin⟩ := Reading.mk.inj isReading
      refine ⟨⟨number, _, isOrigin⟩, ?_, ?_⟩
      · rw [Document.map.inj isDocument]
        exact nodup_names_ofPairs _
      · intro key value isFound
        obtain ⟨entry, member, rfl, atKey⟩ :=
          exists_of_find?_ofEntries number isDocument.symm isFound
        rw [isOrigin]
        rw [ofEntries] at atKey
        rw [atKey]
        exact areTraced entry member

/-- The document of a traced reading has distinct names in its mappings. -/
theorem Traced.distinct
    {reading : Reading}
    (traced : reading.Traced) :
    reading.document.Distinct := by
  induction traced with
  | leaf isLeaf =>
      exact .leaf isLeaf
  | @entries number found _ inductionHypothesis =>
      refine .map (nodup_names_ofPairs _) ?_
      intro key value isFound
      obtain ⟨entry, member, rfl, _⟩ :=
        exists_of_find?_ofEntries number rfl isFound
      exact inductionHypothesis entry member

end Reading

/-! ## What is read is traced -/

/-- Both parts of a value that was joined are there. -/
theorem exists_of_join_eq_ok
    {Left Right Value : Type}
    {combine : Left → Right → Value}
    {left : Built Left}
    {right : Built Right}
    {value : Value}
    (isJoined : Built.join combine left right = .ok value) :
    ∃ first second,
      left = .ok first ∧ right = .ok second ∧ combine first second = value := by
  cases left with
  | error fault =>
      cases right <;> cases isJoined
  | ok first =>
      cases right with
      | error fault => cases isJoined
      | ok second => exact ⟨first, second, rfl, rfl, Except.ok.inj isJoined⟩

/-- A text under a tag is read as a value without parts. -/
theorem traced_of_scalarUnder
    {depth : Nat}
    {tag : Tag}
    {text : String}
    {reading : Reading}
    (isRead : scalarUnder depth tag text = .ok reading) :
    reading.Traced := by
  unfold scalarUnder at isRead
  split at isRead
  · unfold misshapen Built.malformed at isRead
    cases isRead
  · split at isRead
    · cases isRead
      exact .leaf rfl
    · cases isRead

/-- Entries whose values are traced. -/
abbrev AreTraced (entries : List (Scalar × Reading)) : Prop :=
  ∀ entry ∈ entries, entry.2.Traced

/-- The same of two lists together. -/
theorem areTraced_append
    {left right : List (Scalar × Reading)}
    (areLeft : AreTraced left)
    (areRight : AreTraced right) :
    AreTraced (left ++ right) := by
  intro entry member
  rcases List.mem_append.mp member with inLeft | inRight
  · exact areLeft entry inLeft
  · exact areRight entry inRight

mutual

/-- What a node is read as is traced. -/
theorem Node.traced_of_read
    {depth : Nat}
    {reading : Reading} :
    (node : Node) →
    node.read depth = .ok reading →
    reading.Traced
  | .scalar text tag, isRead => by
      rw [Node.read] at isRead
      exact traced_of_scalarUnder isRead
  | .sequence items tag, isRead => by
      unfold Node.read at isRead
      split at isRead
      · obtain ⟨readings, _, rfl⟩ := exists_of_map_eq_ok isRead
        exact .leaf rfl
      · obtain ⟨readings, _, rfl⟩ := exists_of_map_eq_ok isRead
        exact .leaf rfl
      · unfold misshapen Built.malformed at isRead
        cases isRead
  | .mapping number entries tag, isRead => by
      unfold Node.read at isRead
      simp only at isRead
      have ofEntries
          {found : List (Scalar × Reading)}
          (areRead :
            (if mergesWithin entries then
                Built.join
                  (· ++ ·)
                  (readMerged (depth + 1) entries)
                  (readOwn (depth + 1) entries)
              else
                Built.malformed (depth + 1)) =
              .ok found) :
          AreTraced found := by
        split at areRead
        · obtain ⟨merged, own, areMerged, areOwn, rfl⟩ :=
            exists_of_join_eq_ok areRead
          exact
            areTraced_append
              (traced_of_readMerged entries areMerged)
              (traced_of_readOwn entries areOwn)
        · cases areRead
      split at isRead
      · obtain ⟨found, areRead, rfl⟩ := exists_of_map_eq_ok isRead
        exact .entries (ofEntries areRead)
      · obtain ⟨found, areRead, rfl⟩ := exists_of_map_eq_ok isRead
        exact .leaf rfl
      · split at isRead
        · unfold misshapen Built.malformed at isRead
          cases isRead
        · split at isRead
          · cases isRead
          · exact traced_of_scalarUnder isRead

/-- The entries that a mapping merges are traced. -/
theorem traced_of_readMerged
    {depth : Nat}
    {found : List (Scalar × Reading)} :
    (entries : List (Node × Node)) →
    readMerged depth entries = .ok found →
    AreTraced found
  | [], areRead => by
      rw [readMerged] at areRead
      cases areRead
      simp
  | (key, value) :: rest, areRead => by
      rw [readMerged] at areRead
      split at areRead
      · obtain ⟨first, others, areFirst, areOthers, rfl⟩ :=
          exists_of_join_eq_ok areRead
        exact
          areTraced_append
            (Node.traced_of_readUnder value areFirst)
            (traced_of_readMerged rest areOthers)
      · exact traced_of_readMerged rest areRead

/-- The entries of a mapping itself are traced. -/
theorem traced_of_readOwn
    {depth : Nat}
    {found : List (Scalar × Reading)} :
    (entries : List (Node × Node)) →
    readOwn depth entries = .ok found →
    AreTraced found
  | [], areRead => by
      rw [readOwn] at areRead
      cases areRead
      simp
  | (key, value) :: rest, areRead => by
      rw [readOwn] at areRead
      split at areRead
      · exact traced_of_readOwn rest areRead
      · obtain ⟨entry, others, isEntry, areOthers, rfl⟩ :=
          exists_of_join_eq_ok areRead
        obtain ⟨name, reading, _, isRead, rfl⟩ := exists_of_join_eq_ok isEntry
        exact
          List.forall_mem_cons.mpr
            ⟨Node.traced_of_read value isRead, traced_of_readOwn rest areOthers⟩

/-- The entries that a node lays under a mapping are traced. -/
theorem Node.traced_of_readUnder
    {depth : Nat}
    {found : List (Scalar × Reading)} :
    (node : Node) →
    node.readUnder depth = .ok found →
    AreTraced found
  | .mapping number entries tag, areRead => by
      rw [Node.readUnder] at areRead
      obtain ⟨merged, own, areMerged, areOwn, rfl⟩ := exists_of_join_eq_ok areRead
      exact
        areTraced_append
          (traced_of_readMerged entries areMerged)
          (traced_of_readOwn entries areOwn)
  | .sequence items tag, areRead => by
      rw [Node.readUnder] at areRead
      exact traced_of_readAllUnder items areRead
  | .scalar text tag, areRead => by
      rw [Node.readUnder] at areRead
      cases areRead

/-- The entries that some nodes lay under a mapping are traced. -/
theorem traced_of_readAllUnder
    {depth : Nat}
    {found : List (Scalar × Reading)} :
    (nodes : List Node) →
    readAllUnder depth nodes = .ok found →
    AreTraced found
  | [], areRead => by
      rw [readAllUnder] at areRead
      cases areRead
      simp
  | node :: rest, areRead => by
      rw [readAllUnder] at areRead
      obtain ⟨others, first, areOthers, areFirst, rfl⟩ :=
        exists_of_join_eq_ok areRead
      exact
        areTraced_append
          (traced_of_readAllUnder rest areOthers)
          (Node.traced_of_readUnder node areFirst)

end

/-- What a text is read as is traced. -/
theorem traced_of_read
    {text : String}
    {reading : Reading}
    (isRead : read text = .ok reading) :
    reading.Traced := by
  obtain ⟨node, _, isRead⟩ := exists_of_bind_eq_ok isRead
  split at isRead
  · cases isRead
    exact .leaf rfl
  · next _ node _ =>
      cases isBuilt : node.read 0 with
      | ok built =>
          rw [isBuilt] at isRead
          cases isRead
          exact Node.traced_of_read node isBuilt
      | error fault =>
          rw [isBuilt] at isRead
          cases isRead

end HouseStyle.Yaml
