import HouseStyle.Proofs.Configuration.Recursion
import HouseStyle.Proofs.Yaml.Traced

namespace HouseStyle

/-!
# Anchoring by the numbers of mappings

The paths of word lists are anchored in the parameters of every rule of a sheet, for
all languages and for each. That is told by the numbers of the mappings; only those
that name a relative path matter, and parameters without one stay as they are.
-/

open Yaml (Origin Reading)

variable {surroundings : Surroundings} {base : Path}

/-! ## Anchoring by the shape of a document -/

/-- Change the entries of a mapping, and nothing else. -/
def onMapping
    (change : Entries → Except ConfigFailure Entries) :
    Document →
    Except ConfigFailure Document
  | .map entries => (change entries).map .map
  | other => .ok other

/-- Change all values of a mapping. -/
def changeValues
    (change : Document → Except ConfigFailure Document) :
    Entries →
    Except ConfigFailure Entries
  | [] => .ok []
  | (key, value) :: rest => do
      let value ← change value
      let rest ← changeValues change rest
      pure ((key, value) :: rest)

/-- Anchor the word list in some parameters. -/
def anchoredParams (surroundings : Surroundings) (base : Path) :
    Document → Except ConfigFailure Document :=
  onMapping (anchorParams surroundings base)

/-- Anchor the word list in the settings of a rule. -/
def anchoredSettings (surroundings : Surroundings) (base : Path) :
    Document → Except ConfigFailure Document :=
  onMapping (changeValue "params" (anchoredParams surroundings base))

/-- Anchor the word lists in a table of rules. -/
def anchoredTable (surroundings : Surroundings) (base : Path) :
    Document → Except ConfigFailure Document :=
  onMapping (changeValues (anchoredSettings surroundings base))

/-- Anchor the word lists in the tables of languages. -/
def anchoredLanguages (surroundings : Surroundings) (base : Path) :
    Document → Except ConfigFailure Document :=
  onMapping (changeValues (anchoredTable surroundings base))

/-- The entries of a document with the path of each word list anchored once. -/
def Entries.anchoredOnce
    (surroundings : Surroundings)
    (base : Path)
    (entries : Entries) :
    Except ConfigFailure Entries := do
  let entries ← changeValue "rules" (anchoredTable surroundings base) entries
  changeValue "languages" (anchoredLanguages surroundings base) entries

/-! ## The mappings of a document -/

mutual

/-- The mappings in a document with their numbers, each as often as it stands there. -/
def Document.mappings (origin : Origin) : Document → List (Nat × Entries)
  | .map entries =>
      match origin with
      | .map number _ => (number, entries) :: mappingsOfEntries origin entries
      | _ => []
  | .list items =>
      match origin with
      | .list origins => mappingsOfItems origins items
      | _ => []
  | _ => []

/-- The mappings in the values of a mapping. -/
def mappingsOfEntries (origin : Origin) :
    List (Scalar × Document) → List (Nat × Entries)
  | [] => []
  | (key, value) :: rest =>
      value.mappings (origin.at key) ++ mappingsOfEntries origin rest

/-- The mappings in the items of a list. -/
def mappingsOfItems (origins : List Origin) :
    List Document → List (Nat × Entries)
  | [] => []
  | item :: rest =>
      item.mappings (origins.head?.getD .plain) ++
        mappingsOfItems (origins.drop 1) rest

end

/-- The numbers of the mappings in a document. -/
def Document.numbers (origin : Origin) (document : Document) : List Nat :=
  (document.mappings origin).map Prod.fst

/-- The numbers of the mappings in the values of a mapping. -/
def numbersOfEntries (origin : Origin) (entries : Entries) : List Nat :=
  (mappingsOfEntries origin entries).map Prod.fst

theorem Document.numbers_map
    (number : Nat)
    (table : List (Scalar × Origin))
    (entries : Entries) :
    (Document.map entries).numbers (.map number table) =
      number :: numbersOfEntries (.map number table) entries :=
  rfl

theorem numbersOfEntries_cons
    (origin : Origin)
    (key : Scalar)
    (value : Document)
    (rest : Entries) :
    numbersOfEntries origin ((key, value) :: rest) =
      value.numbers (origin.at key) ++ numbersOfEntries origin rest := by
  rw [numbersOfEntries, mappingsOfEntries, List.map_append]
  rfl

/-- A document that comes from nowhere has no mapping of a text. -/
theorem Document.mappings_plain (document : Document) :
    document.mappings .plain = [] := by
  cases document <;> rfl

/-- The mappings of a value are a part of those of its mapping. -/
theorem mappings_sublist_of_mem
    {origin : Origin}
    {entries : Entries}
    {key : Scalar}
    {value : Document}
    (member : (key, value) ∈ entries) :
    (value.mappings (origin.at key)).Sublist
      (mappingsOfEntries origin entries) := by
  induction entries with
  | nil =>
      cases member
  | cons entry rest inductionHypothesis =>
      obtain ⟨first, found⟩ := entry
      rw [mappingsOfEntries]
      rcases List.mem_cons.mp member with isFirst | inRest
      · cases isFirst
        exact List.sublist_append_left _ _
      · exact
          (inductionHypothesis inRest).trans (List.sublist_append_right _ _)

theorem numbers_subset_of_mem
    {origin : Origin}
    {entries : Entries}
    {key : Scalar}
    {value : Document}
    (member : (key, value) ∈ entries) :
    value.numbers (origin.at key) ⊆ numbersOfEntries origin entries :=
  ((mappings_sublist_of_mem member).map Prod.fst).subset

/-! ## Parameters that stay as they are -/

/-- Whether some parameters name a word list by a path that is not absolute. -/
def namesRelative (surroundings : Surroundings) (params : Entries) : Bool :=
  match params.get? "lexicon_file" with
  | some (.scalar (.text spelling)) =>
      spelling != "" &&
        match Sheet.expand surroundings spelling with
        | .ok path => !path.isAbsolute
        | .error _ => true
  | _ => false

/-- Parameters that name no relative path need no anchor. -/
theorem anchorParams_of_settled
    {params : Entries}
    (settled : namesRelative surroundings params = false) :
    anchorParams surroundings base params = .ok params := by
  unfold anchorParams
  split
  · next spelling isSpelled =>
      rw [namesRelative, isSpelled] at settled
      split
      · rfl
      · next notEmpty =>
          simp only [bne_iff_ne.mpr notEmpty, Bool.true_and] at settled
          cases isPath : Sheet.expand surroundings spelling with
          | error failure =>
              rw [isPath] at settled
              cases settled
          | ok path =>
              simp only [isPath, Bool.not_eq_false'] at settled
              rw [ok_bind, if_pos settled]
              rfl
  · rfl

/-- However often they are anchored. -/
theorem anchorRepeatedly_of_settled
    {params : Entries}
    (settled : namesRelative surroundings params = false)
    (times : Nat) :
    anchorRepeatedly surroundings base params times = .ok params := by
  induction times with
  | zero => rfl
  | succ times inductionHypothesis =>
      rw [anchorRepeatedly, anchorParams_of_settled settled, ok_bind,
        inductionHypothesis]

/-- What is no text stays none when it is anchored, and a text stays as it is. -/
theorem Document.scalar_iff_of_anchored
    {params : List Nat}
    {origin : Origin}
    {document changed : Document}
    (isAnchored :
      document.anchored surroundings base params origin = .ok changed)
    (scalar : Scalar) :
    changed = .scalar scalar ↔ document = .scalar scalar := by
  cases document with
  | map entries =>
      unfold Document.anchored at isAnchored
      split at isAnchored
      · obtain ⟨_, _, isAnchored⟩ := exists_of_bind_eq_ok isAnchored
        obtain ⟨_, _, isAnchored⟩ := exists_of_bind_eq_ok isAnchored
        cases isAnchored
        simp
      · cases isAnchored
        simp
  | list items =>
      unfold Document.anchored at isAnchored
      split at isAnchored
      · obtain ⟨_, _, isAnchored⟩ := exists_of_map_eq_ok isAnchored
        rw [← isAnchored]
        simp
      · cases isAnchored
        simp
  | _ =>
      cases isAnchored
      rfl

/-- To anchor the values of a mapping keeps those that are scalars. -/
theorem find?_scalar_of_anchoredEntries
    {params : List Nat}
    {origin : Origin}
    {entries changed : Entries}
    (isAnchored :
      anchoredEntries surroundings base params origin entries = .ok changed)
    (key : Scalar)
    (scalar : Scalar) :
    changed.find? key = some (.scalar scalar) ↔
      entries.find? key = some (.scalar scalar) := by
  induction entries generalizing changed with
  | nil =>
      cases isAnchored
      rfl
  | cons entry rest inductionHypothesis =>
      obtain ⟨first, value⟩ := entry
      obtain ⟨found, isFound, isAnchored⟩ := exists_of_bind_eq_ok isAnchored
      obtain ⟨others, areOthers, isAnchored⟩ := exists_of_bind_eq_ok isAnchored
      cases isAnchored
      by_cases same : first.name = key.name
      · rw [Entries.find?_cons_of_eq same, Entries.find?_cons_of_eq same,
          Option.some.injEq, Option.some.injEq]
        exact Document.scalar_iff_of_anchored isFound scalar
      · rw [Entries.find?_cons_of_ne same, Entries.find?_cons_of_ne same]
        exact inductionHypothesis areOthers

/-- To anchor the values of parameters does not change the word list they name. -/
theorem namesRelative_of_anchoredEntries
    {params : List Nat}
    {origin : Origin}
    {entries changed : Entries}
    (isAnchored :
      anchoredEntries surroundings base params origin entries = .ok changed) :
    namesRelative surroundings changed = namesRelative surroundings entries := by
  have sameTexts :
      ∀ scalar,
        changed.get? "lexicon_file" = some (.scalar scalar) ↔
          entries.get? "lexicon_file" = some (.scalar scalar) :=
    find?_scalar_of_anchoredEntries isAnchored (.text "lexicon_file")
  unfold namesRelative
  split
  · next spelling isSpelled =>
      rw [(sameTexts (.text spelling)).mp isSpelled]
  · next notSpelled =>
      split
      · next spelling isSpelled =>
          exact (notSpelled spelling ((sameTexts (.text spelling)).mpr isSpelled)).elim
      · rfl

mutual

/-- Only how often mappings with a relative path are counted matters. -/
theorem Document.anchored_congr
    {params others : List Nat}
    {origin : Origin} :
    (document : Document) →
    (∀ mapping ∈ document.mappings origin,
      namesRelative surroundings mapping.2 = true →
      params.count mapping.1 = others.count mapping.1) →
    document.anchored surroundings base params origin =
      document.anchored surroundings base others origin
  | .map entries, agree => by
      unfold Document.anchored
      cases origin with
      | map number table =>
          have ofEntries :
              anchoredEntries surroundings base params (.map number table)
                  entries =
                anchoredEntries surroundings base others (.map number table)
                  entries :=
            anchoredEntries_congr entries
              fun other member => agree other (List.mem_cons_of_mem _ member)
          simp only [ofEntries]
          refine bind_congr_of_ok fun changed isAnchored => ?_
          cases isRelative : namesRelative surroundings entries with
          | true =>
              rw [agree (number, entries) (List.mem_cons_self ..) isRelative]
          | false =>
              have settled := namesRelative_of_anchoredEntries isAnchored
              rw [isRelative] at settled
              rw [anchorRepeatedly_of_settled settled,
                anchorRepeatedly_of_settled settled]
      | _ => rfl
  | .list items, agree => by
      unfold Document.anchored
      cases origin with
      | list origins => simp only [anchoredItems_congr items agree]
      | _ => rfl
  | .scalar _, _ => rfl
  | .pair _ _, _ => rfl
  | .set _, _ => rfl

/-- The same for the values of a mapping. -/
theorem anchoredEntries_congr
    {params others : List Nat}
    {origin : Origin} :
    (entries : List (Scalar × Document)) →
    (∀ mapping ∈ mappingsOfEntries origin entries,
      namesRelative surroundings mapping.2 = true →
      params.count mapping.1 = others.count mapping.1) →
    anchoredEntries surroundings base params origin entries =
      anchoredEntries surroundings base others origin entries
  | [], _ => rfl
  | (key, value) :: rest, agree => by
      rw [mappingsOfEntries] at agree
      have ofValue :=
        Document.anchored_congr value
          fun mapping member => agree mapping (List.mem_append_left _ member)
      have ofRest :=
        anchoredEntries_congr rest
          fun mapping member => agree mapping (List.mem_append_right _ member)
      rw [anchoredEntries, anchoredEntries, ofValue, ofRest]

/-- The same for the items of a list. -/
theorem anchoredItems_congr
    {params others : List Nat}
    {origins : List Origin} :
    (items : List Document) →
    (∀ mapping ∈ mappingsOfItems origins items,
      namesRelative surroundings mapping.2 = true →
      params.count mapping.1 = others.count mapping.1) →
    anchoredItems surroundings base params origins items =
      anchoredItems surroundings base others origins items
  | [], _ => rfl
  | item :: rest, agree => by
      rw [mappingsOfItems] at agree
      have ofItem :=
        Document.anchored_congr item
          fun mapping member => agree mapping (List.mem_append_left _ member)
      have ofRest :=
        anchoredItems_congr rest
          fun mapping member => agree mapping (List.mem_append_right _ member)
      rw [anchoredItems, anchoredItems, ofItem, ofRest]

end

mutual

/-- Where no mapping is counted, nothing is anchored. -/
theorem Document.anchored_nil
    {origin : Origin} :
    (document : Document) →
    document.anchored surroundings base [] origin = .ok document
  | .map entries => by
      unfold Document.anchored
      cases origin with
      | map number table =>
          simp only [anchoredEntries_nil entries, ok_bind, List.count_nil,
            anchorRepeatedly]
          rfl
      | _ => rfl
  | .list items => by
      unfold Document.anchored
      cases origin with
      | list origins =>
          simp only [anchoredItems_nil items]
          rfl
      | _ => rfl
  | .scalar _ => rfl
  | .pair _ _ => rfl
  | .set _ => rfl

theorem anchoredEntries_nil
    {origin : Origin} :
    (entries : List (Scalar × Document)) →
    anchoredEntries surroundings base [] origin entries = .ok entries
  | [] => rfl
  | (key, value) :: rest => by
      rw [anchoredEntries, Document.anchored_nil value, ok_bind,
        anchoredEntries_nil rest, ok_bind]
      rfl

theorem anchoredItems_nil
    {origins : List Origin} :
    (items : List Document) →
    anchoredItems surroundings base [] origins items = .ok items
  | [] => rfl
  | item :: rest => by
      rw [anchoredItems, Document.anchored_nil item, ok_bind,
        anchoredItems_nil rest, ok_bind]
      rfl

end

/-- Where no mapping with a relative path is counted, nothing is anchored. -/
theorem Document.anchored_of_absent
    {params : List Nat}
    {origin : Origin}
    (document : Document)
    (absent :
      ∀ mapping ∈ document.mappings origin,
        namesRelative surroundings mapping.2 = true →
        mapping.1 ∉ params) :
    document.anchored surroundings base params origin = .ok document := by
  refine
    (Document.anchored_congr document fun mapping member isRelative => ?_).trans
      (Document.anchored_nil document)
  rw [List.count_nil]
  exact List.count_eq_zero.mpr (absent mapping member isRelative)

/-- The same for the values of a mapping. -/
theorem anchoredEntries_of_absent
    {params : List Nat}
    {origin : Origin}
    (entries : Entries)
    (absent :
      ∀ mapping ∈ mappingsOfEntries origin entries,
        namesRelative surroundings mapping.2 = true →
        mapping.1 ∉ params) :
    anchoredEntries surroundings base params origin entries = .ok entries := by
  refine
    (anchoredEntries_congr entries fun mapping member isRelative => ?_).trans
      (anchoredEntries_nil entries)
  rw [List.count_nil]
  exact List.count_eq_zero.mpr (absent mapping member isRelative)

/-! ## Parameters that stand in one place -/

/--
Mappings none of which names a relative path, is among the parameters and stands
in two places.
-/
def StandApart
    (surroundings : Surroundings)
    (mappings : List (Nat × Entries))
    (params : List Nat) :
    Prop :=
  ∀ mapping ∈ mappings,
    mapping.1 ∈ params →
    namesRelative surroundings mapping.2 = true →
    (mappings.map Prod.fst).count mapping.1 ≤ 1

instance
    (surroundings : Surroundings)
    (mappings : List (Nat × Entries))
    (params : List Nat) :
    Decidable (StandApart surroundings mappings params) :=
  inferInstanceAs
    (Decidable
      (∀ mapping ∈ mappings,
        mapping.1 ∈ params →
        namesRelative surroundings mapping.2 = true →
        (mappings.map Prod.fst).count mapping.1 ≤ 1))

/-- A part of some mappings that stand apart stands apart. -/
theorem StandApart.part
    {mappings others : List (Nat × Entries)}
    {params fewer : List Nat}
    (apart : StandApart surroundings mappings params)
    (isPart : others.Sublist mappings)
    (areParams : fewer ⊆ params) :
    StandApart surroundings others fewer := by
  intro mapping member isParams isRelative
  exact
    ((isPart.map Prod.fst).count_le mapping.1).trans
      (apart mapping (isPart.subset member) (areParams isParams) isRelative)

end HouseStyle
