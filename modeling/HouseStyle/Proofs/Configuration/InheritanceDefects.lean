import HouseStyle.Proofs.Configuration.Circle
import HouseStyle.Proofs.Configuration.ReadingDefects
import HouseStyle.Proofs.Rule.Answering

namespace HouseStyle

/-!
# What stops the reading of a configuration

A sheet is read with all that it extends, and a configuration is read from what
they come to. Where that is neither done nor refused, one of the sheets explains
it, or an integer in what they come to that is too long to be written out.
-/

/-! ## Inheritance -/

namespace Sheet

open Relation (ReflTransGen)

variable {surroundings : Surroundings}

/-- Some sheet that is read with another one explains the defect. -/
def ExplainsBelow
    (surroundings : Surroundings)
    (root : Sheet)
    (defect : Defect) :
    Prop :=
  ∃ sheet,
    ReflTransGen (Extends surroundings) root sheet ∧
      sheet.Explains surroundings defect

/-- What a sheet extends is listed, or the sheet is refused. -/
theorem failsOnly_referencesOf
    {explained : Defect → Prop}
    (entries : Entries) :
    FailsOnly (RefusedOr explained) (referencesOf entries) := by
  unfold referencesOf
  split
  · exact .ok _
  · exact .ok _
  · exact .ok _
  · exact failsOnly_refused _

/-- References are merged as far as each of them is read. -/
theorem failsOnly_mergeReferences
    {explained : Defect → Prop}
    {load : Loader}
    {base : Path}
    {references : List Document}
    (eachReference :
      ∀ reference ∈ references,
        FailsOnly (RefusedOr explained)
          (referenced surroundings base reference))
    (eachParent :
      ∀ reference ∈ references,
      ∀ parent opened,
        referenced surroundings base reference = .ok parent →
        FailsOnly (RefusedOr explained) (load opened parent))
    (merged : Entries)
    (opened : List String) :
    FailsOnly (RefusedOr explained)
      (mergeReferences surroundings load base merged opened references) := by
  induction references generalizing merged opened with
  | nil =>
      exact .ok _
  | cons reference rest inductionHypothesis =>
      have member : reference ∈ reference :: rest := List.mem_cons_self ..
      refine (eachReference reference member).bind fun parent isParent => ?_
      refine
        (eachParent reference member parent opened isParent).bind fun answer _ => ?_
      exact
        inductionHypothesis
          (fun other inRest => eachReference other (List.mem_cons_of_mem _ inRest))
          (fun other inRest => eachParent other (List.mem_cons_of_mem _ inRest))
          _ _

/-- A sheet is read with all that it extends, or one of them explains the defect. -/
theorem failsOnly_inherit
    (depth : Nat)
    (opened : List String)
    (sheet : Sheet) :
    FailsOnly (RefusedOr (sheet.ExplainsBelow surroundings))
      (inherit surroundings depth opened sheet) := by
  -- A chain that is too long is refused like a circle, so the depth explains nothing.
  induction depth generalizing opened sheet with
  | zero =>
      exact failsOnly_refused _
  | succ depth inductionHypothesis =>
      have ofSheet :
          ∀ defect,
            sheet.Explains surroundings defect →
            sheet.ExplainsBelow surroundings defect :=
        fun defect explains => ⟨sheet, .refl, explains⟩
      rw [inherit]
      unfold inheritWith
      split
      · exact failsOnly_refused _
      · refine FailsOnly.bind ?_ fun own isAnchored => ?_
        · exact sheet.failsOnly_anchored.explained ofSheet
        refine (failsOnly_referencesOf own).bind fun references areReferences => ?_
        refine FailsOnly.bind ?_ fun _ _ => .ok _
        refine failsOnly_mergeReferences ?_ ?_ _ _
        · intro reference member
          rw [referencesOf_of_anchored isAnchored] at areReferences
          refine (failsOnly_referenced surroundings _ reference).explained ?_
          exact fun defect explains =>
            ofSheet defect (.reference areReferences member explains)
        · intro reference member parent opened isParent
          refine (inductionHypothesis opened parent).explained ?_
          rintro defect ⟨below, extended, explains⟩
          have isExtended : sheet.Extends surroundings parent :=
            ⟨own, references, reference, isAnchored, areReferences, member, isParent⟩
          exact ⟨below, .head isExtended extended, explains⟩

end Sheet

/-! ## Configurations -/

/-- A key of a mapping and its value can be written out if the mapping can. -/
theorem isTooLong_of_mem_entries
    {entries : Entries}
    {key : Scalar}
    {value : Document}
    (member : (key, value) ∈ entries)
    (isLong : (key.isTooLong || value.isTooLong) = true) :
    (Document.map entries).isTooLong = true := by
  rw [Document.isTooLong]
  induction entries with
  | nil =>
      cases member
  | cons entry rest inductionHypothesis =>
      obtain ⟨first, found⟩ := entry
      rw [anyEntryTooLong]
      rcases List.mem_cons.mp member with isFirst | inRest
      · cases isFirst
        rw [isLong]
        rfl
      · rw [inductionHypothesis inRest, Bool.or_true]

theorem isTooLong_of_get?
    {entries : Entries}
    {key : String}
    {value : Document}
    (isThere : entries.get? key = some value)
    (isLong : value.isTooLong = true) :
    (Document.map entries).isTooLong = true := by
  obtain ⟨present, _, isEntry⟩ := Entries.exists_mem_of_find? isThere
  exact isTooLong_of_mem_entries isEntry (by rw [isLong, Bool.or_true])

/-- Whether a value that is too long to be written out would be an explanation. -/
abbrev LongExplains
    (explained : Defect → Prop)
    (value : Option Document) :
    Prop :=
  ∀ document,
    value = some document →
    document.isTooLong = true →
    explained .longInteger

section Entries

variable {explained : Defect → Prop}

/-- A severity is read or refused, unless it is a long integer. -/
theorem failsOnly_readSeverity
    {value : Document}
    (isLong : value.isTooLong = true → explained .longInteger)
    (place : String) :
    FailsOnly (RefusedOr explained) (readSeverity value place) := by
  refine (failsOnly_textOf isLong).bind fun name _ => ?_
  split
  · exact .ok _
  · exact failsOnly_refused _

/-- Settings of rules are read or refused, unless a key is a long integer. -/
theorem failsOnly_readTableFrom
    (place : String)
    {entries : Entries}
    (isLong :
      (Document.map entries).isTooLong = true → explained .longInteger)
    (table : RuleTable) :
    FailsOnly (RefusedOr explained) (readTableFrom place table entries) := by
  induction entries generalizing table with
  | nil =>
      exact .ok table
  | cons entry rest inductionHypothesis =>
      obtain ⟨key, value⟩ := entry
      rw [Document.isTooLong, anyEntryTooLong, Bool.or_eq_true, Bool.or_eq_true]
        at isLong
      refine (failsOnly_textOf ?_).bind fun ruleId _ => ?_
      · exact fun isKey => isLong (.inl (.inl isKey))
      · refine FailsOnly.bind ?_ fun settings _ => ?_
        · unfold readSettings
          split
          · exact .ok _
          · exact .ok _
          · exact failsOnly_refused _
        · exact inductionHypothesis (fun isRest => isLong (.inr isRest)) _

/-- The same for a value that may not be there. -/
theorem failsOnly_readTable
    (place : String)
    {value : Option Document}
    (isLong : LongExplains explained value) :
    FailsOnly (RefusedOr explained) (readTable place value) := by
  unfold readTable
  split
  · exact .ok []
  · exact .ok []
  · exact failsOnly_readTableFrom place (isLong _ rfl) []
  · exact failsOnly_refused _

/-- Tables of languages are read or refused, unless a key is a long integer. -/
theorem failsOnly_readLanguagesFrom
    {entries : Entries}
    (isLong :
      (Document.map entries).isTooLong = true → explained .longInteger)
    (tables : List (String × RuleTable)) :
    FailsOnly (RefusedOr explained) (readLanguagesFrom tables entries) := by
  induction entries generalizing tables with
  | nil =>
      exact .ok tables
  | cons entry rest inductionHypothesis =>
      obtain ⟨key, value⟩ := entry
      rw [Document.isTooLong, anyEntryTooLong, Bool.or_eq_true, Bool.or_eq_true]
        at isLong
      refine (failsOnly_textOf ?_).bind fun language _ => ?_
      · exact fun isKey => isLong (.inl (.inl isKey))
      · refine (failsOnly_readTable _ ?_).bind fun table _ => ?_
        · rintro document ⟨rfl⟩ isValue
          exact isLong (.inl (.inr isValue))
        · exact inductionHypothesis (fun isRest => isLong (.inr isRest)) _

/-- The severity that fails a run is read or refused. -/
theorem failsOnly_readFailOn
    {value : Option Document}
    (isLong : LongExplains explained value) :
    FailsOnly (RefusedOr explained) (readFailOn value) := by
  unfold readFailOn
  split
  · exact .ok none
  · exact .ok none
  · exact (failsOnly_readSeverity (isLong _ rfl) _).map _

/-- The tables of languages are read or refused. -/
theorem failsOnly_readLanguages
    {value : Option Document}
    (isLong : LongExplains explained value) :
    FailsOnly (RefusedOr explained) (readLanguages value) := by
  unfold readLanguages
  split
  · exact .ok []
  · next tables areTables =>
      refine failsOnly_readLanguagesFrom ?_ []
      exact isLong _ (Option.filter_eq_some_iff.mp areTables).1
  · exact failsOnly_refused _

theorem failsOnly_texts
    {items : List Document}
    (isLong :
      (Document.list items).isTooLong = true → explained .longInteger) :
    FailsOnly (RefusedOr explained) (items.mapM textOf) := by
  refine .mapM fun item member => failsOnly_textOf fun isTooLong => ?_
  exact isLong (VerbNamedMethod.isTooLong_of_mem member isTooLong)

/-- The patterns of paths to leave out are a list or a text, or they are refused. -/
theorem failsOnly_readExclude
    {value : Option Document}
    (isLong : LongExplains explained value) :
    FailsOnly (RefusedOr explained) (readExclude value) ∧
      ∀ items,
        readExclude value = .ok items →
        FailsOnly (RefusedOr explained) (items.mapM textOf) := by
  unfold readExclude
  split
  · refine ⟨.ok [], ?_⟩
    rintro items ⟨⟩
    exact .ok []
  · refine ⟨.ok _, ?_⟩
    rintro items ⟨⟩
    exact failsOnly_texts fun isTooLong => by cases isTooLong
  · next items areItems =>
      refine ⟨.ok items, ?_⟩
      rintro items ⟨⟩
      exact failsOnly_texts (isLong _ (Option.filter_eq_some_iff.mp areItems).1)
  · refine ⟨failsOnly_refused _, ?_⟩
    rintro items ⟨⟩

/-- What a configuration extends is spelled, unless it holds a long integer. -/
theorem failsOnly_readReferences
    {value : Option Document}
    (isLong : LongExplains explained value) :
    FailsOnly (RefusedOr explained) ((readReferences value).mapM textOf) := by
  unfold readReferences
  split
  · exact failsOnly_texts (isLong _ rfl)
  · exact .ok []

/-- A configuration is read from its entries, unless one is a long integer. -/
theorem Configuration.failsOnly_ofEntries
    {entries : Entries}
    (isLong :
      (Document.map entries).isTooLong = true → explained .longInteger)
    (source : Option Path) :
    FailsOnly (RefusedOr explained) (ofEntries entries source) := by
  have ofValue (key : String) : LongExplains explained (entries.get? key) :=
    fun _ isThere isValue => isLong (isTooLong_of_get? isThere isValue)
  obtain ⟨ofExclude, ofPatterns⟩ := failsOnly_readExclude (ofValue "exclude")
  refine (failsOnly_readFailOn (ofValue "fail_on")).bind fun failOn _ => ?_
  refine ofExclude.bind fun exclude isExclude => ?_
  refine (failsOnly_readTable _ (ofValue "rules")).bind fun rules _ => ?_
  refine (failsOnly_readLanguages (ofValue "languages")).bind fun languages _ => ?_
  refine (failsOnly_textOf fun isTooLong => ?_).bind fun name _ => ?_
  · cases isThere : entries.get? "name" with
    | none =>
        rw [isThere] at isTooLong
        cases isTooLong
    | some value =>
        rw [isThere] at isTooLong
        exact ofValue "name" value isThere isTooLong
  refine (ofPatterns exclude isExclude).bind fun patterns _ => ?_
  exact (failsOnly_readReferences (ofValue "extends")).bind fun _ _ => .ok _

end Entries

/-- What explains why a configuration text is neither read nor refused. -/
inductive ReadingExplains
    (surroundings : Surroundings)
    (text : String)
    (base : Path) :
    Defect → Prop
  | text {defect : Defect} :
      TextExplains text defect →
      ReadingExplains surroundings text base defect
  | sheet {root : Sheet} {defect : Defect} :
      Sheet.ofText text base = .ok root →
      root.ExplainsBelow surroundings defect →
      ReadingExplains surroundings text base defect
  /-- What the text and all that it extends come to holds an integer too long. -/
  | longInteger {root : Sheet} {entries : Entries} :
      Sheet.ofText text base = .ok root →
      root.merged surroundings = .ok entries →
      (Document.map entries).isTooLong = true →
      ReadingExplains surroundings text base .longInteger

/-- A configuration text is read or refused, or the defect is explained. -/
theorem Configuration.failsOnly_ofText
    (surroundings : Surroundings)
    (text : String)
    (base : Path) :
    FailsOnly (RefusedOr (ReadingExplains surroundings text base))
      (ofText surroundings text base) := by
  refine FailsOnly.bind ?_ fun root isRoot => ?_
  · refine FailsOnly.map ?_ _
    refine (failsOnly_parseEntries _ text).explained ?_
    exact fun defect => .text
  refine FailsOnly.bind ?_ fun entries areMerged => ?_
  · refine FailsOnly.map ?_ _
    refine (Sheet.failsOnly_inherit _ [] root).explained ?_
    exact fun defect => .sheet isRoot
  · exact failsOnly_ofEntries (.longInteger isRoot areMerged) none

end HouseStyle
