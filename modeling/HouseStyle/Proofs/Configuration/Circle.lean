import HouseStyle.Proofs.Configuration.Recursion
import Mathlib.Logic.Relation

namespace HouseStyle

/-!
# Circles of configurations

A configuration that extends itself over any number of steps cannot be read, and
nothing else about what extends what is refused: several configurations may share
a parent, and one may be listed twice.
-/

namespace Sheet

open Relation (ReflTransGen TransGen)

variable {surroundings : Surroundings}

/-- A sheet whose word lists and references can all be looked up. -/
structure IsSound (surroundings : Surroundings) (sheet : Sheet) : Prop where
  exists_parents :
    ∃ own references,
      sheet.anchored surroundings = .ok own ∧
        referencesOf own = .ok references ∧
          ∀ reference ∈ references,
            ∃ parent,
              referenced surroundings sheet.base reference = .ok parent

/-- The visits that the reading of a sheet can lead to. -/
def Visits (surroundings : Surroundings) (root : Sheet) : Visit → Prop :=
  ReflTransGen (Visit.Leads surroundings) ⟨[], root⟩

/--
All sheets that a sheet extends over any number of steps, along chains of
different ones, are sound.
-/
def IsSoundBelow (surroundings : Surroundings) (root : Sheet) : Prop :=
  ∀ visit,
    Visits surroundings root visit →
    visit.sheet.key ∉ visit.opened →
    visit.sheet.IsSound surroundings

/-- A sheet extends, over any number of steps, one that extends itself. -/
def HasCircle (surroundings : Surroundings) (root : Sheet) : Prop :=
  ∃ sheet again,
    ReflTransGen (Extends surroundings) root sheet ∧
      TransGen (Extends surroundings) sheet again ∧
        again.key = sheet.key

/-! ## Checking soundness -/

/--
Whether all that a sheet extends over fewer than `depth` steps is sound, and no
chain of different sheets takes more.
-/
def isSoundWithin
    (surroundings : Surroundings) :
    Nat →
    List String →
    Sheet →
    Bool
  | 0, _, _ => false
  | depth + 1, opened, sheet =>
      opened.contains sheet.key ||
        match sheet.anchored surroundings >>= referencesOf with
        | .error _ => false
        | .ok references =>
            references.all fun reference =>
              match referenced surroundings sheet.base reference with
              | .error _ => false
              | .ok parent =>
                  isSoundWithin surroundings depth (sheet.key :: opened) parent

/-- What the check found of a sheet that is not being read already. -/
theorem exists_of_isSoundWithin
    {depth : Nat}
    {visit : Visit}
    (isChecked :
      isSoundWithin surroundings (depth + 1) visit.opened visit.sheet = true)
    (isNew : visit.sheet.key ∉ visit.opened) :
    ∃ own references,
      visit.sheet.anchored surroundings = .ok own ∧
        referencesOf own = .ok references ∧
          ∀ reference ∈ references,
            ∃ parent,
              referenced surroundings visit.sheet.base reference =
                  .ok parent ∧
                isSoundWithin surroundings depth
                  (visit.sheet.key :: visit.opened) parent = true := by
  rw [isSoundWithin, Bool.or_eq_true, List.contains_iff_mem] at isChecked
  have isChecked := isChecked.resolve_left isNew
  split at isChecked
  · cases isChecked
  · next references areReferences =>
      obtain ⟨own, isAnchored, areReferences⟩ :=
        exists_of_bind_eq_ok areReferences
      refine ⟨own, references, isAnchored, areReferences, ?_⟩
      intro reference member
      have ofReference := List.all_eq_true.mp isChecked reference member
      split at ofReference
      · cases ofReference
      · next parent isReferenced => exact ⟨parent, isReferenced, ofReference⟩

/-- What passes the check is sound. -/
theorem isSoundBelow_of_check
    {depth : Nat}
    {root : Sheet}
    (isChecked : isSoundWithin surroundings depth [] root = true) :
    root.IsSoundBelow surroundings := by
  have checkedBelow
      {visit : Visit}
      (isVisit : Visits surroundings root visit) :
      ∃ depth,
        isSoundWithin surroundings depth visit.opened visit.sheet = true := by
    induction isVisit with
    | refl =>
        exact ⟨depth, isChecked⟩
    | @tail outer inner _ leads inductionHypothesis =>
        obtain ⟨_ | depth, isChecked⟩ := inductionHypothesis
        · cases isChecked
        · obtain ⟨own, references, isAnchored, areReferences, areChecked⟩ :=
            exists_of_isSoundWithin isChecked leads.isNew
          obtain ⟨reference, member, isReferenced⟩ :=
            leads.extended.exists_reference isAnchored areReferences
          obtain ⟨parent, isParent, isChecked⟩ := areChecked reference member
          rw [isReferenced, Except.ok.injEq] at isParent
          subst isParent
          exact ⟨depth, by rw [leads.opened]; exact isChecked⟩
  intro visit isVisit isNew
  obtain ⟨_ | depth, isChecked⟩ := checkedBelow isVisit
  · cases isChecked
  · obtain ⟨own, references, isAnchored, areReferences, areChecked⟩ :=
      exists_of_isSoundWithin isChecked isNew
    refine ⟨own, references, isAnchored, areReferences, ?_⟩
    intro reference member
    obtain ⟨parent, isReferenced, _⟩ := areChecked reference member
    exact ⟨parent, isReferenced⟩

/-! ## What can be read has no circle -/

/-- Where references are merged, everything that they stand for is read. -/
theorem exists_load_of_mergeReferences
    {base : Path}
    {references : List Document}
    {lower : Entries}
    {opened : List String}
    {answer : Entries × List String}
    (areMerged :
      mergeReferences surroundings (load surroundings) base lower opened
          references =
        .ok answer) :
    ∀ reference ∈ references,
      ∃ parent entries,
        referenced surroundings base reference = .ok parent ∧
          load surroundings opened parent = .ok (entries, opened) := by
  induction references generalizing lower with
  | nil =>
      simp
  | cons first rest inductionHypothesis =>
      obtain ⟨parent, isParent, isMerged⟩ := exists_of_bind_eq_ok areMerged
      obtain ⟨⟨entries, next⟩, isLoaded, restMerged⟩ :=
        exists_of_bind_eq_ok isMerged
      obtain rfl := restores_load surroundings opened parent entries next isLoaded
      exact
        List.forall_mem_cons.mpr
          ⟨⟨parent, entries, isParent, isLoaded⟩, inductionHypothesis restMerged⟩

/-- Where a sheet is read, everything that it extends is read. -/
theorem exists_load_of_extends
    {opened : List String}
    {sheet parent : Sheet}
    {answer : Entries × List String}
    (isLoaded : load surroundings opened sheet = .ok answer)
    (extended : sheet.Extends surroundings parent) :
    sheet.key ∉ opened ∧
      ∃ entries,
        load surroundings (sheet.key :: opened) parent =
          .ok (entries, sheet.key :: opened) := by
  rw [load_eq] at isLoaded
  obtain ⟨isNew, own, references, merged, next, isAnchored, areReferences,
    areMerged, _⟩ := exists_of_inheritWith isLoaded
  obtain ⟨reference, member, isReferenced⟩ :=
    extended.exists_reference isAnchored areReferences
  obtain ⟨parent, entries, isParent, isLoaded⟩ :=
    exists_load_of_mergeReferences areMerged reference member
  rw [isReferenced, Except.ok.injEq] at isParent
  subst isParent
  exact ⟨isNew, entries, isLoaded⟩

/-- Where a sheet is read, nothing on the way down comes a second time. -/
theorem noCircle_of_load
    (visit : Visit)
    {answer : Entries × List String}
    (isLoaded : load surroundings visit.opened visit.sheet = .ok answer)
    {sheet : Sheet}
    (below : ReflTransGen (Extends surroundings) visit.sheet sheet) :
    sheet.key ∉ visit.opened ∧
      ∀ further,
        TransGen (Extends surroundings) sheet further →
        further.key ≠ sheet.key := by
  induction visit using (Visit.wellFounded_leads surroundings).induction
      generalizing answer sheet with
  | h visit inductionHypothesis =>
      -- Whatever the sheet extends is read while the sheet's own key is opened.
      have ofParent
          {parent sheet : Sheet}
          (extended : visit.sheet.Extends surroundings parent)
          (below : ReflTransGen (Extends surroundings) parent sheet) :
          sheet.key ∉ visit.sheet.key :: visit.opened ∧
            ∀ further,
              TransGen (Extends surroundings) sheet further →
              further.key ≠ sheet.key := by
        obtain ⟨isNew, entries, isLoaded⟩ :=
          exists_load_of_extends isLoaded extended
        exact
          inductionHypothesis ⟨visit.sheet.key :: visit.opened, parent⟩
            { isNew, extended, opened := rfl } isLoaded below
      rcases below.cases_head with rfl | ⟨parent, extended, below⟩
      · constructor
        · rw [load_eq] at isLoaded
          exact (exists_of_inheritWith isLoaded).1
        · intro further below
          obtain ⟨parent, extended, below⟩ := TransGen.head'_iff.mp below
          obtain ⟨isNew, _⟩ := ofParent extended below
          exact fun same => isNew (same ▸ List.mem_cons_self ..)
      · obtain ⟨isNew, noCircle⟩ := ofParent extended below
        exact ⟨fun member => isNew (List.mem_cons_of_mem _ member), noCircle⟩

/-- A sheet that can be read has no circle. -/
theorem not_hasCircle_of_merged
    {root : Sheet}
    {entries : Entries}
    (isMerged : root.merged surroundings = .ok entries) :
    ¬ root.HasCircle surroundings := by
  obtain ⟨answer, isLoaded, _⟩ := exists_of_map_eq_ok isMerged
  rintro ⟨sheet, again, below, around, same⟩
  exact (noCircle_of_load ⟨[], root⟩ isLoaded below).2 again around same

/-! ## What cannot be read has one -/

/-- The keys being read on a visit are those of the sheets on the way to it. -/
theorem exists_of_mem_opened
    {root : Sheet}
    {visit : Visit}
    (isVisit : Visits surroundings root visit)
    {key : String}
    (isOpened : key ∈ visit.opened) :
    ∃ sheet,
      ReflTransGen (Extends surroundings) root sheet ∧
        TransGen (Extends surroundings) sheet visit.sheet ∧
          sheet.key = key := by
  induction isVisit with
  | refl =>
      cases isOpened
  | @tail outer inner isOuter leads inductionHypothesis =>
      rw [leads.opened] at isOpened
      rcases List.mem_cons.mp isOpened with rfl | isOpened
      · refine ⟨outer.sheet, ?_, .single leads.extended, rfl⟩
        exact isOuter.lift Visit.sheet fun _ _ leads => leads.extended
      · obtain ⟨sheet, above, below, isKey⟩ := inductionHypothesis isOpened
        exact ⟨sheet, above, below.tail leads.extended, isKey⟩

/-- Where references that can be looked up are not merged, one is not read. -/
theorem mergeReferences_answers
    {base : Path}
    {references : List Document}
    (areReferenced :
      ∀ reference ∈ references,
        ∃ parent, referenced surroundings base reference = .ok parent)
    (lower : Entries)
    (opened : List String) :
    (∃ merged,
        mergeReferences surroundings (load surroundings) base lower opened
            references =
          .ok (merged, opened)) ∨
      ∃ reference ∈ references,
        ∃ parent failure,
          referenced surroundings base reference = .ok parent ∧
            load surroundings opened parent = .error failure ∧
              mergeReferences surroundings (load surroundings) base lower
                  opened references =
                .error failure := by
  induction references generalizing lower with
  | nil =>
      exact .inl ⟨lower, rfl⟩
  | cons reference rest inductionHypothesis =>
      obtain ⟨parent, isReferenced⟩ :=
        areReferenced reference (List.mem_cons_self ..)
      rw [mergeReferences, isReferenced]
      cases isLoaded : load surroundings opened parent with
      | error failure =>
          refine
            .inr
              ⟨reference, List.mem_cons_self .., parent, failure,
                isReferenced, isLoaded, ?_⟩
          simp only [ok_bind, isLoaded]
          rfl
      | ok answer =>
          obtain ⟨entries, next⟩ := answer
          obtain rfl :=
            restores_load surroundings opened parent entries next isLoaded
          simp only [ok_bind, isLoaded]
          rcases
              inductionHypothesis
                (fun another member =>
                  areReferenced another (List.mem_cons_of_mem _ member))
                (lower.merge entries) with
            isMerged | ⟨another, member, isNotRead⟩
          · exact .inl isMerged
          · exact .inr ⟨another, List.mem_cons_of_mem _ member, isNotRead⟩

/-- What is sound is read, or else refused because of a key that comes again. -/
theorem load_answers
    {root : Sheet}
    (isSound : root.IsSoundBelow surroundings)
    (visit : Visit)
    (isVisit : Visits surroundings root visit) :
    (∃ answer, load surroundings visit.opened visit.sheet = .ok answer) ∨
      ∃ again,
        Visits surroundings root again ∧
          again.sheet.key ∈ again.opened ∧
            load surroundings visit.opened visit.sheet =
              circular again.sheet.key := by
  induction visit using (Visit.wellFounded_leads surroundings).induction with
  | h visit inductionHypothesis =>
      rw [load_eq]
      unfold inheritWith
      split
      · next isOpened =>
          rw [List.contains_iff_mem] at isOpened
          exact .inr ⟨visit, isVisit, isOpened, rfl⟩
      · next isNew =>
          rw [List.contains_iff_mem] at isNew
          obtain ⟨own, references, isAnchored, areReferences, areReferenced⟩ :=
            (isSound visit isVisit isNew).exists_parents
          simp only [isAnchored, ok_bind, areReferences]
          rcases
              mergeReferences_answers areReferenced []
                (visit.sheet.key :: visit.opened) with
            ⟨merged, areMerged⟩ |
              ⟨reference, member, parent, failure, isReferenced, isNotRead,
                areNotMerged⟩
          · rw [areMerged]
            exact .inl ⟨_, rfl⟩
          · let inner : Visit := ⟨visit.sheet.key :: visit.opened, parent⟩
            have leads : visit.Leads surroundings inner :=
              { isNew
                extended :=
                  ⟨own, references, reference, isAnchored, areReferences,
                    member, isReferenced⟩
                opened := rfl }
            rcases inductionHypothesis inner leads (isVisit.tail leads) with
              ⟨answer, isRead⟩ | ⟨again, isAgain, isOpened, isCircular⟩
            · rw [isNotRead] at isRead
              cases isRead
            · refine .inr ⟨again, isAgain, isOpened, ?_⟩
              rw [areNotMerged, ← isCircular, isNotRead]
              rfl

/-- What is sound can be read exactly if it has no circle. -/
theorem merged_answers
    {root : Sheet}
    (isSound : root.IsSoundBelow surroundings) :
    (¬ root.HasCircle surroundings ∧
        ∃ entries, root.merged surroundings = .ok entries) ∨
      root.HasCircle surroundings ∧
        ∃ key, root.merged surroundings = circular key := by
  rcases load_answers isSound ⟨[], root⟩ .refl with
    ⟨answer, isLoaded⟩ | ⟨again, isAgain, isOpened, isCircular⟩
  · have isMerged : root.merged surroundings = .ok answer.1 := by
      rw [merged, isLoaded]
      rfl
    exact .inl ⟨not_hasCircle_of_merged isMerged, answer.1, isMerged⟩
  · obtain ⟨sheet, above, around, isKey⟩ := exists_of_mem_opened isAgain isOpened
    refine .inr ⟨⟨sheet, again.sheet, above, around, isKey.symm⟩, again.sheet.key, ?_⟩
    rw [merged, isCircular]
    rfl

end Sheet

/-! ## Other refusals -/

/-- An answer that is no refusal because of a circle. -/
def NeverCircular {Value : Type} (answer : Except ConfigFailure Value) : Prop :=
  ∀ key, answer ≠ circular key

namespace NeverCircular

variable {Found Value Item : Type}

/-- An answer is no refusal. -/
theorem ok (value : Value) : NeverCircular (.ok value) := by
  intro key same
  cases same

/-- What comes behind an answer may refuse as well. -/
theorem bind
    {answer : Except ConfigFailure Found}
    {next : Found → Except ConfigFailure Value}
    (first : NeverCircular answer)
    (rest : ∀ found, NeverCircular (next found)) :
    NeverCircular (answer >>= next) := by
  cases answer with
  | ok found =>
      exact rest found
  | error failure =>
      intro key same
      exact first key (congrArg Except.error (Except.error.inj same))

/-- The same item by item. -/
theorem mapM
    {read : Item → Except ConfigFailure Value}
    (each : ∀ item, NeverCircular (read item))
    (items : List Item) :
    NeverCircular (items.mapM read) := by
  induction items with
  | nil =>
      exact .ok []
  | cons item rest inductionHypothesis =>
      rw [List.mapM_cons]
      exact
        (each item).bind fun _ => inductionHypothesis.bind fun _ => .ok _

/-- A text is never refused. -/
theorem textOf (value : Document) : NeverCircular (textOf value) := by
  intro key same
  unfold HouseStyle.textOf at same
  split at same
  · cases same
  · cases same

/-- A severity is refused if it is unknown. -/
theorem readSeverity (value : Document) (place : String) :
    NeverCircular (readSeverity value place) := by
  refine (NeverCircular.textOf value).bind fun name => ?_
  intro key same
  split at same
  · cases same
  · cases same

/-- A table is refused for its shape. -/
theorem readTableFrom
    (place : String)
    (entries : Entries)
    (table : RuleTable) :
    NeverCircular (readTableFrom place table entries) := by
  induction entries generalizing table with
  | nil =>
      exact .ok table
  | cons entry rest inductionHypothesis =>
      obtain ⟨key, value⟩ := entry
      refine (NeverCircular.textOf (.scalar key)).bind fun ruleId => ?_
      refine NeverCircular.bind ?_ fun settings => inductionHypothesis _
      intro key same
      unfold readSettings at same
      split at same <;> cases same

/-- A table is refused for its shape. -/
theorem readTable
    (place : String)
    (value : Option Document) :
    NeverCircular (readTable place value) := by
  unfold HouseStyle.readTable
  split
  · exact .ok []
  · exact .ok []
  · exact readTableFrom place _ []
  · intro key same
    cases same

/-- The tables of languages are refused for their shapes. -/
theorem readLanguagesFrom
    (entries : Entries)
    (tables : List (String × RuleTable)) :
    NeverCircular (readLanguagesFrom tables entries) := by
  induction entries generalizing tables with
  | nil =>
      exact .ok tables
  | cons entry rest inductionHypothesis =>
      obtain ⟨key, value⟩ := entry
      refine (NeverCircular.textOf (.scalar key)).bind fun language => ?_
      exact (readTable _ _).bind fun table => inductionHypothesis _

/-- The tables of languages are refused for their shapes. -/
theorem readLanguages (value : Option Document) :
    NeverCircular (readLanguages value) := by
  unfold HouseStyle.readLanguages
  split
  · exact .ok []
  · exact readLanguagesFrom _ []
  · intro key same
    cases same

/-- Merged entries are refused for what they say. -/
theorem ofEntries
    (entries : Entries)
    (source : Option Path) :
    NeverCircular (Configuration.ofEntries entries source) := by
  have failOn (value : Option Document) : NeverCircular (readFailOn value) := by
    unfold readFailOn
    split
    · exact .ok none
    · exact .ok none
    · exact
        (readSeverity _ "fail_on").bind fun severity => .ok (some severity)
  have exclude (value : Option Document) : NeverCircular (readExclude value) := by
    intro key same
    unfold readExclude at same
    split at same <;> cases same
  refine (failOn _).bind fun _ => ?_
  refine (exclude _).bind fun _ => ?_
  refine (readTable _ _).bind fun _ => ?_
  refine (readLanguages _).bind fun _ => ?_
  refine (NeverCircular.textOf _).bind fun _ => ?_
  refine (NeverCircular.mapM NeverCircular.textOf _).bind fun _ => ?_
  exact (NeverCircular.mapM NeverCircular.textOf _).bind fun _ => .ok _

end NeverCircular

namespace Configuration

/-- What holds of the reading of a configuration file with all that it extends. -/
structure RefusesOnlyCircles
    (surroundings : Surroundings)
    (path : Path) :
    Prop where
  /-- No chain of sheets that extend each other is followed forever. -/
  terminates :
    WellFounded fun inner outer : Sheet.Visit => outer.Leads surroundings inner
  /-- Reading a sheet asks for nothing but what the visits lead to. -/
  asks :
    ∀ load other : Sheet.Loader,
    other.Restores →
    ∀ visit : Sheet.Visit,
      (∀ inner,
        visit.Leads surroundings inner →
        load inner.opened inner.sheet = other inner.opened inner.sheet) →
      Sheet.inheritWith surroundings load visit.opened visit.sheet =
        Sheet.inheritWith surroundings other visit.opened visit.sheet
  /-- What reads sheets is the one answer to the recursion without a bound. -/
  isSolution :
    ∀ load : Sheet.Loader,
      load = Sheet.load surroundings ↔
        ∀ opened sheet,
          load opened sheet =
            Sheet.inheritWith surroundings load opened sheet
  restores : (Sheet.load surroundings).Restores
  circular_iff :
    ∀ root,
      Sheet.ofFile surroundings path = .ok root →
      root.IsSoundBelow surroundings →
      ((∃ key, ofFile surroundings path = circular key) ↔
        root.HasCircle surroundings)
  merges :
    ∀ root,
      Sheet.ofFile surroundings path = .ok root →
      root.IsSoundBelow surroundings →
      ¬ root.HasCircle surroundings →
      ∃ entries,
        root.merged surroundings = .ok entries ∧
          ofFile surroundings path = ofEntries entries (some path)

/--
Whatever files there are and however they extend each other, a configuration
file is read with all that it extends. Where the documents are sound, it is
refused because of a circle exactly if there is one.
-/
theorem refusesOnlyCircles
    (surroundings : Surroundings)
    (path : Path) :
    RefusesOnlyCircles surroundings path := by
  have readsAs
      {root : Sheet}
      (isRead : Sheet.ofFile surroundings path = .ok root) :
      ofFile surroundings path =
        root.merged surroundings >>= fun entries =>
          ofEntries entries (some path) := by
    rw [ofFile, isRead, ok_bind]
  refine
    { terminates := Sheet.Visit.wellFounded_leads surroundings
      asks := fun load other restores visit agree =>
        Sheet.inheritWith_congr restores visit agree
      isSolution := ?_
      restores := Sheet.restores_load surroundings
      circular_iff := ?_
      merges := ?_ }
  · intro load
    constructor
    · rintro rfl
      exact Sheet.load_eq surroundings
    · exact Sheet.eq_load
  · intro root isRead isSound
    rw [readsAs isRead]
    rcases Sheet.merged_answers isSound with
      ⟨noCircle, entries, isMerged⟩ | ⟨hasCircle, key, isCircular⟩
    · refine iff_of_false ?_ noCircle
      rintro ⟨key, isCircular⟩
      rw [isMerged, ok_bind] at isCircular
      exact NeverCircular.ofEntries entries (some path) key isCircular
    · refine iff_of_true ⟨key, ?_⟩ hasCircle
      rw [isCircular]
      rfl
  · intro root isRead isSound noCircle
    rcases Sheet.merged_answers isSound with
      ⟨_, entries, isMerged⟩ | ⟨hasCircle, _⟩
    · refine ⟨entries, isMerged, ?_⟩
      rw [readsAs isRead, isMerged, ok_bind]
    · exact (noCircle hasCircle).elim

/-- Files two of which share a parent, and two that extend each other. -/
def sharedAndCircular : Surroundings where
  files :=
    .directory
      [("base.yaml", .file "fail_on: warning\n".toUTF8),
        ("left.yaml", .file "extends: base.yaml\n".toUTF8),
        ("right.yaml", .file "extends: [base.yaml, base.yaml]\n".toUTF8),
        ("top.yaml",
          .file "extends: ['preset:strict', left.yaml, right.yaml]\n".toUTF8),
        ("circle.yaml", .file "extends: back.yaml\n".toUTF8),
        ("back.yaml", .file "extends: ../circle.yaml\n".toUTF8)]
  directory := Path.ofString "/"
  environment := []

/-- The sheet of one of these files, if it passes the check of soundness. -/
def soundSheet? (name : String) : Option Sheet :=
  (Sheet.ofFile sharedAndCircular (Path.ofString name)).toOption.filter
    (Sheet.isSoundWithin sharedAndCircular 4 [])

/-- Whether an answer is a refusal because of a circle. -/
def isCircular {Value : Type} : Except ConfigFailure Value → Bool
  | .error (.refused (.circular _)) => true
  | _ => false

/-- What passes the check is read from its file and sound. -/
theorem exists_of_soundSheet
    {name : String}
    (isThere : (soundSheet? name).isSome = true) :
    ∃ root,
      Sheet.ofFile sharedAndCircular (Path.ofString name) = .ok root ∧
        root.IsSoundBelow sharedAndCircular := by
  obtain ⟨root, isSheet⟩ := Option.isSome_iff_exists.mp isThere
  obtain ⟨isRead, isChecked⟩ := Option.filter_eq_some_iff.mp isSheet
  exact
    ⟨root, eq_ok_of_toOption_eq_some isRead, Sheet.isSoundBelow_of_check isChecked⟩

/-- An answer that is a refusal because of a circle refuses a key. -/
theorem exists_circular
    {Value : Type}
    {answer : Except ConfigFailure Value}
    (isRefusal : isCircular answer = true) :
    ∃ key, answer = circular key := by
  unfold isCircular at isRefusal
  split at isRefusal
  · exact ⟨_, rfl⟩
  · cases isRefusal

set_option maxRecDepth 100000 in
/-- The shared parent is no circle, and the two that extend each other are one. -/
theorem refusesOnlyCircles_samples :
    (∃ root,
        Sheet.ofFile sharedAndCircular (Path.ofString "top.yaml") = .ok root ∧
          root.IsSoundBelow sharedAndCircular ∧
          ¬ root.HasCircle sharedAndCircular ∧
          ∃ configuration,
            ofFile sharedAndCircular (Path.ofString "top.yaml") =
              .ok configuration) ∧
      ∃ root,
        Sheet.ofFile sharedAndCircular (Path.ofString "circle.yaml") =
            .ok root ∧
          root.IsSoundBelow sharedAndCircular ∧
          root.HasCircle sharedAndCircular ∧
          ∃ key,
            ofFile sharedAndCircular (Path.ofString "circle.yaml") =
              circular key := by
  constructor
  · obtain ⟨root, isRead, isSound⟩ :=
      exists_of_soundSheet
        (show (soundSheet? "top.yaml").isSome = true by decide +kernel)
    have isThere :
        (ofFile sharedAndCircular (Path.ofString "top.yaml")).toOption.isSome =
          true := by
      decide +kernel
    obtain ⟨configuration, isConfiguration⟩ := Option.isSome_iff_exists.mp isThere
    have isConfiguration := eq_ok_of_toOption_eq_some isConfiguration
    refine ⟨root, isRead, isSound, ?_, configuration, isConfiguration⟩
    intro hasCircle
    obtain ⟨key, isRefused⟩ :=
      ((refusesOnlyCircles sharedAndCircular (Path.ofString "top.yaml")
        ).circular_iff root isRead isSound).mpr hasCircle
    rw [isConfiguration] at isRefused
    cases isRefused
  · obtain ⟨root, isRead, isSound⟩ :=
      exists_of_soundSheet
        (show (soundSheet? "circle.yaml").isSome = true by decide +kernel)
    have isRefused :
        ∃ key,
          ofFile sharedAndCircular (Path.ofString "circle.yaml") =
            circular key :=
      exists_circular (by decide +kernel)
    refine ⟨root, isRead, isSound, ?_, isRefused⟩
    exact
      ((refusesOnlyCircles sharedAndCircular (Path.ofString "circle.yaml")
        ).circular_iff root isRead isSound).mp isRefused

end Configuration

end HouseStyle
