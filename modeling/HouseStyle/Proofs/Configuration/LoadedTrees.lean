import HouseStyle.Proofs.Configuration.FiveLayers
import HouseStyle.Proofs.Configuration.Listing

namespace HouseStyle

/-!
# Loaded configurations hold trees

A text is read as mappings that name everything once. Neither anchoring word lists
nor merging sheets changes that, so the settings in the tables of a configuration
that was loaded are such mappings.
-/

variable {surroundings : Surroundings}

/-! ## Anchoring -/

/-- Anchored entries have the same names, and each value was anchored. -/
theorem exists_of_anchoredEntries
    {base : Path}
    {params : List Nat}
    {origin : Yaml.Origin}
    {entries changed : Entries}
    (areAnchored :
      anchoredEntries surroundings base params origin entries = .ok changed) :
    changed.names = entries.names ∧
      ∀ key value,
        changed.find? key = some value →
        ∃ own,
          entries.find? key = some own ∧
            own.anchored surroundings base params (origin.at key) =
              .ok value := by
  induction entries generalizing changed with
  | nil =>
      cases areAnchored
      refine ⟨rfl, ?_⟩
      rintro key value ⟨⟩
  | cons entry rest inductionHypothesis =>
      obtain ⟨first, own⟩ := entry
      obtain ⟨found, isFound, areAnchored⟩ := exists_of_bind_eq_ok areAnchored
      obtain ⟨others, areOthers, areAnchored⟩ := exists_of_bind_eq_ok areAnchored
      cases areAnchored
      obtain ⟨sameNames, eachValue⟩ := inductionHypothesis areOthers
      refine ⟨by rw [Entries.names_cons, Entries.names_cons, sameNames], ?_⟩
      intro key value isThere
      by_cases same : first.name = key.name
      · rw [Entries.find?_cons_of_eq same, Option.some.injEq] at isThere
        subst isThere
        rw [origin_at_congr same] at isFound
        exact ⟨own, Entries.find?_cons_of_eq same own rest, isFound⟩
      · rw [Entries.find?_cons_of_ne same] at isThere
        rw [Entries.find?_cons_of_ne same]
        exact eachValue key value isThere

/-- Parameters name everything once, however often they are anchored. -/
theorem distinct_of_anchorRepeatedly
    {base : Path}
    {params changed : Entries}
    {times : Nat}
    (distinct : (Document.map params).Distinct)
    (areAnchored :
      anchorRepeatedly surroundings base params times = .ok changed) :
    (Document.map changed).Distinct := by
  induction times generalizing params with
  | zero =>
      cases areAnchored
      exact distinct
  | succ times inductionHypothesis =>
      obtain ⟨once, isOnce, areAnchored⟩ := exists_of_bind_eq_ok areAnchored
      rw [anchorParams_eq_changeValue] at isOnce
      exact
        inductionHypothesis
          (keepsDistinct_anchoredPath.changeValue "lexicon_file" distinct isOnce)
          areAnchored

/-- An anchored document names everything once if it did before. -/
theorem Document.Distinct.anchored
    {base : Path}
    {params : List Nat}
    {origin : Yaml.Origin}
    {document changed : Document}
    (distinct : document.Distinct)
    (isAnchored :
      document.anchored surroundings base params origin = .ok changed) :
    changed.Distinct := by
  -- The origin of a value is another one than that of its mapping.
  induction distinct generalizing origin changed with
  | @leaf document isLeaf =>
      cases document with
      | map entries => cases isLeaf
      | list items =>
          unfold Document.anchored at isAnchored
          split at isAnchored
          · obtain ⟨_, _, rfl⟩ := exists_of_map_eq_ok isAnchored
            exact .leaf rfl
          · cases isAnchored
            exact .leaf rfl
      | _ =>
          cases isAnchored
          exact .leaf rfl
  | @map entries names values inductionHypothesis =>
      unfold Document.anchored at isAnchored
      split at isAnchored
      · obtain ⟨once, areOnce, isAnchored⟩ := exists_of_bind_eq_ok isAnchored
        obtain ⟨often, areOften, isAnchored⟩ := exists_of_bind_eq_ok isAnchored
        cases isAnchored
        obtain ⟨sameNames, eachValue⟩ := exists_of_anchoredEntries areOnce
        refine distinct_of_anchorRepeatedly (.map ?_ ?_) areOften
        · rwa [sameNames]
        · intro key value isThere
          obtain ⟨own, isOwn, isValue⟩ := eachValue key value isThere
          exact inductionHypothesis key own isOwn isValue
      · cases isAnchored
        exact .map names values

namespace Sheet

/-- The anchored entries of a sheet name everything once if the sheet does. -/
theorem distinct_of_anchored
    {sheet : Sheet}
    {own : Entries}
    (distinct : (Document.map sheet.entries).Distinct)
    (isAnchored : sheet.anchored surroundings = .ok own) :
    (Document.map own).Distinct := by
  have keeps
      (origin : Yaml.Origin)
      (paramsOf : Document → Yaml.Origin → List Nat) :
      KeepsDistinct fun part =>
        part.anchored surroundings sheet.base (paramsOf part origin) origin :=
    fun _ _ ofPart isPart => ofPart.anchored isPart
  obtain ⟨changed, inRules, inLanguages⟩ := exists_of_bind_eq_ok isAnchored
  exact
    (keeps _ paramsOfLanguages).changeValue "languages"
      ((keeps _ paramsOfTable).changeValue "rules" distinct inRules)
      inLanguages

/-! ## Inheritance -/

/-- A mapping that is laid over another one names everything once. -/
theorem distinct_merge
    {lower upper : Entries}
    (ofLower : (Document.map lower).Distinct)
    (ofUpper : (Document.map upper).Distinct) :
    (Document.map (lower.merge upper)).Distinct := by
  rw [← Document.map_over_map]
  refine ofUpper.over ?_
  rintro document ⟨rfl⟩
  exact ofLower

/--
What holds of all that references stand for, and of two mappings laid over each
other when it holds of both, holds of all of them merged.
-/
theorem of_mergeReferences
    {motive : Entries → Prop}
    (merge :
      ∀ lower upper,
        motive lower → motive upper → motive (lower.merge upper))
    {load : Loader}
    {base : Path}
    {references : List Document}
    (eachParent :
      ∀ reference ∈ references,
      ∀ parent opened answer,
        referenced surroundings base reference = .ok parent →
        load opened parent = .ok answer →
        motive answer.1)
    {lower merged : Entries}
    (ofLower : motive lower)
    {opened rest : List String}
    (areMerged :
      mergeReferences surroundings load base lower opened references =
        .ok (merged, rest)) :
    motive merged := by
  induction references generalizing lower opened with
  | nil =>
      cases areMerged
      exact ofLower
  | cons reference others inductionHypothesis =>
      obtain ⟨parent, isParent, areMerged⟩ := exists_of_bind_eq_ok areMerged
      obtain ⟨answer, isAnswer, areMerged⟩ := exists_of_bind_eq_ok areMerged
      have ofParent :=
        eachParent reference (List.mem_cons_self ..) parent opened answer
          isParent isAnswer
      exact
        inductionHypothesis
          (fun other inRest => eachParent other (List.mem_cons_of_mem _ inRest))
          (merge lower answer.1 ofLower ofParent) areMerged

/-- A sheet with all that it extends names everything once. -/
theorem distinct_of_inherit
    {depth : Nat}
    {opened rest : List String}
    {sheet : Sheet}
    {all : Entries}
    (distinct : (Document.map sheet.entries).Distinct)
    (isInherited : inherit surroundings depth opened sheet = .ok (all, rest)) :
    (Document.map all).Distinct := by
  induction depth generalizing opened sheet all rest with
  | zero =>
      cases isInherited
  | succ depth inductionHypothesis =>
      obtain
        ⟨_, own, references, merged, next, isAnchored, _, areMerged, rfl, _⟩ :=
        exists_of_inheritWith isInherited
      have ofOwn := distinct_of_anchored distinct isAnchored
      have ofMerged : (Document.map merged).Distinct := by
        refine
          of_mergeReferences
            (motive := fun entries => (Document.map entries).Distinct)
            (fun _ _ => distinct_merge) ?_ ?_ areMerged
        · intro reference _ parent opened answer isParent isAnswer
          exact
            inductionHypothesis
              (isRead_of_referenced isParent).distinct isAnswer
        · exact Document.distinct_of_isDistinct _ rfl
      exact (distinct_merge ofMerged ofOwn).put (.text "extends") (.leaf rfl)

/-- What the sheet of a text comes to names everything once. -/
theorem distinct_of_ofText
    {text : String}
    {base : Path}
    {root : Sheet}
    {all : Entries}
    (isRoot : ofText text base = .ok root)
    (areMerged : root.merged surroundings = .ok all) :
    (Document.map all).Distinct := by
  obtain ⟨⟨entries, origin⟩, isParsed, rfl⟩ := exists_of_map_eq_ok isRoot
  obtain ⟨⟨merged, rest⟩, isLoaded, rfl⟩ := exists_of_map_eq_ok areMerged
  refine distinct_of_inherit ?_ isLoaded
  rcases traced_of_parseEntries isParsed with rfl | traced
  · exact Document.distinct_of_isDistinct _ rfl
  · exact traced.distinct

end Sheet

/-! ## Tables -/

/-- What is put under a name is there, and the rest was there before. -/
theorem mem_putNamed
    {Value : Type}
    {table : List (String × Value)}
    {name : String}
    {value : Value}
    {entry : String × Value}
    (member : entry ∈ putNamed table name value) :
    entry = (name, value) ∨ entry ∈ table := by
  induction table with
  | nil =>
      exact .inl (List.mem_singleton.mp member)
  | cons first rest inductionHypothesis =>
      obtain ⟨present, old⟩ := first
      rw [putNamed] at member
      split at member
      · rcases List.mem_cons.mp member with isFirst | inRest
        · exact .inl isFirst
        · exact .inr (List.mem_cons_of_mem _ inRest)
      · rcases List.mem_cons.mp member with isFirst | inRest
        · exact .inr (isFirst ▸ List.mem_cons_self ..)
        · exact (inductionHypothesis inRest).imp_right (List.mem_cons_of_mem _)

/-- Settings in a table were in it before, or are read from one of the values. -/
theorem exists_of_mem_readTableFrom
    {place : String}
    {entries : Entries}
    {before table : RuleTable}
    {entry : String × Entries}
    (isRead : readTableFrom place before entries = .ok table)
    (member : entry ∈ table) :
    entry ∈ before ∨
      ∃ item ∈ entries, readSettings place entry.1 item.2 = .ok entry.2 := by
  induction entries generalizing before with
  | nil =>
      cases isRead
      exact .inl member
  | cons first rest inductionHypothesis =>
      obtain ⟨key, value⟩ := first
      obtain ⟨ruleId, _, isRead⟩ := exists_of_bind_eq_ok isRead
      obtain ⟨settings, areSettings, isRead⟩ := exists_of_bind_eq_ok isRead
      rcases inductionHypothesis isRead with isPut | ⟨item, inRest, isItem⟩
      · rcases mem_putNamed isPut with rfl | isOld
        · exact .inr ⟨(key, value), List.mem_cons_self .., areSettings⟩
        · exact .inl isOld
      · exact .inr ⟨item, List.mem_cons_of_mem _ inRest, isItem⟩

/-- Settings in a table are read from one of the values of a mapping. -/
theorem exists_of_mem_readTable
    {place : String}
    {value : Option Document}
    {table : RuleTable}
    {entry : String × Entries}
    (isRead : readTable place value = .ok table)
    (member : entry ∈ table) :
    ∃ entries : Entries,
      value = some (.map entries) ∧
        ∃ item ∈ entries, readSettings place entry.1 item.2 = .ok entry.2 := by
  unfold readTable at isRead
  split at isRead
  · cases isRead
    cases member
  · cases isRead
    cases member
  · next entries =>
      refine ⟨entries, rfl, ?_⟩
      exact (exists_of_mem_readTableFrom isRead member).resolve_left List.not_mem_nil
  · cases isRead

/-- A table of a language was there before, or is read from one of the values. -/
theorem exists_of_mem_readLanguagesFrom
    {entries : Entries}
    {before tables : List (String × RuleTable)}
    {table : String × RuleTable}
    (areRead : readLanguagesFrom before entries = .ok tables)
    (member : table ∈ tables) :
    table ∈ before ∨
      ∃ item ∈ entries,
        readTable ("languages." ++ table.1) (some item.2) = .ok table.2 := by
  induction entries generalizing before with
  | nil =>
      cases areRead
      exact .inl member
  | cons first rest inductionHypothesis =>
      obtain ⟨key, value⟩ := first
      obtain ⟨language, _, areRead⟩ := exists_of_bind_eq_ok areRead
      obtain ⟨found, isTable, areRead⟩ := exists_of_bind_eq_ok areRead
      rcases inductionHypothesis areRead with isPut | ⟨item, inRest, isItem⟩
      · rcases mem_putNamed isPut with rfl | isOld
        · exact .inr ⟨(key, value), List.mem_cons_self .., isTable⟩
        · exact .inl isOld
      · exact .inr ⟨item, List.mem_cons_of_mem _ inRest, isItem⟩

/-- A table of a language is read from one of the values of a mapping. -/
theorem exists_of_mem_readLanguages
    {value : Option Document}
    {tables : List (String × RuleTable)}
    {table : String × RuleTable}
    (areRead : readLanguages value = .ok tables)
    (member : table ∈ tables) :
    ∃ entries : Entries,
      value = some (.map entries) ∧
        ∃ item ∈ entries,
          readTable ("languages." ++ table.1) (some item.2) = .ok table.2 := by
  unfold readLanguages at areRead
  split at areRead
  · cases areRead
    cases member
  · next entries areEntries =>
      refine ⟨entries, (Option.filter_eq_some_iff.mp areEntries).1, ?_⟩
      exact
        (exists_of_mem_readLanguagesFrom areRead member).resolve_left
          List.not_mem_nil
  · cases areRead

/-- Settings are the entries of a mapping, or there are none. -/
theorem eq_map_or_eq_nil_of_readSettings
    {place id : String}
    {value : Document}
    {settings : Entries}
    (areSettings : readSettings place id value = .ok settings) :
    value = .map settings ∨ settings = [] := by
  unfold readSettings at areSettings
  split at areSettings <;> cases areSettings
  · exact .inr rfl
  · exact .inl rfl

/-- Where the settings of a rule stand: for all languages or for one. -/
inductive IsSettingsPlace : List Scalar → Prop
  | ofRule (id : Scalar) :
      IsSettingsPlace [.text "rules", id]
  | ofLanguage (language id : Scalar) :
      IsSettingsPlace [.text "languages", language, id]

/-- Each value of a mapping in a distinct document stands behind its key. -/
theorem Document.Distinct.at?_concat
    {document : Document}
    (distinct : document.Distinct)
    {place : List Scalar}
    {entries : Entries}
    (isThere : document.at? place = some (.map entries))
    {item : Scalar × Document}
    (member : item ∈ entries) :
    document.at? (place ++ [item.1]) = some item.2 := by
  rw [Document.at?_append, isThere, Option.bind_some]
  cases distinct.at? isThere with
  | leaf isLeaf =>
      cases isLeaf
  | map names _ =>
      rw [Document.at?_map, Entries.find?_of_mem names member, Option.bind_some,
        Document.at?_nil]

namespace Configuration

/-- The tables of a configuration are those of its document. -/
theorem tables_of_ofEntries
    {entries : Entries}
    {source : Option Path}
    {configuration : Configuration}
    (isRead : ofEntries entries source = .ok configuration) :
    readTable "rules" (entries.get? "rules") = .ok configuration.rules ∧
      readLanguages (entries.get? "languages") = .ok configuration.languages := by
  obtain ⟨failOn, _, isRead⟩ := exists_of_bind_eq_ok isRead
  obtain ⟨exclude, _, isRead⟩ := exists_of_bind_eq_ok isRead
  obtain ⟨rules, areRules, isRead⟩ := exists_of_bind_eq_ok isRead
  obtain ⟨languages, areLanguages, isRead⟩ := exists_of_bind_eq_ok isRead
  obtain ⟨name, _, isRead⟩ := exists_of_bind_eq_ok isRead
  obtain ⟨patterns, _, isRead⟩ := exists_of_bind_eq_ok isRead
  obtain ⟨parents, _, isRead⟩ := exists_of_bind_eq_ok isRead
  cases isRead
  exact ⟨areRules, areLanguages⟩

/-- The settings of a configuration are read from places of its document. -/
theorem exists_settingsPlace_of_ofEntries
    {entries : Entries}
    {source : Option Path}
    {configuration : Configuration}
    (distinct : (Document.map entries).Distinct)
    (isRead : ofEntries entries source = .ok configuration)
    {id : String}
    {settings : Entries}
    (holds : configuration.Holds id settings) :
    ∃ place value label,
      IsSettingsPlace place ∧
        (Document.map entries).at? place = some value ∧
        readSettings label id value = .ok settings := by
  obtain ⟨areRules, areLanguages⟩ := tables_of_ofEntries isRead
  have under
      {key : String}
      {below : Entries}
      (isThere : entries.get? key = some (.map below)) :
      (Document.map entries).at? [.text key] = some (.map below) := by
    rw [Document.at?_map]
    exact Option.bind_eq_some_iff.mpr ⟨_, isThere, Document.at?_nil _⟩
  obtain ⟨table, isTable, member⟩ := holds
  rcases List.mem_cons.mp isTable with rfl | isLanguage
  · obtain ⟨rules, areThere, rule, isRule, areSettings⟩ :=
      exists_of_mem_readTable areRules member
    exact
      ⟨_, rule.2, _, .ofRule rule.1, distinct.at?_concat (under areThere) isRule,
        areSettings⟩
  · obtain ⟨language, inLanguages, rfl⟩ := List.mem_map.mp isLanguage
    obtain ⟨languages, areThere, own, isOwn, isTable⟩ :=
      exists_of_mem_readLanguages areLanguages inLanguages
    obtain ⟨rules, ofOwn, rule, isRule, areSettings⟩ :=
      exists_of_mem_readTable isTable member
    have ofLanguage := distinct.at?_concat (under areThere) isOwn
    rw [ofOwn] at ofLanguage
    exact
      ⟨_, rule.2, _, .ofLanguage own.1 rule.1,
        distinct.at?_concat ofLanguage isRule, areSettings⟩

/-- A configuration that is read from distinct entries holds trees. -/
theorem hasTrees_of_ofEntries
    {entries : Entries}
    {source : Option Path}
    {configuration : Configuration}
    (distinct : (Document.map entries).Distinct)
    (isRead : ofEntries entries source = .ok configuration) :
    configuration.HasTrees := by
  rintro table isTable ⟨id, settings⟩ member
  obtain ⟨place, value, label, _, isThere, areSettings⟩ :=
    exists_settingsPlace_of_ofEntries distinct isRead ⟨table, isTable, member⟩
  rcases eq_map_or_eq_nil_of_readSettings areSettings with rfl | rfl
  · exact distinct.at? isThere
  · exact Document.distinct_of_isDistinct _ rfl

/-- A configuration that is loaded from a text holds trees. -/
theorem hasTrees_of_ofText
    {text : String}
    {base : Path}
    {configuration : Configuration}
    (isLoaded : ofText surroundings text base = .ok configuration) :
    configuration.HasTrees := by
  obtain ⟨root, isRoot, isLoaded⟩ := exists_of_bind_eq_ok isLoaded
  obtain ⟨all, areMerged, isLoaded⟩ := exists_of_bind_eq_ok isLoaded
  exact hasTrees_of_ofEntries (Sheet.distinct_of_ofText isRoot areMerged) isLoaded

end Configuration

end HouseStyle
