import HouseStyle.Proofs.Configuration.AnchoringOnce

namespace HouseStyle

/-!
# What stops the reading of a sheet

A sheet that cannot be read is refused, with few exceptions. Each of them is
explained by something in what is read: a key of another type than a text, a value
that spells nothing, a reference that is too long an integer, a path that no disk
can hold or that starts from a home nobody knows, or bytes that are no text.
-/

/-- A failure that is a refusal, or else a defect that is explained. -/
def RefusedOr (explained : Defect → Prop) : ConfigFailure → Prop
  | .refused _ => True
  | .defect defect => explained defect

/-- What explains all that another explanation does may stand in its place. -/
theorem FailsOnly.explained
    {Value : Type}
    {explained further : Defect → Prop}
    {answer : Except ConfigFailure Value}
    (failsOnly : FailsOnly (RefusedOr explained) answer)
    (areAmong : ∀ defect, explained defect → further defect) :
    FailsOnly (RefusedOr further) answer := by
  refine failsOnly.mono fun failure isExpected => ?_
  cases failure with
  | refused fault => trivial
  | defect defect => exact areAmong defect isExpected

section Explained

variable {explained : Defect → Prop}

/-- A refusal needs no explanation. -/
theorem failsOnly_refused
    {Value : Type}
    (fault : ConfigFault) :
    FailsOnly (RefusedOr explained)
      (.error (.refused fault) : Except ConfigFailure Value) :=
  .error trivial

/-- Only a long integer has no text. -/
theorem failsOnly_textOf
    {value : Document}
    (isLong : value.isTooLong = true → explained .longInteger) :
    FailsOnly (RefusedOr explained) (textOf value) := by
  unfold textOf
  split
  · next isTooLong => exact .error (isLong isTooLong)
  · exact .ok _

/-- Keys are sorted, unless one of them is no text. -/
theorem failsOnly_sortedKeys (keys : List Scalar) :
    FailsOnly
      (fun defect => defect = .mixedTypes ∧ ∃ key ∈ keys, key.isText = false)
      (sortedKeys keys) := by
  unfold sortedKeys
  split
  · exact .ok _
  · next isNone =>
      obtain ⟨key, member, noText⟩ := exists_of_mapM_eq_none isNone
      refine .error ⟨rfl, key, member, ?_⟩
      cases key with
      | text text => cases noText
      | _ => rfl

/-- Strange keys are refused by name, unless one of them is no text. -/
theorem failsOnly_refuseStrangeKeys
    {known : List String}
    {fault : List String → ConfigFault}
    {entries : Entries}
    (isStrange :
      ∀ key ∈ strangeKeys known entries,
        key.isText = false →
        explained .mixedTypes) :
    FailsOnly (RefusedOr explained) (refuseStrangeKeys known fault entries) := by
  unfold refuseStrangeKeys
  split
  · exact .ok ()
  · next first rest areStrange =>
      rw [areStrange] at isStrange
      split
      · exact failsOnly_refused _
      · next defect isDefect =>
          obtain ⟨rfl, key, member, noText⟩ :=
            failsOnly_sortedKeys (first :: rest) defect isDefect
          exact .error (isStrange key member noText)

end Explained

/-! ## Texts and files -/

/-- What explains why a text is neither read nor refused. -/
inductive TextExplains (text : String) : Defect → Prop
  /-- It spells a value that does not exist. -/
  | badScalar {fault : Yaml.Fault} :
      Yaml.read text = .error fault →
      TextExplains text (.badScalar fault)
  /-- It has a key that it may not have, and that is no text. -/
  | strangeKey {reading : Yaml.Reading} {entries : Entries} {key : Scalar} :
      Yaml.read text = .ok reading →
      reading.document = .map entries →
      key ∈ strangeKeys configurationKeys entries →
      key.isText = false →
      TextExplains text .mixedTypes

/-- A text is read or refused, or it explains the defect. -/
theorem failsOnly_parseEntries (origin text : String) :
    FailsOnly (RefusedOr (TextExplains text)) (parseEntries origin text) := by
  unfold parseEntries
  split
  · exact failsOnly_refused _
  · next fault _ isFault =>
      exact .error (TextExplains.badScalar isFault)
  · next reading isReading =>
      split
      · exact .ok _
      · next entries isDocument =>
          refine FailsOnly.bind ?_ fun _ _ => .ok _
          refine failsOnly_refuseStrangeKeys fun key isStrange noText => ?_
          exact .strangeKey isReading isDocument isStrange noText
      · exact failsOnly_refused _

/-- What explains why a file is neither read nor refused. -/
inductive FileExplains
    (surroundings : Surroundings)
    (path : Path) :
    Defect → Prop
  | nul :
      '\x00' ∈ path.render.toList →
      FileExplains surroundings path (.badPath .embeddedNul)
  | undecodable {bytes : ByteArray} :
      surroundings.bytes path = .ok bytes →
      decodeStrict? bytes.toList = none →
      FileExplains surroundings path .undecodable
  | text {bytes : ByteArray} {text : String} {defect : Defect} :
      surroundings.bytes path = .ok bytes →
      decodeText bytes = .ok text →
      TextExplains text defect →
      FileExplains surroundings path defect

/-- Following names never meets a NUL. -/
theorem follow_ne_embeddedNul
    {Content : Type}
    (above : List (FileNode Content))
    (node : FileNode Content)
    (names : List String) :
    node.follow above names ≠ .error .embeddedNul := by
  induction names generalizing above node with
  | nil =>
      rintro ⟨⟩
  | cons name rest inductionHypothesis =>
      unfold FileNode.follow
      split
      · rintro ⟨⟩
      · split
        · split
          · exact inductionHypothesis _ _
          · exact inductionHypothesis _ _
        · split
          · rintro ⟨⟩
          · split
            · rintro ⟨⟩
            · exact inductionHypothesis _ _

/-- A path that is refused for a NUL has one. -/
theorem nul_mem_of_bytes
    {surroundings : Surroundings}
    {path : Path}
    (isRefused : surroundings.bytes path = .error .embeddedNul) :
    '\x00' ∈ path.render.toList := by
  by_contra notThere
  have isEntry :
      surroundings.entry path ≠ .error .embeddedNul := by
    unfold Surroundings.entry
    simp only
    rw [if_neg (by simpa using notThere)]
    split
    · rintro ⟨⟩
    · exact follow_ne_embeddedNul _ _ _
  unfold Surroundings.bytes at isRefused
  split at isRefused
  · cases isRefused
  · cases isRefused
  · next fault isFault =>
      cases isRefused
      exact isEntry isFault

/-- Bytes are a text, or they explain why they are none. -/
theorem failsOnly_decodeText (bytes : ByteArray) :
    FailsOnly
      (RefusedOr fun defect =>
        defect = .undecodable ∧ decodeStrict? bytes.toList = none)
      (decodeText bytes) := by
  unfold decodeText
  split
  · exact .ok _
  · next noText => exact .error ⟨rfl, noText⟩

/-- A file is read or refused, or it explains the defect. -/
theorem Sheet.failsOnly_ofFile
    (surroundings : Surroundings)
    (path : Path) :
    FailsOnly (RefusedOr (FileExplains surroundings path))
      (ofFile surroundings path) := by
  unfold ofFile
  split
  · next isRefused => exact .error (FileExplains.nul (nul_mem_of_bytes isRefused))
  · exact failsOnly_refused _
  · next bytes areBytes =>
      refine FailsOnly.bind ?_ fun text isText => ?_
      · refine (failsOnly_decodeText bytes).explained ?_
        rintro _ ⟨rfl, noText⟩
        exact .undecodable areBytes noText
      · refine FailsOnly.bind ?_ fun _ _ => .ok _
        refine (failsOnly_parseEntries _ text).explained ?_
        exact fun defect => .text areBytes isText

/-! ## References -/

/-- The name of a preset that has more bytes than a path or a part of it can have. -/
def IsTooLongName (name : String) : Prop :=
  let path := Path.ofString (name ++ ".yaml")
  greatestPathSize < path.render.utf8ByteSize ∨
    ∃ component ∈ path.components,
      greatestNameSize < component.utf8ByteSize

/-- What explains why what a reference stands for is neither read nor refused. -/
inductive ReferenceExplains
    (surroundings : Surroundings)
    (base : Path)
    (reference : Document) :
    Defect → Prop
  | longInteger :
      reference.isTooLong = true →
      ReferenceExplains surroundings base reference .longInteger
  | longName {name : List Char} :
      reference.asText.toList.drop Sheet.presetMark.length = name →
      IsTooLongName (String.ofList name) →
      ReferenceExplains surroundings base reference (.badPath .nameTooLong)
  | unknownHome :
      surroundings.expandHome? (Path.ofString reference.asText) = none →
      ReferenceExplains surroundings base reference .unknownHome
  | file {path : Path} {defect : Defect} :
      surroundings.expandHome? (Path.ofString reference.asText) = some path →
      FileExplains surroundings (base.join path) defect →
      ReferenceExplains surroundings base reference defect

/-- A name that is too long to be followed is among those to follow. -/
theorem exists_of_follow_nameTooLong
    {Content : Type}
    {above : List (FileNode Content)}
    {node : FileNode Content}
    {names : List String}
    (isRefused : node.follow above names = .error .nameTooLong) :
    ∃ name ∈ names, greatestNameSize < name.utf8ByteSize := by
  induction names generalizing above node with
  | nil =>
      cases isRefused
  | cons name rest inductionHypothesis =>
      have ofRest
          {above : List (FileNode Content)}
          {node : FileNode Content}
          (isRefused : node.follow above rest = .error .nameTooLong) :
          ∃ other ∈ name :: rest, greatestNameSize < other.utf8ByteSize := by
        obtain ⟨other, member, isLong⟩ := inductionHypothesis isRefused
        exact ⟨other, List.mem_cons_of_mem name member, isLong⟩
      unfold FileNode.follow at isRefused
      split at isRefused
      · cases isRefused
      · split at isRefused
        · split at isRefused
          · exact ofRest isRefused
          · exact ofRest isRefused
        · split at isRefused
          · next isLong => exact ⟨name, List.mem_cons_self .., isLong⟩
          · split at isRefused
            · cases isRefused
            · exact ofRest isRefused

namespace Sheet

/-- An expanded path is what the home directories make of it. -/
theorem expandHome?_of_expand
    {surroundings : Surroundings}
    {spelling : String}
    {path : Path}
    (isPath : expand surroundings spelling = .ok path) :
    surroundings.expandHome? (Path.ofString spelling) = some path := by
  unfold expand at isPath
  split at isPath
  · next isKnown =>
      cases isPath
      exact isKnown
  · cases isPath

/-- A preset is there, or there is none, or its name is too long. -/
theorem failsOnly_ofPreset (name : String) :
    FailsOnly
      (RefusedOr fun defect =>
        defect = .badPath .nameTooLong ∧ IsTooLongName name)
      (ofPreset name) := by
  have ofName :
      FailsOnly (fun fault => fault = .nameTooLong ∧ IsTooLongName name)
        (Packaged.preset? name) := by
    unfold Packaged.preset?
    simp only
    split
    · exact .ok none
    · split
      · next isLong => exact .error ⟨rfl, .inl isLong⟩
      · split
        · exact .ok _
        · next isRefused =>
            exact .error ⟨rfl, .inr (exists_of_follow_nameTooLong isRefused)⟩
        · exact .ok none
  unfold ofPreset
  split
  · next fault isFault =>
      obtain ⟨rfl, isLong⟩ := ofName fault isFault
      exact .error ⟨rfl, isLong⟩
  · exact .ok _
  · exact failsOnly_refused _

/-- The home that a path starts from is known, or the path explains the defect. -/
theorem failsOnly_expand
    (surroundings : Surroundings)
    (spelling : String) :
    FailsOnly
      (RefusedOr fun defect =>
        defect = .unknownHome ∧
          surroundings.expandHome? (Path.ofString spelling) = none)
      (expand surroundings spelling) := by
  unfold expand
  split
  · exact .ok _
  · next isUnknown => exact .error ⟨rfl, isUnknown⟩

/-- What a reference stands for is read or refused, or the defect is explained. -/
theorem failsOnly_referenced
    (surroundings : Surroundings)
    (base : Path)
    (reference : Document) :
    FailsOnly (RefusedOr (ReferenceExplains surroundings base reference))
      (referenced surroundings base reference) := by
  refine (failsOnly_textOf .longInteger).bind fun spelling isText => ?_
  have isSpelled : spelling = reference.asText := by
    unfold textOf at isText
    split at isText
    · cases isText
    · exact (Except.ok.inj isText).symm
  subst isSpelled
  unfold ofReference
  split
  · refine (failsOnly_ofPreset _).explained ?_
    rintro _ ⟨rfl, isLong⟩
    exact .longName rfl isLong
  · refine FailsOnly.bind ?_ fun path isPath => ?_
    · refine (failsOnly_expand surroundings _).explained ?_
      rintro _ ⟨rfl, isUnknown⟩
      exact .unknownHome isUnknown
    · refine (failsOnly_ofFile surroundings _).explained ?_
      exact fun defect => .file (expandHome?_of_expand isPath)

end Sheet

/-! ## Sheets -/

/-- How a word list is spelled in some parameters, anchored any number of times. -/
inductive SpellsWordList
    (surroundings : Surroundings)
    (base : Path)
    (params : Entries) :
    String → Prop
  | own {spelling : String} :
      params.get? "lexicon_file" = some (.text spelling) →
      SpellsWordList surroundings base params spelling
  | anchored {spelling : String} {path : Path} :
      SpellsWordList surroundings base params spelling →
      surroundings.expandHome? (Path.ofString spelling) = some path →
      SpellsWordList surroundings base params (base.join path).render

/-- A mapping whose word list starts from a home that is not known. -/
def NamesUnknownHome
    (surroundings : Surroundings)
    (base : Path)
    (params : Entries) :
    Prop :=
  ∃ spelling,
    SpellsWordList surroundings base params spelling ∧
      surroundings.expandHome? (Path.ofString spelling) = none

/-- What explains why a sheet with all that it extends directly cannot be read. -/
inductive Sheet.Explains
    (surroundings : Surroundings)
    (sheet : Sheet) :
    Defect → Prop
  | wordList {mapping : Nat × Entries} :
      mapping ∈ (Document.map sheet.entries).mappings sheet.origin →
      NamesUnknownHome surroundings sheet.base mapping.2 →
      Explains surroundings sheet .unknownHome
  | reference {references : List Document} {reference : Document} {defect : Defect} :
      referencesOf sheet.entries = .ok references →
      reference ∈ references →
      ReferenceExplains surroundings sheet.base reference defect →
      Explains surroundings sheet defect

section Anchoring

variable {surroundings : Surroundings} {base : Path}

/-- Whether some parameters are spelled as others, or anchored from them. -/
abbrev IsSpelledAs
    (surroundings : Surroundings)
    (base : Path)
    (own params : Entries) :
    Prop :=
  ∀ spelling,
    params.get? "lexicon_file" = some (.text spelling) →
    SpellsWordList surroundings base own spelling

/-- Anchored parameters are spelled as those that are anchored. -/
theorem isSpelledAs_of_anchorParams
    {own params changed : Entries}
    (isSpelled : IsSpelledAs surroundings base own params)
    (isAnchored : anchorParams surroundings base params = .ok changed) :
    IsSpelledAs surroundings base own changed := by
  unfold anchorParams at isAnchored
  split at isAnchored
  · next spelling isThere =>
      split at isAnchored
      · cases isAnchored
        exact isSpelled
      · obtain ⟨path, isPath, isAnchored⟩ := exists_of_bind_eq_ok isAnchored
        split at isAnchored
        · cases isAnchored
          exact isSpelled
        · cases isAnchored
          intro other isOther
          rw [Entries.get?_put_self, Option.some.injEq] at isOther
          cases isOther
          exact
            (isSpelled spelling isThere).anchored
              (Sheet.expandHome?_of_expand isPath)
  · cases isAnchored
    exact isSpelled

/-- The word list in some parameters is anchored, or it explains the defect. -/
theorem failsOnly_anchorParams
    {own params : Entries}
    (isSpelled : IsSpelledAs surroundings base own params) :
    FailsOnly
      (RefusedOr fun defect =>
        defect = .unknownHome ∧ NamesUnknownHome surroundings base own)
      (anchorParams surroundings base params) := by
  unfold anchorParams
  split
  · next spelling isThere =>
      split
      · exact .ok params
      · refine FailsOnly.bind ?_ fun path _ => ?_
        · refine (Sheet.failsOnly_expand surroundings spelling).explained ?_
          rintro _ ⟨rfl, isUnknown⟩
          exact ⟨rfl, spelling, isSpelled spelling isThere, isUnknown⟩
        · split <;> exact .ok _
  · exact .ok params

/-- However often it is anchored. -/
theorem failsOnly_anchorRepeatedly
    {own params : Entries}
    (isSpelled : IsSpelledAs surroundings base own params)
    (times : Nat) :
    FailsOnly
      (RefusedOr fun defect =>
        defect = .unknownHome ∧ NamesUnknownHome surroundings base own)
      (anchorRepeatedly surroundings base params times) := by
  induction times generalizing params with
  | zero =>
      exact .ok params
  | succ times inductionHypothesis =>
      refine (failsOnly_anchorParams isSpelled).bind fun changed isAnchored => ?_
      exact inductionHypothesis (isSpelledAs_of_anchorParams isSpelled isAnchored)

/-- What explains why some mappings cannot be anchored. -/
def MappingsExplain
    (surroundings : Surroundings)
    (base : Path)
    (mappings : List (Nat × Entries))
    (defect : Defect) :
    Prop :=
  defect = .unknownHome ∧
    ∃ mapping ∈ mappings, NamesUnknownHome surroundings base mapping.2

theorem MappingsExplain.mono
    {mappings others : List (Nat × Entries)}
    (areAmong : mappings ⊆ others) :
    ∀ defect,
      MappingsExplain surroundings base mappings defect →
      MappingsExplain surroundings base others defect := by
  rintro _ ⟨rfl, mapping, member, isUnknown⟩
  exact ⟨rfl, mapping, areAmong member, isUnknown⟩

mutual

/-- The word lists in a document are anchored, or a mapping explains the defect. -/
theorem Document.failsOnly_anchored
    {params : List Nat}
    {origin : Yaml.Origin} :
    (document : Document) →
    FailsOnly
      (RefusedOr (MappingsExplain surroundings base (document.mappings origin)))
      (document.anchored surroundings base params origin)
  | .map entries => by
      unfold Document.anchored
      cases origin with
      | map number table =>
          refine FailsOnly.bind ?_ fun changed areAnchored => ?_
          · refine (failsOnly_anchoredEntries entries).explained ?_
            exact MappingsExplain.mono (List.subset_cons_self _ _)
          · refine FailsOnly.bind ?_ fun _ _ => .ok _
            -- The values were anchored before: a text among them is as it was.
            have isSpelled : IsSpelledAs surroundings base entries changed := by
              intro spelling isThere
              exact
                .own
                  ((find?_scalar_of_anchoredEntries areAnchored _ _).mp isThere)
            refine (failsOnly_anchorRepeatedly isSpelled _).explained ?_
            rintro _ ⟨rfl, isUnknown⟩
            exact ⟨rfl, (number, entries), List.mem_cons_self .., isUnknown⟩
      | _ => exact .ok _
  | .list items => by
      unfold Document.anchored
      cases origin with
      | list origins => exact (failsOnly_anchoredItems items).map _
      | _ => exact .ok _
  | .scalar _ => .ok _
  | .pair _ _ => .ok _
  | .set _ => .ok _

/-- The same for the values of a mapping. -/
theorem failsOnly_anchoredEntries
    {params : List Nat}
    {origin : Yaml.Origin} :
    (entries : List (Scalar × Document)) →
    FailsOnly
      (RefusedOr
        (MappingsExplain surroundings base (mappingsOfEntries origin entries)))
      (anchoredEntries surroundings base params origin entries)
  | [] => .ok []
  | (key, value) :: rest => by
      refine FailsOnly.bind ?_ fun changed _ => FailsOnly.bind ?_ fun _ _ => .ok _
      · refine (Document.failsOnly_anchored value).explained ?_
        exact MappingsExplain.mono (List.subset_append_left _ _)
      · refine (failsOnly_anchoredEntries rest).explained ?_
        exact MappingsExplain.mono (List.subset_append_right _ _)

/-- The same for the items of a list. -/
theorem failsOnly_anchoredItems
    {params : List Nat}
    {origins : List Yaml.Origin} :
    (items : List Document) →
    FailsOnly
      (RefusedOr
        (MappingsExplain surroundings base (mappingsOfItems origins items)))
      (anchoredItems surroundings base params origins items)
  | [] => .ok []
  | item :: rest => by
      refine FailsOnly.bind ?_ fun changed _ => FailsOnly.bind ?_ fun _ _ => .ok _
      · refine (Document.failsOnly_anchored item).explained ?_
        exact MappingsExplain.mono (List.subset_append_left _ _)
      · refine (failsOnly_anchoredItems rest).explained ?_
        exact MappingsExplain.mono (List.subset_append_right _ _)

end

/-- The mappings of a part of a document are mappings of the document. -/
theorem mappings_subset_of_get?
    {origin : Yaml.Origin}
    {entries : Entries}
    {key : String}
    {part : Document}
    (isThere : entries.get? key = some part) :
    part.mappings (origin.under key) ⊆ (Document.map entries).mappings origin := by
  cases origin with
  | map number table =>
      obtain ⟨present, same, isEntry⟩ := Entries.exists_mem_of_find? isThere
      rw [Yaml.Origin.under, ← origin_at_congr same]
      exact fun mapping member =>
        List.mem_cons_of_mem _
          ((mappings_sublist_of_mem isEntry).subset member)
  | _ =>
      change part.mappings .plain ⊆ _
      rw [Document.mappings_plain]
      exact List.nil_subset _

/-- A part of a sheet is anchored, or a mapping of the sheet explains the defect. -/
theorem Sheet.failsOnly_anchoredPart
    {sheet : Sheet}
    {key : String}
    {paramsOf : Document → Yaml.Origin → List Nat}
    {entries : Entries}
    (sameValue : entries.get? key = sheet.entries.get? key) :
    FailsOnly (RefusedOr (sheet.Explains surroundings))
      (sheet.anchoredPart surroundings key paramsOf entries) := by
  unfold anchoredPart changeValue
  rw [sameValue]
  simp only
  cases isThere : sheet.entries.get? key with
  | none => exact .ok _
  | some part =>
      refine FailsOnly.bind ?_ fun _ _ => .ok _
      refine (Document.failsOnly_anchored part).explained ?_
      rintro _ ⟨rfl, mapping, member, isUnknown⟩
      exact .wordList (mappings_subset_of_get? isThere member) isUnknown

/-- A sheet is anchored, or it explains the defect. -/
theorem Sheet.failsOnly_anchored (sheet : Sheet) :
    FailsOnly (RefusedOr (sheet.Explains surroundings))
      (sheet.anchored surroundings) := by
  refine (failsOnly_anchoredPart rfl).bind fun changed isChanged => ?_
  exact failsOnly_anchoredPart (get?_of_changeValue (by decide) isChanged)

end Anchoring

end HouseStyle
