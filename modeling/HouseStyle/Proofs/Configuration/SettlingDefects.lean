import HouseStyle.Proofs.Configuration.FiveLayers
import HouseStyle.Proofs.Configuration.InheritanceDefects

namespace HouseStyle

/-!
# What stops the settling of a rule

Settings that a rule cannot have are refused, with few exceptions. Each of them is
explained by something that one layer holds: a key of another type than a text, an
integer that is too long to be written out, a word list that cannot be looked up or
is no text, a verb with parts, an order of visibilities that cannot be sorted, or a
pattern with a repetition count that is too large.
-/

open Rule (paramPlace)

/-- What explains why settings of a rule are neither taken nor refused. -/
inductive SettingsExplain
    (surroundings : Surroundings)
    (settings : Entries) :
    Defect → Prop
  | strangeKey {key : Scalar} :
      key ∈ strangeKeys ["enabled", "severity", "params"] settings →
      key.isText = false →
      SettingsExplain surroundings settings .mixedTypes
  | longInteger :
      (Document.map settings).isTooLong = true →
      SettingsExplain surroundings settings .longInteger
  | wordListPath {file : Document} :
      (Document.map settings).at? (paramPlace (.text "lexicon_file")) =
        some file →
      file.isEmpty = false →
      '\x00' ∈ (Path.ofString file.asText).render.toList →
      SettingsExplain surroundings settings (.badPath .embeddedNul)
  | wordListBytes {file : Document} {bytes : ByteArray} :
      (Document.map settings).at? (paramPlace (.text "lexicon_file")) =
        some file →
      file.isEmpty = false →
      surroundings.bytes (Path.ofString file.asText) = .ok bytes →
      decodeStrict? bytes.toList = none →
      SettingsExplain surroundings settings .undecodable
  | verb {items : List Document} {item : Document} :
      (Document.map settings).at? (paramPlace (.text "verbs")) =
        some (.list items) →
      item ∈ items →
      item.isHashable = false →
      SettingsExplain surroundings settings .nestedValue
  | order {items : List Document} :
      (Document.map settings).at? (paramPlace (.text "visibility_order")) =
        some (.list items) →
      Document.sortable items = false →
      SettingsExplain surroundings settings .mixedTypes
  | kind {kind : Scalar} {value : Document} :
      (Document.map settings).at? (paramPlace (.text "patterns") ++ [kind]) =
        some value →
      NamingConvention.keyKind? kind = none →
      kind.isText = false →
      SettingsExplain surroundings settings .mixedTypes
  | pattern {kind : Scalar} {spelling : String} {fault : PatternFault} :
      (Document.map settings).at? (paramPlace (.text "patterns") ++ [kind]) =
        some (.text spelling) →
      Pattern.read spelling = .error fault →
      fault.cause = .hugeCount →
      SettingsExplain surroundings settings .hugeCount
  | ignored {items : List Document} {item : Document} {fault : PatternFault} :
      (Document.map settings).at? (paramPlace (.text "ignore")) =
        some (.list items) →
      item ∈ items →
      Pattern.read item.asText = .error fault →
      fault.cause = .hugeCount →
      SettingsExplain surroundings settings .hugeCount

variable {surroundings : Surroundings}

/-! ## Checking settings -/

/-- A parameter is taken or refused, unless its key is a long integer. -/
theorem failsOnly_checkParam
    {explained : Defect → Prop}
    (rule : Rule)
    (place : String)
    {key : Scalar}
    (isLong : key.isTooLong = true → explained .longInteger)
    (value : Document) :
    FailsOnly (RefusedOr explained) (checkParam rule place key value) := by
  unfold checkParam
  split
  · refine (failsOnly_textOf ?_).bind fun name _ => failsOnly_refused _
    exact isLong
  · split
    · exact .ok ()
    · exact failsOnly_refused _

/-- Settings are checked, or they explain the defect. -/
theorem failsOnly_checkSettings
    (surroundings : Surroundings)
    (rule : Rule)
    (place : String)
    (settings : Entries) :
    FailsOnly (RefusedOr (SettingsExplain surroundings settings))
      (checkSettings rule place settings) := by
  have ofValue
      {key : String}
      {value : Document}
      (isThere : settings.get? key = some value)
      (isTooLong : value.isTooLong = true) :
      SettingsExplain surroundings settings .longInteger :=
    .longInteger (isTooLong_of_get? isThere isTooLong)
  refine FailsOnly.bind ?_ fun _ _ => FailsOnly.bind ?_ fun _ _ => ?_
  · exact failsOnly_refuseStrangeKeys fun _ => .strangeKey
  · unfold checkEnabled
    split
    · exact .ok ()
    · exact .ok ()
    · exact failsOnly_refused _
  · refine FailsOnly.bind ?_ fun _ _ => ?_
    · unfold checkSeverity
      split
      · exact .ok ()
      · next value isThere =>
          exact (failsOnly_readSeverity (ofValue isThere) place).map _
    · unfold checkParams
      split
      · exact .ok ()
      · next entries isThere =>
          refine .forM fun entry member => ?_
          refine failsOnly_checkParam rule place (fun isKey => ?_) entry.2
          refine ofValue isThere (isTooLong_of_mem_entries member ?_)
          rw [isKey, Bool.true_or]
      · exact failsOnly_refused _

/-- What some documents explain, one of them. -/
def OneExplains
    (surroundings : Surroundings)
    (documents : List Entries)
    (defect : Defect) :
    Prop :=
  ∃ document ∈ documents, SettingsExplain surroundings document defect

/-- Layers are accepted or refused, or one of them explains the defect. -/
theorem failsOnly_layered
    (surroundings : Surroundings)
    (rule : Rule)
    (settings : Entries)
    (layers : List Layer) :
    FailsOnly
      (RefusedOr
        (OneExplains surroundings
          ((layers.map Layer.table).filterMap (·.lookup rule.id))))
      (layered rule settings layers) := by
  induction layers generalizing settings with
  | nil =>
      exact .ok settings
  | cons layer rest inductionHypothesis =>
      rw [layered, List.map_cons]
      split
      · next isNone =>
          rw [List.filterMap_cons_none isNone]
          exact inductionHypothesis settings
      · next upper isSome =>
          rw [List.filterMap_cons_some isSome]
          refine FailsOnly.bind ?_ fun _ _ => ?_
          · refine (failsOnly_checkSettings surroundings rule _ upper).explained ?_
            exact fun defect explains => ⟨upper, List.mem_cons_self .., explains⟩
          · refine (inductionHypothesis _).explained ?_
            rintro defect ⟨document, member, explains⟩
            exact ⟨document, List.mem_cons_of_mem _ member, explains⟩

/-! ## Words -/

/-- A word list is read or refused, or its file explains the defect. -/
theorem failsOnly_readLexicon
    {explained : Defect → Prop}
    {spelling : String}
    (isNul :
      '\x00' ∈ (Path.ofString spelling).render.toList →
      explained (.badPath .embeddedNul))
    (noText :
      ∀ bytes,
        surroundings.bytes (Path.ofString spelling) = .ok bytes →
        decodeStrict? bytes.toList = none →
        explained .undecodable) :
    FailsOnly (RefusedOr explained) (readLexicon surroundings spelling) := by
  unfold readLexicon
  split
  · next isRefused => exact .error (isNul (nul_mem_of_bytes isRefused))
  · exact failsOnly_refused _
  · next bytes areBytes =>
      refine FailsOnly.map ?_ _
      refine (failsOnly_decodeText bytes).explained ?_
      rintro _ ⟨rfl, isNone⟩
      exact noText bytes areBytes isNone

/-- Equal values are found, unless a value has parts. -/
theorem failsOnly_distinct
    {explained : Defect → Prop}
    {items : List Document}
    (hasParts :
      ∀ item ∈ items, item.isHashable = false → explained .nestedValue)
    (found : List Document) :
    FailsOnly (RefusedOr explained) (distinct found items) := by
  induction items generalizing found with
  | nil =>
      exact .ok []
  | cons item rest inductionHypothesis =>
      obtain ⟨ofFirst, ofRest⟩ := List.forall_mem_cons.mp hasParts
      rw [distinct]
      split
      · next notHashable => exact .error (ofFirst (by simpa using notHashable))
      · split
        · exact inductionHypothesis ofRest found
        · exact (inductionHypothesis ofRest (item :: found)).map _

/-- Words are added, or the file or a verb explains the defect. -/
theorem failsOnly_addLexicon
    {explained : Defect → Prop}
    {params : Entries}
    (isNul :
      ∀ file,
        params.get? "lexicon_file" = some file →
        file.isEmpty = false →
        '\x00' ∈ (Path.ofString file.asText).render.toList →
        explained (.badPath .embeddedNul))
    (noText :
      ∀ file bytes,
        params.get? "lexicon_file" = some file →
        file.isEmpty = false →
        surroundings.bytes (Path.ofString file.asText) = .ok bytes →
        decodeStrict? bytes.toList = none →
        explained .undecodable)
    (hasParts :
      ∀ items,
        params.get? "verbs" = some (.list items) →
        ∀ item ∈ items, item.isHashable = false → explained .nestedValue) :
    FailsOnly (RefusedOr explained) (addLexicon surroundings params) := by
  unfold addLexicon
  split
  · exact .ok params
  · next file isFile =>
      obtain ⟨isThere, notEmpty⟩ := Option.filter_eq_some_iff.mp isFile
      rw [Bool.not_eq_true'] at notEmpty
      refine FailsOnly.bind ?_ fun words _ => ?_
      · refine failsOnly_readLexicon ?_ ?_
        · exact isNul file isThere notEmpty
        · exact fun bytes => noText file bytes isThere notEmpty
      · refine FailsOnly.bind ?_ fun _ _ => .ok _
        refine failsOnly_distinct (fun item member notHashable => ?_) []
        rcases List.mem_append.mp member with isOwn | isWord
        · split at isOwn
          · next items areItems => exact hasParts items areItems item isOwn notHashable
          · cases isOwn
        · obtain ⟨word, _, rfl⟩ := List.mem_map.mp isWord
          cases notHashable

/-! ## Values that rules refuse -/

/-- A fault of parameters that is refused, or a defect that is explained. -/
def ParamFault.IsExplained (explained : Defect → Prop) : ParamFault → Prop
  | .mixedTypes => explained .mixedTypes
  | .hugeCount => explained .hugeCount
  | _ => True

section Validation

variable
  {explained : Defect → Prop}
  {params : Entries}

/-- What is wrong with a pattern is refused, unless a count in it is too large. -/
theorem ParamFault.isExplained_ofPattern
    {fault : PatternFault}
    {placed : ParamFault}
    (isHuge : fault.cause = .hugeCount → explained .hugeCount)
    (isPlaced : placed.IsExplained explained) :
    (ofPattern fault placed).IsExplained explained := by
  unfold ofPattern
  split
  · next isCause => exact isHuge isCause
  · split
    · trivial
    · exact isPlaced

/-- What fits where an integer stands is one. -/
theorem exists_int_of_fits
    {default : Int}
    {value : Document}
    (isFitting : fits (.int default) value = true) :
    ∃ found, value = .int found := by
  cases value with
  | scalar scalar =>
      cases scalar with
      | int found => exact ⟨found, rfl⟩
      | moment moment => cases moment <;> cases isFitting
      | _ => cases isFitting
  | _ => cases isFitting

/-- What fits where a text stands is one. -/
theorem exists_text_of_fits
    {default : String}
    {value : Document}
    (isFitting : fits (.text default) value = true) :
    ∃ found, value = .text found := by
  cases value with
  | scalar scalar =>
      cases scalar with
      | text found => exact ⟨found, rfl⟩
      | moment moment => cases moment <;> cases isFitting
      | _ => cases isFitting
  | _ => cases isFitting

/-- What fits where a list stands is one. -/
theorem exists_list_of_fits
    {default : List Document}
    {value : Document}
    (isFitting : fits (.list default) value = true) :
    ∃ items, value = .list items := by
  cases value with
  | list items => exact ⟨items, rfl⟩
  | scalar scalar => exact (VerbNamedMethod.not_fits_list_scalar scalar isFitting).elim
  | _ => cases isFitting

/-- Limits of the right types are taken or refused. -/
theorem Limits.failsOnly_validate
    {soft hard : Int}
    {severity : Severity}
    (fit : Entries.Fit (Limits.params soft hard severity) params) :
    FailsOnly (ParamFault.IsExplained explained) (validate params) := by
  obtain ⟨softValue, isSoft, softFits⟩ :=
    fit.get? (rfl : Entries.get? _ "soft_limit" = some (.int soft))
  obtain ⟨hardValue, isHard, hardFits⟩ :=
    fit.get? (rfl : Entries.get? _ "hard_limit" = some (.int hard))
  obtain ⟨severityValue, isSeverity, _⟩ :=
    fit.get? (rfl : Entries.get? _ "soft_severity" = some (.text severity.name))
  obtain ⟨softLimit, rfl⟩ := exists_int_of_fits softFits
  obtain ⟨hardLimit, rfl⟩ := exists_int_of_fits hardFits
  unfold validate
  simp only [isSoft, isHard, isSeverity]
  split
  · exact .error trivial
  · split
    · exact .error trivial
    · split
      · split
        · exact .ok ()
        · exact .error trivial
      · exact .error trivial

/-- A number of blank lines is taken or refused. -/
theorem MethodSeparation.failsOnly_validate
    (fit : Entries.Fit methodSeparation.defaultParams params) :
    FailsOnly (ParamFault.IsExplained explained) (validate params) := by
  obtain ⟨value, isThere, isFitting⟩ :=
    fit.get? (rfl : Entries.get? _ "blank_lines" = some (.int 2))
  obtain ⟨count, rfl⟩ := exists_int_of_fits isFitting
  unfold validate
  simp only [isThere]
  split
  · exact .error trivial
  · exact .ok ()

/-- An order of visibilities is taken or refused, unless it cannot be sorted. -/
theorem DeclarationOrder.failsOnly_validate
    (fit : Entries.Fit declarationOrder.defaultParams params)
    (isMixed :
      ∀ items,
        params.get? "visibility_order" = some (.list items) →
        Document.sortable items = false →
        explained .mixedTypes) :
    FailsOnly (ParamFault.IsExplained explained) (validate params) := by
  obtain ⟨order, isOrder, orderFits⟩ :=
    fit.get?
      (rfl :
        declarationOrder.defaultParams.get? "visibility_order" =
          some (.list (visibilityNames.map .text)))
  obtain ⟨default, isDefault, defaultFits⟩ :=
    fit.get?
      (rfl :
        declarationOrder.defaultParams.get? "default_visibility" =
          some (.text Visibility.everyone.name))
  obtain ⟨items, rfl⟩ := exists_list_of_fits orderFits
  obtain ⟨name, rfl⟩ := exists_text_of_fits defaultFits
  have ofDefault :
      FailsOnly (ParamFault.IsExplained explained)
        (if !visibilityNames.contains name then
          .error (.unknownVisibility (.text name))
        else
          .ok ()) := by
    split
    · exact .error trivial
    · exact .ok ()
  unfold validate
  simp only [isOrder, isDefault]
  split
  · split
    · exact .error trivial
    · exact ofDefault
  · split
    · exact .error trivial
    · next notSortable =>
        exact .error (isMixed items isOrder (by simpa using notSortable))

/-- Patterns are taken or refused, unless a key is no text or a count too large. -/
theorem NamingConvention.failsOnly_validate
    (fit : Entries.Fit namingConvention.defaultParams params)
    (isStrange :
      ∀ patterns kind value,
        params.get? "patterns" = some (.map patterns) →
        (kind, value) ∈ patterns →
        keyKind? kind = none →
        kind.isText = false →
        explained .mixedTypes)
    (isHuge :
      ∀ patterns kind spelling fault,
        params.get? "patterns" = some (.map patterns) →
        (kind, Document.text spelling) ∈ patterns →
        Pattern.read spelling = .error fault →
        fault.cause = .hugeCount →
        explained .hugeCount) :
    FailsOnly (ParamFault.IsExplained explained) (validate params) := by
  have isDefault :
      ∃ patterns : Entries,
        namingConvention.defaultParams.get? "patterns" = some (.map patterns) :=
    ⟨_, rfl⟩
  obtain ⟨defaults, isDefault⟩ := isDefault
  obtain ⟨value, isThere, isFitting⟩ := fit.get? isDefault
  obtain ⟨patterns, rfl⟩ := exists_map_of_fits isFitting
  unfold validate
  simp only [isThere]
  split
  · refine .forM fun entry member => ?_
    obtain ⟨kind, value⟩ := entry
    simp only [validatePattern]
    split
    · next spelling =>
        split
        · exact .ok ()
        · next fault isFault =>
            refine .error (ParamFault.isExplained_ofPattern ?_ trivial)
            exact isHuge patterns kind spelling fault isThere member isFault
    · exact .error trivial
  · split
    · exact .error trivial
    · next isNone =>
        obtain ⟨kind, isUnknown, noText⟩ := exists_of_mapM_eq_none isNone
        obtain ⟨isKey, notKnown⟩ := List.mem_filter.mp isUnknown
        obtain ⟨⟨kind, value⟩, member, rfl⟩ := List.mem_map.mp isKey
        refine .error (isStrange patterns kind value isThere member ?_ ?_)
        · simpa using notKnown
        · cases kind with
          | text name => cases noText
          | _ => rfl

/-- Patterns are taken or refused, unless a count in one is too large. -/
theorem VerbNamedMethod.failsOnly_validate
    (fit : Entries.Fit verbNamedMethod.defaultParams params)
    (isHuge :
      ∀ items item fault,
        params.get? "ignore" = some (.list items) →
        item ∈ items →
        Pattern.read item.asText = .error fault →
        fault.cause = .hugeCount →
        explained .hugeCount) :
    FailsOnly (ParamFault.IsExplained explained) (validate params) := by
  obtain ⟨value, isThere, isFitting⟩ :=
    fit.get?
      (rfl : verbNamedMethod.defaultParams.get? "ignore" = some (.list []))
  obtain ⟨items, rfl⟩ := exists_list_of_fits isFitting
  unfold validate
  simp only [isThere]
  refine .forM fun item member => ?_
  unfold validateIgnored
  split
  · exact .error trivial
  · split
    · exact .ok ()
    · next fault isFault =>
        refine .error (ParamFault.isExplained_ofPattern ?_ trivial)
        exact isHuge items item fault isThere member isFault

end Validation

end HouseStyle
