import HouseStyle.Proofs.Configuration.Fitting
import HouseStyle.Proofs.Source.RowLines

namespace HouseStyle

/-!
# Rules that answer

The rules that go by the structure of a file look up their parameters and parts of
the model. Parameters that fit and have passed a rule's validation hold whatever
the rule asks of them, and a model that was built holds whatever it looks up. What
remains are integers too long to be written out: no check keeps them from the
number of blank lines between methods, nor from verbs.
-/

namespace Entries

/-- Parameters whose integers can be written out where no check asks for that. -/
def AreWritable (params : Entries) : Prop :=
  ∀ name ∈ ["blank_lines", "verbs"],
  ∀ value,
    params.get? name = some value →
    value.isTooLong = false

instance (params : Entries) : Decidable params.AreWritable :=
  decidable_of_iff
    (∀ name ∈ ["blank_lines", "verbs"],
      ((params.get? name).all fun value => !value.isTooLong) = true)
    (by simp [AreWritable, Option.all_eq_true])

variable {defaults params : Entries}

/-- A parameter with a default can be read. -/
theorem Fit.exists_param
    (fit : Fit defaults params)
    {name : String}
    {default : Document}
    (isDefault : defaults.get? name = some default) :
    ∃ value, params.param name = .ok value ∧ params.get? name = some value := by
  obtain ⟨value, isThere, _⟩ := fit.get? isDefault
  exact ⟨value, by simp [param, isThere], isThere⟩

theorem Fit.answers_flagParam
    (fit : Fit defaults params)
    {name : String}
    {default : Document}
    (isDefault : defaults.get? name = some default) :
    Answers (params.flagParam name) := by
  obtain ⟨value, isThere, _⟩ := fit.exists_param isDefault
  rw [flagParam, isThere]
  exact .ok _

/-- A parameter that holds a list gives its items. -/
theorem elementsParam_of_list
    {name : String}
    {items : List Document}
    (isList : params.get? name = some (.list items)) :
    params.elementsParam name = .ok items := by
  simp only [elementsParam, param, isList, ok_bind, Document.elements?]
  rfl

end Entries

/-! ## Limits -/

theorem Severity.name_of_ofName?
    {name : String}
    {severity : Severity}
    (isFound : Severity.ofName? name = some severity) :
    severity.name = name := by
  unfold ofName? at isFound
  have isNamed := List.find?_some isFound
  exact eq_of_beq isNamed

namespace Limits

/-- Two limits in order, and a severity. -/
structure Accepted
    (params : Entries)
    (soft hard : Int)
    (severity : Severity) :
    Prop where
  read :
    ofParams params =
      .ok
        { soft := .int soft
          hard := .int hard
          softSeverity := .text severity.name }
  notNegative : 0 ≤ soft
  inOrder : soft ≤ hard

/-- What a rule with limits accepts are two limits in order and a severity. -/
theorem exists_accepted
    {params : Entries}
    (accepted : validate params = .ok ()) :
    ∃ soft hard severity, Accepted params soft hard severity := by
  unfold validate at accepted
  split at accepted
  case h_2 => cases accepted
  case h_1 soft hard value isSoft isHard isSeverity =>
    split at accepted
    case isTrue => cases accepted
    case isFalse inOrder =>
      split at accepted
      case isTrue => cases accepted
      case isFalse notNegative =>
        split at accepted
        case h_2 => cases accepted
        case h_1 name =>
          cases isName : Severity.ofName? name with
          | none =>
              rw [isName] at accepted
              cases accepted
          | some severity =>
              have sameName := Severity.name_of_ofName? isName
              refine
                ⟨soft, hard, severity,
                  { read := ?_
                    notNegative := Int.not_lt.mp notNegative
                    inOrder := Int.not_lt.mp inOrder }⟩
              simp only [ofParams, Entries.param, isSoft, isHard, isSeverity,
                ok_bind, sameName]
              rfl

/-- How a rule with limits can fail: a limit that is exceeded may be too long. -/
def IsExpected (size : Nat) (fault : RuleFault) : Prop :=
  fault = .longInteger ∧ 10 ^ greatestDigitCount < size

/-- A limit that is exceeded can be written out unless the measure is too long. -/
theorem failsOnly_shownLimit
    {limit : Int}
    {size : Nat}
    (notNegative : 0 ≤ limit)
    (exceeded : limit < size) :
    FailsOnly (IsExpected size) (shownLimit (.int limit)) := by
  unfold shownLimit
  split
  · next isTooLong =>
      refine .error ⟨rfl, ?_⟩
      simp only [Document.isTooLong, Scalar.isTooLong, decide_eq_true_eq,
        Nat.pow_eq] at isTooLong
      generalize 10 ^ greatestDigitCount = bound at isTooLong ⊢
      omega
  · exact .ok _

/-- Accepted limits give an answer unless something measured is too long. -/
theorem Accepted.failsOnly_findings
    {Measured : Type}
    {params : Entries}
    {soft hard : Int}
    {softSeverity : Severity}
    (accepted : Accepted params soft hard softSeverity)
    (severity : Severity)
    {measure : Measured → Nat}
    (finding : Measured → Severity → Document → String → Finding)
    {items : List Measured}
    {size : Nat}
    (areBounded : ∀ item ∈ items, measure item ≤ size) :
    FailsOnly (IsExpected size)
      (findings
        { soft := .int soft
          hard := .int hard
          softSeverity := .text softSeverity.name }
        severity measure finding items) := by
  induction items with
  | nil =>
      exact .ok []
  | cons item rest inductionHypothesis =>
      obtain ⟨isBounded, othersBounded⟩ := List.forall_mem_cons.mp areBounded
      have ofOthers := inductionHypothesis othersBounded
      have hardNotNegative : 0 ≤ hard :=
        Int.le_trans accepted.notNegative accepted.inOrder
      have shows
          {limit : Int}
          (notNegative : 0 ≤ limit)
          (exceeded : limit < measure item) :
          FailsOnly (IsExpected size) (shownLimit (.int limit)) :=
        failsOnly_shownLimit notNegative
          (Int.lt_of_lt_of_le exceeded (Int.ofNat_le.mpr isBounded))
      have readsSeverity :
          readSoftSeverity (.text softSeverity.name) = .ok softSeverity := by
        simp [readSoftSeverity, Document.isTooLong, Scalar.isTooLong,
          Severity.ofName?_name]
      have exceedsHard :
          exceeds (measure item) (.int hard) =
            .ok (decide (hard < measure item)) := rfl
      have exceedsSoft :
          exceeds (measure item) (.int soft) =
            .ok (decide (soft < measure item)) := rfl
      -- A message shows only a limit that is exceeded, and thus is smaller.
      by_cases aboveHard : hard < measure item
      · simp only [findings, breach?, exceedsHard, ok_bind, aboveHard,
          decide_true, ↓reduceIte, pure_bind]
        refine (shows hardNotNegative aboveHard).bind fun _ _ => ?_
        exact ofOthers.bind fun _ _ => .ok _
      · by_cases aboveSoft : soft < measure item
        · simp only [findings, breach?, exceedsHard, exceedsSoft, ok_bind,
            aboveHard, aboveSoft, decide_true, decide_false, ↓reduceIte,
            Bool.false_eq_true, readsSeverity, pure_bind]
          refine (shows accepted.notNegative aboveSoft).bind fun _ _ => ?_
          exact ofOthers.bind fun _ _ => .ok _
        · simp only [findings, breach?, exceedsHard, exceedsSoft, ok_bind,
            aboveHard, aboveSoft, decide_false, ↓reduceIte,
            Bool.false_eq_true, pure_bind]
          exact ofOthers

end Limits

/-! ## Blank lines -/

namespace BlankLinePlacement

variable
  {source : SourceFile}
  {model : SourceModel}
  (holds : model.HoldsRows source)

include holds

theorem answers_touches
    {row : Statement}
    (member : row ∈ model.statements)
    (afterLine : Nat) :
    Answers (touches model afterLine row.startLine) :=
  (holds.answers_blankLinesBetween member afterLine).bind fun _ _ => .ok _

theorem answers_finding
    (severity : Severity)
    {row : Statement}
    (member : row ∈ model.statements)
    (subject : String) :
    Answers (precedes model severity row subject) ∧
      Answers (follows model severity row subject) := by
  obtain ⟨atFirst, atLast⟩ := holds.answers_columnOf member
  exact ⟨atFirst.bind fun _ _ => .ok _, atLast.bind fun _ _ => .ok _⟩

omit holds in
/-- A finding is reported or not where it is known whether it is. -/
theorem answers_reportIf
    {isMissing : Except RuleFault Bool}
    {finding : Except RuleFault Finding}
    (isKnown : Answers isMissing)
    (canBeMade : Answers finding) :
    Answers (reportIf isMissing finding) := by
  refine isKnown.bind fun missing _ => ?_
  cases missing
  · exact .ok []
  · exact canBeMade.map _

theorem answers_touchesBefore
    {row : Statement}
    (member : row ∈ model.statements)
    (before : Option Statement) :
    Answers (touchesBefore model before row) := by
  cases before with
  | none => exact .ok false
  | some before => exact answers_touches holds member before.endLine

/-- It is known whether a statement touches the one behind it. -/
theorem answers_touchesAfter
    (row : Statement)
    {after : Option Statement}
    (areMembers : ∀ sibling ∈ after, sibling ∈ model.statements) :
    Answers (touchesAfter model row after) := by
  cases after with
  | none => exact .ok false
  | some after =>
      have member := areMembers after rfl
      refine ((holds.answers_ownBlock member).bind fun _ _ => .ok _).bind ?_
      intro continues _
      cases continues
      · exact answers_touches holds member row.endLine
      · exact .ok false

/-- The rule answers for every statement of a model. -/
theorem answers_findingsAt
    (checkReturns : Bool)
    (severity : Severity)
    {row : Statement}
    (member : row ∈ model.statements) :
    Answers (findingsAt checkReturns severity model row) := by
  obtain ⟨before, after, areSiblings, _, areMembers⟩ :=
    holds.exists_siblings member
  have touchesAbove := answers_touchesBefore holds member before
  rw [findingsAt, areSiblings, ok_bind]
  simp only
  split
  · split
    · exact answers_reportIf touchesAbove (answers_finding holds _ member _).1
    · exact .ok []
  · refine (holds.answers_ownBlock member).bind fun block _ => ?_
    cases block with
    | none => exact .ok []
    | some block =>
        obtain ⟨precedes, follows⟩ :=
          answers_finding holds severity member (label block)
        have preceded := answers_reportIf touchesAbove precedes
        have followed :=
          answers_reportIf (answers_touchesAfter holds row areMembers) follows
        simp only
        split
        · exact followed.bind fun _ _ => .ok _
        · exact preceded.bind fun _ _ => followed.bind fun _ _ => .ok _

theorem answers_findings
    (checkReturns : Bool)
    (severity : Severity) :
    Answers (findings checkReturns severity model) := by
  refine (FailsOnly.mapM fun row member => ?_).map _
  exact
    answers_findingsAt holds checkReturns severity (Array.mem_toList_iff.mp member)

end BlankLinePlacement

namespace MethodSeparation

variable
  {source : SourceFile}
  {model : SourceModel}
  (holds : model.HoldsRows source)

include holds

/-- How the rule can fail: the number of lines may be too long to be written out. -/
def IsExpected (expected : Document) (fault : RuleFault) : Prop :=
  fault = .longInteger ∧ expected.isTooLong = true

/-- The rule answers for two statements that follow each other. -/
theorem failsOnly_findingsAt
    (expected : Document)
    (severity : Severity)
    (first : Statement)
    {second : Statement}
    (member : second ∈ model.statements) :
    FailsOnly (IsExpected expected)
      (findingsAt expected severity model first second) := by
  refine (holds.answers_blankLinesBetween member first.endLine).failsOnly.bind ?_
  intro found _
  simp only
  split
  · exact .ok []
  · refine (holds.answers_columnOf member).1.failsOnly.bind fun column _ => ?_
    split
    · next isTooLong => exact .error ⟨rfl, isTooLong⟩
    · exact .ok _

/-- The rule answers for every type of a model. -/
theorem failsOnly_findingsIn
    (expected : Document)
    (severity : Severity)
    {block : Block}
    (member : block ∈ model.blocks) :
    FailsOnly (IsExpected expected) (findingsIn expected severity model block) := by
  refine (FailsOnly.mapM ?_).map _
  rintro ⟨previous, current⟩ isPair
  obtain ⟨inBody, alsoInBody⟩ := List.of_mem_zip isPair
  obtain ⟨first, _, foundFirst⟩ :=
    holds.exists_of_mem_body member (Array.mem_toList_iff.mp inBody)
  obtain ⟨second, isRow, foundSecond⟩ :=
    holds.exists_of_mem_body member
      (Array.mem_toList_iff.mp (List.mem_of_mem_tail alsoInBody))
  simp only [findingsBetween]
  split
  · rw [foundFirst, foundSecond]
    exact failsOnly_findingsAt holds expected severity first isRow
  · exact .ok []

/-- The rule answers for every model, if the number of lines can be written out. -/
theorem failsOnly_findings
    (expected : Document)
    (severity : Severity) :
    FailsOnly (IsExpected expected) (findings expected severity model) := by
  refine (FailsOnly.mapM fun block isType => ?_).map _
  have member := Array.mem_toList_iff.mp (List.mem_of_mem_filter isType)
  exact failsOnly_findingsIn holds expected severity member

end MethodSeparation

/-! ## The order of declarations -/

namespace DeclarationOrder

/-- A list of nothing but texts is the list of these texts. -/
theorem eq_map_of_allTexts?
    {items : List Document}
    {names : List String}
    (areTexts : allTexts? items = some names) :
    items = names.map .text := by
  unfold allTexts? at areTexts
  induction items generalizing names with
  | nil =>
      cases areTexts
      rfl
  | cons item rest inductionHypothesis =>
      rw [List.mapM_cons] at areTexts
      obtain ⟨name, isText, areTexts⟩ := Option.bind_eq_some_iff.mp areTexts
      obtain ⟨others, areOthers, areTexts⟩ := Option.bind_eq_some_iff.mp areTexts
      cases areTexts
      rw [inductionHypothesis areOthers, List.map_cons]
      split at isText
      · cases isText
        rfl
      · cases isText

/-- An order that the rule accepts, and the visibility of a method without one. -/
structure Accepted (params : Entries) (names : List String) (name : String) :
    Prop where
  visibilities :
    params.get? "visibility_order" = some (.list (names.map .text))
  default : params.get? "default_visibility" = some (.text name)
  listsAll : ∀ visibility ∈ visibilityNames, visibility ∈ names
  listsNoOther : ∀ visibility ∈ names, visibility ∈ visibilityNames
  isListed : name ∈ visibilityNames

/-- What the rule accepts is an order of all visibilities, and one of them. -/
theorem exists_accepted
    {params : Entries}
    (accepted : validate params = .ok ()) :
    ∃ names name, Accepted params names name := by
  unfold validate at accepted
  simp only at accepted
  split at accepted
  case h_2 => cases accepted
  case h_1 items isOrder =>
    split at accepted
    case h_2 => split at accepted <;> cases accepted
    case h_1 names areTexts =>
      split at accepted
      case isTrue => cases accepted
      case isFalse isPerm =>
        split at accepted
        case h_2 => cases accepted
        case h_1 name isDefault =>
          split at accepted
          case isTrue => cases accepted
          case isFalse isListed =>
            simp only [Bool.not_eq_true', Bool.not_eq_false] at isPerm isListed
            refine
              ⟨names, name,
                { visibilities := ?_
                  default := isDefault
                  listsAll := fun visibility member => ?_
                  listsNoOther := fun visibility member => ?_
                  isListed := List.contains_iff_mem.mp isListed }⟩
            · rw [isOrder, eq_map_of_allTexts? areTexts]
            · exact (List.isPerm_iff.mp isPerm).mem_iff.mpr member
            · exact (List.isPerm_iff.mp isPerm).mem_iff.mp member

/-- Methods are ordered by one of the visibilities, whichever they state. -/
theorem exists_visibilityOf
    (names : List String)
    {name : String}
    (isListed : name ∈ visibilityNames)
    (declaration : Declaration) :
    ∃ visibility ∈ visibilityNames,
      MethodOrder.visibilityOf
          { visibilities := names.map .text, default := .text name }
          declaration =
        .text visibility := by
  unfold MethodOrder.visibilityOf
  split
  · exact ⟨name, isListed, rfl⟩
  · next isStated =>
      refine ⟨declaration.visibility.name, ?_, rfl⟩
      revert isStated
      cases declaration.visibility <;> decide

/-- With parameters that it accepts, the rule says what it finds by their order. -/
theorem Accepted.check_eq
    {settings : RuleSettings}
    {names : List String}
    {name : String}
    (accepted : Accepted settings.params names name)
    (model : SourceModel) :
    declarationOrder.check model settings =
      .ok
        (findings { visibilities := names.map .text, default := .text name }
          settings.severity model) := by
  have isRead :
      MethodOrder.ofParams settings.params =
        .ok { visibilities := names.map .text, default := .text name } := by
    have noneTooLong :
        (names.map Document.text).any Document.isTooLong = false := by
      simp [Document.isTooLong, Scalar.isTooLong]
    simp only [MethodOrder.ofParams, Entries.param,
      Entries.elementsParam_of_list accepted.visibilities, accepted.default,
      ok_bind, noneTooLong, Bool.false_eq_true, ↓reduceIte]
    rfl
  have noneUnlisted :
      unlisted? { visibilities := names.map .text, default := .text name }
        model = none := by
    unfold unlisted?
    simp only [List.findSome?_eq_none_iff]
    intro block _ declaration _
    obtain ⟨visibility, isVisibility, isOrderedBy⟩ :=
      exists_visibilityOf names accepted.isListed declaration
    have isThere :
        (names.map Document.text).any (Document.text visibility).same = true := by
      rw [List.any_map, List.any_eq_true]
      exact
        ⟨visibility, accepted.listsAll visibility isVisibility, by
          simp [Document.same, Scalar.same]⟩
    rw [isOrderedBy, isThere]
    simp
  simp only [declarationOrder, isRead, ok_bind, noneUnlisted]
  rfl

theorem answers_check
    {settings : RuleSettings}
    (accepted : validate settings.params = .ok ())
    (model : SourceModel) :
    Answers (declarationOrder.check model settings) := by
  obtain ⟨names, name, accepted⟩ := exists_accepted accepted
  rw [accepted.check_eq model]
  exact .ok _

end DeclarationOrder

/-! ## Names -/

namespace NamingConvention

/-- Patterns that the rule accepts can all be read. -/
structure Accepted (params : Entries) (patterns : Entries) : Prop where
  isThere : params.get? "patterns" = some (.map patterns)
  readable :
    ∀ entry ∈ patterns,
      ∃ spelling pattern,
        entry.2 = .text spelling ∧ Pattern.read spelling = .ok pattern

/-- What the rule accepts are patterns that can be read. -/
theorem exists_accepted
    {params : Entries}
    (accepted : validate params = .ok ()) :
    ∃ patterns, Accepted params patterns := by
  unfold validate at accepted
  split at accepted
  case h_1 entries isThere =>
    simp only at accepted
    split at accepted
    case isTrue =>
      refine ⟨entries, isThere, fun entry member => ?_⟩
      have ofEntry := forall_of_forM_eq_ok accepted entry member
      simp only [validatePattern] at ofEntry
      split at ofEntry
      case h_1 spelling isSpelling =>
        split at ofEntry
        case h_1 pattern isRead => exact ⟨spelling, pattern, isSpelling, isRead⟩
        case h_2 => cases ofEntry
      case h_2 => cases ofEntry
    case isFalse =>
      split at accepted <;> cases accepted
  case h_2 => cases accepted

/-- What is looked up in a list of values by key is the value of the key. -/
theorem eq_of_lookup_map
    {Value : Type}
    {valueOf : DeclarationKind → Value}
    {kinds : List DeclarationKind}
    {kind : DeclarationKind}
    {value : Value}
    (isFound :
      (kinds.map fun kind => (kind, valueOf kind)).lookup kind = some value) :
    value = valueOf kind := by
  induction kinds with
  | nil =>
      cases isFound
  | cons first rest inductionHypothesis =>
      rw [List.map_cons, List.lookup_cons] at isFound
      split at isFound
      · next isFirst =>
          cases isFound
          rw [eq_of_beq isFirst]
      · exact inductionHypothesis isFound

/-- The pattern of every kind can be read. -/
theorem Accepted.answers_casingOf?
    {params patterns : Entries}
    (accepted : Accepted params patterns)
    (kind : DeclarationKind) :
    Answers (casingOf? (.map patterns) kind) := by
  unfold casingOf?
  simp only
  split
  case h_1 value isValue =>
    obtain ⟨isFound, _⟩ := Option.filter_eq_some_iff.mp isValue
    obtain ⟨present, _, isEntry⟩ := Entries.exists_mem_of_find? isFound
    obtain ⟨spelling, pattern, isSpelling, isRead⟩ :=
      accepted.readable (present, value) isEntry
    simp only at isSpelling
    rw [isSpelling, readCasing]
    simp only [isRead]
    exact .ok _
  case h_2 => exact .ok none

/-- The rule answers with parameters that it accepts. -/
theorem answers_check
    {settings : RuleSettings}
    (fit : Entries.Fit namingConvention.defaultParams settings.params)
    (accepted : validate settings.params = .ok ())
    (model : SourceModel) :
    Answers (namingConvention.check model settings) := by
  obtain ⟨patterns, accepted⟩ := exists_accepted accepted
  have isDefault :
      namingConvention.defaultParams.get? "forbid_interface_prefix" =
        some (.bool true) := rfl
  obtain ⟨forbidMarker, isFlag⟩ := (fit.answers_flagParam isDefault).exists_ok
  have isRead :
      Conventions.ofParams settings.params =
        .ok
          { casings :=
              checkedKinds.map fun kind => (kind, casingOf? (.map patterns) kind)
            forbidMarker } := by
    simp only [Conventions.ofParams, Entries.param, accepted.isThere, isFlag,
      ok_bind]
    rfl
  simp only [namingConvention, isRead, ok_bind]
  refine (FailsOnly.mapM fun declaration _ => ?_).map _
  refine FailsOnly.map ?_ _
  unfold casingFinding?
  split
  case h_1 => exact .ok none
  case h_2 casing isCasing =>
    have answers : Answers casing := by
      rw [eq_of_lookup_map isCasing]
      exact accepted.answers_casingOf? declaration.kind
    refine answers.bind fun casing _ => ?_
    split
    · exact .ok none
    · split
      · exact .ok none
      · exact .ok _

end NamingConvention

namespace VerbNamedMethod

/-- Patterns that the rule accepts can all be read. -/
theorem exists_accepted
    {params : Entries}
    (accepted : validate params = .ok ()) :
    ∃ items,
      params.get? "ignore" = some (.list items) ∧
        ∀ item ∈ items, Answers (readIgnored item) := by
  unfold validate at accepted
  split at accepted
  case h_2 => cases accepted
  case h_1 items isThere =>
    refine ⟨items, isThere, fun item member => ?_⟩
    have ofItem := forall_of_forM_eq_ok accepted item member
    unfold validateIgnored at ofItem
    unfold readIgnored
    split at ofItem
    case isTrue => cases ofItem
    case isFalse isWritable =>
      rw [if_neg isWritable]
      split at ofItem
      case h_1 pattern isRead =>
        exact .ok pattern
      case h_2 => cases ofItem

/-- A value without parts is no list. -/
theorem not_fits_list_scalar
    (scalar : Scalar)
    {items : List Document} :
    ¬ fits (.list items) (.scalar scalar) = true := by
  cases scalar with
  | moment value => cases value <;> simp [fits, Document.typeName, Moment.typeName]
  | _ => simp [fits, Document.typeName]

/-- A list is too long to be written out if one of its items is. -/
theorem isTooLong_of_mem
    {items : List Document}
    {item : Document}
    (member : item ∈ items)
    (isTooLong : item.isTooLong = true) :
    (Document.list items).isTooLong = true := by
  rw [Document.isTooLong]
  induction items with
  | nil =>
      cases member
  | cons first rest inductionHypothesis =>
      rw [anyTooLong, Bool.or_eq_true]
      rcases List.mem_cons.mp member with isFirst | inRest
      · exact .inl (isFirst ▸ isTooLong)
      · exact .inr (inductionHypothesis inRest)

/-- The rule answers with parameters that it accepts, if verbs can be written out. -/
theorem failsOnly_check
    {settings : RuleSettings}
    (fit : Entries.Fit verbNamedMethod.defaultParams settings.params)
    (accepted : validate settings.params = .ok ())
    (model : SourceModel) :
    FailsOnly
      (fun fault => fault = .longInteger ∧ ¬ settings.params.AreWritable)
      (verbNamedMethod.check model settings) := by
  obtain ⟨ignored, isIgnored, areReadable⟩ := exists_accepted accepted
  obtain ⟨value, isThere, isFitting⟩ :=
    fit.get?
      (show verbNamedMethod.defaultParams.get? "verbs" = some (.list []) from rfl)
  have isList : ∃ verbs, value = .list verbs := by
    cases value with
    | list verbs => exact ⟨verbs, rfl⟩
    | scalar scalar => exact (not_fits_list_scalar scalar isFitting).elim
    | _ => cases isFitting
  obtain ⟨verbs, rfl⟩ := isList
  simp only [verbNamedMethod, Entries.elementsParam_of_list isThere,
    Entries.elementsParam_of_list isIgnored, ok_bind]
  -- Validation has read the patterns of `ignore`, but none of the verbs.
  refine FailsOnly.bind (FailsOnly.mapM fun verb member => ?_) fun verbs _ => ?_
  · unfold readVerb
    split
    · next isTooLong =>
        refine .error ⟨rfl, fun areWritable => ?_⟩
        have isWritable := areWritable "verbs" (by simp) _ isThere
        rw [isTooLong_of_mem member isTooLong] at isWritable
        cases isWritable
    · exact .ok _
  · split
    · exact .ok []
    · refine FailsOnly.bind ?_ fun _ _ => .ok _
      exact FailsOnly.mapM fun item member => (areReadable item member).failsOnly

end VerbNamedMethod

end HouseStyle
