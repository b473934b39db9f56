import HouseStyle.Proofs.Rule.Answering
import HouseStyle.Proofs.Source.Naming
import HouseStyle.Rule.Registry
import Mathlib

namespace HouseStyle

/-!
# What rules say, line by line

A rule makes its messages of fixed words, of numbers, of its parameters and of
what it shows of the file: keywords, names and literals. As long as no pattern for
names holds a line break, the only line breaks in messages are those of strings
that span lines. And why a rule fails is told on one line, whatever it fails on.
-/

/-- The message stands on one line, or shows a string of the file that does not. -/
def BreaksInStrings
    (tokens : Array Token)
    (message : String) :
    Prop :=
  IsOneLine message ∨
    ∃ token ∈ tokens,
      token.kind = .string ∧
        ¬ IsOneLine token.text ∧
        token.text.toList <:+: message.toList

section Parts

variable {tokens : Array Token}

/-- The text of a string shows the string. -/
theorem BreaksAsString.inStrings
    {text : String}
    (breaks : BreaksAsString tokens text) :
    BreaksInStrings tokens text := by
  by_cases oneLine : IsOneLine text
  · exact .inl oneLine
  · obtain ⟨token, member, isString, rfl⟩ := breaks.resolve_left oneLine
    exact .inr ⟨token, member, isString, oneLine, List.infix_rfl⟩

/-- What stands before a message on the same line adds no line break. -/
theorem BreaksInStrings.prepend
    {message : String}
    (breaks : BreaksInStrings tokens message)
    {front : String}
    (oneLine : IsOneLine front) :
    BreaksInStrings tokens (front ++ message) := by
  rcases breaks with isOneLine | ⟨token, member, isString, spans, isPart⟩
  · exact .inl (isOneLine_append.mpr ⟨oneLine, isOneLine⟩)
  · refine .inr ⟨token, member, isString, spans, ?_⟩
    rw [String.toList_append]
    exact isPart.trans (List.suffix_append _ _).isInfix

/-- What stands behind a message on the same line adds no line break. -/
theorem BreaksInStrings.append
    {message : String}
    (breaks : BreaksInStrings tokens message)
    {back : String}
    (oneLine : IsOneLine back) :
    BreaksInStrings tokens (message ++ back) := by
  rcases breaks with isOneLine | ⟨token, member, isString, spans, isPart⟩
  · exact .inl (isOneLine_append.mpr ⟨isOneLine, oneLine⟩)
  · refine .inr ⟨token, member, isString, spans, ?_⟩
    rw [String.toList_append]
    exact isPart.trans (List.prefix_append _ _).isInfix

end Parts

/-- The finding is told on one line up to strings, and at a whole column. -/
structure Finding.IsPlain
    (tokens : Array Token)
    (finding : Finding) :
    Prop where
  message : BreaksInStrings tokens finding.message
  wholeColumn : finding.decimalColumn = none

/-- All findings are told so. -/
abbrev ArePlain
    (tokens : Array Token)
    (findings : List Finding) :
    Prop :=
  ∀ finding ∈ findings, finding.IsPlain tokens

theorem arePlain_flatten
    {tokens : Array Token}
    {lists : List (List Finding)}
    (each : ∀ findings ∈ lists, ArePlain tokens findings) :
    ArePlain tokens lists.flatten := by
  intro finding member
  obtain ⟨findings, isList, inList⟩ := List.mem_flatten.mp member
  exact each findings isList finding inList

/-! ## Faults -/

/-- What is quoted between words on one line stands on one line. -/
theorem isOneLine_around_quoted
    {front back : String}
    (isFront : IsOneLine front)
    (isBack : IsOneLine back)
    (text : String) :
    IsOneLine (front ++ quoted text ++ back) := by
  simp [isFront, isBack]

/-- A rule's failure is told on one line; a description is what it is given. -/
theorem RuleFault.isOneLine_message
    {fault : RuleFault}
    (described :
      ∀ description, fault = .failed description → IsOneLine description) :
    IsOneLine fault.message := by
  cases fault with
  | failed description => exact described description rfl
  | numberTooLarge => decide
  | badPattern pattern fault =>
      have isKind
          {kind : String}
          (isKnown : kind ∈ ["OverflowError", "ValueError", "error"]) :
          IsOneLine (kind ++ "(") := by
        revert kind
        decide
      refine isOneLine_around_quoted (isKind ?_) (by decide) _
      split
      · simp
      · split <;> simp
  | _ => exact isOneLine_around_quoted (by decide) (by decide) _

/-- What is found passes a test, and what goes wrong is told on one line. -/
abbrev Tells
    {Value : Type}
    (ofValue : Value → Prop)
    (answer : Except RuleFault Value) :
    Prop :=
  Yields ofValue (fun fault => IsOneLine fault.message) answer

/-- A fault without a description of its own is told on one line. -/
theorem tells_error
    {Value : Type}
    {ofValue : Value → Prop}
    {fault : RuleFault}
    (notDescribed : ∀ description, fault ≠ .failed description) :
    Tells ofValue (.error fault) :=
  RuleFault.isOneLine_message fun description isFailed =>
    (notDescribed description isFailed).elim

/-! ## Look-ups and parameters -/

/-- What has to be there is found, or it is said on one line that it is not. -/
theorem tells_expect
    {Item : Type}
    (item : Option Item) :
    Tells (fun found => item = some found) (SourceModel.expect item) := by
  cases item with
  | some found =>
      exact rfl
  | none =>
      have oneLine : IsOneLine RuleFault.missingItem.message := by
        decide
      exact oneLine

section LookUps

variable
  (model : SourceModel)
  (statement : Statement)

theorem tells_siblings :
    Tells (fun _ => True) (model.siblings statement) := by
  have tellsIf
      (condition : Prop)
      [Decidable condition]
      (item : Option Statement) :
      Tells (fun _ => True) (SourceModel.expectIf condition item) := by
    unfold SourceModel.expectIf
    split
    · exact (tells_expect item).map fun _ _ => trivial
    · exact trivial
  have tellsBody : Tells (fun _ => True) (model.bodyAround statement) := by
    unfold SourceModel.bodyAround
    split
    · exact trivial
    · exact (tells_expect _).map fun _ _ => trivial
  unfold SourceModel.siblings
  refine tellsBody.bind fun body _ => ?_
  refine (tellsIf _ _).bind fun before _ => ?_
  exact (tellsIf _ _).bind fun after _ => trivial

/-- The block that a statement is, is one of the model. -/
theorem tells_ownBlock :
    Tells (fun own => ∀ block ∈ own, block ∈ model.blocks)
      (model.ownBlock statement) := by
  unfold SourceModel.ownBlock
  split
  · exact fun _ isNone => nomatch isNone
  · refine (tells_expect _).map fun found isFound => ?_
    rintro block ⟨⟩
    exact Array.mem_of_getElem? isFound

theorem tells_blankLinesBetween (afterLine beforeLine : Nat) :
    Tells (fun _ => True) (model.blankLinesBetween afterLine beforeLine) :=
  (tells_expect _).mono fun _ _ => trivial

theorem tells_columnOf (index : Nat) :
    Tells (fun _ => True) (model.columnOf index) :=
  (tells_expect _).map fun _ _ => trivial

end LookUps

section Parameters

variable
  (params : Entries)
  (name : String)

theorem tells_param :
    Tells (fun value => params.get? name = some value) (params.param name) := by
  unfold Entries.param
  cases params.get? name with
  | some value => exact rfl
  | none => exact tells_error nofun

theorem tells_elementsParam :
    Tells (fun _ => True) (params.elementsParam name) := by
  refine (tells_param params name).bind fun value _ => ?_
  cases value.elements? with
  | some items => exact trivial
  | none => exact tells_error nofun

theorem tells_flagParam :
    Tells (fun _ => True) (params.flagParam name) :=
  (tells_param params name).bind fun _ _ => trivial

end Parameters

/-! ## Lines, blocks and blank lines -/

namespace Limits

theorem tells_readSoftSeverity (value : Document) :
    Tells (fun _ => True) (readSoftSeverity value) := by
  refine .ite (fun _ => tells_error nofun) fun _ => ?_
  split
  · split
    · exact trivial
    · exact tells_error nofun
  · exact tells_error nofun

/-- A limit is shown as its text. -/
theorem tells_shownLimit (limit : Document) :
    Tells (· = limit.asText) (shownLimit limit) :=
  .ite (fun _ => tells_error nofun) (fun _ => rfl)

/-- Of two whole limits a whole one is exceeded. -/
theorem tells_breach?
    {limits : Limits}
    {soft hard : Int}
    (isSoft : limits.soft = .int soft)
    (isHard : limits.hard = .int hard)
    (severity : Severity)
    (size : Nat) :
    Tells (fun breach => ∀ found ∈ breach, ∃ limit : Int, found.2 = .int limit)
      (limits.breach? severity size) := by
  have exceedsWhole (limit : Int) :
      exceeds size (.int limit) = .ok (decide (limit < size)) := rfl
  unfold breach?
  rw [isSoft, isHard, exceedsWhole, exceedsWhole, ok_bind, ok_bind]
  split
  · rintro _ ⟨⟩
    exact ⟨hard, rfl⟩
  · split
    · refine (tells_readSoftSeverity _).bind fun softSeverity _ => ?_
      rintro _ ⟨⟩
      exact ⟨soft, rfl⟩
    · rintro _ ⟨⟩

/-- With whole limits, findings are plain if those about a whole limit are. -/
theorem tells_findings
    {Measured : Type}
    {limits : Limits}
    {soft hard : Int}
    (isSoft : limits.soft = .int soft)
    (isHard : limits.hard = .int hard)
    (severity : Severity)
    (measure : Measured → Nat)
    {finding : Measured → Severity → Document → String → Finding}
    {items : List Measured}
    {tokens : Array Token}
    (each :
      ∀ item ∈ items, ∀ (severity : Severity) (limit : Int),
        (finding item severity (.int limit) (toString limit)).IsPlain tokens) :
    Tells (ArePlain tokens) (limits.findings severity measure finding items) := by
  induction items with
  | nil =>
      exact List.forall_mem_nil _
  | cons item rest inductionHypothesis =>
      obtain ⟨ofItem, ofRest⟩ := List.forall_mem_cons.mp each
      have others := inductionHypothesis ofRest
      rw [findings]
      refine (tells_breach? isSoft isHard severity _).bind fun breach isWhole => ?_
      cases breach with
      | none => exact others
      | some found =>
          obtain ⟨reported, limit⟩ := found
          refine (tells_shownLimit limit).bind fun text isShown => ?_
          refine others.bind fun findings arePlain => ?_
          obtain ⟨whole, rfl⟩ : ∃ whole : Int, limit = .int whole :=
            isWhole _ rfl
          rw [isShown]
          exact List.forall_mem_cons.mpr ⟨ofItem reported whole, arePlain⟩

/-- A rule with accepted limits speaks plainly if it does about whole limits. -/
theorem tells_of_validate
    {Measured : Type}
    {params : Entries}
    (accepted : validate params = .ok ())
    (severity : Severity)
    (measure : Measured → Nat)
    {finding : Measured → Severity → Document → String → Finding}
    {items : List Measured}
    {tokens : Array Token}
    (each :
      ∀ item ∈ items, ∀ (severity : Severity) (limit : Int),
        (finding item severity (.int limit) (toString limit)).IsPlain tokens) :
    Tells (ArePlain tokens)
      (do
        let limits ← ofParams params
        limits.findings severity measure finding items) := by
  obtain ⟨soft, hard, softSeverity, areLimits⟩ := exists_accepted accepted
  rw [areLimits.read, ok_bind]
  exact tells_findings rfl rfl severity measure each

end Limits

section Measures

variable
  {model : SourceModel}
  {settings : RuleSettings}

theorem lineLength_tells
    (accepted : lineLength.validate settings.params = .ok ()) :
    Tells (ArePlain model.tokens) (lineLength.check model settings) := by
  refine Limits.tells_of_validate accepted _ _ fun line _ severity limit => ?_
  refine ⟨.inl ?_, rfl⟩
  simp +decide [LineLength.finding]

theorem blockLength_tells
    (breaks : model.BreaksOnlyInStrings)
    (accepted : blockLength.validate settings.params = .ok ()) :
    Tells (ArePlain model.tokens) (blockLength.check model settings) := by
  refine Limits.tells_of_validate accepted _ _ fun block isMethod severity limit => ?_
  have member : block ∈ model.blocks :=
    Array.mem_toList_iff.mp (List.mem_of_mem_filter isMethod)
  have subject :
      BreaksInStrings model.tokens
        (if block.name = "" then "Method" else "Method '" ++ block.name ++ "'") := by
    have name := (breaks.block block member).inStrings
    split
    · exact .inl (by decide)
    · exact (name.prepend (by decide)).append (by decide)
  refine ⟨?_, rfl⟩
  exact
    ((((subject.append (by decide)).append (isOneLine_nat _)).append
      (by decide)).append (isOneLine_int _)).append (by decide)

theorem blockDelimiter_tells
    (breaks : model.BreaksOnlyInStrings) :
    Tells (ArePlain model.tokens) (blockDelimiter.check model settings) := by
  intro finding member
  obtain ⟨block, isSprawling, rfl⟩ := List.mem_map.mp member
  have isBlock : block ∈ model.blocks :=
    Array.mem_toList_iff.mp (List.mem_of_mem_filter isSprawling)
  refine ⟨.inl ?_, rfl⟩
  simp +decide [breaks.keyword block isBlock]

end Measures

namespace BlankLinePlacement

variable
  {model : SourceModel}
  {severity : Severity}
  {statement : Statement}

theorem tells_touches (afterLine beforeLine : Nat) :
    Tells (fun _ => True) (touches model afterLine beforeLine) :=
  (tells_blankLinesBetween model _ _).bind fun _ _ => trivial

theorem tells_precedes
    {subject : String}
    (oneLine : IsOneLine subject) :
    Tells (Finding.IsPlain model.tokens)
      (precedes model severity statement subject) := by
  refine (tells_columnOf model _).bind fun column _ => ⟨.inl ?_, rfl⟩
  exact isOneLine_append.mpr ⟨oneLine, by decide⟩

theorem tells_follows
    {subject : String}
    (oneLine : IsOneLine subject) :
    Tells (Finding.IsPlain model.tokens)
      (follows model severity statement subject) := by
  refine (tells_columnOf model _).bind fun column _ => ⟨.inl ?_, rfl⟩
  exact isOneLine_append.mpr ⟨oneLine, by decide⟩

/-- A block is called by its keyword or by its kind. -/
theorem isOneLine_label
    {block : Block}
    (keyword : IsOneLine block.keyword) :
    IsOneLine (label block) := by
  unfold label
  split
  · cases block.kind <;> decide
  · simp +decide [keyword]

theorem tells_reportIf
    {isMissing : Except RuleFault Bool}
    {finding : Except RuleFault Finding}
    (isKnown : Tells (fun _ => True) isMissing)
    (isPlain : Tells (Finding.IsPlain model.tokens) finding) :
    Tells (ArePlain model.tokens) (reportIf isMissing finding) := by
  refine isKnown.bind fun missing _ => ?_
  cases missing
  · exact List.forall_mem_nil _
  · exact isPlain.map fun found passes => List.forall_mem_singleton.mpr passes

theorem tells_touchesBefore (before : Option Statement) :
    Tells (fun _ => True) (touchesBefore model before statement) := by
  cases before with
  | none => exact trivial
  | some before => exact tells_touches _ _

theorem tells_touchesAfter (after : Option Statement) :
    Tells (fun _ => True) (touchesAfter model statement after) := by
  cases after with
  | none => exact trivial
  | some after =>
      have tellsContinues : Tells (fun _ => True) (continues model after) :=
        (tells_ownBlock model after).bind fun _ _ => trivial
      refine tellsContinues.bind fun continuing _ => ?_
      exact .ite (fun _ => trivial) (fun _ => tells_touches _ _)

theorem tells_findingsAt
    (breaks : model.BreaksOnlyInStrings)
    (checkReturns : Bool) :
    Tells (ArePlain model.tokens)
      (findingsAt checkReturns severity model statement) := by
  refine (tells_siblings model statement).bind fun siblings _ => ?_
  obtain ⟨before, after⟩ := siblings
  have none : Tells (ArePlain model.tokens) (pure []) :=
    List.forall_mem_nil _
  refine .ite (fun _ => .ite (fun _ => ?_) (fun _ => none)) (fun _ => ?_)
  · exact tells_reportIf (tells_touchesBefore before) (tells_precedes (by decide))
  · refine (tells_ownBlock model statement).bind fun own areBlocks => ?_
    cases own with
    | none => exact none
    | some block =>
        have oneLine := isOneLine_label (breaks.keyword block (areBlocks block rfl))
        have behind
            (preceded : List Finding)
            (isBefore : ArePlain model.tokens preceded) :
            Tells (ArePlain model.tokens)
              (do
                let followed ←
                  reportIf
                    (touchesAfter model statement after)
                    (follows model severity statement (label block))
                pure (preceded ++ followed)) :=
          (tells_reportIf (tells_touchesAfter after) (tells_follows oneLine)).bind
            fun _ isBehind => List.forall_mem_append.mpr ⟨isBefore, isBehind⟩
        refine .ite (fun _ => behind [] (List.forall_mem_nil _)) fun _ => ?_
        exact
          (tells_reportIf (tells_touchesBefore before)
            (tells_precedes oneLine)).bind behind

end BlankLinePlacement

theorem blankLinePlacement_tells
    {model : SourceModel}
    {settings : RuleSettings}
    (breaks : model.BreaksOnlyInStrings) :
    Tells (ArePlain model.tokens) (blankLinePlacement.check model settings) := by
  refine (tells_flagParam _ _).bind fun checkReturns _ => ?_
  refine (Yields.mapM fun statement _ => ?_).map fun _ => arePlain_flatten
  exact BlankLinePlacement.tells_findingsAt breaks checkReturns

namespace MethodSeparation

/-- What the rule accepts is a whole number of blank lines. -/
theorem exists_accepted
    {params : Entries}
    (accepted : validate params = .ok ()) :
    ∃ count : Int, params.get? "blank_lines" = some (.int count) := by
  unfold validate at accepted
  split at accepted
  · next count isThere => exact ⟨count, isThere⟩
  · cases accepted

/-- The finding shows the text of the number that is expected. -/
theorem tells_findingsAt
    {model : SourceModel}
    {expected : Document}
    (oneLine : IsOneLine expected.asText)
    (severity : Severity)
    (first second : Statement) :
    Tells (ArePlain model.tokens)
      (findingsAt expected severity model first second) := by
  refine (tells_blankLinesBetween model _ _).bind fun found _ => ?_
  refine .ite (fun _ => List.forall_mem_nil _) fun _ => ?_
  refine (tells_columnOf model _).bind fun column _ => ?_
  refine .ite (fun _ => tells_error nofun) fun _ => ?_
  refine List.forall_mem_singleton.mpr ⟨.inl ?_, rfl⟩
  simp +decide [oneLine]

end MethodSeparation

theorem methodSeparation_tells
    {model : SourceModel}
    {settings : RuleSettings}
    (accepted : methodSeparation.validate settings.params = .ok ()) :
    Tells (ArePlain model.tokens) (methodSeparation.check model settings) := by
  obtain ⟨count, isCount⟩ := MethodSeparation.exists_accepted accepted
  refine (tells_param _ _).bind fun expected isExpected => ?_
  obtain rfl : expected = .int count :=
    Option.some.inj (isExpected.symm.trans isCount)
  have oneLine : IsOneLine (Document.int count).asText := isOneLine_int count
  generalize Document.int count = expected at oneLine
  refine (Yields.mapM fun block _ => ?_).map fun _ => arePlain_flatten
  refine (Yields.mapM fun pair _ => ?_).map fun _ => arePlain_flatten
  refine .ite (fun _ => ?_) (fun _ => List.forall_mem_nil _)
  refine (tells_expect _).bind fun first _ => ?_
  refine (tells_expect _).bind fun second _ => ?_
  exact MethodSeparation.tells_findingsAt oneLine _ first second

end HouseStyle
