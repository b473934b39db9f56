import HouseStyle.Proofs.Rule.LiteralContext
import HouseStyle.Proofs.Rule.Wording
import HouseStyle.Proofs.Text.Words
import Mathlib

namespace HouseStyle

/-!
# What rules say of names and literals

Names and literals are shown as they are written. A name is that of a token, a
pattern is a parameter, and the first word of a name is made of letters or digits;
so a message holds a line break only where a string stands.
-/

/-! ## Patterns for names -/

/-- A value that is a text stands on one line. -/
def Document.isOneLineText : Document → Bool
  | .scalar (.text text) => decide (IsOneLine text)
  | _ => true

/-- The patterns for names stand on one line. -/
def Entries.hasOneLinePatterns (params : Entries) : Bool :=
  match params.get? "patterns" with
  | some (.map patterns) => patterns.all fun entry => entry.2.isOneLineText
  | _ => true

namespace NamingConvention

/-- A pattern is shown as it is written. -/
theorem tells_readCasing (value : Document) :
    Tells (fun casing => value = .text casing.spelling) (readCasing value) := by
  unfold readCasing
  split
  · next spelling =>
      cases Pattern.read spelling with
      | ok pattern => exact rfl
      | error fault => exact tells_error nofun
  · exact tells_error nofun

/-- Where patterns stand on one line, so does that of a kind. -/
theorem tells_casingOf?
    {params : Entries}
    (onOneLine : params.hasOneLinePatterns = true)
    {patterns : Document}
    (isThere : params.get? "patterns" = some patterns)
    (kind : DeclarationKind) :
    Tells (fun casing => ∀ found ∈ casing, IsOneLine found.spelling)
      (casingOf? patterns kind) := by
  unfold casingOf?
  split
  · next entries =>
      split
      · next value isValue =>
          refine (tells_readCasing value).map fun casing isSpelled => ?_
          rintro _ ⟨⟩
          obtain ⟨isFound, _⟩ := Option.filter_eq_some_iff.mp isValue
          obtain ⟨present, _, isEntry⟩ := Entries.exists_mem_of_find? isFound
          rw [Entries.hasOneLinePatterns, isThere] at onOneLine
          have ofEntry := List.all_eq_true.mp onOneLine _ isEntry
          rw [isSpelled] at ofEntry
          exact of_decide_eq_true ofEntry
      · rintro _ ⟨⟩
  · refine tells_error ?_
    intro description isFailed
    cases isFailed

/-- The finding for a marker shows the name of a type. -/
theorem markerFinding?_isPlain
    {tokens : Array Token}
    {conventions : Conventions}
    {severity : Severity}
    {declaration : Declaration}
    (breaks : BreaksAsString tokens declaration.name) :
    ∀ finding ∈ markerFinding? conventions severity declaration,
      finding.IsPlain tokens := by
  intro finding isFound
  unfold markerFinding? at isFound
  split at isFound
  · cases isFound
    exact ⟨(breaks.inStrings.prepend (by decide)).append (by decide), rfl⟩
  · cases isFound

/-- The finding for a name shows the name and its pattern. -/
theorem tells_casingFinding?
    {tokens : Array Token}
    {conventions : Conventions}
    (oneLine :
      ∀ pair ∈ conventions.casings,
        Tells (fun casing => ∀ found ∈ casing, IsOneLine found.spelling) pair.2)
    {severity : Severity}
    {declaration : Declaration}
    (breaks : BreaksAsString tokens declaration.name) :
    Tells (fun finding => ∀ found ∈ finding, found.IsPlain tokens)
      (casingFinding? conventions severity declaration) := by
  have isKind : IsOneLine (capitalized declaration.kind.name ++ " name '") := by
    cases declaration.kind <;> decide
  unfold casingFinding?
  split
  · exact fun _ isNone => nomatch isNone
  · next casing isCasing =>
      obtain ⟨before, behind, same, _⟩ := List.lookup_eq_some_iff.mp isCasing
      have ofCasing := oneLine (declaration.kind, casing) (by simp [same])
      refine ofCasing.bind fun casing isSpelled => ?_
      cases casing with
      | none => exact fun _ isNone => nomatch isNone
      | some casing =>
          refine .ite (fun _ _ isNone => nomatch isNone) fun _ => ?_
          rintro _ ⟨⟩
          refine ⟨?_, rfl⟩
          exact
            ((breaks.inStrings.prepend isKind).append (by decide)).append
              (isSpelled casing rfl)

/-- The conventions for names have their patterns on one line. -/
theorem tells_ofParams
    {params : Entries}
    (onOneLine : params.hasOneLinePatterns = true) :
    Tells
      (fun conventions =>
        ∀ pair ∈ conventions.casings,
          Tells (fun casing => ∀ found ∈ casing, IsOneLine found.spelling) pair.2)
      (Conventions.ofParams params) := by
  refine (tells_param _ _).bind fun patterns isThere => ?_
  refine (tells_flagParam _ _).bind fun forbidMarker _ => ?_
  intro pair member
  obtain ⟨kind, _, rfl⟩ := List.mem_map.mp member
  exact tells_casingOf? onOneLine isThere kind

end NamingConvention

theorem namingConvention_tells
    {model : SourceModel}
    {settings : RuleSettings}
    (breaks : model.BreaksOnlyInStrings)
    (onOneLine : settings.params.hasOneLinePatterns = true) :
    Tells (ArePlain model.tokens) (namingConvention.check model settings) := by
  refine (NamingConvention.tells_ofParams onOneLine).bind fun conventions oneLine => ?_
  refine (Yields.mapM fun declaration member => ?_).map fun _ => arePlain_flatten
  have ofName := breaks.declaration declaration member
  refine (NamingConvention.tells_casingFinding? oneLine ofName).map ?_
  intro casing isPlain finding member
  rcases List.mem_append.mp member with isMarker | isCasing
  · exact
      NamingConvention.markerFinding?_isPlain ofName finding
        (Option.mem_toList.mp isMarker)
  · exact isPlain finding (Option.mem_toList.mp isCasing)

/-! ## The order of declarations -/

namespace DeclarationOrder

/-- A member is described on one line. -/
theorem isOneLine_describe (declaration : Declaration) :
    IsOneLine (describe declaration) := by
  unfold describe
  split
  · decide
  · decide
  · decide
  · decide
  · decide
  · split
    · decide
    · cases declaration.visibility <;> decide

/-- What a rank holds is said on one line. -/
theorem isOneLine_label
    {names : List String}
    (areListed : ∀ visibility ∈ names, visibility ∈ visibilityNames)
    (default : Document)
    (rank : Nat) :
    IsOneLine
      (MethodOrder.label { visibilities := names.map .text, default } rank) := by
  have visibilities : ∀ visibility ∈ visibilityNames, IsOneLine visibility := by
    decide
  match rank with
  | 0 => exact (by decide : IsOneLine "constants")
  | 1 => exact (by decide : IsOneLine "fields")
  | 2 => exact (by decide : IsOneLine "the constructor")
  | place + 3 =>
      have isShown :
          IsOneLine
            ((((names.map Document.text)[place]?).map Document.asText).getD "") := by
        rw [List.getElem?_map]
        cases isThere : names[place]? with
        | none => decide
        | some name =>
            exact visibilities name (areListed name (List.mem_of_getElem? isThere))
      exact isOneLine_append.mpr ⟨isShown, by decide⟩

/-- The findings for the members of a type show their names. -/
theorem findingsFrom_arePlain
    {tokens : Array Token}
    {order : MethodOrder}
    (labels : ∀ rank, IsOneLine (order.label rank))
    (severity : Severity)
    {reached : Nat}
    {declarations : List Declaration}
    (breaks :
      ∀ declaration ∈ declarations, BreaksAsString tokens declaration.name) :
    ArePlain tokens (findingsFrom order severity reached declarations) := by
  fun_induction findingsFrom order severity reached declarations with
  | case1 => exact List.forall_mem_nil _
  | case2 _ _ _ _ inductionHypothesis =>
      exact inductionHypothesis (List.forall_mem_cons.mp breaks).2
  | case3 reached declaration _ _ _ _ inductionHypothesis =>
      obtain ⟨ofFirst, ofRest⟩ := List.forall_mem_cons.mp breaks
      refine List.forall_mem_cons.mpr ⟨⟨?_, rfl⟩, inductionHypothesis ofRest⟩
      have front : IsOneLine (describe declaration ++ " '") :=
        isOneLine_append.mpr ⟨isOneLine_describe declaration, by decide⟩
      exact
        ((ofFirst.inStrings.prepend front).append (by decide)).append
          (labels reached)
  | case4 _ _ _ _ _ _ inductionHypothesis =>
      exact inductionHypothesis (List.forall_mem_cons.mp breaks).2

end DeclarationOrder

theorem declarationOrder_tells
    {model : SourceModel}
    {settings : RuleSettings}
    (breaks : model.BreaksOnlyInStrings)
    (accepted : declarationOrder.validate settings.params = .ok ()) :
    Tells (ArePlain model.tokens) (declarationOrder.check model settings) := by
  obtain ⟨names, name, accepted⟩ := DeclarationOrder.exists_accepted accepted
  rw [accepted.check_eq model]
  intro finding member
  obtain ⟨block, _, inBlock⟩ := List.mem_flatMap.mp member
  refine
    DeclarationOrder.findingsFrom_arePlain
      (DeclarationOrder.isOneLine_label accepted.listsNoOther _) _ ?_ finding
      inBlock
  exact fun declaration isMember =>
    breaks.declaration declaration (List.mem_of_mem_filter isMember)

/-! ## Verbs -/

namespace VerbNamedMethod

/-- No letter becomes a line feed as a small letter. -/
theorem eq_of_toLower
    {character : Char}
    (isLower : character.toLower = '\n') :
    character = '\n' := by
  unfold Char.toLower at isLower
  split at isLower
  · next isCapital =>
      have sameCode := congrArg (fun lower : Char => lower.val.toNat) isLower
      have fromLeast := UInt32.le_iff_toNat_le.mp isCapital.1
      have toGreatest := UInt32.le_iff_toNat_le.mp isCapital.2
      simp only [UInt32.toNat_add] at sameCode
      simp at sameCode fromLeast toGreatest
      omega
  · exact isLower

/-- The first word of a name is made of letters or digits, so it stands on one line. -/
theorem isOneLine_leadingWord (name : String) :
    IsOneLine (leadingWord name) := by
  intro isBreak
  rw [leadingWord_eq, String.toList_ofList, List.mem_map] at isBreak
  obtain ⟨character, member, isLower⟩ := isBreak
  rw [eq_of_toLower isLower] at member
  have starts : startsWord '\n' = true := (isFirstWord_iff.mpr rfl).startsWord_of_mem member
  cases starts

end VerbNamedMethod

theorem verbNamedMethod_tells
    {model : SourceModel}
    {settings : RuleSettings}
    (breaks : model.BreaksOnlyInStrings) :
    Tells (ArePlain model.tokens) (verbNamedMethod.check model settings) := by
  refine (tells_elementsParam _ _).bind fun words _ => ?_
  have verbs (value : Document) :
      Tells (fun _ => True) (VerbNamedMethod.readVerb value) :=
    .ite (fun _ => tells_error nofun) (fun _ => trivial)
  have patterns (value : Document) :
      Tells (fun _ => True) (VerbNamedMethod.readIgnored value) := by
    refine .ite (fun _ => tells_error nofun) fun _ => ?_
    split
    · exact trivial
    · exact tells_error nofun
  refine (Yields.mapM fun word _ => verbs word).bind fun verbs _ => ?_
  refine .ite (fun _ => List.forall_mem_nil _) fun _ => ?_
  refine (tells_elementsParam _ _).bind fun items _ => ?_
  refine (Yields.mapM fun item _ => patterns item).bind fun ignored _ => ?_
  intro finding member
  obtain ⟨declaration, isChecked, isFound⟩ := List.mem_filterMap.mp member
  have breaks := breaks.declaration declaration (List.mem_of_mem_filter isChecked)
  unfold VerbNamedMethod.finding? at isFound
  simp only at isFound
  split at isFound
  · cases isFound
  · cases isFound
    refine ⟨?_, rfl⟩
    exact
      (((breaks.inStrings.prepend (by decide)).append (by decide)).append
        (VerbNamedMethod.isOneLine_leadingWord _)).append (by decide)

/-! ## Literals -/

namespace MagicLiteral

/-- A number is read, or is said to be too large. -/
theorem tells_plainNumber?
    (text : List Char) :
    ∀ value ∈ plainNumber? text, Tells (fun _ => True) value := by
  intro value isNumber
  unfold plainNumber? at isNumber
  split at isNumber
  · cases isNumber
    unfold numberOfNat
    split
    · exact trivial
    · exact tells_error nofun
  · obtain ⟨number, _, rfl⟩ := Option.map_eq_some_iff.mp isNumber
    exact trivial

theorem tells_literalValue (token : Token) (negated : Bool) :
    Tells (fun _ => True) (literalValue token negated) := by
  have tellsNumber (text : String) : Tells (fun _ => True) (numberValue text) := by
    unfold numberValue
    simp only
    split
    · next value isNumber =>
        rcases Option.or_eq_some_iff.mp isNumber with isPlain | ⟨_, isPlain⟩
        · exact (tells_plainNumber? _ value isPlain).map fun _ _ => trivial
        · exact (tells_plainNumber? _ value isPlain).map fun _ _ => trivial
    · exact trivial
  exact .ite (fun _ => trivial) fun _ =>
    (tellsNumber _).map fun _ _ => trivial

theorem tells_allowedValue (item : Document) :
    Tells (fun _ => True) (allowedValue item) := by
  unfold allowedValue
  split
  · exact trivial
  · split
    · exact trivial
    · exact tells_error nofun
  · exact trivial
  · exact .ite (fun _ => tells_error nofun) (fun _ => trivial)

/-- What is done with a literal is said on one line. -/
theorem isOneLine_context?
    {site : Site}
    {context : String}
    (isContext : site.context? = some context) :
    IsOneLine context := by
  unfold Site.context? at isContext
  repeat' split at isContext
  all_goals cases isContext
  all_goals decide

/-- A literal is shown as it is written, with its sign. -/
theorem tells_finding?
    {tokens : Array Token}
    {site : Site}
    (breaks : BreaksAsString tokens site.placed.text)
    {context : String}
    (oneLine : IsOneLine context)
    (allowed : List LiteralValue)
    (severity : Severity) :
    Tells (fun finding => ∀ found ∈ finding, found.IsPlain tokens)
      (finding? allowed severity site context) := by
  have shown : BreaksInStrings tokens site.shown := by
    unfold Site.shown
    split
    · exact breaks.inStrings.prepend (by decide)
    · exact breaks.inStrings
  refine (tells_literalValue _ _).map fun value _ => ?_
  intro finding isFound
  split at isFound
  · cases isFound
  · cases isFound
    refine ⟨?_, rfl⟩
    exact
      (((shown.prepend (by decide)).append (by decide)).append oneLine).append
        (by decide)

theorem tells_findingsAt
    {tokens : Array Token}
    (allowed : List LiteralValue)
    (severity : Severity)
    {sites : List (Site × String)}
    (each :
      ∀ pair ∈ sites,
        BreaksAsString tokens pair.1.placed.text ∧ IsOneLine pair.2) :
    Tells (ArePlain tokens) (findingsAt allowed severity sites) := by
  induction sites with
  | nil => exact List.forall_mem_nil _
  | cons pair rest inductionHypothesis =>
      obtain ⟨⟨breaks, oneLine⟩, ofRest⟩ := List.forall_mem_cons.mp each
      obtain ⟨site, context⟩ := pair
      refine (tells_finding? breaks oneLine allowed severity).bind ?_
      intro found isPlain
      refine (inductionHypothesis ofRest).bind fun others arePlain => ?_
      refine List.forall_mem_append.mpr ⟨?_, arePlain⟩
      exact fun finding member => isPlain finding (Option.mem_toList.mp member)

end MagicLiteral

theorem magicLiteral_tells
    {model : SourceModel}
    {settings : RuleSettings}
    (breaks : model.BreaksOnlyInStrings) :
    Tells (ArePlain model.tokens) (magicLiteral.check model settings) := by
  refine (tells_elementsParam _ _).bind fun items _ => ?_
  refine
    (Yields.mapM fun item _ => MagicLiteral.tells_allowedValue item).bind
      fun allowed _ => ?_
  refine (tells_flagParam _ _).bind fun checkStrings _ => ?_
  refine MagicLiteral.tells_findingsAt _ _ ?_
  intro pair member
  obtain ⟨site, isChecked, isPair⟩ := List.mem_filterMap.mp member
  obtain ⟨context, isContext, rfl⟩ := Option.map_eq_some_iff.mp isPair
  obtain ⟨front, back, atSite, _⟩ :=
    MagicLiteral.exists_of_mem_sitesOf (List.mem_of_mem_filter isChecked)
  have inCode : site.placed ∈ placeCode model.tokens := by
    simp [atSite]
  obtain ⟨inFile, isCode⟩ := List.mem_filter.mp inCode
  have isThere := Array.mem_of_getElem? (mem_placeTokens.mp inFile)
  exact
    ⟨breaks.code site.placed.token isThere isCode,
      MagicLiteral.isOneLine_context? isContext⟩

/-! ## Comments -/

theorem explanatoryComment_tells
    {model : SourceModel}
    {settings : RuleSettings} :
    Tells (ArePlain model.tokens) (explanatoryComment.check model settings) := by
  have tellsOperators (items : List Document) :
      Tells (fun _ => True) (ExplanatoryComment.operatorsOf items) := by
    fun_induction ExplanatoryComment.operatorsOf items with
    | case1 => exact trivial
    | case2 _ _ inductionHypothesis =>
        exact inductionHypothesis.map fun _ _ => trivial
    | case3 _ _ _ _ inductionHypothesis => exact inductionHypothesis
    | case4 => exact tells_error nofun
  refine (tells_elementsParam _ _).bind fun items _ => ?_
  refine (tellsOperators items).bind fun operators _ => ?_
  intro finding member
  obtain ⟨block, _, isFound⟩ := List.mem_filterMap.mp member
  unfold ExplanatoryComment.finding? at isFound
  obtain ⟨_, _, isFound⟩ := Option.bind_eq_some_iff.mp isFound
  obtain ⟨comment, _, isFound⟩ := Option.bind_eq_some_iff.mp isFound
  obtain ⟨_, _, isFound⟩ := Option.bind_eq_some_iff.mp isFound
  cases isFound
  have oneLine :
      IsOneLine
        ("Comment explains a compound condition; " ++
          "consider extracting a named boolean") := by
    decide
  exact ⟨.inl oneLine, rfl⟩

/-! ## All rules -/

/-- With parameters that it accepts, every rule of the library speaks plainly. -/
theorem Registry.builtin_tells
    {model : SourceModel}
    (breaks : model.BreaksOnlyInStrings)
    {rule : Rule}
    (member : rule ∈ builtin.rules)
    {settings : RuleSettings}
    (accepted : rule.validate settings.params = .ok ())
    (onOneLine : settings.params.hasOneLinePatterns = true) :
    Tells (ArePlain model.tokens) (rule.check model settings) := by
  simp only [builtin, builtinRules, List.mem_cons, List.not_mem_nil,
    or_false] at member
  rcases member with
    rfl | rfl | rfl | rfl | rfl | rfl | rfl | rfl | rfl | rfl
  · exact lineLength_tells accepted
  · exact namingConvention_tells breaks onOneLine
  · exact magicLiteral_tells breaks
  · exact blockDelimiter_tells breaks
  · exact blockLength_tells breaks accepted
  · exact blankLinePlacement_tells breaks
  · exact methodSeparation_tells accepted
  · exact declarationOrder_tells breaks accepted
  · exact verbNamedMethod_tells breaks
  · exact explanatoryComment_tells

end HouseStyle
