import HouseStyle.Proofs.Rule.LiteralContext
import HouseStyle.Proofs.Rule.SetApart
import HouseStyle.Proofs.Rule.ShownNames
import HouseStyle.Proofs.Source.DeclaredOnce

namespace HouseStyle

/-!
# Findings stand at characters of the file

A rule finds the place of what it reports at a token: where a name is declared, where
a block or a statement starts, where a literal, its sign or a comment does. A token
starts with a character of its line, so the place needs no moving into the file. Lines
that are too long are reported behind a limit that they exceed, where they go on.

Only where a blank line is missing behind a block, the line and the column come from
the two ends of a token. They fit unless that token is a string that spans lines.
-/

/-! ## Places of tokens -/

namespace SourceModel

/-- The file has a character at that place. -/
structure HasCharacter (model : SourceModel) (place : Position) : Prop where
  fromFirst : 1 ≤ place.line
  toLast : place.line ≤ model.lines.size
  onLine :
    ∃ line,
      model.lines[place.line - 1]? = some line ∧
        line.number = place.line ∧
        1 ≤ place.column ∧
        place.column ≤ line.length

variable
  {source : SourceFile}
  {model : SourceModel}

/-- A token of a model that is built occupies a part of the text. -/
theorem exists_occupies_of_build
    (built : build source = .ok model)
    {token : Token}
    (member : token ∈ model.tokens) :
    ∃ start stop, token.Occupies source.text.toList start stop := by
  obtain ⟨_, _, _, read, _⟩ := exists_forest_of_build built
  exact (tiles_of_tokenize read).exists_occupies (Array.mem_toList_iff.mpr member)

/-- A token of a model that is built starts at a character of the file. -/
theorem hasCharacter_of_build
    (built : build source = .ok model)
    {token : Token}
    (member : token ∈ model.tokens) :
    model.HasCharacter token.start := by
  obtain ⟨start, stop, occupies⟩ := exists_occupies_of_build built member
  obtain ⟨areLines, onLine⟩ := lines_of_build built
  obtain ⟨inOrder, inText⟩ := onLine token member
  have liesIn := occupies.liesIn
  obtain ⟨line, character, found, isNumber, isThere, _⟩ := liesIn.first
  have hasColumn : 1 ≤ token.start.column := by
    rw [occupies.startsAt]
    exact Nat.le_add_left 1 _
  obtain ⟨inRange, _⟩ := List.getElem?_eq_some_iff.mp isThere
  rw [String.length_toList] at inRange
  refine ⟨liesIn.fromFirst, inOrder.trans inText, line, ?_, isNumber, hasColumn, ?_⟩
  · rw [areLines]
    exact found
  · exact Nat.le_of_pred_lt inRange

/-- What has to be there is there if it is found. -/
theorem eq_some_of_expect
    {Item : Type}
    {item : Option Item}
    {found : Item}
    (isFound : expect item = .ok found) :
    item = some found := by
  cases item with
  | none => cases isFound
  | some other => exact congrArg some (Except.ok.inj isFound)

theorem clamp_eq
    {place : Position}
    (fromFirst : 1 ≤ place.line)
    (toLast : place.line ≤ model.lines.size)
    (hasColumn : 1 ≤ place.column) :
    Rule.clamp model place = place := by
  unfold Rule.clamp
  rw [Nat.max_eq_left fromFirst, Nat.max_eq_left (fromFirst.trans toLast),
    Nat.min_eq_left toLast, Nat.max_eq_left hasColumn]

theorem HasCharacter.clamp_eq
    {place : Position}
    (hasCharacter : model.HasCharacter place) :
    Rule.clamp model place = place := by
  obtain ⟨fromFirst, toLast, _, _, _, hasColumn, _⟩ := hasCharacter
  exact SourceModel.clamp_eq fromFirst toLast hasColumn

/-- A statement ends with code, or by indentation with any token. -/
theorem ReadFrom.isShown_last
    {forest : List Node}
    {spelled : List Placed}
    (readFrom : model.ReadFrom forest spelled)
    {index : Nat}
    {row : Statement}
    (found : model.outline.statements[index]? = some row)
    {last : Token}
    (isLast : model.tokens[row.last]? = some last) :
    last.isCode = true ∨ model.language.profile.blockStyle = .indent := by
  cases style : model.language.profile.blockStyle with
  | indent => exact .inr rfl
  | braces =>
      obtain ⟨node, foundNode, _, lastIs⟩ := readFrom.family found
      obtain ⟨these, spells, part⟩ :=
        readFrom.spells.part_of_mem_families (List.mem_of_getElem? foundNode)
      have member := part.subset spells.last_mem
      have isThere := readFrom.token?_of_mem member
      rw [← lastIs, isLast, Option.some.injEq] at isThere
      rw [readFrom.codeOnly style] at member
      rw [isThere]
      exact .inl (List.mem_filter.mp member).2

end SourceModel

/-- A token that stands on one line stops on the line on which it starts. -/
theorem Token.Occupies.line_eq
    {token : Token}
    {text : List Char}
    {start stop : Nat}
    (occupies : token.Occupies text start stop)
    (oneLine : IsOneLine token.text) :
    token.stop.line = token.start.line := by
  obtain ⟨returns, spelled, areReturns, _⟩ := occupies.spelled
  have noBreak : '\n' ∉ slice text start stop := by
    rw [spelled, List.mem_append, not_or]
    exact ⟨oneLine, fun isThere => by cases areReturns _ isThere⟩
  have hasLength := occupies.nonempty
  have inside : slice text start (stop - 1) <+: slice text start stop :=
    List.take_prefix_take_left (by omega)
  have isBehind : text.take (stop - 1) = text.take start ++ slice text start (stop - 1) := by
    rw [slice, ← List.take_add]
    congr 1
    omega
  have noneCounted : (slice text start (stop - 1)).count '\n' = 0 :=
    List.count_eq_zero.mpr fun isThere => noBreak (inside.subset isThere)
  rw [occupies.startsAt, occupies.stopsAt]
  simp only [Position.ofOffset, Position.behind, isBehind, List.count_append,
    noneCounted, Nat.add_zero]

/-! ## Findings at tokens -/

/-- The finding is at a whole column, where a token starts. -/
structure Finding.StartsToken (tokens : Array Token) (finding : Finding) : Prop where
  wholeColumn : finding.decimalColumn = none
  start : ∃ token ∈ tokens, finding.place = token.start

/-- All findings of a rule, if it answers, are where tokens start. -/
abbrev Marks
    (tokens : Array Token)
    (answer : Except RuleFault (List Finding)) :
    Prop :=
  Yields (fun findings => ∀ finding ∈ findings, finding.StartsToken tokens)
    (fun _ => True) answer

/-- Whatever is read passes a test that all values pass, and faults do not matter. -/
theorem yields_of_forall
    {Value : Type}
    {ofValue : Value → Prop}
    {answer : Except RuleFault Value}
    (passes : ∀ value, answer = .ok value → ofValue value) :
    Yields ofValue (fun _ => True) answer :=
  .of_failsOnly (fun _ _ => trivial) passes

theorem yields_bind
    {Found Value : Type}
    {ofValue : Value → Prop}
    {answer : Except RuleFault Found}
    {next : Found → Except RuleFault Value}
    (each : ∀ found, Yields ofValue (fun _ => True) (next found)) :
    Yields ofValue (fun _ => True) (answer >>= next) :=
  (yields_of_forall fun _ _ => trivial).bind fun found (_ : True) => each found

theorem startToken_flatten
    {tokens : Array Token}
    {lists : List (List Finding)}
    (each : ∀ findings ∈ lists, ∀ finding ∈ findings, finding.StartsToken tokens) :
    ∀ finding ∈ lists.flatten, finding.StartsToken tokens := by
  intro finding member
  obtain ⟨findings, isList, inList⟩ := List.mem_flatten.mp member
  exact each findings isList finding inList

/-- A finding about a measure is made for a thing and a limit that it exceeds. -/
theorem Limits.exists_of_mem_findings
    {Measured : Type}
    {limits : Limits}
    {severity : Severity}
    {measure : Measured → Nat}
    {finding : Measured → Severity → Document → String → Finding}
    {items : List Measured}
    {found : List Finding}
    (isFound : limits.findings severity measure finding items = .ok found) :
    ∀ one ∈ found,
      ∃ item ∈ items, ∃ reported limit text,
        one = finding item reported limit text ∧
          limits.breach? severity (measure item) = .ok (some (reported, limit)) := by
  induction items generalizing found with
  | nil =>
      cases isFound
      exact List.forall_mem_nil _
  | cons item rest inductionHypothesis =>
      rw [findings] at isFound
      obtain ⟨breach, isBreach, isFound⟩ := exists_of_bind_eq_ok isFound
      have ofRest
          {others : List Finding}
          (areOthers : limits.findings severity measure finding rest = .ok others) :
          ∀ one ∈ others,
            ∃ item' ∈ item :: rest, ∃ reported limit text,
              one = finding item' reported limit text ∧
                limits.breach? severity (measure item') =
                  .ok (some (reported, limit)) := by
        intro one member
        obtain ⟨other, isThere, isMade⟩ := inductionHypothesis areOthers one member
        exact ⟨other, List.mem_cons_of_mem item isThere, isMade⟩
      cases breach with
      | none => exact ofRest isFound
      | some breached =>
          obtain ⟨reported, limit⟩ := breached
          obtain ⟨text, _, isFound⟩ := exists_of_bind_eq_ok isFound
          obtain ⟨others, areOthers, isFound⟩ := exists_of_bind_eq_ok isFound
          cases isFound
          refine List.forall_mem_cons.mpr ⟨?_, ofRest areOthers⟩
          exact ⟨item, List.mem_cons_self .., reported, limit, text, rfl, isBreach⟩

/-- Of two whole limits the hard one is exceeded, or the soft one alone. -/
theorem Limits.of_breach?
    {limits : Limits}
    {soft hard : Int}
    (isSoft : limits.soft = .int soft)
    (isHard : limits.hard = .int hard)
    {severity reported : Severity}
    {size : Nat}
    {limit : Document}
    (isBreach : limits.breach? severity size = .ok (some (reported, limit))) :
    limit = .int hard ∧ hard < size ∨
      limit = .int soft ∧ soft < size ∧ (size : Int) ≤ hard := by
  have exceedsWhole (limit : Int) :
      exceeds size (.int limit) = .ok (decide (limit < size)) := rfl
  unfold breach? at isBreach
  rw [isSoft, isHard, exceedsWhole, exceedsWhole, ok_bind, ok_bind] at isBreach
  split at isBreach
  · next exceedsHard =>
      cases isBreach
      exact .inl ⟨rfl, of_decide_eq_true exceedsHard⟩
  · next fitsHard =>
      split at isBreach
      · next exceedsSoft =>
          obtain ⟨_, _, isBreach⟩ := exists_of_bind_eq_ok isBreach
          cases isBreach
          simp only [decide_eq_true_eq, Int.not_lt] at fitsHard exceedsSoft
          exact .inr ⟨rfl, exceedsSoft, fitsHard⟩
      · cases isBreach

namespace LineLength

/-- The place is where a line goes on behind the limit that it exceeds. -/
def IsBehindLimit
    (params : Entries)
    (model : SourceModel)
    (place : Position) :
    Prop :=
  ∃ soft hard severity,
    Limits.Accepted params soft hard severity ∧
      ∃ line ∈ model.lines, ∃ limit : Nat,
        place = { line := line.number, column := limit + 1 } ∧
          limit < line.length ∧
          ((limit : Int) = hard ∨
            (limit : Int) = soft ∧ (line.length : Int) ≤ hard)

variable {model : SourceModel}

/-- A line that goes on behind a limit has a character there. -/
theorem IsBehindLimit.hasCharacter
    {params : Entries}
    {place : Position}
    (areNumbered : AreNumbered model.lines)
    (isBehind : IsBehindLimit params model place) :
    model.HasCharacter place := by
  obtain ⟨_, _, _, _, line, member, limit, rfl, isShort, _⟩ := isBehind
  obtain ⟨index, found⟩ := Array.getElem?_of_mem member
  obtain ⟨inRange, _⟩ := Array.getElem?_eq_some_iff.mp found
  have isNumber := areNumbered index line found
  have inFile : 1 ≤ line.number ∧ line.number ≤ model.lines.size := by
    omega
  refine ⟨inFile.1, inFile.2, line, ?_, rfl, Nat.le_add_left 1 limit, isShort⟩
  rw [isNumber]
  exact found

/-- A line that is too long is reported behind the limit that it exceeds. -/
theorem of_mem_findings
    {settings : RuleSettings}
    (accepted : lineLength.validate settings.params = .ok ())
    {findings : List Finding}
    (isAnswer : lineLength.check model settings = .ok findings) :
    ∀ finding ∈ findings,
      finding.decimalColumn = none ∧
        IsBehindLimit settings.params model finding.place := by
  obtain ⟨soft, hard, severity, accepted⟩ := Limits.exists_accepted accepted
  simp only [lineLength, accepted.read, ok_bind] at isAnswer
  intro finding member
  obtain ⟨line, isLine, reported, limit, text, rfl, isBreach⟩ :=
    Limits.exists_of_mem_findings isAnswer finding member
  have behind
      (whole : Int)
      (notNegative : 0 ≤ whole)
      (exceeds : whole < line.length)
      (isLimit : whole = hard ∨ whole = soft ∧ (line.length : Int) ≤ hard) :
      (LineLength.finding line reported (.int whole) text).decimalColumn = none ∧
        IsBehindLimit settings.params model
          (LineLength.finding line reported (.int whole) text).place := by
    obtain ⟨limit, rfl⟩ := Int.eq_ofNat_of_zero_le notNegative
    exact
      ⟨rfl, soft, hard, severity, accepted, line, Array.mem_toList_iff.mp isLine, limit,
        rfl, Int.ofNat_lt.mp exceeds, isLimit⟩
  have notNegative := accepted.notNegative
  have inOrder := accepted.inOrder
  rcases Limits.of_breach? rfl rfl isBreach with
    ⟨rfl, exceeds⟩ | ⟨rfl, exceeds, fitsHard⟩
  · exact behind hard (notNegative.trans inOrder) exceeds (.inl rfl)
  · exact behind soft notNegative exceeds (.inr ⟨rfl, fitsHard⟩)

end LineLength

/-! ## Findings about declarations -/

/-- The finding is where a declaration is. -/
structure Finding.IsOf (declaration : Declaration) (finding : Finding) : Prop where
  wholeColumn : finding.decimalColumn = none
  place : finding.place = declaration.place

namespace NamingConvention

variable
  {conventions : Conventions}
  {severity : Severity}
  {declaration : Declaration}

/-- The finding for a marker is where the type is declared. -/
theorem markerFinding?_isOf :
    ∀ finding ∈ markerFinding? conventions severity declaration,
      finding.IsOf declaration := by
  intro finding isFound
  unfold markerFinding? at isFound
  split at isFound
  · cases isFound
    exact ⟨rfl, rfl⟩
  · cases isFound

/-- The finding for a name is where it is declared. -/
theorem yields_casingFinding?
    (conventions : Conventions)
    (severity : Severity)
    (declaration : Declaration) :
    Yields (fun finding => ∀ found ∈ finding, found.IsOf declaration)
      (fun _ => True) (casingFinding? conventions severity declaration) := by
  unfold casingFinding?
  split
  · exact nofun
  · refine yields_bind fun casing => ?_
    cases casing with
    | none => exact nofun
    | some casing =>
        refine .ite (fun _ => nofun) fun _ => ?_
        rintro _ ⟨⟩
        exact ⟨rfl, rfl⟩

end NamingConvention

/-- What is reported of the members of a type is where one of them is declared. -/
theorem DeclarationOrder.exists_isOf_of_mem_findingsFrom
    {order : MethodOrder}
    {severity : Severity}
    {reached : Nat}
    {members : List Declaration}
    {finding : Finding}
    (isFound : finding ∈ findingsFrom order severity reached members) :
    ∃ declaration ∈ members, finding.IsOf declaration := by
  fun_induction findingsFrom order severity reached members with
  | case1 => cases isFound
  | case2 _ _ _ _ inductionHypothesis =>
      obtain ⟨other, isMember, isOf⟩ := inductionHypothesis isFound
      exact ⟨other, List.mem_cons_of_mem _ isMember, isOf⟩
  | case3 _ _ _ _ _ _ inductionHypothesis =>
      rcases List.mem_cons.mp isFound with rfl | inRest
      · exact ⟨_, List.mem_cons_self .., rfl, rfl⟩
      · obtain ⟨other, isMember, isOf⟩ := inductionHypothesis inRest
        exact ⟨other, List.mem_cons_of_mem _ isMember, isOf⟩
  | case4 _ _ _ _ _ _ inductionHypothesis =>
      obtain ⟨other, isMember, isOf⟩ := inductionHypothesis isFound
      exact ⟨other, List.mem_cons_of_mem _ isMember, isOf⟩

/-! ## Rule by rule -/

section Marking

variable
  {source : SourceFile}
  {model : SourceModel}
  (built : SourceModel.build source = .ok model)

include built

/-- A declaration is where a token starts. -/
theorem exists_token_of_declaration
    {declaration : Declaration}
    (member : declaration ∈ model.declarations) :
    ∃ token ∈ model.tokens, declaration.place = token.start := by
  obtain ⟨row, _, name, declares⟩ :=
    SourceModel.exists_declaresAt_of_build built member
  exact ⟨name.token, Array.mem_of_getElem? declares.isToken, declares.made.place⟩

/-- A block is where a token starts. -/
theorem exists_token_of_block
    {block : Block}
    (member : block ∈ model.blocks) :
    ∃ token ∈ model.tokens, block.start = token.start := by
  obtain ⟨forest, spelled, readFrom⟩ := SourceModel.readFrom_of_build built
  exact readFrom.exists_start member

/-- What is reported of a declaration is where a token starts. -/
theorem startsToken_of_isOf
    {declaration : Declaration}
    (member : declaration ∈ model.declarations)
    {finding : Finding}
    (isOf : finding.IsOf declaration) :
    finding.StartsToken model.tokens := by
  obtain ⟨token, isThere, startsThere⟩ := exists_token_of_declaration built member
  exact ⟨isOf.wholeColumn, token, isThere, isOf.place.trans startsThere⟩

theorem namingConvention_marks (settings : RuleSettings) :
    Marks model.tokens (namingConvention.check model settings) := by
  refine yields_bind fun conventions => ?_
  refine (Yields.mapM fun declaration member => ?_).map fun _ => startToken_flatten
  refine (NamingConvention.yields_casingFinding? _ _ _).map ?_
  intro casing isOf finding isThere
  refine startsToken_of_isOf built member ?_
  rcases List.mem_append.mp isThere with isMarker | isCasing
  · exact NamingConvention.markerFinding?_isOf finding (Option.mem_toList.mp isMarker)
  · exact isOf finding (Option.mem_toList.mp isCasing)

theorem blockDelimiter_marks (settings : RuleSettings) :
    Marks model.tokens (blockDelimiter.check model settings) := by
  intro finding member
  obtain ⟨block, isSprawling, rfl⟩ := List.mem_map.mp member
  exact
    ⟨rfl, exists_token_of_block built
      (Array.mem_toList_iff.mp (List.mem_of_mem_filter isSprawling))⟩

theorem blockLength_marks (settings : RuleSettings) :
    Marks model.tokens (blockLength.check model settings) := by
  refine yields_of_forall fun findings isAnswer finding member => ?_
  obtain ⟨limits, _, isAnswer⟩ := exists_of_bind_eq_ok isAnswer
  obtain ⟨block, isMethod, _, _, _, rfl, _⟩ :=
    Limits.exists_of_mem_findings isAnswer finding member
  exact
    ⟨rfl, exists_token_of_block built
      (Array.mem_toList_iff.mp (List.mem_of_mem_filter isMethod))⟩

theorem methodSeparation_marks (settings : RuleSettings) :
    Marks model.tokens (methodSeparation.check model settings) := by
  have holds := SourceModel.holdsRows_of_build built
  refine yields_bind fun expected => ?_
  refine (Yields.mapM fun block _ => ?_).map fun _ => startToken_flatten
  refine (Yields.mapM fun pair _ => ?_).map fun _ => startToken_flatten
  refine .ite (fun _ => ?_) (fun _ => List.forall_mem_nil _)
  refine yields_bind fun first => ?_
  have isExpected :
      Yields (· ∈ model.statements) (fun _ => True)
        (SourceModel.expect model.statements[pair.2]?) :=
    yields_of_forall fun second isSecond =>
      Array.mem_of_getElem? (SourceModel.eq_some_of_expect isSecond)
  refine isExpected.bind fun second member => ?_
  obtain ⟨token, isThere, _, _, isToken, _, startsThere, _⟩ := holds.ends second member
  refine yields_bind fun found => ?_
  refine .ite (fun _ => List.forall_mem_nil _) fun _ => ?_
  rw [SourceModel.columnOf_eq isToken, ok_bind]
  refine .ite (fun _ => trivial) fun _ => ?_
  intro finding isFound
  obtain rfl := List.mem_singleton.mp isFound
  refine ⟨rfl, token, isThere, ?_⟩
  rw [startsThere, SourceModel.columnAt, isToken]
  rfl

theorem declarationOrder_marks (settings : RuleSettings) :
    Marks model.tokens (declarationOrder.check model settings) := by
  refine yields_of_forall fun findings isAnswer finding member => ?_
  obtain ⟨order, _, isAnswer⟩ := exists_of_bind_eq_ok isAnswer
  cases isUnlisted : DeclarationOrder.unlisted? order model with
  | some visibility =>
      simp only [isUnlisted] at isAnswer
      split at isAnswer <;> cases isAnswer
  | none =>
      simp only [isUnlisted] at isAnswer
      cases isAnswer
      obtain ⟨block, _, inBlock⟩ := List.mem_flatMap.mp member
      obtain ⟨declaration, isMember, isOf⟩ :=
        DeclarationOrder.exists_isOf_of_mem_findingsFrom inBlock
      exact startsToken_of_isOf built (List.mem_of_mem_filter isMember) isOf

theorem verbNamedMethod_marks (settings : RuleSettings) :
    Marks model.tokens (verbNamedMethod.check model settings) := by
  refine yields_bind fun words => ?_
  refine yields_bind fun verbs => ?_
  refine .ite (fun _ => List.forall_mem_nil _) fun _ => ?_
  refine yields_bind fun items => ?_
  refine yields_bind fun ignored => ?_
  intro finding member
  obtain ⟨declaration, isChecked, isFound⟩ := List.mem_filterMap.mp member
  unfold VerbNamedMethod.finding? at isFound
  simp only at isFound
  split at isFound
  · cases isFound
  · cases isFound
    exact startsToken_of_isOf built (List.mem_of_mem_filter isChecked) ⟨rfl, rfl⟩

omit built in
theorem magicLiteral_marks (settings : RuleSettings) :
    Marks model.tokens (magicLiteral.check model settings) := by
  refine yields_bind fun items => ?_
  refine yields_bind fun allowed => ?_
  refine yields_bind fun checkStrings => ?_
  refine yields_of_forall fun findings areFound finding member => ?_
  obtain ⟨_, rfl⟩ := MagicLiteral.findingsAt_eq_ok_iff.mp areFound
  obtain ⟨⟨site, context⟩, isChecked, rfl⟩ := List.mem_map.mp member
  obtain ⟨isSite, _⟩ := MagicLiteral.mem_checkedSites.mp (List.mem_of_mem_filter isChecked)
  obtain ⟨front, back, isCode, stands⟩ := MagicLiteral.exists_of_mem_sitesOf isSite
  have ordered := MagicLiteral.placeCode_inOrder model.tokens
  have isToken : ∀ placed ∈ placeCode model.tokens, placed.token ∈ model.tokens :=
    fun placed inCode =>
      Array.mem_of_getElem? (mem_placeTokens.mp (List.mem_of_mem_filter inCode))
  refine ⟨rfl, ?_⟩
  rcases MagicLiteral.isWritten ordered isCode stands with
    ⟨minus, isSign, startsThere, _⟩ | ⟨_, startsThere, _⟩
  · exact ⟨minus.token, isToken minus (isSign.isNext.subset (by simp)), startsThere⟩
  · exact ⟨site.placed.token, isToken site.placed (by simp [isCode]), startsThere⟩

omit built in
theorem explanatoryComment_marks (settings : RuleSettings) :
    Marks model.tokens (explanatoryComment.check model settings) := by
  refine yields_bind fun items => ?_
  refine yields_bind fun operators => ?_
  intro finding member
  obtain ⟨block, _, isFound⟩ := List.mem_filterMap.mp member
  unfold ExplanatoryComment.finding? at isFound
  obtain ⟨_, _, isFound⟩ := Option.bind_eq_some_iff.mp isFound
  obtain ⟨comment, isComment, isFound⟩ := Option.bind_eq_some_iff.mp isFound
  obtain ⟨_, _, isFound⟩ := Option.bind_eq_some_iff.mp isFound
  cases isFound
  unfold ExplanatoryComment.commentBefore? at isComment
  obtain ⟨_, _, isComment⟩ := Option.bind_eq_some_iff.mp isComment
  obtain ⟨token, isThere, isComment⟩ := Option.bind_eq_some_iff.mp isComment
  obtain ⟨_, _, same⟩ := Option.bind_eq_some_iff.mp isComment
  cases same
  exact ⟨rfl, comment, Array.mem_of_getElem? isThere, rfl⟩

end Marking

/-- The findings of the other rules, those about lines apart, are where tokens start. -/
theorem marks_of_builtin
    {source : SourceFile}
    {model : SourceModel}
    (built : SourceModel.build source = .ok model)
    {rule : Rule}
    (member : rule ∈ builtinRules)
    (notPlacement : rule.id ≠ blankLinePlacement.id) :
    rule = lineLength ∨
      rule.id ≠ lineLength.id ∧
        ∀ settings, Marks model.tokens (rule.check model settings) := by
  simp only [builtinRules, List.mem_cons, List.not_mem_nil, or_false] at member
  rcases member with
    rfl | rfl | rfl | rfl | rfl | rfl | rfl | rfl | rfl | rfl
  · exact .inl rfl
  · exact .inr ⟨by decide, namingConvention_marks built⟩
  · exact .inr ⟨by decide, magicLiteral_marks⟩
  · exact .inr ⟨by decide, blockDelimiter_marks built⟩
  · exact .inr ⟨by decide, blockLength_marks built⟩
  · exact (notPlacement rfl).elim
  · exact .inr ⟨by decide, methodSeparation_marks built⟩
  · exact .inr ⟨by decide, declarationOrder_marks built⟩
  · exact .inr ⟨by decide, verbNamedMethod_marks built⟩
  · exact .inr ⟨by decide, explanatoryComment_marks⟩

/-! ## Resolved settings -/

/-- A rule reports a finding at its very place. -/
structure Rule.ReportsInPlace
    (rule : Rule)
    (model : SourceModel)
    (finding : Finding) :
    Prop where
  unmoved : Rule.clamp model finding.place = finding.place
  line : (rule.sign model finding).line = finding.place.line
  column : (rule.sign model finding).column = finding.place.column
  wholeColumn : (rule.sign model finding).decimalColumn = none

/-- What needs no moving into the file is reported where it is. -/
theorem Rule.reportsInPlace
    {rule : Rule}
    {model : SourceModel}
    {finding : Finding}
    (unmoved : Rule.clamp model finding.place = finding.place)
    (wholeColumn : finding.decimalColumn = none) :
    rule.ReportsInPlace model finding :=
  { unmoved
    line := by rw [Rule.sign, unmoved]
    column := by rw [Rule.sign, unmoved]
    wholeColumn }

section Resolved

variable
  {surroundings : Surroundings}
  {registry : Registry}
  {defaults overrides : Configuration}
  {rules : RuleSet}
  {source : SourceFile}
  {model : SourceModel}
  (distinct : registry.ids.Nodup)
  (isResolved :
    resolveOver surroundings registry defaults overrides = .ok rules)
  (built : SourceModel.build source = .ok model)

include distinct isResolved built

/--
With the settings that an accepted configuration comes to, every violation of a rule
other than that for blank lines is at a character of the file. It is where a token
starts, and for a line that is too long where it goes on behind the limit.
-/
theorem exists_characters_of_resolved (language : Language) :
    ∀ rule ∈ builtinRules,
      rule.id ≠ blankLinePlacement.id →
      rule ∈ registry.rules →
      ∃ settings,
        rules.settings? language rule.id = some settings ∧
          ∀ violations,
            rule.evaluate model settings = .ok violations →
            ∃ findings,
              rule.check model settings = .ok findings ∧
                violations = findings.map (rule.sign model) ∧
                ∀ finding ∈ findings,
                  rule.ReportsInPlace model finding ∧
                    model.HasCharacter finding.place ∧
                    (rule.id ≠ lineLength.id →
                      ∃ token ∈ model.tokens, finding.place = token.start) ∧
                    (rule.id = lineLength.id →
                      LineLength.IsBehindLimit settings.params model
                        finding.place) := by
  intro rule isBuiltin notPlacement member
  obtain ⟨settings, settled, isSettled, _⟩ :=
    exists_settings_of_resolveOver distinct isResolved language member
  refine ⟨settings, settled, ?_⟩
  intro violations isAnswer
  obtain ⟨findings, areFound, rfl⟩ := exists_of_map_eq_ok isAnswer
  refine ⟨findings, areFound, rfl, ?_⟩
  intro finding isFound
  rcases marks_of_builtin built isBuiltin notPlacement with rfl | ⟨notLength, marks⟩
  · obtain ⟨wholeColumn, isBehind⟩ :=
      LineLength.of_mem_findings (Rule.accepts_of_settle isSettled) areFound finding
        isFound
    have hasCharacter :=
      isBehind.hasCharacter (SourceModel.holdsRows_of_build built).areNumbered
    exact
      ⟨Rule.reportsInPlace hasCharacter.clamp_eq wholeColumn, hasCharacter,
        fun notLength => (notLength rfl).elim, fun _ => isBehind⟩
  · have starts := marks settings
    rw [areFound] at starts
    obtain ⟨wholeColumn, token, isToken, startsThere⟩ := starts finding isFound
    have hasCharacter : model.HasCharacter finding.place :=
      startsThere ▸ SourceModel.hasCharacter_of_build built isToken
    exact
      ⟨Rule.reportsInPlace hasCharacter.clamp_eq wholeColumn, hasCharacter,
        fun _ => ⟨token, isToken, startsThere⟩, fun isLength => (notLength isLength).elim⟩

end Resolved

/-- A file with a block without braces, on lines of six and of five characters. -/
def unbracedSample : SourceFile where
  path := "Unbraced.java"
  text := "if (a)\n b();\n"
  language := .java

/-- Lines of six characters are too long. -/
def narrowLines : Configuration where
  rules :=
    [("line-length",
      [(.text "params",
        .map [(.text "soft_limit", .int 5), (.text "hard_limit", .int 6)])])]

set_option maxRecDepth 100000 in
/-- One line is reported behind the soft limit, and the block where it starts. -/
theorem characters_of_unbracedSample :
    ∃ defaults rules model lengths delimiters longLines unbraced,
      Configuration.packaged = .ok defaults ∧
        resolveOver emptyDisk .builtin defaults narrowLines = .ok rules ∧
        SourceModel.build unbracedSample = .ok model ∧
        rules.settings? .java lineLength.id = some lengths ∧
        lineLength.check model lengths = .ok longLines ∧
        longLines.length = 1 ∧
        (∀ finding ∈ longLines,
          model.HasCharacter finding.place ∧
            LineLength.IsBehindLimit lengths.params model finding.place) ∧
        rules.settings? .java blockDelimiter.id = some delimiters ∧
        blockDelimiter.check model delimiters = .ok unbraced ∧
        unbraced.length = 1 ∧
        ∀ finding ∈ unbraced,
          model.HasCharacter finding.place ∧
            ∃ token ∈ model.tokens, finding.place = token.start := by
  have distinct : Registry.builtin.ids.Nodup := by
    decide +kernel
  have packaged :
      Configuration.packaged.toOption.map (fun defaults =>
        (resolveOver emptyDisk .builtin defaults narrowLines).toOption.map
          fun rules =>
            (rules.settings? .java lineLength.id).map fun settings =>
              (do
                let limits ← Limits.ofParams settings.params
                limits.findings settings.severity Line.length LineLength.finding
                  (splitLines unbracedSample.text).toList).toOption.map
                    List.length) =
        some (some (some (some 1))) := by
    decide +kernel
  have counted :
      (SourceModel.build unbracedSample).toOption.map (fun model =>
        (BlockDelimiter.findings .warning model).length) =
        some 1 := by
    decide +kernel
  obtain ⟨defaults, isPackaged, isAccepted⟩ := Option.map_eq_some_iff.mp packaged
  obtain ⟨rules, isResolved, isChecked⟩ := Option.map_eq_some_iff.mp isAccepted
  obtain ⟨lengths, areLengths, isChecked⟩ := Option.map_eq_some_iff.mp isChecked
  obtain ⟨longLines, areLong, oneLong⟩ := Option.map_eq_some_iff.mp isChecked
  obtain ⟨model, built, oneUnbraced⟩ := Option.map_eq_some_iff.mp counted
  have isResolved := eq_ok_of_toOption_eq_some isResolved
  have built := eq_ok_of_toOption_eq_some built
  have areLong : lineLength.check model lengths = .ok longLines := by
    have sameLines := (SourceModel.holdsRows_of_build built).lines
    simp only [lineLength, sameLines]
    exact eq_ok_of_toOption_eq_some areLong
  have places := exists_characters_of_resolved distinct isResolved built .java
  obtain ⟨settings, settled, ofLength⟩ :=
    places lineLength (by simp [builtinRules]) (by decide)
      (by simp [Registry.builtin, builtinRules])
  obtain rfl : lengths = settings := Option.some.inj (areLengths.symm.trans settled)
  obtain ⟨delimiters, areDelimiters, ofDelimiter⟩ :=
    places blockDelimiter (by simp [builtinRules]) (by decide)
      (by simp [Registry.builtin, builtinRules])
  have longAnswer :
      lineLength.evaluate model lengths =
        .ok (longLines.map (lineLength.sign model)) := by
    rw [Rule.evaluate, areLong]
    rfl
  obtain ⟨_, alsoLong, _, inPlace⟩ := ofLength _ longAnswer
  obtain rfl := Except.ok.inj (areLong.symm.trans alsoLong)
  obtain ⟨unbraced, areUnbraced, _, startThere⟩ := ofDelimiter _ rfl
  refine
    ⟨defaults, rules, model, lengths, delimiters, longLines, unbraced,
      eq_ok_of_toOption_eq_some isPackaged, isResolved, built, areLengths, areLong,
      oneLong, ?_, areDelimiters, areUnbraced, ?_, ?_⟩
  · intro finding member
    obtain ⟨_, hasCharacter, _, isBehind⟩ := inPlace finding member
    exact ⟨hasCharacter, isBehind rfl⟩
  · rw [← Except.ok.inj areUnbraced]
    simpa [BlockDelimiter.findings] using oneUnbraced
  · intro finding member
    obtain ⟨_, hasCharacter, startsToken, _⟩ := startThere finding member
    exact ⟨hasCharacter, startsToken (by decide)⟩

/-! ## Missing blank lines -/

namespace BlankLinePlacement

/--
A block ends with a string that spans lines. The place is on the last line of the
string, at the column at which the string starts on an earlier line.
-/
def IsUnderString (model : SourceModel) (place : Position) : Prop :=
  ∃ row ∈ model.statements, ∃ last,
    row.kind = .block ∧
      model.tokens[row.last]? = some last ∧
      last.kind = .string ∧
      last.start.line < last.stop.line ∧
      place = { line := last.stop.line, column := last.start.column }

section Places

variable
  {source : SourceFile}
  {model : SourceModel}
  (built : SourceModel.build source = .ok model)
  (severity : Severity)
  {row : Statement}
  (member : row ∈ model.statements)

include built member

/-- A statement without a blank line in front of it is reported where it starts. -/
theorem notPreceded_startsToken :
    (notPreceded severity model row).StartsToken model.tokens := by
  obtain ⟨first, isThere, _, _, isToken, _, startsThere, _⟩ :=
    (SourceModel.holdsRows_of_build built).ends row member
  refine ⟨rfl, first, isThere, ?_⟩
  rw [notPreceded, startsThere, SourceModel.columnAt, isToken]
  rfl

/-- A block without one behind it is reported at its last token, or under a string. -/
theorem notFollowed_startsToken_or
    (isBlock : row.kind = .block) :
    (notFollowed severity model row).StartsToken model.tokens ∨
      IsUnderString model (notFollowed severity model row).place := by
  obtain ⟨forest, spelled, _, read, readFrom⟩ := SourceModel.exists_forest_of_build built
  obtain ⟨_, _, last, isThere, _, isLast, _, stopsThere⟩ :=
    (SourceModel.holdsRows_of_build built).ends row member
  have isPlace :
      (notFollowed severity model row).place =
        { line := last.stop.line, column := last.start.column } := by
    rw [notFollowed, stopsThere, SourceModel.columnAt, isLast]
    rfl
  obtain ⟨start, stop, occupies⟩ := SourceModel.exists_occupies_of_build built isThere
  by_cases onOneLine : last.stop.line = last.start.line
  · refine .inl ⟨rfl, last, isThere, ?_⟩
    rw [isPlace, onOneLine]
  · obtain ⟨index, found⟩ := Array.getElem?_of_mem member
    have isShown := readFrom.isShown_last found isLast
    rw [SourceModel.language_of_build built] at isShown
    have isString : last.kind = .string :=
      (isOneLine_or_isString read isThere isShown).resolve_left
        fun oneLine => onOneLine (occupies.line_eq oneLine)
    obtain ⟨inOrder, _⟩ := (SourceModel.holdsRows_of_build built).onLine last isThere
    exact
      .inr ⟨row, member, last, isBlock, isLast, isString,
        Nat.lt_of_le_of_ne inOrder (Ne.symm onOneLine), isPlace⟩

end Places

/-- A place under a string is on a line of the file, if not at a character of it. -/
theorem IsUnderString.clamp_eq
    {source : SourceFile}
    {model : SourceModel}
    (built : SourceModel.build source = .ok model)
    {place : Position}
    (isUnder : IsUnderString model place) :
    Rule.clamp model place = place := by
  obtain ⟨_, _, last, _, isLast, _, _, rfl⟩ := isUnder
  have isThere := Array.mem_of_getElem? isLast
  obtain ⟨inOrder, inText⟩ := (SourceModel.holdsRows_of_build built).onLine last isThere
  obtain ⟨fromFirst, _, _, _, _, hasColumn, _⟩ :=
    SourceModel.hasCharacter_of_build built isThere
  exact SourceModel.clamp_eq (fromFirst.trans inOrder) inText hasColumn

/--
With the settings that an accepted configuration comes to, every violation is where a
token starts, so at a character of the file, unless it is about a blank line behind a
block that ends with a string over several lines. It is on a line of the file then,
but its column is that of another line.
-/
theorem exists_places_of_resolved
    {surroundings : Surroundings}
    {registry : Registry}
    {defaults overrides : Configuration}
    {rules : RuleSet}
    {source : SourceFile}
    {model : SourceModel}
    (distinct : registry.ids.Nodup)
    (member : blankLinePlacement ∈ registry.rules)
    (defaultsAreMappings : defaults.HasMappings)
    (overridesAreMappings : overrides.HasMappings)
    (isResolved :
      resolveOver surroundings registry defaults overrides = .ok rules)
    (built : SourceModel.build source = .ok model)
    (language : Language) :
    ∃ settings findings violations,
      rules.settings? language blankLinePlacement.id = some settings ∧
        blankLinePlacement.check model settings = .ok findings ∧
        blankLinePlacement.evaluate model settings = .ok violations ∧
        violations = findings.map (blankLinePlacement.sign model) ∧
        ∀ finding ∈ findings,
          blankLinePlacement.ReportsInPlace model finding ∧
            (model.HasCharacter finding.place ∧
                (∃ token ∈ model.tokens, finding.place = token.start) ∨
              IsUnderString model finding.place) := by
  obtain ⟨settings, checkReturns, findings, settled, _, areFound, perm⟩ :=
    exists_check_of_resolved distinct member defaultsAreMappings overridesAreMappings
      isResolved built language
  have consistent := (SourceModel.holdsRows_of_build built).consistent
  refine
    ⟨settings, findings, _, settled, areFound,
      by rw [Rule.evaluate, areFound]; rfl, rfl, ?_⟩
  intro finding isFound
  have placed :
      finding.StartsToken model.tokens ∨
        finding.decimalColumn = none ∧ IsUnderString model finding.place := by
    rcases List.mem_append.mp (perm.subset isFound) with isInFront | isBehind
    · obtain ⟨⟨earlier, later⟩, areNeighbours, rfl⟩ := List.mem_map.mp isInFront
      have adjoin :=
        (SourceModel.mem_neighbours consistent).mp (List.mem_of_mem_filter areNeighbours)
      exact .inl (notPreceded_startsToken built settings.severity adjoin.isLater)
    · obtain ⟨⟨earlier, later⟩, lacking, rfl⟩ := List.mem_map.mp isBehind
      obtain ⟨areNeighbours, isLacking⟩ := List.mem_filter.mp lacking
      have adjoin := (SourceModel.mem_neighbours consistent).mp areNeighbours
      obtain ⟨⟨isBlock, _⟩, _⟩ := of_decide_eq_true isLacking
      exact
        (notFollowed_startsToken_or built settings.severity adjoin.isEarlier
          isBlock).imp_right fun isUnder => ⟨rfl, isUnder⟩
  rcases placed with ⟨wholeColumn, token, isToken, startsThere⟩ | ⟨wholeColumn, isUnder⟩
  · have hasCharacter : model.HasCharacter finding.place :=
      startsThere ▸ SourceModel.hasCharacter_of_build built isToken
    exact
      ⟨Rule.reportsInPlace hasCharacter.clamp_eq wholeColumn,
        .inl ⟨hasCharacter, token, isToken, startsThere⟩⟩
  · exact ⟨Rule.reportsInPlace (isUnder.clamp_eq built) wholeColumn, .inr isUnder⟩

/-- A file whose first block ends with a string over two lines. -/
def stringEndSample : SourceFile where
  path := "ends.py"
  text := "if x:\n y='''\n'''\nz\n"
  language := .python

set_option maxRecDepth 100000 in
/-- The block is reported on the last line of the string, behind the end of the line. -/
theorem exists_finding_of_stringEnd :
    ∃ defaults rules model settings finding line,
      Configuration.packaged = .ok defaults ∧
        defaults.HasMappings ∧
        resolveOver emptyDisk .builtin defaults {} = .ok rules ∧
        SourceModel.build stringEndSample = .ok model ∧
        rules.settings? .python blankLinePlacement.id = some settings ∧
        blankLinePlacement.check model settings = .ok [finding] ∧
        finding.place = { line := 3, column := 4 } ∧
        model.lines[2]? = some line ∧
        line.number = 3 ∧
        line.length = 3 := by
  have distinct : Registry.builtin.ids.Nodup := by
    decide +kernel
  have isRegistered : blankLinePlacement ∈ Registry.builtin.rules := by
    simp [Registry.builtin, builtinRules]
  have noMappings : Configuration.HasMappings {} := by
    decide +kernel
  have packaged :
      Configuration.packaged.toOption.map (fun defaults =>
        (decide defaults.HasMappings,
          (resolveOver emptyDisk .builtin defaults {}).toOption.isSome)) =
        some (true, true) := by
    decide +kernel
  have computed :
      (SourceModel.build stringEndSample).toOption.map (fun model =>
        (model.neighbours.map fun pair =>
          (decide (EndsBlock model pair.1 pair.2 ∧ ¬ AreApart model pair.1 pair.2),
            [true, false].map fun checkReturns =>
              decide
                (StartsAnew model pair.2 checkReturns ∧
                  ¬ AreApart model pair.1 pair.2),
            (notFollowed .warning model pair.1).place),
          model.lines[2]?.map fun line => (line.number, line.length))) =
        some ([(true, [false, false], { line := 3, column := 4 })], some (3, 3)) := by
    decide +kernel
  obtain ⟨defaults, isPackaged, facts⟩ := Option.map_eq_some_iff.mp packaged
  obtain ⟨defaultsAreMappings, isAccepted⟩ := Prod.mk.inj facts
  obtain ⟨rules, isResolved⟩ := Option.isSome_iff_exists.mp isAccepted
  obtain ⟨model, built, facts⟩ := Option.map_eq_some_iff.mp computed
  obtain ⟨isOnly, isLine⟩ := Prod.mk.inj facts
  obtain ⟨line, found, facts⟩ := Option.map_eq_some_iff.mp isLine
  obtain ⟨isThird, isShort⟩ := Prod.mk.inj facts
  obtain ⟨⟨earlier, later⟩, arePair, facts⟩ := List.map_eq_singleton_iff.mp isOnly
  simp only [List.map_cons, List.map_nil, Prod.mk.injEq, List.cons.injEq,
    decide_eq_true_eq, decide_eq_false_iff_not, and_true] at facts
  obtain ⟨lacksBehind, ⟨hasOneInFront, alsoInFront⟩, isPlace⟩ := facts
  have built := eq_ok_of_toOption_eq_some built
  have isResolved := eq_ok_of_toOption_eq_some isResolved
  have defaultsAreMappings := of_decide_eq_true defaultsAreMappings
  obtain ⟨settings, checkReturns, reported, settled, _, areReported, perm⟩ :=
    exists_check_of_resolved distinct isRegistered defaultsAreMappings noMappings
      isResolved built .python
  have noneInFront :
      inFront settings.severity model checkReturns model.neighbours = [] := by
    cases checkReturns <;> simp [inFront, arePair, hasOneInFront, alsoInFront]
  have oneBehind :
      behind settings.severity model model.neighbours =
        [notFollowed settings.severity model earlier] := by
    simp [behind, arePair, lacksBehind]
  rw [noneInFront, oneBehind, List.nil_append, List.perm_singleton] at perm
  subst perm
  exact
    ⟨defaults, rules, model, settings, notFollowed settings.severity model earlier, line,
      eq_ok_of_toOption_eq_some isPackaged, defaultsAreMappings, isResolved, built,
      settled, areReported, isPlace, found, isThird, isShort⟩

/-- The one finding for the file is under the string. -/
theorem isUnderString_of_stringEnd :
    ∃ defaults rules model settings finding,
      Configuration.packaged = .ok defaults ∧
        defaults.HasMappings ∧
        resolveOver emptyDisk .builtin defaults {} = .ok rules ∧
        SourceModel.build stringEndSample = .ok model ∧
        rules.settings? .python blankLinePlacement.id = some settings ∧
        blankLinePlacement.check model settings = .ok [finding] ∧
        blankLinePlacement.ReportsInPlace model finding ∧
        IsUnderString model finding.place := by
  have distinct : Registry.builtin.ids.Nodup := by
    decide +kernel
  have isRegistered : blankLinePlacement ∈ Registry.builtin.rules := by
    simp [Registry.builtin, builtinRules]
  have noMappings : Configuration.HasMappings {} := by
    decide +kernel
  obtain ⟨defaults, rules, model, settings, finding, line, isPackaged,
      defaultsAreMappings, isResolved, built, settled, areFound, isPlace, found, _,
      isShort⟩ :=
    exists_finding_of_stringEnd
  obtain ⟨others, findings, _, alsoSettled, alsoFound, _, _, places⟩ :=
    exists_places_of_resolved distinct isRegistered defaultsAreMappings noMappings
      isResolved built .python
  obtain rfl := Option.some.inj (settled.symm.trans alsoSettled)
  obtain rfl := Except.ok.inj (areFound.symm.trans alsoFound)
  obtain ⟨inPlace, placed⟩ := places finding (List.mem_singleton_self finding)
  refine
    ⟨defaults, rules, model, settings, finding, isPackaged, defaultsAreMappings,
      isResolved, built, settled, areFound, inPlace, placed.resolve_left ?_⟩
  rintro ⟨⟨_, _, other, isThere, _, _, onLine⟩, _⟩
  rw [isPlace] at isThere onLine
  obtain rfl : line = other := Option.some.inj (found.symm.trans isThere)
  exact absurd onLine (by simp [isShort])

/-- The violation is in the fourth column of a line of three characters. -/
theorem columnBehindLine_of_stringEnd :
    ∃ defaults rules model settings violation line,
      Configuration.packaged = .ok defaults ∧
        resolveOver emptyDisk .builtin defaults {} = .ok rules ∧
        SourceModel.build stringEndSample = .ok model ∧
        rules.settings? .python blankLinePlacement.id = some settings ∧
        blankLinePlacement.evaluate model settings = .ok [violation] ∧
        line ∈ model.lines ∧
        violation.line = line.number ∧
        violation.column = 4 ∧
        line.length = 3 := by
  obtain ⟨defaults, rules, model, settings, finding, line, isPackaged, _, isResolved,
      built, settled, areFound, isPlace, found, isThird, isShort⟩ :=
    exists_finding_of_stringEnd
  obtain ⟨inRange, _⟩ := Array.getElem?_eq_some_iff.mp found
  have unmoved : Rule.clamp model finding.place = { line := 3, column := 4 } := by
    rw [isPlace]
    exact SourceModel.clamp_eq (by decide) inRange (by decide)
  refine
    ⟨defaults, rules, model, settings, blankLinePlacement.sign model finding, line,
      isPackaged, isResolved, built, settled, ?_, Array.mem_of_getElem? found, ?_, ?_,
      isShort⟩
  · rw [Rule.evaluate, areFound]
    rfl
  · rw [Rule.sign, unmoved, isThird]
  · rw [Rule.sign, unmoved]
    rfl

end BlankLinePlacement

end HouseStyle
