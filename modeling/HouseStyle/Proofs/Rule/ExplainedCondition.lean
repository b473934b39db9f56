import HouseStyle.Proofs.Rule.FindingPlace

namespace HouseStyle

/-!
# Which comments explain a condition

To see whether code stands in front of a comment on its line, the rule goes back from
the comment and stops at the first token that ends on an earlier line. No token ends
above the lines on which those before it end, so there is nothing of that line further
back, and the part that the rule looks at decides for the whole file.

The rule reports each conditional block at most once, in the order of the blocks, and
it does so where the comment starts.
-/

namespace ExplanatoryComment

/-! ## Looking back along a line -/

/-- Going back, code is met before an earlier line exactly if there is any code. -/
theorem trailsCode_iff
    {line : Nat}
    {before : List Token}
    (ordered :
      before.Pairwise fun nearer farther => farther.stop.line ≤ nearer.stop.line) :
    trailsCode line before = true ↔
      ∃ token ∈ before, token.isCode = true ∧ line ≤ token.stop.line := by
  induction before with
  | nil =>
      simp [trailsCode]
  | cons nearest rest inductionHypothesis =>
      obtain ⟨notBelow, restOrdered⟩ := List.pairwise_cons.mp ordered
      unfold trailsCode
      by_cases isAbove : nearest.stop.line < line
      -- Here the walk ends, and all that is farther back is above the line, too.
      · rw [if_pos isAbove]
        refine ⟨nofun, ?_⟩
        rintro ⟨token, member, _, reaches⟩
        rcases List.mem_cons.mp member with rfl | inRest
        · exact (Nat.not_le_of_lt isAbove reaches).elim
        · have isAboveToo := (notBelow token inRest).trans_lt isAbove
          exact (Nat.not_le_of_lt isAboveToo reaches).elim
      · rw [if_neg isAbove]
        by_cases isCode : nearest.isCode = true
        · rw [if_pos isCode]
          refine ⟨fun _ => ?_, fun _ => rfl⟩
          exact ⟨nearest, List.mem_cons_self .., isCode, Nat.not_lt.mp isAbove⟩
        · rw [if_neg isCode, inductionHypothesis restOrdered]
          simp [isCode]

/-- A part of the tokens of a file holds those of its indices. -/
theorem mem_extract_iff
    {tokens : Array Token}
    {start stop : Nat}
    {token : Token} :
    token ∈ (tokens.extract start stop).toList ↔
      ∃ placed ∈ placeTokens tokens,
        start ≤ placed.index ∧ placed.index < stop ∧ placed.token = token := by
  rw [Array.mem_toList_iff, Array.mem_extract_iff_getElem]
  constructor
  · rintro ⟨steps, inPart, isThere⟩
    have inRange : start + steps < tokens.size := by omega
    have isBefore : start + steps < stop := by omega
    refine ⟨⟨start + steps, token⟩, mem_placeTokens.mpr ?_, ?_, isBefore, rfl⟩
    · exact Array.getElem?_eq_some_iff.mpr ⟨inRange, isThere⟩
    · exact Nat.le_add_right start steps
  · rintro ⟨⟨index, _⟩, inFile, notBefore, isBefore, rfl⟩
    obtain ⟨inRange, isThere⟩ := Array.getElem?_eq_some_iff.mp (mem_placeTokens.mp inFile)
    simp only at notBefore isBefore inRange isThere
    refine ⟨index - start, by omega, ?_⟩
    simpa only [Nat.add_sub_cancel' notBefore] using isThere

section File

variable
  {source : SourceFile}
  {model : SourceModel}
  (built : SourceModel.build source = .ok model)

include built

/-- A token ends no later than on the line on which a later one starts. -/
theorem stop_le_start
    {earlier later : Placed}
    (isEarlier : earlier ∈ placeTokens model.tokens)
    (isLater : later ∈ placeTokens model.tokens)
    (inOrder : earlier.index < later.index) :
    earlier.token.stop.line ≤ later.token.start.line := by
  obtain ⟨_, _, _, read, _⟩ := SourceModel.exists_forest_of_build built
  have lines := List.pairwise_iff_getElem.mp (tiles_of_tokenize read).pairwise_lines
  obtain ⟨inFile, isThere⟩ :=
    Array.getElem?_eq_some_iff.mp (mem_placeTokens.mp isEarlier)
  obtain ⟨inFileToo, isThereToo⟩ :=
    Array.getElem?_eq_some_iff.mp (mem_placeTokens.mp isLater)
  have inTurn := lines earlier.index later.index (by simpa) (by simpa) inOrder
  simpa [isThere, isThereToo] using inTurn

/-- The tokens in front of a place end on ever earlier lines, going back. -/
theorem stops_before (index : Nat) :
    ((model.tokens.extract 0 index).toList.reverse).Pairwise
      fun nearer farther => farther.stop.line ≤ nearer.stop.line := by
  obtain ⟨_, _, _, read, _⟩ := SourceModel.exists_forest_of_build built
  obtain ⟨_, onLine⟩ := SourceModel.lines_of_build built
  have lines :
      model.tokens.toList.Pairwise fun earlier later =>
        earlier.stop.line ≤ later.stop.line := by
    refine (tiles_of_tokenize read).pairwise_lines.imp_of_mem ?_
    intro earlier later _ isLater inTurn
    exact inTurn.trans (onLine later (Array.mem_toList_iff.mp isLater)).1
  rw [List.pairwise_reverse]
  refine lines.sublist ?_
  rw [Array.toList_extract, List.extract_eq_take_drop]
  exact (List.take_sublist _ _).trans (List.drop_sublist _ _)

/-- Code trails in front of a comment if any code ends on the line where it starts. -/
theorem trailsCode_eq_true_iff
    {comment : Placed}
    (isToken : comment ∈ placeTokens model.tokens) :
    trailsCode comment.token.start.line
        (model.tokens.extract 0 comment.index).toList.reverse = true ↔
      ∃ code ∈ placeCode model.tokens,
        code.index < comment.index ∧
          code.token.stop.line = comment.token.start.line := by
  rw [trailsCode_iff (stops_before built comment.index)]
  constructor
  · rintro ⟨token, member, isCode, reaches⟩
    rw [List.mem_reverse] at member
    obtain ⟨placed, inFile, _, isBefore, rfl⟩ := mem_extract_iff.mp member
    have notBelow := stop_le_start built inFile isToken isBefore
    exact
      ⟨placed, List.mem_filter.mpr ⟨inFile, isCode⟩, isBefore,
        Nat.le_antisymm notBelow reaches⟩
  · rintro ⟨code, inCode, isBefore, onLine⟩
    obtain ⟨inFile, isCode⟩ := List.mem_filter.mp inCode
    have member := mem_extract_iff.mpr ⟨code, inFile, Nat.zero_le _, isBefore, rfl⟩
    exact ⟨code.token, List.mem_reverse.mpr member, isCode, onLine.ge⟩

end File

/-! ## Comments that explain -/

/-- A comment of its own right in front of a condition explains it. -/
structure ExplainsCondition
    (model : SourceModel)
    (operators : List String)
    (block : Block)
    (comment : Placed) :
    Prop where
  isConditional : block.kind = .conditional
  isToken : comment ∈ placeTokens model.tokens
  isComment : comment.kind = .comment
  isNext : comment.index + 1 = block.first
  /-- It ends on the line before the block at the earliest. -/
  isClose : block.start.line ≤ comment.token.stop.line + 1
  /-- No code in front of it ends on the line where it starts. -/
  isAlone :
    ∀ code ∈ placeCode model.tokens,
      code.index < comment.index →
      code.token.stop.line ≠ comment.token.start.line
  /-- An operator stands behind the first token of the block and before its body. -/
  isCompound :
    ∃ code ∈ placeCode model.tokens,
      block.first < code.index ∧
        code.index < block.headerEnd ∧
        code.text ∈ operators

/-- The finding for a comment that explains a condition. -/
def findingAt (severity : Severity) (comment : Placed) : Finding where
  place := comment.token.start
  severity
  message :=
    "Comment explains a compound condition; consider extracting a named boolean"

/-- A comment is the token right before a block. -/
theorem commentBefore?_eq_some_iff
    {model : SourceModel}
    {block : Block}
    {token : Token} :
    commentBefore? model block = some token ↔
      ∃ comment ∈ placeTokens model.tokens,
        comment.index + 1 = block.first ∧
          comment.kind = .comment ∧
          comment.token = token := by
  unfold commentBefore?
  simp only [Option.bind_eq_bind, Option.pure_def, Option.bind_eq_some_iff,
    Option.guard_eq_some', Option.some.injEq]
  constructor
  · rintro ⟨_, notFirst, found, isThere, _, isComment, rfl⟩
    refine ⟨⟨block.first - 1, found⟩, mem_placeTokens.mpr isThere, ?_, isComment, rfl⟩
    exact Nat.sub_add_cancel notFirst
  · rintro ⟨comment, inFile, isNext, isComment, rfl⟩
    have isThere := mem_placeTokens.mp inFile
    refine ⟨(), ?_, comment.token, ?_, (), isComment, rfl⟩
    · exact isNext ▸ Nat.succ_pos comment.index
    · rw [← isNext]
      exact isThere

/-- An operator is among the condition's tokens if it is between header and body. -/
theorem any_conditionTokens_iff
    {model : SourceModel}
    {operators : List String}
    {block : Block} :
    (model.conditionTokens block).any (fun token => operators.contains token.text) =
        true ↔
      ∃ code ∈ placeCode model.tokens,
        block.first < code.index ∧
          code.index < block.headerEnd ∧
          code.text ∈ operators := by
  simp only [List.any_eq_true, List.contains_iff_mem, SourceModel.conditionTokens,
    List.mem_filter, mem_extract_iff, placeCode]
  constructor
  · rintro ⟨_, ⟨⟨code, inFile, isBehind, isBefore, rfl⟩, isCode⟩, isOperator⟩
    exact ⟨code, ⟨inFile, isCode⟩, isBehind, isBefore, isOperator⟩
  · rintro ⟨code, ⟨inFile, isCode⟩, isBehind, isBefore, isOperator⟩
    exact ⟨code.token, ⟨⟨code, inFile, isBehind, isBefore, rfl⟩, isCode⟩, isOperator⟩

section Reported

variable
  {source : SourceFile}
  {model : SourceModel}
  (built : SourceModel.build source = .ok model)
  {operators : List String}

include built

/-- What the rule asks of a comment right before a conditional block. -/
theorem explains_iff
    {block : Block}
    {comment : Placed}
    (isConditional : block.kind = .conditional)
    (isToken : comment ∈ placeTokens model.tokens)
    (isComment : comment.kind = .comment)
    (isNext : comment.index + 1 = block.first) :
    explains operators model block comment.token = true ↔
      ExplainsCondition model operators block comment := by
  have isBefore : block.first - 1 = comment.index := by omega
  have trails := trailsCode_eq_true_iff built isToken
  unfold explains
  rw [isBefore, Bool.and_eq_true, Bool.and_eq_true, decide_eq_true_eq,
    Bool.not_eq_true', ← Bool.not_eq_true, trails, any_conditionTokens_iff]
  constructor
  · rintro ⟨⟨isClose, noneTrails⟩, isCompound⟩
    refine ⟨isConditional, isToken, isComment, isNext, isClose, ?_, isCompound⟩
    exact fun code inCode inFront onLine => noneTrails ⟨code, inCode, inFront, onLine⟩
  · rintro ⟨_, _, _, _, isClose, isAlone, isCompound⟩
    refine ⟨⟨isClose, ?_⟩, isCompound⟩
    rintro ⟨code, inCode, inFront, onLine⟩
    exact isAlone code inCode inFront onLine

/-- A block has a finding if a comment explains its condition, at that comment. -/
theorem finding?_eq_some_iff
    {severity : Severity}
    {block : Block}
    {finding : Finding} :
    finding? operators severity model block = some finding ↔
      ∃ comment,
        ExplainsCondition model operators block comment ∧
          finding = findingAt severity comment := by
  unfold finding?
  simp only [Option.bind_eq_bind, Option.pure_def, Option.bind_eq_some_iff,
    Option.guard_eq_some', Option.some.injEq, commentBefore?_eq_some_iff]
  constructor
  · rintro ⟨_, isConditional, _, ⟨comment, isToken, isNext, isComment, rfl⟩, _, holds, rfl⟩
    have explained := (explains_iff built isConditional isToken isComment isNext).mp holds
    exact ⟨comment, explained, rfl⟩
  · rintro ⟨comment, explained, rfl⟩
    have ⟨isConditional, isToken, isComment, isNext, _, _, _⟩ := explained
    have holds := (explains_iff built isConditional isToken isComment isNext).mpr explained
    exact
      ⟨(), isConditional, comment.token, ⟨comment, isToken, isNext, isComment, rfl⟩, (),
        holds, rfl⟩

end Reported

/-- At most one comment explains the condition of a block. -/
theorem ExplainsCondition.eq
    {model : SourceModel}
    {operators : List String}
    {block : Block}
    {comment other : Placed}
    (explains : ExplainsCondition model operators block comment)
    (explainsToo : ExplainsCondition model operators block other) :
    comment = other := by
  have sameIndex : comment.index = other.index :=
    Nat.succ.inj (explains.isNext.trans explainsToo.isNext.symm)
  have isThere := mem_placeTokens.mp explains.isToken
  rw [sameIndex, mem_placeTokens.mp explainsToo.isToken, Option.some.injEq] at isThere
  cases comment
  cases other
  simp_all

/-! ## The rule's report -/

/-- What is read from items for a reason is read from the items that have one. -/
theorem exists_pairs_of_filterMap
    {Item Reason Value : Type}
    {read : Item → Option Value}
    {Holds : Item → Reason → Prop}
    {valueOf : Reason → Value}
    (reads :
      ∀ item value,
        read item = some value ↔ ∃ reason, Holds item reason ∧ value = valueOf reason)
    (isOnly :
      ∀ item reason other, Holds item reason → Holds item other → reason = other)
    (items : List Item) :
    ∃ pairs : List (Item × Reason),
      (pairs.map Prod.fst).Sublist items ∧
        items.filterMap read = pairs.map (fun pair => valueOf pair.2) ∧
        ∀ item reason, (item, reason) ∈ pairs ↔ item ∈ items ∧ Holds item reason := by
  induction items with
  | nil =>
      exact ⟨[], .slnil, rfl, by simp⟩
  | cons first rest inductionHypothesis =>
      obtain ⟨pairs, isPart, areRead, mem_iff⟩ := inductionHypothesis
      cases isRead : read first with
      | none =>
          refine ⟨pairs, isPart.cons first, ?_, fun item reason => ?_⟩
          · rw [List.filterMap_cons_none isRead, areRead]
          · rw [mem_iff, List.mem_cons]
            refine ⟨fun isThere => ⟨.inr isThere.1, isThere.2⟩, ?_⟩
            rintro ⟨rfl | inRest, holds⟩
            · have isSome := (reads item _).mpr ⟨reason, holds, rfl⟩
              rw [isRead] at isSome
              cases isSome
            · exact ⟨inRest, holds⟩
      | some value =>
          obtain ⟨why, holdsFirst, rfl⟩ := (reads first value).mp isRead
          refine ⟨(first, why) :: pairs, isPart.cons_cons first, ?_, fun item reason => ?_⟩
          · rw [List.filterMap_cons_some isRead, areRead, List.map_cons]
          · rw [List.mem_cons, mem_iff, List.mem_cons, Prod.mk.injEq]
            constructor
            · rintro (⟨rfl, rfl⟩ | ⟨inRest, holds⟩)
              · exact ⟨.inl rfl, holdsFirst⟩
              · exact ⟨.inr inRest, holds⟩
            · rintro ⟨rfl | inRest, holds⟩
              · exact .inl ⟨rfl, isOnly item reason why holds holdsFirst⟩
              · exact .inr ⟨inRest, holds⟩

/-- The violation that is reported where a comment starts. -/
def violationAt
    (model : SourceModel)
    (severity : Severity)
    (comment : Placed) :
    Violation where
  ruleId := "explanatory-comment"
  path := model.path
  line := comment.token.start.line
  column := comment.token.start.column
  severity
  message :=
    "Comment explains a compound condition; consider extracting a named boolean"
  advisory := true

/-- The violations are those of conditional blocks with the comments that explain them. -/
structure ReportsComments
    (model : SourceModel)
    (severity : Severity)
    (operators : List String)
    (explained : List (Block × Placed))
    (violations : List Violation) :
    Prop where
  /-- The blocks come in the order of the file. -/
  inOrder : (explained.map Prod.fst).Sublist model.blocks.toList
  once : (explained.map Prod.fst).Nodup
  mem_iff :
    ∀ block comment,
      (block, comment) ∈ explained ↔
        block ∈ model.blocks ∧ ExplainsCondition model operators block comment
  violations_eq :
    violations = explained.map fun pair => violationAt model severity pair.2

/-- Texts are operators. -/
theorem operatorsOf_texts (operators : List String) :
    operatorsOf (operators.map .text) = .ok operators := by
  induction operators with
  | nil =>
      rfl
  | cons operator rest inductionHypothesis =>
      rw [List.map_cons, operatorsOf, inductionHypothesis]
      rfl

/-- What is found at a comment is reported where the comment starts. -/
theorem sign_findingAt
    {source : SourceFile}
    {model : SourceModel}
    (built : SourceModel.build source = .ok model)
    {comment : Placed}
    (isToken : comment ∈ placeTokens model.tokens)
    (severity : Severity) :
    explanatoryComment.sign model (findingAt severity comment) =
      violationAt model severity comment := by
  have inFile := Array.mem_of_getElem? (mem_placeTokens.mp isToken)
  have unmoved := (SourceModel.hasCharacter_of_build built inFile).clamp_eq
  unfold Rule.sign findingAt
  rw [unmoved]
  rfl

/--
The rule reports exactly the conditional blocks with a comment of its own right in
front of a compound condition, each once and in the order of the blocks.
-/
theorem exists_reportsComments_of_build
    {source : SourceFile}
    {model : SourceModel}
    (built : SourceModel.build source = .ok model)
    {settings : RuleSettings}
    {operators : List String}
    (areTexts :
      settings.params.elementsParam "operators" = .ok (operators.map .text)) :
    ∃ explained violations,
      explanatoryComment.evaluate model settings = .ok violations ∧
        ReportsComments model settings.severity operators explained violations := by
  have consistent := (SourceModel.holdsRows_of_build built).consistent
  have reads
      (block : Block)
      (finding : Finding) :
      finding? operators settings.severity model block = some finding ↔
        ∃ comment,
          ExplainsCondition model operators block comment ∧
            finding = findingAt settings.severity comment :=
    finding?_eq_some_iff built
  obtain ⟨explained, inOrder, areFound, mem_iff⟩ :=
    exists_pairs_of_filterMap reads
      (fun _ _ _ => ExplainsCondition.eq) model.blocks.toList
  have isAnswer :
      explanatoryComment.check model settings =
        .ok (findings operators settings.severity model) := by
    simp only [explanatoryComment, areTexts, ok_bind, operatorsOf_texts]
    rfl
  have areSigned :
      (findings operators settings.severity model).map (explanatoryComment.sign model) =
        explained.map fun pair => violationAt model settings.severity pair.2 := by
    unfold findings
    rw [areFound, List.map_map]
    apply List.map_congr_left
    intro pair member
    have explains := ((mem_iff pair.1 pair.2).mp member).2
    exact sign_findingAt built explains.isToken settings.severity
  refine
    ⟨explained, _, ?_,
      { inOrder
        once := inOrder.nodup (SourceModel.blocks_nodup consistent)
        mem_iff := by simpa only [Array.mem_toList_iff] using mem_iff
        violations_eq := rfl }⟩
  unfold Rule.evaluate
  rw [isAnswer, ← areSigned]
  rfl

/--
Two remarks share a line in front of the first condition; the one in front of the
second stands behind code.
-/
def remarkedConditions : SourceFile where
  path := "Remarked.java"
  text := "/* a */ // b\nif (a && b) { }\nc(); // d\nif (a || b) { }\n"
  language := .java

/-- The rule with the operators that it has by default. -/
def defaultOperators : RuleSettings where
  ruleId := explanatoryComment.id
  enabled := true
  severity := .advisory
  params := explanatoryComment.defaultParams

set_option maxRecDepth 100000 in
/-- Of two conditions the first is reported, at the second remark in front of it. -/
theorem reportsComments_of_remarkedConditions :
    ∃ model explained violations,
      SourceModel.build remarkedConditions = .ok model ∧
        defaultOperators.params.elementsParam "operators" =
          .ok (["&&", "||", "and", "or"].map .text) ∧
        explanatoryComment.evaluate model defaultOperators = .ok violations ∧
        ReportsComments model .advisory ["&&", "||", "and", "or"] explained violations ∧
        model.blocks.size = 2 ∧
        violations.map (fun violation => (violation.line, violation.column)) =
          [(1, 9)] := by
  have counted :
      (SourceModel.build remarkedConditions).toOption.map (fun model =>
        (model.blocks.size,
          (explanatoryComment.evaluate model defaultOperators).toOption.map
            (·.map fun violation => (violation.line, violation.column)))) =
        some (2, some [(1, 9)]) := by
    decide +kernel
  obtain ⟨model, built, facts⟩ := Option.map_eq_some_iff.mp counted
  obtain ⟨twoBlocks, areFound⟩ := Prod.mk.inj facts
  obtain ⟨violations, isAnswer, places⟩ := Option.map_eq_some_iff.mp areFound
  have built := eq_ok_of_toOption_eq_some built
  have isAnswer := eq_ok_of_toOption_eq_some isAnswer
  have areTexts :
      defaultOperators.params.elementsParam "operators" =
        .ok (["&&", "||", "and", "or"].map .text) := rfl
  obtain ⟨explained, reported, isReport, reports⟩ :=
    exists_reportsComments_of_build built areTexts
  obtain rfl : reported = violations := Except.ok.inj (isReport.symm.trans isAnswer)
  exact
    ⟨model, explained, reported, built, areTexts, isAnswer, reports, twoBlocks, places⟩

end ExplanatoryComment

end HouseStyle
