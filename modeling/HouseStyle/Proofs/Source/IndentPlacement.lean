import HouseStyle.Proofs.Source.SuiteLineage

namespace HouseStyle

/-!
# Files by indentation follow their lines

A file by indentation is read exactly if its logical lines stand where the lines
before them allow. In its model, what stands on a line is inside the block of
the nearest header line above that stands further left.
-/

section Width

/-- The text with every tab filled up to the next column of 8, 16 and so on. -/
def expandTabs (column : Nat) : List Char → List Char
  | [] =>
      []
  | character :: rest =>
      if character = '\t' then
        let step := 8 - column % 8
        List.replicate step ' ' ++ expandTabs (column + step) rest
      else if character = '\r' then
        character :: expandTabs 0 rest
      else
        character :: expandTabs (column + 1) rest

/-- Measuring white space counts it in the expanded text. -/
theorem foldl_widen
    (width column : Nat)
    (text : List Char) :
    ((text.takeWhile isBlank).foldl widen (width, column)).1 =
      width + ((expandTabs column text).takeWhile isBlank).length := by
  fun_induction expandTabs column text generalizing width with
  | case1 =>
      rfl
  | case2 column rest step inductionHypothesis =>
      have isTab : isBlank '\t' = true := by
        decide
      have filled :
          ∀ character ∈ List.replicate step ' ', isBlank character = true := by
        intro character member
        rw [List.eq_of_mem_replicate member]
        decide
      rw [List.takeWhile_cons_of_pos isTab, List.foldl_cons,
        List.takeWhile_append_of_pos filled, List.length_append,
        List.length_replicate]
      simp only [widen, ↓reduceIte]
      rw [inductionHypothesis]
      omega
  | case3 column rest _ inductionHypothesis =>
      have isReturn : isBlank '\r' = true := by
        decide
      have widened : widen (width, column) '\r' = (width + 1, 0) :=
        rfl
      rw [List.takeWhile_cons_of_pos isReturn,
        List.takeWhile_cons_of_pos isReturn, List.foldl_cons, widened,
        inductionHypothesis, List.length_cons]
      omega
  | case4 column character rest noTab noReturn inductionHypothesis =>
      cases blank : isBlank character with
      | true =>
          have widened :
              widen (width, column) character = (width + 1, column + 1) := by
            simp [widen, noTab, noReturn]
          rw [List.takeWhile_cons_of_pos blank,
            List.takeWhile_cons_of_pos blank, List.foldl_cons, widened,
            inductionHypothesis, List.length_cons]
          omega
      | false =>
          simp [blank]

/-- The indent is the width of the white space in front of the expanded text. -/
theorem indentWidth_eq (text : String) :
    indentWidth text =
      ((expandTabs 0 text.toList).takeWhile isBlank).length := by
  rw [indentWidth, foldl_widen, Nat.zero_add]

/-- Every logical line has the indent of the text line that it starts on. -/
theorem indent_of_mem_joinLines
    {lines : Array Line}
    {finished : List LogicalLine}
    {current : Option OpenLine}
    {tokens : List Placed}
    (before :
      ∀ line ∈ finished,
        line.indent =
          indentWidth (lineText lines line.first.token.start.line)) :
    ∀ line ∈ joinLines lines finished current tokens,
      line.indent =
        indentWidth (lineText lines line.first.token.start.line) := by
  exact
    @joinLines_forall lines _ (fun _ => True)
      (fun _ _ => trivial) (fun _ _ _ => trivial) (fun _ _ _ _ => trivial)
      (fun _ _ => rfl) _ _ _ before (fun _ _ => trivial)

end Width

/-- The nearest line above that opens a suite and stands further left. -/
def owner?
    (profile : Profile)
    (earlier : List LogicalLine)
    (line : LogicalLine) :
    Option LogicalLine :=
  earlier.reverse.find? fun header =>
    header.opensSuite profile && decide (header.indent < line.indent)

/-- The lines of a file differ in their first tokens. -/
theorem nodup_of_inOrder
    {lines : List LogicalLine}
    (ordered : InOrder (tokensOf lines)) :
    lines.Nodup := by
  induction lines with
  | nil =>
      exact List.nodup_nil
  | cons line rest inductionHypothesis =>
      rw [tokensOf_cons] at ordered
      refine List.nodup_cons.mpr ⟨?_, inductionHypothesis ordered.right⟩
      intro again
      have behind :=
        ordered.left_lt_right (List.mem_cons_self (a := line.first))
          (mem_tokensOf again List.mem_cons_self)
      exact Nat.lt_irrefl _ behind

/-- A line of a file stands in it once. -/
theorem eq_of_split
    {lines earlier later before after : List LogicalLine}
    {line : LogicalLine}
    (nodup : lines.Nodup)
    (split : lines = earlier ++ line :: later)
    (otherSplit : lines = before ++ line :: after) :
    earlier = before ∧ later = after := by
  rw [split, List.nodup_middle] at nodup
  have isOnce : line ∉ earlier ++ later :=
    (List.nodup_cons.mp nodup).1
  rw [List.mem_append, not_or] at isOnce
  obtain ⟨sameFront, _, sameBack⟩ :=
    (List.append_cons_inj_of_notMem isOnce.1 isOnce.2).mp
      (split.symm.trans otherSplit)
  exact ⟨sameFront, sameBack⟩

section Suite

variable
  {profile : Profile}
  {lines inside earlier later : List LogicalLine}
  {header line : LogicalLine}
  {indent : Nat}
  (nodup : lines.Nodup)
  (suite : IsSuite profile lines header inside indent)
  (member : line ∈ inside)
  (level : line.indent = indent)
  (split : lines = earlier ++ line :: later)

include nodup suite member level split in
/-- The owner of a line at the indent of its suite is the suite's header. -/
theorem IsSuite.owner?_eq :
    owner? profile earlier line = some header := by
  obtain ⟨before, after, place⟩ := suite.place
  obtain ⟨front, back, rfl⟩ := List.append_of_mem member
  have otherSplit :
      lines = (before ++ header :: front) ++ line :: (back ++ after) := by
    simp [place]
  obtain ⟨rfl, _⟩ := eq_of_split nodup split otherSplit
  have noneInside :
      front.reverse.find?
          (fun header =>
            header.opensSuite profile && decide (header.indent < line.indent)) =
        none := by
    rw [List.find?_eq_none]
    intro other isInside
    have isDeep := suite.deep other (by simp [List.mem_reverse.mp isInside])
    simp [level, isDeep]
  have isOwner : header.indent < line.indent := by
    rw [level]
    exact suite.deeper
  simp [owner?, List.find?_append, noneInside, suite.opens, isOwner]

end Suite

/-- Lines with one owner stand at one indent. -/
theorem level_of_owner
    {profile : Profile}
    {lines earlier later before after : List LogicalLine}
    {line other : LogicalLine}
    (nodup : lines.Nodup)
    (housed :
      ∀ line ∈ lines, line.indent = 0 ∨ IsHoused profile lines line)
    (split : lines = earlier ++ line :: later)
    (otherSplit : lines = before ++ other :: after)
    (same : owner? profile earlier line = owner? profile before other) :
    line.indent = other.indent := by
  have noOwner
      {earlier : List LogicalLine}
      {line : LogicalLine}
      (atStart : line.indent = 0) :
      owner? profile earlier line = none := by
    simp [owner?, atStart]
  rcases housed line (by simp [split]) with atStart | isHoused
  · rcases housed other (by simp [otherSplit]) with otherAtStart | otherHoused
    · rw [atStart, otherAtStart]
    · obtain ⟨header, inside, indent, suite, member, level⟩ := otherHoused
      rw [noOwner atStart,
        suite.owner?_eq nodup member level otherSplit] at same
      cases same
  · obtain ⟨header, inside, indent, suite, member, level⟩ := isHoused
    rw [suite.owner?_eq nodup member level split] at same
    rcases housed other (by simp [otherSplit]) with otherAtStart | otherHoused
    · rw [noOwner otherAtStart] at same
      cases same
    · obtain
        ⟨otherHeader, otherInside, otherIndent, otherSuite, otherMember,
          otherLevel⟩ := otherHoused
      rw [otherSuite.owner?_eq nodup otherMember otherLevel otherSplit,
        Option.some.injEq] at same
      subst same
      -- Both suites start with the line directly below their header.
      obtain ⟨front, back, place⟩ := suite.place
      obtain ⟨otherFront, otherBack, otherPlace⟩ := otherSuite.place
      obtain ⟨_, below⟩ := eq_of_split nodup place otherPlace
      have starts := congrArg (fun rows => rows.head?.map (·.indent)) below
      simp only [List.head?_append, Option.map_or] at starts
      have first := suite.first
      have otherFirst := otherSuite.first
      rw [first, otherFirst] at starts
      rw [level, otherLevel]
      simpa using starts

/-- All lines of a file are housed, and its statements sit where they are. -/
theorem readIndented_sits
    {profile : Profile}
    {lines : List LogicalLine}
    {forest : List Node}
    (ordered : InOrder (tokensOf lines))
    (read : readIndented profile lines = .ok forest) :
    (∀ line ∈ lines, line.indent = 0 ∨ IsHoused profile lines line) ∧
      SitsIn lines lines 0 forest ∧
      ∀ head body last,
        .block head body last ∈ families forest →
        BodySits profile lines head body last := by
  unfold readIndented at read
  split at read
  · cases read
    exact ⟨by simp, by simp [SitsIn], by simp [families]⟩
  · next line rest =>
      split at read
      · next atStart =>
          split at read
          · cases read
          · next suite readWhole =>
              cases read
              obtain ⟨nodes, value, reading⟩ :=
                ReadsSuite.of_readSuite readWhole
              obtain ⟨taken, same, isTaken⟩ :=
                reading.suiteTaken ordered List.suffix_rfl atStart
              rw [reading.eq_nil_of_zero, List.append_nil] at same
              rw [List.append_nil] at value
              rw [value, List.reverse_reverse]
              rw [← same] at isTaken
              exact ⟨isTaken.housed, isTaken.sits, isTaken.bodies⟩
      · cases read

/-- A decorator opens no block if its mark is no keyword. -/
theorem LogicalLine.opensBlock_of_isDecorator
    {profile : Profile}
    (noKind : suiteKind? profile "@" = none)
    (line : LogicalLine)
    (isDecorator : line.isDecorator = true) :
    line.opensBlock profile = false := by
  have isMark : line.first.text = "@" := by
    simpa [LogicalLine.isDecorator, Placed.reads, Placed.text] using
      isDecorator
  have noAsync : line.first.reads "async" = false := by
    rw [Placed.reads, show line.first.token.text = "@" from isMark]
    rfl
  have noHeader : suiteHeader? profile line = none := by
    simp [suiteHeader?, headerTokens, noAsync, LogicalLine.tokens, isMark,
      noKind]
  rw [LogicalLine.opensBlock, noHeader]
  rfl

namespace SourceModel

/-- The header of the row, or all of the row, shares tokens with the line. -/
def StandsOn
    (model : SourceModel)
    (row : Statement)
    (line : LogicalLine) :
    Prop :=
  row.first ≤ line.last.index ∧
    line.first.index ≤ model.headerLast row

/-- The row stands on the line, but the header of its block does not. -/
def OutermostOn
    (model : SourceModel)
    (row : Statement)
    (line : LogicalLine) :
    Prop :=
  model.StandsOn row line ∧
    ∀ around block,
      row.parent = some around →
      model.blocks[around]? = some block →
      ¬ (block.first ≤ line.last.index ∧
        line.first.index ≤ block.headerEnd)

/-- The statements of the model are inside the blocks that own their lines. -/
structure FollowsLines
    (model : SourceModel)
    (lines : List LogicalLine) :
    Prop where
  parent :
    ∀ earlier line later (index : Nat) row,
      lines = earlier ++ line :: later →
      model.statements[index]? = some row →
      model.OutermostOn row line →
      (line.indent = 0 ∧ row.parent = none) ∨
        ∃ around block header,
          row.parent = some around ∧
            model.blocks[around]? = some block ∧
            owner? model.language.profile earlier line = some header ∧
            block.headerEnd = header.last.index
  level :
    ∀ earlier line later before other after,
      lines = earlier ++ line :: later →
      lines = before ++ other :: after →
      owner? model.language.profile earlier line =
        owner? model.language.profile before other →
      line.indent = other.indent

/-- A row of a body stands for a statement of the body that is shown there. -/
theorem ReadFrom.mem_of_parent
    {model : SourceModel}
    {forest nodes : List Node}
    {spelled : List Placed}
    {index : Nat}
    {row : Statement}
    {node : Node}
    (readFrom : model.ReadFrom forest spelled)
    (found : model.statements[index]? = some row)
    (shown : model.outline.ShowsBody row.parent nodes)
    (inForest : ∀ other ∈ nodes, other ∈ families forest)
    (member : node ∈ families forest)
    (starts : row.first = node.first.index) :
    node ∈ nodes := by
  have listed : index ∈ model.outline.body row.parent :=
    (readFrom.consistent.body _ index).mpr ⟨row, found, rfl⟩
  obtain ⟨place, listedAt⟩ := Array.mem_iff_getElem?.mp listed
  obtain ⟨other, foundOther, otherStarts, _⟩ := shown.node_at listedAt found
  have inNodes : other ∈ nodes := List.mem_of_getElem? foundOther
  have isSame : node = other :=
    readFrom.eq_of_first member (inForest other inNodes)
      (starts.symm.trans otherStarts)
  rw [isSame]
  exact inNodes

/-- A model read from lines follows the lines. -/
theorem ReadFrom.followsLines
    {model : SourceModel}
    {forest : List Node}
    {lines : List LogicalLine}
    (readFrom : model.ReadFrom forest (tokensOf lines))
    (read : readIndented model.language.profile lines = .ok forest) :
    model.FollowsLines lines := by
  have nodup : lines.Nodup := nodup_of_inOrder readFrom.ordered
  obtain ⟨housed, sits, bodies⟩ := readIndented_sits readFrom.ordered read
  refine ⟨?_, ?_⟩
  · intro earlier line later index row split found outermost
    obtain ⟨node, member, starts, _, _, ends⟩ := readFrom.exists_shown found
    obtain ⟨rowStands, notAround⟩ := outermost
    have stands : node.StandsOn line := by
      rw [StandsOn, starts, ends] at rowStands
      exact rowStands
    have inFile : line ∈ lines := by
      simp [split]
    cases isParent : row.parent with
    | none =>
        have inForest : node ∈ forest := by
          refine
            readFrom.mem_of_parent found ?_ (fun _ => mem_families)
              member starts
          rw [isParent]
          exact readFrom.topLevel
        exact .inl ⟨(sits node inForest line inFile stands).2, rfl⟩
    | some around =>
        have listed : index ∈ model.outline.body (some around) :=
          (readFrom.consistent.body _ index).mpr ⟨row, found, isParent⟩
        obtain ⟨block, foundBlock⟩ := Outline.exists_block_of_mem_body listed
        have shownBlock := foundBlock
        rw [readFrom.outline] at shownBlock
        obtain ⟨head, body, last, isBlock, shown, shownBody⟩ :=
          Outline.blocks_ofForest shownBlock
        have inBody : node ∈ body := by
          refine
            readFrom.mem_of_parent found ?_
              (fun _ => mem_families_of_body isBlock) member starts
          rw [isParent, readFrom.outline]
          exact shownBody
        rcases bodies head body last isBlock with
          onHeader | ⟨header, inside, indent, suite, endsHeader, sitsInside⟩
        · -- The block around would stand on the line as well.
          have standsAround := onHeader node inBody line inFile stands
          refine (notAround around block isParent foundBlock ?_).elim
          rw [shown.first, shown.headerEnd]
          exact standsAround
        · obtain ⟨isInside, level⟩ :=
            sitsInside node inBody line inFile stands
          refine
            .inr
              ⟨around, block, header, rfl, foundBlock,
                suite.owner?_eq nodup isInside level split, ?_⟩
          rw [shown.headerEnd, endsHeader]
  · intro earlier line later before other after split otherSplit same
    exact level_of_owner nodup housed split otherSplit same

/--
A file by indentation is read exactly if the pass over its logical lines accepts
it, that is, if its lines stand where they should. What is read follows the
lines.
-/
theorem build_followsIndentation
    {source : SourceFile}
    {tokens : Array Token}
    {lines : List LogicalLine}
    (isIndented : source.language = .python)
    (read : source.language.profile.tokenize source.text = .ok tokens)
    (joined : lines = logicalLines (splitLines source.text) tokens) :
    (∀ line ∈ lines,
        let text :=
          lineText (splitLines source.text) line.first.token.start.line
        line.indent =
          ((expandTabs 0 text.toList).takeWhile isBlank).length) ∧
      ((∃ model, build source = .ok model) ↔
        IndentState.start.accepts source.language.profile lines = true) ∧
      ((∃ model, build source = .ok model) ↔
        WellIndented source.language.profile lines) ∧
      ∀ model, build source = .ok model → model.FollowsLines lines := by
  have style : source.language.profile.blockStyle = .indent := by
    rw [isIndented]
    rfl
  have noKind : suiteKind? source.language.profile "@" = none := by
    rw [isIndented]
    decide
  have isRead :
      (∃ model, build source = .ok model) ↔
        IndentState.start.accepts source.language.profile lines = true := by
    rw [readIndented_accepts]
    unfold build
    simp only [read, readForest, style, ← joined]
    cases readIndented source.language.profile lines with
    | error fault =>
        simp [Except.isOk, Except.toBool]
    | ok forest =>
        exact ⟨fun _ => rfl, fun _ => ⟨_, rfl⟩⟩
  refine ⟨?_, isRead, ?_, ?_⟩
  · intro line member
    rw [joined, logicalLines] at member
    rw [indent_of_mem_joinLines (by simp) line member, indentWidth_eq]
  · rw [isRead]
    exact
      accepts_iff_wellIndented fun line =>
        line.opensBlock_of_isDecorator noKind
  · intro model built
    unfold build at built
    simp only [read, readForest, style, ← joined] at built
    split at built
    · cases built
    · next forest readLines =>
        cases built
        have keeps := logicalLines_keeps (splitLines source.text) tokens
        have spells := readIndented_spells readLines
        rw [← joined] at keeps
        refine ReadFrom.followsLines ?_ readLines
        exact
          { outline := rfl
            keeps := keeps
            codeOnly := by simp [style]
            spells := by
              rw [style]
              exact spells }

/-- A decorated function with a condition on one line, and a call below it. -/
def suiteSample : SourceFile where
  path := "suite.py"
  text := "@d\ndef f(x):\n\tif x: a; b\n\treturn x\nf(1)\n"
  language := .python

/-- The lines of the sample stand where they should, and it is read so. -/
theorem suiteSample_followsIndentation :
    ∃ tokens model,
      suiteSample.language.profile.tokenize suiteSample.text = .ok tokens ∧
        build suiteSample = .ok model ∧
        WellIndented suiteSample.language.profile
          (logicalLines (splitLines suiteSample.text) tokens) ∧
        model.statements.size = 6 ∧
        model.FollowsLines
          (logicalLines (splitLines suiteSample.text) tokens) := by
  have counted :
      (build suiteSample).toOption.map (fun model => model.statements.size) =
        some 6 := by
    decide +kernel
  cases built : build suiteSample with
  | error fault =>
      simp [built, Except.toOption] at counted
  | ok model =>
      simp only [built, Except.toOption, Option.map_some] at counted
      cases read :
          suiteSample.language.profile.tokenize suiteSample.text with
      | error fault =>
          simp [build, read] at built
      | ok tokens =>
          obtain ⟨_, _, isRead, follows⟩ :=
            build_followsIndentation rfl read rfl
          exact
            ⟨tokens, model, rfl, rfl, isRead.mp ⟨model, built⟩,
              Option.some.inj counted, follows model built⟩

end SourceModel

end HouseStyle
