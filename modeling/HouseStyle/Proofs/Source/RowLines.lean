import HouseStyle.Proofs.Answer
import HouseStyle.Proofs.Source.Lookup
import HouseStyle.Rule.Lookup

namespace HouseStyle

/-!
# Look-ups of rules find what they look for

The rows of a model start and end at tokens of the file, on lines of the file. So
whatever a rule looks up on its way from one row to others is there: the
neighbours of a statement, the block that it is, the tokens at its ends and the
lines between two statements.
-/

/-! ## How much a text can hold -/

/-- A text has at most as many lines as characters. -/
theorem size_collectLines_le
    (finished : Array Line)
    (reversed text : List Char) :
    (collectLines finished reversed text).size ≤
      finished.size + reversed.length + text.length := by
  fun_induction collectLines finished reversed text with
  | case1 finished reversed isEmpty =>
      omega
  | case2 finished reversed notEmpty =>
      have hasMore : reversed.length ≠ 0 := by
        simpa using notEmpty
      rw [Array.size_push]
      omega
  | case3 finished reversed rest inductionHypothesis =>
      rw [Array.size_push] at inductionHypothesis
      rw [List.length_cons]
      simp only [List.length_nil] at inductionHypothesis
      omega
  | case4 finished reversed character rest _ inductionHypothesis =>
      rw [List.length_cons] at inductionHypothesis ⊢
      omega

theorem Line.length_close_le (number : Nat) (reversed : List Char) :
    (Line.close number reversed).length ≤ reversed.length := by
  have dropped := (List.dropWhile_suffix (· == '\r') (l := reversed)).length_le
  simpa [Line.close, Line.length] using dropped

/-- No line is longer than its text. -/
theorem length_le_of_mem_collectLines
    {finished : Array Line}
    {reversed text : List Char} :
    ∀ line ∈ collectLines finished reversed text,
      line ∈ finished ∨ line.length ≤ reversed.length + text.length := by
  fun_induction collectLines finished reversed text with
  | case1 finished reversed isEmpty =>
      intro line member
      exact .inl member
  | case2 finished reversed notEmpty =>
      intro line member
      rcases Array.mem_push.mp member with isFinished | rfl
      · exact .inl isFinished
      · exact .inr (Line.length_close_le _ reversed)
  | case3 finished reversed rest inductionHypothesis =>
      intro line member
      rcases inductionHypothesis line member with isFinished | isShort
      · rcases Array.mem_push.mp isFinished with isFinished | rfl
        · exact .inl isFinished
        · have closed := Line.length_close_le (finished.size + 1) reversed
          rw [List.length_cons]
          omega
      · simp only [List.length_nil] at isShort
        rw [List.length_cons]
        omega
  | case4 finished reversed character rest _ inductionHypothesis =>
      intro line member
      rcases inductionHypothesis line member with isFinished | isShort
      · exact .inl isFinished
      · rw [List.length_cons] at isShort ⊢
        omega

theorem size_splitLines_le (text : String) :
    (splitLines text).size ≤ text.length := by
  have bound := size_collectLines_le #[] [] text.toList
  simpa [splitLines, String.length_toList] using bound

theorem length_le_of_mem_splitLines
    {text : String}
    {line : Line}
    (member : line ∈ splitLines text) :
    line.length ≤ text.length := by
  have bound := length_le_of_mem_collectLines line member
  simpa [String.length_toList] using bound

/-! ## Numbers of lines -/

/-- Lines are numbered one by one, the first with one. -/
def AreNumbered (lines : Array Line) : Prop :=
  ∀ (place : Nat) (line : Line), lines[place]? = some line → line.number = place + 1

/-- The line that is closed next has the next number. -/
theorem AreNumbered.push
    {lines : Array Line}
    (areNumbered : AreNumbered lines)
    (reversed : List Char) :
    AreNumbered (lines.push (Line.close (lines.size + 1) reversed)) := by
  intro place line found
  rw [Array.getElem?_push] at found
  split at found
  · next isLast =>
      cases found
      rw [isLast]
      rfl
  · exact areNumbered place line found

/-- Collecting further lines goes on numbering them. -/
theorem areNumbered_collectLines
    {finished : Array Line}
    {reversed text : List Char}
    (areNumbered : AreNumbered finished) :
    AreNumbered (collectLines finished reversed text) := by
  fun_induction collectLines finished reversed text with
  | case1 => exact areNumbered
  | case2 => exact areNumbered.push _
  | case3 _ _ _ inductionHypothesis =>
      exact inductionHypothesis (areNumbered.push _)
  | case4 _ _ _ _ _ inductionHypothesis =>
      exact inductionHypothesis areNumbered

/-- The lines of a text are numbered. -/
theorem areNumbered_splitLines (text : String) :
    AreNumbered (splitLines text) :=
  areNumbered_collectLines fun _ _ found => by simp at found

namespace SourceModel

section Lookup

variable {model : SourceModel}

/-- The numbers between two numbers are those above the one and below the other. -/
theorem mem_numbersBetween
    {lower upper number : Int} :
    number ∈ numbersBetween lower upper ↔ lower < number ∧ number < upper := by
  simp only [numbersBetween, List.mem_map, List.mem_range]
  constructor
  · rintro ⟨step, inRange, rfl⟩
    omega
  · intro isBetween
    exact ⟨(number - lower - 1).toNat, by omega, by omega⟩

theorem line?_succ (place : Nat) :
    model.line? (place + 1 : Int) = model.lines[place]? := by
  rw [line?, Int.add_sub_cancel]
  rfl

/-- No blank lines are counted exactly if there is none between the two lines. -/
theorem exists_blankLinesBetween?
    (areNumbered : AreNumbered model.lines)
    (afterLine : Nat)
    {beforeLine : Nat}
    (isLine : beforeLine ≤ model.lines.size) :
    ∃ count,
      model.blankLinesBetween? afterLine beforeLine = some count ∧
        (count = 0 ↔
          ¬ ∃ line ∈ model.lines,
            afterLine < line.number ∧
              line.number < beforeLine ∧
              line.isBlank = true) := by
  unfold blankLinesBetween?
  simp only
  split
  · refine ⟨0, rfl, iff_of_true rfl ?_⟩
    rintro ⟨line, _, isBehind, isInFront, _⟩
    omega
  · rw [if_pos (by omega)]
    refine ⟨_, rfl, ?_⟩
    rw [List.countP_eq_zero]
    constructor
    · rintro noneBlank ⟨line, member, isBehind, isInFront, isBlank⟩
      obtain ⟨place, found⟩ := Array.getElem?_of_mem member
      have isNumber := areNumbered place line found
      refine noneBlank (place + 1) (mem_numbersBetween.mpr (by omega)) ?_
      rwa [line?_succ, found, Option.any_some]
    · intro noneBlank number isBetween isBlank
      obtain ⟨isBehind, isInFront⟩ := mem_numbersBetween.mp isBetween
      obtain ⟨place, rfl⟩ : ∃ place : Nat, number = place + 1 :=
        ⟨(number - 1).toNat, by omega⟩
      rw [line?_succ] at isBlank
      obtain ⟨line, found, isBlank⟩ := (Option.any_eq_true _ _).mp isBlank
      have isNumber := areNumbered place line found
      exact
        noneBlank
          ⟨line, Array.mem_of_getElem? found, by omega, by omega, isBlank⟩

/-- The column of a token. -/
def columnAt (model : SourceModel) (index : Nat) : Nat :=
  ((model.tokens[index]?).map (·.start.column)).getD 0

theorem columnOf_eq
    {index : Nat}
    {token : Token}
    (found : model.tokens[index]? = some token) :
    model.columnOf index = .ok (model.columnAt index) := by
  rw [columnOf, columnAt, found]
  rfl

end Lookup

namespace ReadFrom

variable
  {model : SourceModel}
  {forest : List Node}
  {spelled : List Placed}
  (readFrom : model.ReadFrom forest spelled)

include readFrom

theorem token?_of_mem
    {placed : Placed}
    (member : placed ∈ spelled) :
    model.tokens[placed.index]? = some placed.token :=
  mem_placeTokens.mp (readFrom.keeps.sublist.subset member)

/-- A statement starts and ends on the lines of the tokens at its ends. -/
theorem exists_ends
    {index : Nat}
    {row : Statement}
    (found : model.outline.statements[index]? = some row) :
    ∃ first last,
      model.tokens[row.first]? = some first ∧
        model.tokens[row.last]? = some last ∧
        row.startLine = first.start.line ∧
        row.endLine = last.stop.line := by
  obtain ⟨node, foundNode, firstIs, lastIs⟩ := readFrom.family found
  have foundRow := found
  rw [readFrom.outline, ← Array.getElem?_toList] at foundRow
  obtain ⟨other, foundOther, shape⟩ :=
    exists_getElem?_of_forall₂ (Outline.shapes_ofForest _ forest) foundRow
  rw [foundNode, Option.some.injEq] at foundOther
  subst foundOther
  obtain ⟨these, spells, part⟩ :=
    readFrom.spells.part_of_mem_families (List.mem_of_getElem? foundNode)
  refine ⟨node.first.token, node.last.token, ?_, ?_, shape.startLine, shape.endLine⟩
  · rw [firstIs]
    exact readFrom.token?_of_mem (part.subset spells.first_mem)
  · rw [lastIs]
    exact readFrom.token?_of_mem (part.subset spells.last_mem)

/-- A block starts with a token. -/
theorem exists_start
    {block : Block}
    (member : block ∈ model.blocks) :
    ∃ first ∈ model.tokens, block.start = first.start := by
  obtain ⟨head, body, last, inForest, shown⟩ := readFrom.exists_head member
  obtain ⟨these, spells, part⟩ := readFrom.spells.part_of_mem_families inForest
  have isThere := readFrom.token?_of_mem (part.subset spells.first_mem)
  exact ⟨head.first.token, Array.mem_of_getElem? isThere, shown.start⟩

/-- A block stops with the token at its end. -/
theorem exists_stop
    {block : Block}
    (member : block ∈ model.blocks) :
    ∃ last ∈ model.tokens, block.stop = last.stop := by
  obtain ⟨head, body, last, inForest, shown⟩ := readFrom.exists_head member
  obtain ⟨these, spells, part⟩ := readFrom.spells.part_of_mem_families inForest
  have isThere := readFrom.token?_of_mem (part.subset spells.last_mem)
  exact ⟨last.token, Array.mem_of_getElem? isThere, shown.stop⟩

end ReadFrom

/-- What a rule relies on when it looks up lines, tokens, statements and blocks. -/
structure HoldsRows (source : SourceFile) (model : SourceModel) : Prop where
  lines : model.lines = splitLines source.text
  onLine :
    ∀ token ∈ model.tokens,
      token.start.line ≤ token.stop.line ∧
        token.stop.line ≤ model.lines.size
  consistent : model.outline.Consistent
  finds : model.FindsAll
  ends :
    ∀ row ∈ model.statements,
      ∃ first ∈ model.tokens, ∃ last ∈ model.tokens,
        model.tokens[row.first]? = some first ∧
          model.tokens[row.last]? = some last ∧
          row.startLine = first.start.line ∧
          row.endLine = last.stop.line
  stop :
    ∀ block ∈ model.blocks, ∃ last ∈ model.tokens, block.stop = last.stop

/-- The tokens of a model that is built lie on its lines. -/
theorem lines_of_build
    {source : SourceFile}
    {model : SourceModel}
    (built : build source = .ok model) :
    model.lines = splitLines source.text ∧
      ∀ token ∈ model.tokens,
        token.start.line ≤ token.stop.line ∧
          token.stop.line ≤ model.lines.size := by
  unfold build at built
  simp only at built
  split at built
  · cases built
  · next tokens read =>
      split at built
      · cases built
      · cases built
        refine ⟨rfl, fun token member => ?_⟩
        have liesIn := Profile.tokenize_liesIn read token member
        exact ⟨liesIn.inOrder, liesIn.toLast⟩

/-- Every model that is built holds its rows. -/
theorem holdsRows_of_build
    {source : SourceFile}
    {model : SourceModel}
    (built : build source = .ok model) :
    model.HoldsRows source := by
  obtain ⟨forest, spelled, readFrom⟩ := readFrom_of_build built
  obtain ⟨areLines, onLine⟩ := lines_of_build built
  refine
    { lines := areLines
      onLine
      consistent := readFrom.consistent
      finds := findsAll_of_build built
      ends := ?_
      stop := fun block member => readFrom.exists_stop member }
  intro row member
  obtain ⟨index, found⟩ := Array.getElem?_of_mem member
  obtain ⟨first, last, isFirst, isLast, startsThere, endsThere⟩ :=
    readFrom.exists_ends found
  exact
    ⟨first, Array.mem_of_getElem? isFirst, last, Array.mem_of_getElem? isLast,
      isFirst, isLast, startsThere, endsThere⟩

namespace HoldsRows

variable
  {source : SourceFile}
  {model : SourceModel}
  (holds : model.HoldsRows source)

include holds

theorem areNumbered : AreNumbered model.lines := by
  rw [holds.lines]
  exact areNumbered_splitLines source.text

/-- What the body of a block lists is a statement of the model. -/
theorem exists_of_mem_body
    {block : Block}
    (member : block ∈ model.blocks)
    {index : Nat}
    (listed : index ∈ block.body) :
    ∃ row ∈ model.statements, model.statements[index]? = some row := by
  obtain ⟨place, found⟩ := Array.getElem?_of_mem member
  have inBody : index ∈ model.outline.body (some place) := by
    rw [blocks] at found
    simpa [Outline.body, found] using listed
  obtain ⟨row, isThere, _⟩ := holds.finds.body (some place) index inBody
  exact ⟨row, Array.mem_of_getElem? isThere, isThere⟩

/-- A block has hardly more lines than its text has characters. -/
theorem lineCount_le
    {block : Block}
    (member : block ∈ model.blocks) :
    block.lineCount ≤ source.text.length + 1 := by
  obtain ⟨last, isToken, stopsThere⟩ := holds.stop block member
  obtain ⟨_, inText⟩ := holds.onLine last isToken
  have lineCount := size_splitLines_le source.text
  rw [← holds.lines] at lineCount
  unfold Block.lineCount
  rw [stopsThere]
  omega

theorem length_le
    {line : Line}
    (member : line ∈ model.lines) :
    line.length ≤ source.text.length := by
  rw [holds.lines] at member
  exact length_le_of_mem_splitLines member

/-- The body around a statement is there. -/
theorem bodyAround_eq
    {row : Statement}
    (member : row ∈ model.statements) :
    model.bodyAround row = .ok (model.outline.body row.parent) := by
  unfold bodyAround
  cases isParent : row.parent with
  | none =>
      rfl
  | some around =>
      obtain ⟨block, found⟩ := holds.finds.parent row member around isParent
      rw [blocks] at found
      simp [expect, blocks, Outline.body, found, Except.map]

/-- A rule finds the neighbours of a statement in its body. -/
theorem siblings_eq
    {row : Statement}
    (member : row ∈ model.statements) :
    model.siblings row = .ok (model.before? row, model.after? row) := by
  obtain ⟨index, found⟩ := Array.getElem?_of_mem member
  have finds := findsSiblings_of_consistent holds.consistent found
  have isBefore :
      expectIf (0 < row.position) (model.before? row) =
        .ok (model.before? row) := by
    unfold expectIf
    split
    · obtain ⟨sibling, isThere, _⟩ := finds.before (row.position - 1) (by omega)
      rw [isThere]
      rfl
    · rw [finds.noneBefore (by omega)]
  have isAfter :
      expectIf
          (row.position + 1 < (model.outline.body row.parent).size)
          (model.after? row) =
        .ok (model.after? row) := by
    unfold expectIf
    split
    · next isInFront =>
        obtain ⟨sibling, isThere, _⟩ := finds.after isInFront
        rw [isThere]
        rfl
    · obtain ⟨inBody, _⟩ := Array.getElem?_eq_some_iff.mp finds.listed
      rw [finds.noneAfter (by omega)]
  rw [siblings, holds.bodyAround_eq member, ok_bind, isBefore, ok_bind, isAfter]
  rfl

/-- The neighbours of a statement are statements. -/
theorem exists_siblings
    {row : Statement}
    (member : row ∈ model.statements) :
    ∃ before after,
      model.siblings row = .ok (before, after) ∧
        (∀ sibling ∈ before, sibling ∈ model.statements) ∧
        ∀ sibling ∈ after, sibling ∈ model.statements := by
  refine ⟨_, _, holds.siblings_eq member, ?_, ?_⟩
  · intro sibling isBefore
    simp only [before?, Option.mem_def, Option.bind_eq_bind,
      Option.bind_eq_some_iff] at isBefore
    obtain ⟨_, _, index, _, found⟩ := isBefore
    exact Array.mem_of_getElem? found
  · intro sibling isAfter
    simp only [after?, Option.mem_def, Option.bind_eq_bind,
      Option.bind_eq_some_iff] at isAfter
    obtain ⟨index, _, found⟩ := isAfter
    exact Array.mem_of_getElem? found

/-- A rule finds the block that a statement is. -/
theorem ownBlock_eq
    {row : Statement}
    (member : row ∈ model.statements) :
    model.ownBlock row = .ok (model.blockOf? row) := by
  unfold ownBlock blockOf?
  cases isOwn : row.block with
  | none =>
      rfl
  | some own =>
      obtain ⟨block, found⟩ := holds.finds.own row member own isOwn
      simp only [found, Option.bind_some]
      rfl

theorem answers_ownBlock
    {row : Statement}
    (member : row ∈ model.statements) :
    Answers (model.ownBlock row) := by
  rw [holds.ownBlock_eq member]
  exact .ok _

/-- A rule finds the columns at the ends of a statement. -/
theorem answers_columnOf
    {row : Statement}
    (member : row ∈ model.statements) :
    Answers (model.columnOf row.first) ∧ Answers (model.columnOf row.last) := by
  obtain ⟨first, _, last, _, isFirst, isLast, _⟩ := holds.ends row member
  unfold columnOf
  rw [isFirst, isLast]
  exact ⟨.ok first.start.column, .ok last.start.column⟩

/-- A rule finds the lines between any line and a statement. -/
theorem answers_blankLinesBetween
    {row : Statement}
    (member : row ∈ model.statements)
    (afterLine : Nat) :
    Answers (model.blankLinesBetween afterLine row.startLine) := by
  obtain ⟨first, isToken, _, _, _, _, startsThere, _⟩ := holds.ends row member
  obtain ⟨inOrder, inText⟩ := holds.onLine first isToken
  have isLine : row.startLine ≤ model.lines.size := by
    rw [startsThere]
    exact Nat.le_trans inOrder inText
  unfold blankLinesBetween blankLinesBetween?
  simp only
  split
  · exact .ok 0
  · split
    · exact .ok _
    · next notBetween =>
        refine (notBetween ?_).elim
        omega

end HoldsRows

end SourceModel

end HouseStyle
