import HouseStyle.Proofs.Rule.Resolved

namespace HouseStyle

/-!
# Pairs of statements without a blank line between them

The rule goes through the statements of a file one by one and looks at the one in
front of each and at the one behind it. A body lists its statements in order, so
from either side this goes through the pairs of statements that follow each other
in a body, each of them once. What the rule reports are the pairs that need a blank
line and have none: once for a block that ends, and once for what starts behind it.
-/

namespace SourceModel

variable {model : SourceModel}

/-! ## Statements that follow each other -/

/-- What has a body: the file itself and each of its blocks. -/
def parents (model : SourceModel) : List (Option Nat) :=
  none :: (List.range model.blocks.size).map some

/-- The statements directly inside a block, or outside all blocks. -/
def rowsOf (model : SourceModel) (parent : Option Nat) : List Statement :=
  (model.outline.body parent).toList.filterMap (model.statements[·]?)

/-- The statements that follow each other in a body, pair by pair. -/
def neighbours (model : SourceModel) : List (Statement × Statement) :=
  model.parents.flatMap fun parent =>
    (model.rowsOf parent).zip (model.rowsOf parent).tail

/-- A statement with the one in front of it. -/
def withBefore
    (model : SourceModel)
    (row : Statement) :
    List (Statement × Statement) :=
  (model.before? row).toList.map fun before => (before, row)

/-- A statement with the one behind it. -/
def withAfter
    (model : SourceModel)
    (row : Statement) :
    List (Statement × Statement) :=
  (model.after? row).toList.map fun after => (row, after)

/-- Two statements of one body follow each other. -/
structure Adjoin (model : SourceModel) (earlier later : Statement) : Prop where
  isEarlier : earlier ∈ model.statements
  isLater : later ∈ model.statements
  sameParent : earlier.parent = later.parent
  isNext : earlier.position + 1 = later.position

/-- What is read from every item of a list stands at the item's place. -/
theorem getElem?_filterMap_of_isSome
    {Item Value : Type}
    {read : Item → Option Value}
    {items : List Item}
    (areThere : ∀ item ∈ items, (read item).isSome)
    (place : Nat) :
    (items.filterMap read)[place]? = items[place]?.bind read := by
  induction items generalizing place with
  | nil =>
      rfl
  | cons item rest inductionHypothesis =>
      obtain ⟨isThere, ofRest⟩ := List.forall_mem_cons.mp areThere
      obtain ⟨value, isRead⟩ := Option.isSome_iff_exists.mp isThere
      rw [List.filterMap_cons_some isRead]
      cases place with
      | zero => simp [isRead]
      | succ place => simpa using inductionHypothesis ofRest place

/-- A table whose rows know their places lists no row twice. -/
theorem nodup_of_indexed
    {Row : Type}
    {rows : Array Row}
    {indexOf : Row → Nat}
    (indexed : ∀ index row, rows[index]? = some row → indexOf row = index) :
    rows.toList.Nodup := by
  refine List.nodup_iff_getElem?_ne_getElem?.mpr fun earlier later isBefore inRange => ?_
  intro same
  rw [List.getElem?_eq_getElem inRange, Array.getElem?_toList] at same
  have isNumber := indexed earlier _ same
  have isOther := indexed later _ (Array.getElem?_eq_getElem inRange)
  rw [Array.getElem_toList] at isNumber
  exact Nat.ne_of_lt isBefore (isNumber.symm.trans isOther)

section Consistent

variable (consistent : model.outline.Consistent)

include consistent

/-- A statement stands at its place in the body of its parent. -/
theorem of_listed
    {parent : Option Nat}
    {place index : Nat}
    {row : Statement}
    (listed : (model.outline.body parent)[place]? = some index)
    (found : model.statements[index]? = some row) :
    row.parent = parent ∧ row.position = place := by
  obtain ⟨other, foundOther, isParent⟩ :=
    (consistent.body parent index).mp (Array.mem_of_getElem? listed)
  obtain rfl : row = other := Option.some.inj (found.symm.trans foundOther)
  refine ⟨isParent, ?_⟩
  have alsoListed := consistent.position index row found
  have distinct : (model.outline.body parent).toList.Nodup :=
    (consistent.increasing parent).imp Nat.ne_of_lt
  rw [isParent, ← Array.getElem?_toList] at alsoListed
  rw [← Array.getElem?_toList] at listed
  obtain ⟨inBody, _⟩ := List.getElem?_eq_some_iff.mp listed
  exact
    ((List.getElem?_inj inBody distinct).mp (listed.trans alsoListed.symm)).symm

theorem listed_of_mem
    {row : Statement}
    (member : row ∈ model.statements) :
    (model.outline.body row.parent)[row.position]? = some row.index ∧
      model.statements[row.index]? = some row := by
  obtain ⟨index, found⟩ := Array.getElem?_of_mem member
  obtain rfl := consistent.index index row found
  exact ⟨consistent.position row.index row found, found⟩

/-- The statement in front of another one adjoins it, and is the only one. -/
theorem before?_eq_some_iff
    {earlier row : Statement}
    (member : row ∈ model.statements) :
    model.before? row = some earlier ↔ model.Adjoin earlier row := by
  constructor
  · intro isBefore
    simp only [before?, Option.bind_eq_bind, Option.bind_eq_some_iff,
      Option.guard_eq_some'] at isBefore
    obtain ⟨_, isBehind, index, listed, found⟩ := isBefore
    obtain ⟨sameParent, isPlace⟩ := of_listed consistent listed found
    exact ⟨Array.mem_of_getElem? found, member, sameParent, by omega⟩
  · rintro ⟨isEarlier, _, sameParent, isNext⟩
    obtain ⟨listed, found⟩ := listed_of_mem consistent isEarlier
    have isPlace : row.position - 1 = earlier.position := by omega
    have isBehind : 0 < row.position := by omega
    rw [sameParent, ← isPlace] at listed
    simp [before?, isBehind, listed, found]

/-- The statement behind another one adjoins it, and is the only one. -/
theorem after?_eq_some_iff
    {row later : Statement}
    (member : row ∈ model.statements) :
    model.after? row = some later ↔ model.Adjoin row later := by
  constructor
  · intro isAfter
    simp only [after?, Option.bind_eq_bind, Option.bind_eq_some_iff] at isAfter
    obtain ⟨index, listed, found⟩ := isAfter
    obtain ⟨sameParent, isPlace⟩ := of_listed consistent listed found
    exact ⟨member, Array.mem_of_getElem? found, sameParent.symm, isPlace.symm⟩
  · rintro ⟨_, isLater, sameParent, isNext⟩
    obtain ⟨listed, found⟩ := listed_of_mem consistent isLater
    rw [← sameParent, ← isNext] at listed
    simp [after?, listed, found]

/-- The statements of a body stand in it at their positions. -/
theorem rowsOf_getElem?_eq_some_iff
    {parent : Option Nat}
    {place : Nat}
    {row : Statement} :
    (model.rowsOf parent)[place]? = some row ↔
      row ∈ model.statements ∧ row.parent = parent ∧ row.position = place := by
  have areThere :
      ∀ index ∈ (model.outline.body parent).toList,
        (model.statements[index]?).isSome := by
    intro index listed
    obtain ⟨row, found, _⟩ :=
      (consistent.body parent index).mp (Array.mem_toList_iff.mp listed)
    exact Option.isSome_iff_exists.mpr ⟨row, found⟩
  rw [rowsOf, getElem?_filterMap_of_isSome areThere, Array.getElem?_toList,
    Option.bind_eq_some_iff]
  constructor
  · rintro ⟨index, listed, found⟩
    exact ⟨Array.mem_of_getElem? found, of_listed consistent listed found⟩
  · rintro ⟨member, rfl, rfl⟩
    exact ⟨row.index, listed_of_mem consistent member⟩

theorem statements_nodup :
    model.statements.toList.Nodup :=
  nodup_of_indexed consistent.index

theorem blocks_nodup :
    model.blocks.toList.Nodup :=
  nodup_of_indexed fun index block found => (consistent.own index block found).1

/-- A body lists no statement twice. -/
theorem rowsOf_nodup (parent : Option Nat) :
    (model.rowsOf parent).Nodup := by
  refine List.nodup_iff_getElem?_ne_getElem?.mpr fun earlier later isBefore inRange => ?_
  intro same
  have isLater := List.getElem?_eq_getElem inRange
  obtain ⟨_, _, isPlace⟩ := (rowsOf_getElem?_eq_some_iff consistent).mp isLater
  obtain ⟨_, _, isOther⟩ :=
    (rowsOf_getElem?_eq_some_iff consistent).mp (same.trans isLater)
  exact Nat.ne_of_lt isBefore (isOther.symm.trans isPlace)

/-- The pairs of a body are its statements that adjoin each other. -/
theorem mem_zip_rowsOf
    {parent : Option Nat}
    {earlier later : Statement} :
    (earlier, later) ∈ (model.rowsOf parent).zip (model.rowsOf parent).tail ↔
      earlier.parent = parent ∧ model.Adjoin earlier later := by
  rw [List.mem_iff_getElem?]
  simp only [List.getElem?_zip_eq_some, List.getElem?_tail,
    rowsOf_getElem?_eq_some_iff consistent]
  constructor
  · rintro ⟨place, ⟨isEarlier, isParent, isPlace⟩, isLater, sameParent, isNext⟩
    exact ⟨isParent, isEarlier, isLater, isParent.trans sameParent.symm, by omega⟩
  · rintro ⟨isParent, isEarlier, isLater, sameParent, isNext⟩
    exact
      ⟨earlier.position, ⟨isEarlier, isParent, rfl⟩, isLater,
        sameParent.symm.trans isParent, isNext.symm⟩

/-- The neighbours of a file are its statements that adjoin each other. -/
theorem mem_neighbours
    {earlier later : Statement} :
    (earlier, later) ∈ model.neighbours ↔ model.Adjoin earlier later := by
  simp only [neighbours, List.mem_flatMap, mem_zip_rowsOf consistent]
  constructor
  · rintro ⟨_, _, _, adjoin⟩
    exact adjoin
  · intro adjoin
    refine ⟨earlier.parent, ?_, rfl, adjoin⟩
    obtain ⟨listed, _⟩ := listed_of_mem consistent adjoin.isEarlier
    cases isParent : earlier.parent with
    | none => simp [parents]
    | some around =>
        rw [isParent] at listed
        obtain ⟨block, found⟩ :=
          Outline.exists_block_of_mem_body (Array.mem_of_getElem? listed)
        obtain ⟨inRange, _⟩ := Array.getElem?_eq_some_iff.mp found
        simpa [parents, blocks] using inRange

/-- No two statements follow each other twice. -/
theorem neighbours_nodup :
    model.neighbours.Nodup := by
  refine List.nodup_flatMap.mpr ⟨fun parent _ => ?_, ?_⟩
  · have hasSeconds :
        ((model.rowsOf parent).zip (model.rowsOf parent).tail).map Prod.snd =
          (model.rowsOf parent).tail :=
      List.map_snd_zip (by simp)
    refine List.Nodup.of_map Prod.snd ?_
    rw [hasSeconds]
    exact (rowsOf_nodup consistent parent).tail
  · have distinct : model.parents.Nodup := by
      simp [parents, List.nodup_range.map (Option.some_injective Nat)]
    refine distinct.imp fun differ => ?_
    rintro ⟨earlier, later⟩ ofOne ofOther
    obtain ⟨isParent, _⟩ := (mem_zip_rowsOf consistent).mp ofOne
    obtain ⟨isOther, _⟩ := (mem_zip_rowsOf consistent).mp ofOther
    exact differ (isParent.symm.trans isOther)

/--
Where each statement owns pairs that adjoin, and each such pair has an owner, going
through the statements goes through the neighbours of the file.
-/
theorem flatMap_perm_neighbours
    {pairsOf : Statement → List (Statement × Statement)}
    (owner : Statement × Statement → Statement)
    (once : ∀ row, (pairsOf row).Nodup)
    (isOwner : ∀ row, ∀ pair ∈ pairsOf row, owner pair = row)
    (isThere : ∀ pair, model.Adjoin pair.1 pair.2 → owner pair ∈ model.statements)
    (adjoins :
      ∀ pair,
        owner pair ∈ model.statements →
        (pair ∈ pairsOf (owner pair) ↔ model.Adjoin pair.1 pair.2)) :
    (model.statements.toList.flatMap pairsOf).Perm model.neighbours := by
  have distinct : (model.statements.toList.flatMap pairsOf).Nodup := by
    refine List.nodup_flatMap.mpr ⟨fun row _ => once row, ?_⟩
    refine (statements_nodup consistent).imp fun differ pair ofOne ofOther => ?_
    exact differ ((isOwner _ pair ofOne).symm.trans (isOwner _ pair ofOther))
  refine
    (List.perm_ext_iff_of_nodup distinct (neighbours_nodup consistent)).mpr ?_
  intro pair
  rw [mem_neighbours consistent, List.mem_flatMap]
  constructor
  · rintro ⟨row, member, isPair⟩
    obtain rfl := isOwner row pair isPair
    exact (adjoins pair (Array.mem_toList_iff.mp member)).mp isPair
  · intro adjoin
    have member := isThere pair adjoin
    exact
      ⟨owner pair, Array.mem_toList_iff.mpr member, (adjoins pair member).mpr adjoin⟩

/-- Looking in front of each statement goes through the neighbours of the file. -/
theorem withBefore_perm :
    (model.statements.toList.flatMap model.withBefore).Perm model.neighbours := by
  refine
    flatMap_perm_neighbours consistent Prod.snd
      (fun row => ?_) (fun row pair isPair => ?_) (fun _ adjoin => adjoin.isLater) ?_
  · unfold withBefore
    cases model.before? row <;> simp
  · obtain ⟨_, _, rfl⟩ := List.mem_map.mp isPair
    rfl
  · rintro ⟨earlier, later⟩ member
    simp [withBefore, before?_eq_some_iff consistent member]

/-- Looking behind each statement goes through the neighbours of the file. -/
theorem withAfter_perm :
    (model.statements.toList.flatMap model.withAfter).Perm model.neighbours := by
  refine
    flatMap_perm_neighbours consistent Prod.fst
      (fun row => ?_) (fun row pair isPair => ?_) (fun _ adjoin => adjoin.isEarlier) ?_
  · unfold withAfter
    cases model.after? row <;> simp
  · obtain ⟨_, _, rfl⟩ := List.mem_map.mp isPair
    rfl
  · rintro ⟨earlier, later⟩ member
    simp [withAfter, after?_eq_some_iff consistent member]

end Consistent

/-- A statement is a block exactly if its kind says so. -/
theorem kind_eq_block_iff
    {source : SourceFile}
    (built : build source = .ok model)
    {row : Statement}
    (member : row ∈ model.statements) :
    row.kind = .block ↔ (model.blockOf? row).isSome := by
  obtain ⟨forest, spelled, readFrom⟩ := readFrom_of_build built
  have ofFamily := Outline.shapes_ofForest model.language.profile forest
  rw [← readFrom.outline] at ofFamily
  obtain ⟨node, _, shape⟩ :=
    exists_of_forall₂_mem ofFamily.flip (Array.mem_toList_iff.mpr member)
  rw [shape.kind, ← shape.block, blockOf?]
  cases isOwn : row.block with
  | none =>
      rfl
  | some own =>
      obtain ⟨block, found⟩ := (findsAll_of_build built).own row member own isOwn
      simp [found]

end SourceModel

namespace BlankLinePlacement

/-! ## What lacks a blank line -/

section Pairs

variable
  (model : SourceModel)
  (earlier later : Statement)

/-- A blank line lies strictly between two statements. -/
def AreApart : Prop :=
  ∃ line ∈ model.lines,
    earlier.endLine < line.number ∧
      line.number < later.startLine ∧
      line.isBlank = true

/-- A statement is a block that continues the one before it. -/
def Continues : Prop :=
  (model.blockOf? later).any Block.continues = true

/-- A block is to be set apart from what is behind it, if that does not continue it. -/
def EndsBlock : Prop :=
  earlier.kind = .block ∧ ¬ Continues model later

/--
A block is to be set apart from what is in front of it, unless it continues that,
and so is a return where returns are checked.
-/
def StartsAnew (checkReturns : Bool) : Prop :=
  later.kind = .block ∧ ¬ Continues model later ∨
    later.kind = .result ∧ checkReturns = true

instance : Decidable (AreApart model earlier later) :=
  inferInstanceAs (Decidable (∃ line ∈ model.lines, _))

instance : Decidable (Continues model later) :=
  inferInstanceAs (Decidable (_ = true))

instance : Decidable (EndsBlock model earlier later) :=
  inferInstanceAs (Decidable (_ ∧ _))

instance (checkReturns : Bool) : Decidable (StartsAnew model later checkReturns) :=
  inferInstanceAs (Decidable (_ ∨ _))

end Pairs

section Missing

variable
  (severity : Severity)
  (model : SourceModel)

/-- How a message names a statement that needs a blank line. -/
def subjectOf (row : Statement) : String :=
  ((model.blockOf? row).map label).getD "Return statement"

/-- What is said of a statement without a blank line in front of it. -/
def notPreceded (row : Statement) : Finding where
  place := { line := row.startLine, column := model.columnAt row.first }
  severity := severity
  message := subjectOf model row ++ " should be preceded by a blank line"

/-- What is said of a statement without a blank line behind it. -/
def notFollowed (row : Statement) : Finding where
  place := { line := row.endLine, column := model.columnAt row.last }
  severity := severity
  message := subjectOf model row ++ " should be followed by a blank line"

/-- Of pairs of statements, the later ones that lack a blank line in front of them. -/
def inFront
    (checkReturns : Bool)
    (pairs : List (Statement × Statement)) :
    List Finding :=
  (pairs.filter fun (earlier, later) =>
      StartsAnew model later checkReturns ∧ ¬ AreApart model earlier later).map
    fun (_, later) => notPreceded severity model later

/-- Of pairs of statements, the earlier ones that lack a blank line behind them. -/
def behind (pairs : List (Statement × Statement)) : List Finding :=
  (pairs.filter fun (earlier, later) =>
      EndsBlock model earlier later ∧ ¬ AreApart model earlier later).map
    fun (earlier, _) => notFollowed severity model earlier

end Missing

section Rows

variable
  {source : SourceFile}
  {model : SourceModel}

/-- It is known whether a blank line lies between two statements. -/
theorem touches_eq
    (holds : model.HoldsRows source)
    (earlier : Statement)
    {later : Statement}
    (member : later ∈ model.statements) :
    touches model earlier.endLine later.startLine =
      .ok (!decide (AreApart model earlier later)) := by
  obtain ⟨first, isToken, _, _, _, _, startsThere, _⟩ := holds.ends later member
  obtain ⟨inOrder, inText⟩ := holds.onLine first isToken
  obtain ⟨count, isCounted, isNone⟩ :=
    SourceModel.exists_blankLinesBetween? holds.areNumbered earlier.endLine
      (startsThere ▸ inOrder.trans inText)
  have isAnswer : (count == 0) = !decide (AreApart model earlier later) := by
    rw [Bool.eq_iff_iff, beq_iff_eq, isNone, Bool.not_eq_true', decide_eq_false_iff_not]
    rfl
  rw [touches, SourceModel.blankLinesBetween, isCounted, ← isAnswer]
  rfl

/-- The rule says what there is to say of a statement, in front of it and behind it. -/
theorem says_eq
    (holds : model.HoldsRows source)
    (severity : Severity)
    {row : Statement}
    (member : row ∈ model.statements)
    {subject : String}
    (isSubject : subjectOf model row = subject) :
    precedes model severity row subject = .ok (notPreceded severity model row) ∧
      follows model severity row subject = .ok (notFollowed severity model row) := by
  obtain ⟨first, _, last, _, isFirst, isLast, _⟩ := holds.ends row member
  subst isSubject
  constructor
  · rw [precedes, SourceModel.columnOf_eq isFirst]
    rfl
  · rw [follows, SourceModel.columnOf_eq isLast]
    rfl

/-- The rule reports what starts anew without a blank line in front of it. -/
theorem reportIf_touchesBefore
    (holds : model.HoldsRows source)
    {checkReturns : Bool}
    {severity : Severity}
    {row : Statement}
    (member : row ∈ model.statements)
    (startsAnew : StartsAnew model row checkReturns) :
    reportIf
        (touchesBefore model (model.before? row) row)
        (.ok (notPreceded severity model row)) =
      .ok (inFront severity model checkReturns (model.withBefore row)) := by
  unfold inFront SourceModel.withBefore
  cases model.before? row with
  | none =>
      rfl
  | some before =>
      rw [touchesBefore, touches_eq holds before member]
      by_cases areApart : AreApart model before row <;>
        simp [reportIf, areApart, startsAnew, Except.map] <;> rfl

/-- The rule reports a block that ends without a blank line behind it. -/
theorem reportIf_touchesAfter
    (holds : model.HoldsRows source)
    (consistent : model.outline.Consistent)
    (severity : Severity)
    {row : Statement}
    (member : row ∈ model.statements)
    (isBlock : row.kind = .block) :
    reportIf
        (touchesAfter model row (model.after? row))
        (.ok (notFollowed severity model row)) =
      .ok (behind severity model (model.withAfter row)) := by
  unfold behind SourceModel.withAfter
  cases isAfter : model.after? row with
  | none =>
      rfl
  | some after =>
      have adjoin := (SourceModel.after?_eq_some_iff consistent member).mp isAfter
      have isAnswer :
          continues model after = .ok (decide (Continues model after)) := by
        rw [continues, holds.ownBlock_eq adjoin.isLater, ok_bind]
        exact congrArg Except.ok Bool.decide_eq_true.symm
      simp only [touchesAfter, isAnswer, ok_bind, decide_eq_true_eq]
      by_cases isContinued : Continues model after
      · simp [isContinued, EndsBlock, reportIf]
        rfl
      · rw [if_neg isContinued, touches_eq holds row adjoin.isLater]
        by_cases areApart : AreApart model row after <;>
          simp [reportIf, areApart, EndsBlock, isBlock, isContinued, Except.map] <;> rfl

/-- In front of what continues, nothing is reported. -/
theorem inFront_withBefore_eq_nil
    (severity : Severity)
    {checkReturns : Bool}
    {row : Statement}
    (startsNothing : ¬ StartsAnew model row checkReturns) :
    inFront severity model checkReturns (model.withBefore row) = [] := by
  unfold inFront SourceModel.withBefore
  cases model.before? row <;> simp [startsNothing]

/-- Behind what is no block, nothing is reported. -/
theorem behind_withAfter_eq_nil
    (severity : Severity)
    {row : Statement}
    (notBlock : row.kind ≠ .block) :
    behind severity model (model.withAfter row) = [] := by
  unfold behind SourceModel.withAfter
  cases model.after? row <;> simp [EndsBlock, notBlock]

/-- What the rule reports of a statement. -/
theorem findingsAt_eq
    (built : SourceModel.build source = .ok model)
    (checkReturns : Bool)
    (severity : Severity)
    {row : Statement}
    (member : row ∈ model.statements) :
    findingsAt checkReturns severity model row =
      .ok
        (inFront severity model checkReturns (model.withBefore row) ++
          behind severity model (model.withAfter row)) := by
  have holds := SourceModel.holdsRows_of_build built
  have isBlock_iff := SourceModel.kind_eq_block_iff built member
  rw [findingsAt, holds.siblings_eq member, ok_bind]
  simp only [holds.ownBlock_eq member, ok_bind]
  cases isOwn : model.blockOf? row with
  | none =>
      have notBlock : row.kind ≠ .block := by
        simp [isBlock_iff, isOwn]
      have isSubject : subjectOf model row = "Return statement" := by
        simp [subjectOf, isOwn]
      rw [behind_withAfter_eq_nil severity notBlock, List.append_nil]
      by_cases isReported : row.kind = .result ∧ checkReturns = true
      · rw [if_pos isReported.1, if_pos isReported.2,
          (says_eq holds severity member isSubject).1]
        exact reportIf_touchesBefore holds member (.inr isReported)
      · have startsNothing : ¬ StartsAnew model row checkReturns := by
          simp only [StartsAnew, notBlock, false_and, false_or, isReported, not_false_eq_true]
        rw [inFront_withBefore_eq_nil severity startsNothing]
        split
        · next isReturn => exact if_neg fun checks => isReported ⟨isReturn, checks⟩
        · rfl
  | some block =>
      have isBlock : row.kind = .block := by
        simp [isBlock_iff, isOwn]
      have isSubject : subjectOf model row = label block := by
        simp [subjectOf, isOwn]
      obtain ⟨precedes, follows⟩ := says_eq holds severity member isSubject
      have ofAfter :=
        reportIf_touchesAfter holds holds.consistent severity member isBlock
      rw [if_neg (by simp [isBlock])]
      simp only [precedes, follows, ofAfter]
      by_cases isContinued : block.continues = true
      · have startsNothing : ¬ StartsAnew model row checkReturns := by
          simp [StartsAnew, Continues, isOwn, isContinued, isBlock]
        rw [if_pos isContinued, inFront_withBefore_eq_nil severity startsNothing]
        rfl
      · have startsAnew : StartsAnew model row checkReturns := by
          simp [StartsAnew, Continues, isOwn, isContinued, isBlock]
        rw [if_neg isContinued, reportIf_touchesBefore holds member startsAnew]
        rfl

/--
On every model that is built, the rule reports the neighbours that lack a blank line,
in front of what starts anew and behind a block that ends.
-/
theorem exists_findings_perm
    (built : SourceModel.build source = .ok model)
    (checkReturns : Bool)
    (severity : Severity) :
    ∃ reported,
      findings checkReturns severity model = .ok reported ∧
        reported.Perm
          (inFront severity model checkReturns model.neighbours ++
            behind severity model model.neighbours) := by
  have consistent := (SourceModel.holdsRows_of_build built).consistent
  let reportedAt (row : Statement) : List Finding :=
    inFront severity model checkReturns (model.withBefore row) ++
      behind severity model (model.withAfter row)
  have ofRows :
      model.statements.toList.mapM (findingsAt checkReturns severity model) =
        .ok (model.statements.toList.map reportedAt) :=
    (mapM_congr fun row member =>
      findingsAt_eq built checkReturns severity (Array.mem_toList_iff.mp member)).trans
      List.mapM_pure
  refine ⟨model.statements.toList.flatMap reportedAt, ?_, ?_⟩
  · rw [findings, ofRows]
    rfl
  · have ofBefore := SourceModel.withBefore_perm consistent
    have ofAfter := SourceModel.withAfter_perm consistent
    refine (List.flatMap_append_perm _ _ _).symm.trans (List.Perm.append ?_ ?_)
    · unfold inFront
      rw [← List.map_flatMap, ← List.filter_flatMap]
      exact (ofBefore.filter _).map _
    · unfold behind
      rw [← List.map_flatMap, ← List.filter_flatMap]
      exact (ofAfter.filter _).map _

end Rows

/-! ## Resolved settings -/

/-- What fits a switch is a switch. -/
theorem exists_bool_of_fits
    {default : Bool}
    {value : Document}
    (fitsDefault : fits (.bool default) value = true) :
    ∃ flag, value = .bool flag := by
  cases value with
  | scalar scalar =>
      cases scalar with
      | bool flag => exact ⟨flag, rfl⟩
      | moment value =>
          cases value <;> simp [fits, Document.typeName, Moment.typeName] at fitsDefault
      | _ => simp [fits, Document.typeName] at fitsDefault
  | _ => simp [fits, Document.typeName] at fitsDefault

/--
With the settings that an accepted configuration comes to, the rule has something to
say of a model that is built: of each pair of neighbours what it lacks.
-/
theorem exists_check_of_resolved
    {surroundings : Surroundings}
    {registry : Registry}
    {defaults overrides : Configuration}
    {rules : RuleSet}
    {source : SourceFile}
    {model : SourceModel}
    (distinct : registry.ids.Nodup)
    (member : blankLinePlacement ∈ registry.rules)
    (defaultsAreMappings : defaults.HasMappings)
    (overridesAreMappings : overrides.HasMappings)
    (isResolved :
      resolveOver surroundings registry defaults overrides = .ok rules)
    (built : SourceModel.build source = .ok model)
    (language : Language) :
    ∃ settings checkReturns reported,
      rules.settings? language blankLinePlacement.id = some settings ∧
        settings.params.get? "check_returns" = some (.bool checkReturns) ∧
        blankLinePlacement.check model settings = .ok reported ∧
        reported.Perm
          (inFront settings.severity model checkReturns model.neighbours ++
            behind settings.severity model model.neighbours) := by
  obtain ⟨settings, settled, isSettled, _⟩ :=
    exists_settings_of_resolveOver distinct isResolved language member
  have isStructural : blankLinePlacement ∈ structuralRules := by
    simp [structuralRules]
  obtain ⟨fit, _⟩ :=
    blankLinePlacement.fit_of_settle
      (takesVerbList_of_structural isStructural)
      (defaultsAreMappings.append_layers overridesAreMappings language)
      isSettled
  have isDefault :
      blankLinePlacement.defaultParams.get? "check_returns" =
        some (.bool true) := rfl
  obtain ⟨value, checks, fitsDefault⟩ := fit.get? isDefault
  obtain ⟨checkReturns, rfl⟩ := exists_bool_of_fits fitsDefault
  have isRead : settings.params.flagParam "check_returns" = .ok checkReturns := by
    simp [Entries.flagParam, Entries.param, checks, Document.isEmpty]
  obtain ⟨reported, areReported, perm⟩ :=
    exists_findings_perm built checkReturns settings.severity
  refine ⟨settings, checkReturns, reported, settled, checks, ?_, perm⟩
  simp only [blankLinePlacement, isRead, ok_bind, areReported]

/-- What the rule says of a model with settings that check returns or do not. -/
structure SetsApart
    (settings : RuleSettings)
    (model : SourceModel)
    (checkReturns : Bool)
    (violations : List Violation) :
    Prop where
  checks : settings.params.get? "check_returns" = some (.bool checkReturns)
  answers : blankLinePlacement.evaluate model settings = .ok violations
  /-- Each pair of neighbours is reported once for each condition that it fails. -/
  reports :
    violations.Perm
      ((inFront settings.severity model checkReturns model.neighbours ++
        behind settings.severity model model.neighbours).map
          (blankLinePlacement.sign model))
  /-- Every violation is a pair that fails the condition behind it or in front. -/
  length_eq :
    violations.length =
      (model.neighbours.countP fun (earlier, later) =>
          EndsBlock model earlier later ∧ ¬ AreApart model earlier later) +
        model.neighbours.countP fun (earlier, later) =>
          StartsAnew model later checkReturns ∧ ¬ AreApart model earlier later
  /-- Nothing is reported exactly if all neighbours that need a blank line have one. -/
  isClean_iff :
    violations = [] ↔
      ∀ earlier later,
        (earlier, later) ∈ model.neighbours →
        EndsBlock model earlier later ∨ StartsAnew model later checkReturns →
        AreApart model earlier later

/--
With the settings that an accepted configuration comes to, and on every model that
is built, the rule reports the neighbours that lack a blank line.
-/
theorem exists_setsApart_of_resolved
    {surroundings : Surroundings}
    {registry : Registry}
    {defaults overrides : Configuration}
    {rules : RuleSet}
    {source : SourceFile}
    {model : SourceModel}
    (distinct : registry.ids.Nodup)
    (member : blankLinePlacement ∈ registry.rules)
    (defaultsAreMappings : defaults.HasMappings)
    (overridesAreMappings : overrides.HasMappings)
    (isResolved :
      resolveOver surroundings registry defaults overrides = .ok rules)
    (built : SourceModel.build source = .ok model)
    (language : Language) :
    ∃ settings checkReturns violations,
      rules.settings? language blankLinePlacement.id = some settings ∧
        SetsApart settings model checkReturns violations := by
  obtain ⟨settings, checkReturns, reported, settled, checks, areReported, perm⟩ :=
    exists_check_of_resolved distinct member defaultsAreMappings overridesAreMappings
      isResolved built language
  have reports := perm.map (blankLinePlacement.sign model)
  have length_eq := reports.length_eq
  simp only [List.length_append, List.length_map, inFront, behind,
    ← List.countP_eq_length_filter] at length_eq
  refine
    ⟨settings, checkReturns, _, settled,
      { checks
        answers := ?_
        reports
        length_eq := ?_
        isClean_iff := ?_ }⟩
  · rw [Rule.evaluate, areReported]
    rfl
  · rw [List.length_map, length_eq, Nat.add_comm]
  · rw [← List.length_eq_zero_iff, List.length_map, length_eq, Nat.add_eq_zero_iff,
      List.countP_eq_zero, List.countP_eq_zero]
    simp only [Prod.forall, decide_eq_true_eq, not_and, Decidable.not_not]
    constructor
    · rintro ⟨apartInFront, apartBehind⟩ earlier later areNeighbours (ends | starts)
      · exact apartBehind earlier later areNeighbours ends
      · exact apartInFront earlier later areNeighbours starts
    · intro areApart
      exact
        ⟨fun earlier later areNeighbours starts =>
            areApart earlier later areNeighbours (.inr starts),
          fun earlier later areNeighbours ends =>
            areApart earlier later areNeighbours (.inl ends)⟩

/-- A file whose second branch is set apart from what is behind it. -/
def crampedBranches : SourceFile where
  path := "cramped.py"
  text := "a\nif b:\n c\n return d\nelse:\n e\n\nf\n"
  language := .python

/-- Returns need no blank line in front of them. -/
def uncheckedReturns : Configuration where
  rules :=
    [("blank-line-placement",
      [(.text "params", .map [(.text "check_returns", .bool false)])])]

set_option maxRecDepth 100000 in
/-- The first branch is reported, and neither the return nor the second branch is. -/
theorem setsApart_of_crampedBranches :
    ∃ defaults rules model settings violations,
      Configuration.packaged = .ok defaults ∧
        defaults.HasMappings ∧
        uncheckedReturns.HasMappings ∧
        resolveOver emptyDisk .builtin defaults uncheckedReturns = .ok rules ∧
        SourceModel.build crampedBranches = .ok model ∧
        rules.settings? .python blankLinePlacement.id = some settings ∧
        SetsApart settings model false violations ∧
        model.neighbours.length = 4 ∧
        violations.length = 1 := by
  have distinct : Registry.builtin.ids.Nodup := by
    decide +kernel
  have isRegistered : blankLinePlacement ∈ Registry.builtin.rules := by
    simp [Registry.builtin, builtinRules]
  have areMappings : uncheckedReturns.HasMappings := by
    decide +kernel
  have packaged :
      Configuration.packaged.toOption.map (fun defaults =>
        (decide defaults.HasMappings,
          (resolveOver emptyDisk .builtin defaults uncheckedReturns).toOption.map
            fun rules =>
              (rules.settings? .python blankLinePlacement.id).map
                fun settings =>
                  (settings.params.get? "check_returns").map Document.isEmpty)) =
        some (true, some (some (some true))) := by
    decide +kernel
  have counted :
      (SourceModel.build crampedBranches).toOption.map (fun model =>
        (model.neighbours.length,
          model.neighbours.countP (fun (earlier, later) =>
            EndsBlock model earlier later ∧ ¬ AreApart model earlier later),
          model.neighbours.countP (fun (earlier, later) =>
            StartsAnew model later false ∧ ¬ AreApart model earlier later))) =
        some (4, 0, 1) := by
    decide +kernel
  obtain ⟨defaults, isPackaged, facts⟩ := Option.map_eq_some_iff.mp packaged
  obtain ⟨defaultsAreMappings, isAccepted⟩ := Prod.mk.inj facts
  obtain ⟨rules, isResolved, areFound⟩ := Option.map_eq_some_iff.mp isAccepted
  obtain ⟨model, built, counts⟩ := Option.map_eq_some_iff.mp counted
  simp only [Prod.mk.injEq] at counts
  obtain ⟨fourPairs, noneBehind, oneInFront⟩ := counts
  have built := eq_ok_of_toOption_eq_some built
  have isResolved := eq_ok_of_toOption_eq_some isResolved
  have defaultsAreMappings := of_decide_eq_true defaultsAreMappings
  obtain ⟨settings, checkReturns, violations, settled, setsApart⟩ :=
    exists_setsApart_of_resolved distinct isRegistered defaultsAreMappings areMappings
      isResolved built .python
  obtain rfl : checkReturns = false := by
    simpa [settled, setsApart.checks, Document.isEmpty] using areFound
  have length_eq := setsApart.length_eq
  rw [noneBehind, oneInFront] at length_eq
  exact
    ⟨defaults, rules, model, settings, violations, eq_ok_of_toOption_eq_some isPackaged,
      defaultsAreMappings, areMappings, isResolved, built, settled, setsApart,
      fourPairs, length_eq⟩

end BlankLinePlacement

end HouseStyle
