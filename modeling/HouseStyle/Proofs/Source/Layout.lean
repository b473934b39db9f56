import HouseStyle.Proofs.Source.Spelling
import HouseStyle.Source.Outline

namespace HouseStyle

/-!
# Adding rows to outlines

An outline is made by adding one row after the other: a statement that is no
block, or a block together with the statement that it is. `Adds` says all that
one such step does. Rows that are there already never change, but for the bodies
of the blocks that are still open.
-/

namespace Outline

/-- `parent` is file scope or a block that the outline has. -/
def HasParent
    (outline : Outline)
    (parent : Option Nat) :
    Prop :=
  ∀ around ∈ parent, around < outline.blocks.size

/-- A parent is never the block that is added next. -/
theorem HasParent.ne_size
    {outline : Outline}
    {parent : Option Nat}
    (hasParent : outline.HasParent parent) :
    parent ≠ some outline.blocks.size := fun isNext =>
  Nat.lt_irrefl _ (hasParent outline.blocks.size isNext)

/-- The row that the next statement gets. -/
def nextRow
    (outline : Outline)
    (parent : Option Nat)
    (kind : StatementKind)
    (first last : Placed)
    (block : Option Nat) :
    Statement where
  index := outline.statements.size
  kind := kind
  first := first.index
  last := last.index
  startLine := first.token.start.line
  endLine := last.token.stop.line
  parent := parent
  block := block
  position := (outline.body parent).size

/-- The row that the next block gets, without a body. -/
def nextBlock
    (outline : Outline)
    (parent : Option Nat)
    (head : BlockHead)
    (last : Placed) :
    Block where
  index := outline.blocks.size
  kind := head.kind
  keyword := head.keyword
  name := head.name
  statement := outline.statements.size
  parent := parent
  first := head.first.index
  headerEnd := head.opener.index
  last := last.index
  start := head.first.token.start
  stop := last.token.stop
  delimited := head.delimited
  continues := head.continues
  body := #[]

/-- The blocks of `before` change in nothing but their bodies. -/
def Keeps (before after : Outline) : Prop :=
  ∀ (index : Nat) (block : Block),
    before.blocks[index]? = some block →
    ∃ body, after.blocks[index]? = some { block with body := body }

namespace Keeps

theorem refl (outline : Outline) :
    outline.Keeps outline := fun _ block found =>
  ⟨block.body, found⟩

variable {before between after : Outline}

theorem trans
    (first : before.Keeps between)
    (second : between.Keeps after) :
    before.Keeps after := by
  intro index block found
  obtain ⟨body, kept⟩ := first index block found
  obtain ⟨later, keptLater⟩ := second index _ kept
  exact ⟨later, keptLater⟩

/-- Where a statement could be added, it still can. -/
theorem hasParent
    (keeps : before.Keeps after)
    {parent : Option Nat}
    (hasParent : before.HasParent parent) :
    after.HasParent parent := by
  intro around isAround
  obtain ⟨_, kept⟩ :=
    keeps around _ (Array.getElem?_eq_getElem (hasParent around isAround))
  exact (Array.getElem?_eq_some_iff.mp kept).1

end Keeps

/--
`after` is `before` with one more statement, `row`, and perhaps the block that
it is.
-/
structure Adds
    (before : Outline)
    (row : Statement)
    (after : Outline) :
    Prop where
  hasParent : before.HasParent row.parent
  index : row.index = before.statements.size
  position : row.position = (before.body row.parent).size
  statements : after.statements = before.statements.push row
  body :
    ∀ query,
      after.body query =
        if query = row.parent then
          (before.body query).push before.statements.size
        else
          before.body query
  keeps : before.Keeps after
  /-- A new block is the new statement. -/
  blocks :
    ∀ (index : Nat) (block : Block),
      after.blocks[index]? = some block →
      (∃ earlier : Block,
          before.blocks[index]? = some earlier ∧
            block = { earlier with body := block.body }) ∨
        (index = before.blocks.size ∧
          block.index = index ∧
          row.block = some index ∧
          row.kind = .block ∧
          block.statement = row.index ∧
          block.parent = row.parent ∧
          block.first = row.first ∧
          block.last = row.last)
  blockOf :
    ∀ index,
      row.block = some index →
      ∃ block,
        after.blocks[index]? = some block ∧ block.statement = row.index

theorem body_of_size_le
    {outline : Outline}
    {index : Nat}
    (beyond : outline.blocks.size ≤ index) :
    outline.body (some index) = #[] := by
  simp [body, Array.getElem?_eq_none beyond]

@[simp] theorem statements_addStatement
    (outline : Outline)
    (parent : Option Nat)
    (kind : StatementKind)
    (first last : Placed)
    (block : Option Nat) :
    (outline.addStatement parent kind first last block).statements =
      outline.statements.push
        (outline.nextRow parent kind first last block) := by
  cases parent <;> rfl

/-- Adding a statement changes no block but for the body it belongs to. -/
theorem block?_addStatement
    (outline : Outline)
    (parent : Option Nat)
    (kind : StatementKind)
    (first last : Placed)
    (block : Option Nat)
    (index : Nat) :
    (outline.addStatement parent kind first last block).blocks[index]? =
      (outline.blocks[index]?).map fun earlier =>
        if parent = some index then
          { earlier with
            body := earlier.body.push outline.statements.size }
        else
          earlier := by
  cases parent with
  | none =>
      simp [addStatement]
  | some around =>
      simp only [addStatement, Array.getElem?_modify, Option.some.injEq]
      split <;> simp

@[simp] theorem size_blocks_addStatement
    (outline : Outline)
    (parent : Option Nat)
    (kind : StatementKind)
    (first last : Placed)
    (block : Option Nat) :
    (outline.addStatement parent kind first last block).blocks.size =
      outline.blocks.size := by
  cases parent <;> simp [addStatement]

/-- Adding a statement adds its index to the body it belongs to. -/
theorem body_addStatement
    {outline : Outline}
    {parent : Option Nat}
    (hasParent : outline.HasParent parent)
    (kind : StatementKind)
    (first last : Placed)
    (block query : Option Nat) :
    (outline.addStatement parent kind first last block).body query =
      if query = parent then
        (outline.body query).push outline.statements.size
      else
        outline.body query := by
  cases query with
  | none =>
      cases parent with
      | none =>
          rfl
      | some around =>
          rfl
  | some index =>
      simp only [body, block?_addStatement, Option.map_map]
      by_cases isParent : some index = parent
      · have isThere : index < outline.blocks.size :=
          hasParent index isParent.symm
        simp [← isParent, Array.getElem?_eq_getElem isThere]
      · have isOther : parent ≠ some index := Ne.symm isParent
        cases outline.blocks[index]? <;> simp [isParent, isOther]

/-- Adding a statement keeps a block but for its body. -/
theorem keeps_addStatement
    {outline : Outline}
    {index : Nat}
    {earlier : Block}
    (found : outline.blocks[index]? = some earlier)
    (parent : Option Nat)
    (kind : StatementKind)
    (first last : Placed)
    (block : Option Nat) :
    ∃ body,
      (outline.addStatement parent kind first last block).blocks[index]? =
        some { earlier with body := body } := by
  rw [block?_addStatement, found]
  by_cases isParent : parent = some index
  · exact ⟨_, by simp [isParent]; rfl⟩
  · exact ⟨earlier.body, by simp [isParent]⟩

/-- A block behind the adding of a statement was there before. -/
theorem of_block?_addStatement
    {outline : Outline}
    {parent block : Option Nat}
    {kind : StatementKind}
    {first last : Placed}
    {index : Nat}
    {later : Block}
    (found :
      (outline.addStatement parent kind first last block).blocks[index]? =
        some later) :
    ∃ earlier : Block,
      outline.blocks[index]? = some earlier ∧
        later = { earlier with body := later.body } := by
  rw [block?_addStatement] at found
  obtain ⟨earlier, foundEarlier, same⟩ := Option.map_eq_some_iff.mp found
  refine ⟨earlier, foundEarlier, ?_⟩
  rw [← same]
  split <;> rfl

/-- `addStatement` adds a row that is no block. -/
theorem adds_addStatement
    {outline : Outline}
    {parent : Option Nat}
    (hasParent : outline.HasParent parent)
    (kind : StatementKind)
    (first last : Placed) :
    outline.Adds
      (outline.nextRow parent kind first last none)
      (outline.addStatement parent kind first last none) where
  hasParent := hasParent
  index := rfl
  position := rfl
  statements := statements_addStatement outline parent kind first last none
  body := body_addStatement hasParent kind first last none
  keeps _ _ found := keeps_addStatement found parent kind first last none
  blocks _ _ found := .inl (of_block?_addStatement found)
  blockOf _ isBlock := by
    cases isBlock

@[simp] theorem statements_addBlock
    (outline : Outline)
    (parent : Option Nat)
    (head : BlockHead)
    (last : Placed) :
    (outline.addBlock parent head last).statements =
      outline.statements.push
        (outline.nextRow parent .block head.first last
          (some outline.blocks.size)) :=
  statements_addStatement outline parent .block head.first last
    (some outline.blocks.size)

theorem blocks_addBlock
    (outline : Outline)
    (parent : Option Nat)
    (head : BlockHead)
    (last : Placed) :
    (outline.addBlock parent head last).blocks =
      (outline.addStatement parent .block head.first last
          (some outline.blocks.size)).blocks.push
        (outline.nextBlock parent head last) :=
  rfl

@[simp] theorem size_blocks_addBlock
    (outline : Outline)
    (parent : Option Nat)
    (head : BlockHead)
    (last : Placed) :
    (outline.addBlock parent head last).blocks.size =
      outline.blocks.size + 1 := by
  simp [blocks_addBlock]

/-- The block that is added is the last one. -/
theorem block?_addBlock_size
    (outline : Outline)
    (parent : Option Nat)
    (head : BlockHead)
    (last : Placed) :
    (outline.addBlock parent head last).blocks[outline.blocks.size]? =
      some (outline.nextBlock parent head last) := by
  rw [blocks_addBlock, Array.getElem?_push, size_blocks_addStatement,
    if_pos rfl]

theorem block?_addBlock_of_lt
    {outline : Outline}
    {index : Nat}
    (isThere : index < outline.blocks.size)
    (parent : Option Nat)
    (head : BlockHead)
    (last : Placed) :
    (outline.addBlock parent head last).blocks[index]? =
      (outline.addStatement parent .block head.first last
        (some outline.blocks.size)).blocks[index]? := by
  rw [blocks_addBlock, Array.getElem?_push, size_blocks_addStatement,
    if_neg (Nat.ne_of_lt isThere)]

/-- The bodies change as if a statement was added: the new one is empty. -/
theorem body_addBlock
    (outline : Outline)
    (parent : Option Nat)
    (head : BlockHead)
    (last : Placed)
    (query : Option Nat) :
    (outline.addBlock parent head last).body query =
      (outline.addStatement parent .block head.first last
        (some outline.blocks.size)).body query := by
  cases query with
  | none =>
      rfl
  | some index =>
      by_cases isNew : index = outline.blocks.size
      · subst isNew
        have wasEmpty :
            (outline.addStatement parent .block head.first last
              (some outline.blocks.size)).body (some outline.blocks.size) =
                #[] :=
          body_of_size_le (by simp)
        rw [wasEmpty, body, block?_addBlock_size]
        rfl
      · simp [body, blocks_addBlock, Array.getElem?_push, isNew]

/-- `addBlock` adds a row that is the new block. -/
theorem adds_addBlock
    {outline : Outline}
    {parent : Option Nat}
    (hasParent : outline.HasParent parent)
    (head : BlockHead)
    (last : Placed) :
    outline.Adds
      (outline.nextRow parent .block head.first last
        (some outline.blocks.size))
      (outline.addBlock parent head last) where
  hasParent := hasParent
  index := rfl
  position := rfl
  statements := statements_addBlock outline parent head last
  body query := by
    rw [body_addBlock]
    exact
      body_addStatement hasParent .block head.first last
        (some outline.blocks.size) query
  keeps index block found := by
    have isThere : index < outline.blocks.size :=
      (Array.getElem?_eq_some_iff.mp found).1
    rw [block?_addBlock_of_lt isThere]
    exact keeps_addStatement found parent .block head.first last _
  blocks index block found := by
    by_cases isNew : index = outline.blocks.size
    · subst isNew
      rw [block?_addBlock_size] at found
      cases found
      exact .inr ⟨rfl, rfl, rfl, rfl, rfl, rfl, rfl, rfl⟩
    · rw [blocks_addBlock, Array.getElem?_push, size_blocks_addStatement,
        if_neg isNew] at found
      exact .inl (of_block?_addStatement found)
  blockOf index isBlock := by
    cases isBlock
    exact ⟨_, block?_addBlock_size outline parent head last, rfl⟩

end Outline

end HouseStyle
