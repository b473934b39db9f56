import HouseStyle.Proofs.Source.Layout

namespace HouseStyle

/-!
# Consistent outlines

The two tables of an outline and its bodies say the same things more than once.
In a consistent outline they agree: every body lists exactly the statements
whose parent it belongs to, every statement knows its place in its body, and
blocks and the statements that they are name each other. Each row that is added
keeps this, so every outline of a forest is consistent.
-/

namespace Outline

/-- The tables and the bodies of an outline agree. -/
structure Consistent (outline : Outline) : Prop where
  /-- A body lists exactly the statements whose parent it belongs to. -/
  body :
    ∀ (parent : Option Nat) (index : Nat),
      index ∈ outline.body parent ↔
        ∃ row,
          outline.statements[index]? = some row ∧ row.parent = parent
  increasing :
    ∀ parent, (outline.body parent).toList.Pairwise (· < ·)
  index :
    ∀ (index : Nat) (row : Statement),
      outline.statements[index]? = some row →
      row.index = index
  position :
    ∀ (index : Nat) (row : Statement),
      outline.statements[index]? = some row →
      (outline.body row.parent)[row.position]? = some index
  /-- Every block is a statement that starts and ends with it. -/
  own :
    ∀ (index : Nat) (block : Block),
      outline.blocks[index]? = some block →
      block.index = index ∧
        ∃ row,
          outline.statements[block.statement]? = some row ∧
            row.kind = .block ∧
            row.block = some index ∧
            row.parent = block.parent ∧
            row.first = block.first ∧
            row.last = block.last
  blockOf :
    ∀ (index around : Nat) (row : Statement),
      outline.statements[index]? = some row →
      row.block = some around →
      ∃ block,
        outline.blocks[around]? = some block ∧ block.statement = index

/-- Only rows of the table are in bodies. -/
theorem Consistent.lt_of_mem_body
    {outline : Outline}
    (consistent : outline.Consistent)
    {parent : Option Nat}
    {index : Nat}
    (member : index ∈ outline.body parent) :
    index < outline.statements.size := by
  obtain ⟨_, found, _⟩ := (consistent.body parent index).mp member
  exact (Array.getElem?_eq_some_iff.mp found).1

namespace Adds

variable
  {before after : Outline}
  {row : Statement}
  (adds : before.Adds row after)

include adds

/-- The rows behind a step are those before it and the new one. -/
theorem statement?
    (index : Nat) :
    after.statements[index]? =
      if index = before.statements.size then
        some row
      else
        before.statements[index]? := by
  rw [adds.statements, Array.getElem?_push]

theorem statement?_of_some
    {index : Nat}
    {earlier : Statement}
    (found : before.statements[index]? = some earlier) :
    after.statements[index]? = some earlier := by
  have isThere : index < before.statements.size :=
    (Array.getElem?_eq_some_iff.mp found).1
  rw [adds.statement?, if_neg (Nat.ne_of_lt isThere), found]

/-- A place in a body that is taken stays as it is. -/
theorem position_of_some
    {parent : Option Nat}
    {position index : Nat}
    (found : (before.body parent)[position]? = some index) :
    (after.body parent)[position]? = some index := by
  have isThere : position < (before.body parent).size :=
    (Array.getElem?_eq_some_iff.mp found).1
  rw [adds.body]
  split
  · rw [Array.getElem?_push, if_neg (Nat.ne_of_lt isThere), found]
  · exact found

/-- A body still lists exactly the statements of its parent. -/
theorem body_lists
    (consistent : before.Consistent)
    (parent : Option Nat)
    (index : Nat) :
    index ∈ after.body parent ↔
      ∃ other,
        after.statements[index]? = some other ∧ other.parent = parent := by
  rw [adds.body, adds.statement?]
  by_cases isNew : index = before.statements.size
  · subst isNew
    have notThere : before.statements.size ∉ before.body parent :=
      fun member => Nat.lt_irrefl _ (consistent.lt_of_mem_body member)
    by_cases isParent : parent = row.parent
    · simp [isParent]
    · simp [isParent, notThere, Ne.symm isParent]
  · rw [if_neg isNew, ← consistent.body]
    split <;> simp [isNew]

/-- A body still lists its statements in order. -/
theorem body_increasing
    (consistent : before.Consistent)
    (parent : Option Nat) :
    (after.body parent).toList.Pairwise (· < ·) := by
  rw [adds.body]
  split
  · rw [Array.toList_push, List.pairwise_append]
    refine ⟨consistent.increasing parent, by simp, ?_⟩
    intro index member new isNew
    rw [List.mem_singleton.mp isNew]
    exact consistent.lt_of_mem_body (Array.mem_toList_iff.mp member)
  · exact consistent.increasing parent

/-- Every block is still a statement, the new one included. -/
theorem block_own
    (consistent : before.Consistent)
    {index : Nat}
    {block : Block}
    (found : after.blocks[index]? = some block) :
    block.index = index ∧
      ∃ other,
        after.statements[block.statement]? = some other ∧
          other.kind = .block ∧
          other.block = some index ∧
          other.parent = block.parent ∧
          other.first = block.first ∧
          other.last = block.last := by
  rcases adds.blocks index block found with
    ⟨earlier, foundEarlier, same⟩ |
      ⟨_, numbered, isBlock, kind, statement, parent, first, last⟩
  · obtain ⟨numbered, other, foundOther, facts⟩ :=
      consistent.own index earlier foundEarlier
    rw [same]
    exact ⟨numbered, other, adds.statement?_of_some foundOther, facts⟩
  · refine
      ⟨numbered, row, ?_, kind, isBlock, parent.symm, first.symm, last.symm⟩
    rw [statement, adds.index, adds.statement?, if_pos rfl]

/-- Every statement that is a block still names a block that names it. -/
theorem statement_blockOf
    (consistent : before.Consistent)
    {index around : Nat}
    {other : Statement}
    (found : after.statements[index]? = some other)
    (isBlock : other.block = some around) :
    ∃ block,
      after.blocks[around]? = some block ∧ block.statement = index := by
  rw [adds.statement?] at found
  by_cases isNew : index = before.statements.size
  · rw [if_pos isNew, Option.some.injEq] at found
    subst found
    rw [isNew, ← adds.index]
    exact adds.blockOf around isBlock
  · rw [if_neg isNew] at found
    obtain ⟨block, foundBlock, statement⟩ :=
      consistent.blockOf index around other found isBlock
    obtain ⟨body, kept⟩ := adds.keeps around block foundBlock
    exact ⟨_, kept, statement⟩

/-- One more row keeps an outline consistent. -/
theorem consistent
    (consistent : before.Consistent) :
    after.Consistent where
  body := adds.body_lists consistent
  increasing := adds.body_increasing consistent
  index index other found := by
    rw [adds.statement?] at found
    split at found
    · rename_i isNew
      cases found
      rw [isNew, adds.index]
    · exact consistent.index index other found
  position index other found := by
    rw [adds.statement?] at found
    split at found
    · rename_i isNew
      cases found
      rw [adds.body, if_pos rfl, adds.position, Array.getElem?_push,
        if_pos rfl, isNew]
    · exact adds.position_of_some (consistent.position index other found)
  own _ _ found := adds.block_own consistent found
  blockOf _ _ _ found isBlock :=
    adds.statement_blockOf consistent found isBlock

end Adds

/-- The outline of no statements is consistent. -/
theorem consistent_empty :
    empty.Consistent where
  body parent index := by
    cases parent <;> simp [empty, Outline.body]
  increasing parent := by
    cases parent <;> simp [empty, Outline.body]
  index _ _ found := by
    simp [empty] at found
  position _ _ found := by
    simp [empty] at found
  own _ _ found := by
    simp [empty] at found
  blockOf _ _ _ found _ := by
    simp [empty] at found

/-- `after` is made from `before` by adding rows. -/
inductive Grows : Outline → Outline → Prop where
  | same (outline : Outline) : Grows outline outline
  | add
      {before between after : Outline}
      {row : Statement}
      (adds : before.Adds row between)
      (grows : Grows between after) :
      Grows before after

namespace Grows

theorem trans
    {before between after : Outline}
    (first : Grows before between)
    (second : Grows between after) :
    Grows before after := by
  induction first with
  | same =>
      exact second
  | add adds _ inductionHypothesis =>
      exact .add adds (inductionHypothesis second)

variable {before after : Outline}

/-- Where a statement could be added, it still can. -/
theorem hasParent
    {parent : Option Nat}
    (grows : Grows before after)
    (hasParent : before.HasParent parent) :
    after.HasParent parent := by
  induction grows with
  | same =>
      exact hasParent
  | add adds _ inductionHypothesis =>
      exact inductionHypothesis (adds.keeps.hasParent hasParent)

/-- Rows keep an outline consistent, however many are added. -/
theorem consistent
    (grows : Grows before after)
    (consistent : before.Consistent) :
    after.Consistent := by
  induction grows with
  | same =>
      exact consistent
  | add adds _ inductionHypothesis =>
      exact inductionHypothesis (adds.consistent consistent)

end Grows

theorem hasParent_addBlock
    (outline : Outline)
    (parent : Option Nat)
    (head : BlockHead)
    (last : Placed) :
    (outline.addBlock parent head last).HasParent
      (some outline.blocks.size) := by
  intro around isAround
  cases isAround
  simp

theorem hasParent_none (outline : Outline) :
    outline.HasParent none := by
  intro around isAround
  cases isAround

section LayOut

variable (profile : Profile)

mutual

/-- Laying out a statement adds rows. -/
theorem layOut_grows
    {outline : Outline}
    {parent : Option Nat}
    (hasParent : outline.HasParent parent) :
    (node : Node) →
    Grows outline (node.layOut profile parent outline)
  | .simple first last =>
      .add (adds_addStatement hasParent _ first last) (.same _)
  | .block head body last =>
      .add
        (adds_addBlock hasParent head last)
        (layOutAll_grows (hasParent_addBlock outline parent head last) body)

/-- Laying out a body adds rows. -/
theorem layOutAll_grows
    {outline : Outline}
    {parent : Option Nat}
    (hasParent : outline.HasParent parent) :
    (nodes : List Node) →
    Grows outline (layOutAll profile parent outline nodes)
  | [] =>
      .same outline
  | node :: rest =>
      (layOut_grows hasParent node).trans
        (layOutAll_grows
          ((layOut_grows hasParent node).hasParent hasParent)
          rest)

end

theorem consistent_ofForest
    (forest : List Node) :
    (ofForest profile forest).Consistent :=
  (layOutAll_grows profile (hasParent_none empty) forest).consistent
    consistent_empty

end LayOut

end Outline

end HouseStyle
