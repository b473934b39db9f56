import HouseStyle.Proofs.Source.Consistency
import Mathlib.Data.List.Forall2

namespace HouseStyle

/-!
# Outlines show their forests

The outline of a forest shows all of it and nothing else: the statement table
lists all families in the order of their starts, file scope shows the forest,
and every row of the block table is a block of the forest whose body shows the
statements inside it.
-/

/-- Lists that are related have related items at every index. -/
theorem exists_getElem?_of_forall₂
    {Left Right : Type}
    {related : Left → Right → Prop}
    {lefts : List Left}
    {rights : List Right}
    (areRelated : List.Forall₂ related lefts rights)
    {index : Nat}
    {left : Left}
    (found : lefts[index]? = some left) :
    ∃ right, rights[index]? = some right ∧ related left right := by
  obtain ⟨inLefts, rfl⟩ := List.getElem?_eq_some_iff.mp found
  have inRights : index < rights.length := areRelated.length_eq ▸ inLefts
  exact
    ⟨rights[index], List.getElem?_eq_getElem inRights,
      areRelated.get inLefts inRights⟩

namespace Outline

/-- The row covers what the statement covers. -/
def ShowsRange
    (row : Statement)
    (node : Node) :
    Prop :=
  row.first = node.first.index ∧ row.last = node.last.index

/-- The statement is at `index`, below `parent`. -/
def Shows
    (outline : Outline)
    (parent : Option Nat)
    (index : Nat)
    (node : Node) :
    Prop :=
  ∃ row,
    outline.statements[index]? = some row ∧
      row.parent = parent ∧
      ShowsRange row node

/-- The body of `parent` shows the statements, in their order. -/
def ShowsBody
    (outline : Outline)
    (parent : Option Nat)
    (nodes : List Node) :
    Prop :=
  List.Forall₂ (outline.Shows parent) (outline.body parent).toList nodes

/-- The row is the block with this head and end. -/
structure ShowsHead
    (block : Block)
    (head : BlockHead)
    (last : Placed) :
    Prop where
  kind : block.kind = head.kind
  keyword : block.keyword = head.keyword
  name : block.name = head.name
  first : block.first = head.first.index
  headerEnd : block.headerEnd = head.opener.index
  start : block.start = head.first.token.start
  stop : block.stop = last.token.stop
  last : block.last = last.index
  delimited : block.delimited = head.delimited

/-- Every row of the block table from `start` on is a block of the forest. -/
def ShowsBlocks
    (outline : Outline)
    (start : Nat)
    (forest : List Node) :
    Prop :=
  ∀ (index : Nat) (block : Block),
    start ≤ index →
    outline.blocks[index]? = some block →
    ∃ head body last,
      .block head body last ∈ families forest ∧
        ShowsHead block head last ∧
        outline.ShowsBody (some index) body

/-- `after` is `before` with the statements added to the body of `parent`. -/
structure LaysOut
    (before : Outline)
    (parent : Option Nat)
    (nodes : List Node)
    (after : Outline) :
    Prop where
  statements :
    ∃ added,
      after.statements.toList = before.statements.toList ++ added ∧
        List.Forall₂ ShowsRange added (families nodes)
  body :
    ∃ added,
      (after.body parent).toList = (before.body parent).toList ++ added ∧
        List.Forall₂ (after.Shows parent) added nodes
  /-- The bodies of all other blocks that are there stay as they are. -/
  others :
    ∀ query,
      query ≠ parent →
      before.HasParent query →
      after.body query = before.body query
  keeps : before.Keeps after
  blocks : after.ShowsBlocks before.blocks.size nodes

namespace LaysOut

variable
  {before between after : Outline}
  {parent : Option Nat}
  {nodes more : List Node}

/-- Rows that are there stay as they are. -/
theorem statement?_of_some
    (laysOut : LaysOut before parent nodes after)
    {index : Nat}
    {row : Statement}
    (found : before.statements[index]? = some row) :
    after.statements[index]? = some row := by
  obtain ⟨added, rows, _⟩ := laysOut.statements
  have isThere : index < before.statements.size :=
    (Array.getElem?_eq_some_iff.mp found).1
  rw [← Array.getElem?_toList, rows, List.getElem?_append_left (by simpa)]
  rw [Array.getElem?_toList, found]

theorem shows_after
    (laysOut : LaysOut before parent nodes after)
    {query : Option Nat}
    {index : Nat}
    {node : Node}
    (shown : before.Shows query index node) :
    after.Shows query index node := by
  obtain ⟨row, found, facts⟩ := shown
  exact ⟨row, laysOut.statement?_of_some found, facts⟩

theorem showsBody_after
    (laysOut : LaysOut before parent nodes after)
    {query : Option Nat}
    {inside : List Node}
    (isOther : query ≠ parent)
    (hasParent : before.HasParent query)
    (shown : before.ShowsBody query inside) :
    after.ShowsBody query inside := by
  rw [ShowsBody, laysOut.others query isOther hasParent]
  exact shown.imp fun _ _ => laysOut.shows_after

/-- Adding nothing lays out nothing. -/
theorem same (outline : Outline) :
    LaysOut outline parent [] outline where
  statements := ⟨[], by simp, .nil⟩
  body := ⟨[], by simp, .nil⟩
  others _ _ _ := rfl
  keeps := .refl outline
  blocks index block beyond found := by
    have isThere := (Array.getElem?_eq_some_iff.mp found).1
    omega

/-- A block that is there, with its body as it was. -/
theorem block_before
    (laysOut : LaysOut before parent nodes after)
    {index : Nat}
    {block : Block}
    (isThere : index < before.blocks.size)
    (found : after.blocks[index]? = some block) :
    ∃ earlier,
      before.blocks[index]? = some earlier ∧
        block = { earlier with body := block.body } := by
  obtain ⟨body, kept⟩ :=
    laysOut.keeps index _ (Array.getElem?_eq_getElem isThere)
  refine ⟨_, Array.getElem?_eq_getElem isThere, ?_⟩
  rw [found, Option.some.injEq] at kept
  rw [kept]

/-- The blocks of a part stay shown when the forest grows. -/
theorem showsBlocks_after
    (laysOut : LaysOut between parent more after)
    {start : Nat}
    (shown : between.ShowsBlocks start nodes)
    (isEarlier : ∀ around ∈ parent, around < start)
    {index : Nat}
    {block : Block}
    (beyond : start ≤ index)
    (isThere : index < between.blocks.size)
    (found : after.blocks[index]? = some block) :
    ∃ head body last,
      .block head body last ∈ families nodes ∧
        ShowsHead block head last ∧
        after.ShowsBody (some index) body := by
  obtain ⟨earlier, foundEarlier, same⟩ := laysOut.block_before isThere found
  obtain ⟨head, body, last, member, shownHead, shownBody⟩ :=
    shown index earlier beyond foundEarlier
  have isOther : some index ≠ parent := by
    intro isParent
    exact Nat.not_lt.mpr beyond (isEarlier index isParent.symm)
  have hasParent : between.HasParent (some index) := by
    intro around isAround
    cases isAround
    exact isThere
  refine ⟨head, body, last, member, ?_, ?_⟩
  · rw [same]
    exact { shownHead with }
  · exact laysOut.showsBody_after isOther hasParent shownBody

/-- Statements laid out one part of the body after the other. -/
theorem append
    (hasParent : before.HasParent parent)
    (first : LaysOut before parent nodes between)
    (second : LaysOut between parent more after) :
    LaysOut before parent (nodes ++ more) after where
  statements := by
    obtain ⟨added, rows, shown⟩ := first.statements
    obtain ⟨further, furtherRows, furtherShown⟩ := second.statements
    refine ⟨added ++ further, ?_, ?_⟩
    · rw [furtherRows, rows, List.append_assoc]
    · rw [families_append]
      exact List.rel_append shown furtherShown
  body := by
    obtain ⟨added, rows, shown⟩ := first.body
    obtain ⟨further, furtherRows, furtherShown⟩ := second.body
    refine ⟨added ++ further, ?_, ?_⟩
    · rw [furtherRows, rows, List.append_assoc]
    · exact
        List.rel_append
          (shown.imp fun _ _ => second.shows_after)
          furtherShown
  others query isOther isThere := by
    rw [second.others query isOther (first.keeps.hasParent isThere),
      first.others query isOther isThere]
  keeps := first.keeps.trans second.keeps
  blocks index block beyond found := by
    rw [families_append]
    by_cases isEarlier : index < between.blocks.size
    · obtain ⟨head, body, last, member, shown⟩ :=
        second.showsBlocks_after first.blocks hasParent beyond isEarlier found
      exact ⟨head, body, last, List.mem_append_left _ member, shown⟩
    · obtain ⟨head, body, last, member, shown⟩ :=
        second.blocks index block (Nat.not_lt.mp isEarlier) found
      exact ⟨head, body, last, List.mem_append_right _ member, shown⟩

/-- Adding a statement that is no block lays it out. -/
theorem simple
    (hasParent : before.HasParent parent)
    (kind : StatementKind)
    (first last : Placed) :
    LaysOut
      before
      parent
      [.simple first last]
      (before.addStatement parent kind first last none) where
  statements :=
    ⟨[before.nextRow parent kind first last none], by simp,
      .cons ⟨rfl, rfl⟩ .nil⟩
  body := by
    refine ⟨[before.statements.size], ?_, .cons ?_ .nil⟩
    · rw [body_addStatement hasParent]
      simp
    · exact ⟨before.nextRow parent kind first last none, by simp, rfl, rfl, rfl⟩
  others query isOther _ := by
    rw [body_addStatement hasParent, if_neg isOther]
  keeps := (adds_addStatement hasParent kind first last).keeps
  blocks index block beyond found := by
    have isThere := (Array.getElem?_eq_some_iff.mp found).1
    rw [size_blocks_addStatement] at isThere
    omega

/-- Adding a block and laying out its body lays out the block. -/
theorem block
    (hasParent : before.HasParent parent)
    {head : BlockHead}
    {body : List Node}
    {last : Placed}
    (inside :
      LaysOut
        (before.addBlock parent head last)
        (some before.blocks.size)
        body
        after) :
    LaysOut before parent [.block head body last] after where
  statements := by
    obtain ⟨added, rows, shown⟩ := inside.statements
    refine
      ⟨before.nextRow parent .block head.first last
          (some before.blocks.size) :: added,
        ?_, ?_⟩
    · simp [rows]
    · simpa [families, Node.family] using ⟨⟨rfl, rfl⟩, shown⟩
  body := by
    have adds := adds_addBlock hasParent head last
    have isOther := hasParent.ne_size
    refine ⟨[before.statements.size], ?_, .cons ?_ .nil⟩
    · rw [inside.others parent isOther (adds.keeps.hasParent hasParent),
        adds.body]
      simp [nextRow]
    · exact
        inside.shows_after
          ⟨before.nextRow parent .block head.first last
              (some before.blocks.size),
            by simp, rfl, rfl, rfl⟩
  others query isOther isThere := by
    have adds := adds_addBlock hasParent head last
    rw [inside.others query isThere.ne_size (adds.keeps.hasParent isThere),
      adds.body]
    exact if_neg isOther
  keeps := (adds_addBlock hasParent head last).keeps.trans inside.keeps
  blocks index block beyond found := by
    by_cases isNew : index = before.blocks.size
    · subst isNew
      refine ⟨head, body, last, by simp [families, Node.family], ?_, ?_⟩
      · obtain ⟨_, kept⟩ :=
          inside.keeps _ _ (block?_addBlock_size before parent head last)
        rw [found, Option.some.injEq] at kept
        rw [kept]
        exact ⟨rfl, rfl, rfl, rfl, rfl, rfl, rfl, rfl, rfl⟩
      · obtain ⟨added, rows, shown⟩ := inside.body
        have wasEmpty :
            (before.addBlock parent head last).body
              (some before.blocks.size) = #[] := by
          rw [Outline.body, block?_addBlock_size]
          rfl
        rw [wasEmpty, List.nil_append] at rows
        rw [ShowsBody, rows]
        exact shown
    · -- Behind the row of the block only blocks of its body are added.
      have isInside :
          (before.addBlock parent head last).blocks.size ≤ index := by
        rw [size_blocks_addBlock]
        omega
      obtain ⟨innerHead, innerBody, innerLast, member, shown⟩ :=
        inside.blocks index block isInside found
      refine ⟨innerHead, innerBody, innerLast, ?_, shown⟩
      simp [families, Node.family, member]

end LaysOut

section LayOut

variable (profile : Profile)

mutual

/-- Laying out a statement lays out all of it. -/
theorem layOut_laysOut
    {outline : Outline}
    {parent : Option Nat}
    (hasParent : outline.HasParent parent) :
    (node : Node) →
    LaysOut outline parent [node] (node.layOut profile parent outline)
  | .simple first last =>
      .simple hasParent _ first last
  | .block head body last =>
      .block
        hasParent
        (layOutAll_laysOut
          (hasParent_addBlock outline parent head last)
          body)

/-- Laying out a body lays out all of it. -/
theorem layOutAll_laysOut
    {outline : Outline}
    {parent : Option Nat}
    (hasParent : outline.HasParent parent) :
    (nodes : List Node) →
    LaysOut outline parent nodes (layOutAll profile parent outline nodes)
  | [] =>
      .same outline
  | node :: rest => by
      have first := layOut_laysOut hasParent node
      exact
        first.append
          hasParent
          (layOutAll_laysOut (first.keeps.hasParent hasParent) rest)

end

/-- The outline of a forest shows the forest. -/
theorem ofForest_laysOut
    (forest : List Node) :
    LaysOut empty none forest (ofForest profile forest) :=
  layOutAll_laysOut profile (hasParent_none empty) forest

end LayOut

section OfForest

variable {profile : Profile} {forest : List Node}

theorem statements_ofForest :
    List.Forall₂
      ShowsRange
      (ofForest profile forest).statements.toList
      (families forest) := by
  obtain ⟨added, rows, shown⟩ := (ofForest_laysOut profile forest).statements
  rw [rows]
  exact shown

theorem topLevel_ofForest :
    (ofForest profile forest).ShowsBody none forest := by
  obtain ⟨added, rows, shown⟩ := (ofForest_laysOut profile forest).body
  rw [ShowsBody, rows]
  exact shown

theorem blocks_ofForest
    {index : Nat}
    {block : Block}
    (found : (ofForest profile forest).blocks[index]? = some block) :
    ∃ head body last,
      .block head body last ∈ families forest ∧
        ShowsHead block head last ∧
        (ofForest profile forest).ShowsBody (some index) body :=
  (ofForest_laysOut profile forest).blocks
    index block (Nat.zero_le index) found

end OfForest

end Outline

end HouseStyle
