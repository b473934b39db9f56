import HouseStyle.Proofs.Source.Nesting

namespace HouseStyle

/-!
# Rows stand for statements

The row at an index stands for the statement at that index of all families, and
a statement is known by its first token. So a row that is a block has the header
of the statement that it stands for, and a row below a block stands for a
statement of the block's body.
-/

mutual

/-- The family of a member is part of the family. -/
theorem Node.family_subset
    {inner : Node} :
    (outer : Node) →
    inner ∈ outer.family →
    inner.family ⊆ outer.family
  | .simple first last, member => by
      simp only [Node.family, List.mem_singleton] at member
      subst member
      exact List.Subset.refl _
  | .block head body last, member => by
      simp only [Node.family, List.mem_cons] at member
      rcases member with isWhole | inBody
      · subst isWhole
        exact List.Subset.refl _
      · exact List.subset_cons_of_subset _ (families_subset body inBody)

/-- The same for all families of a body. -/
theorem families_subset
    {inner : Node} :
    (nodes : List Node) →
    inner ∈ families nodes →
    inner.family ⊆ families nodes
  | [], member => by
      simp [families] at member
  | node :: rest, member => by
      simp only [families, List.mem_append] at member
      rcases member with inFirst | inRest
      · exact
          List.subset_append_of_subset_left _
            (Node.family_subset node inFirst)
      · exact
          List.subset_append_of_subset_right _ (families_subset rest inRest)

end

theorem mem_families_of_body
    {head : BlockHead}
    {body nodes : List Node}
    {last : Placed}
    {node : Node}
    (isBlock : .block head body last ∈ families nodes)
    (member : node ∈ body) :
    node ∈ families nodes := by
  refine families_subset nodes isBlock ?_
  simp [Node.family, mem_families member]

/-- A statement of a body is known by its first token. -/
theorem SpellsAll.eq_of_first
    {style : BlockStyle}
    {nodes : List Node}
    {tokens : List Placed}
    {one other : Node}
    (spelled : SpellsAll style nodes tokens)
    (ordered : InOrder tokens)
    (member : one ∈ families nodes)
    (otherMember : other ∈ families nodes)
    (same : one.first.index = other.first.index) :
    one = other := by
  have firsts : InOrder ((families nodes).map Node.first) :=
    ordered.of_sublist spelled.firsts_sublist
  have starts :
      (families nodes).Pairwise fun earlier later =>
        earlier.first.index < later.first.index := by
    rw [InOrder, List.pairwise_map] at firsts
    exact firsts
  obtain ⟨left, inLeft, rfl⟩ := List.mem_iff_getElem.mp member
  obtain ⟨right, inRight, rfl⟩ := List.mem_iff_getElem.mp otherMember
  rcases Nat.lt_trichotomy left right with isEarlier | isSame | isLater
  · have before :=
      List.pairwise_iff_getElem.mp starts left right inLeft inRight isEarlier
    omega
  · simp only [isSame]
  · have behind :=
      List.pairwise_iff_getElem.mp starts right left inRight inLeft isLater
    omega

/-- Whether a statement is a block. -/
def Node.isBlock : Node → Bool
  | .simple _ _ => false
  | .block _ _ _ => true

namespace Outline

/-- The row is a block if the statement is one, and has its lines. -/
structure ShowsShape
    (row : Statement)
    (node : Node) :
    Prop where
  kind : row.kind = .block ↔ node.isBlock = true
  block : row.block.isSome = node.isBlock
  startLine : row.startLine = node.first.token.start.line
  endLine : row.endLine = node.last.token.stop.line

mutual

/-- Laying out a statement adds a row of its shape for each of its family. -/
theorem layOut_shapes
    (profile : Profile)
    (outline : Outline)
    (parent : Option Nat) :
    (node : Node) →
    ∃ added,
      (node.layOut profile parent outline).statements.toList =
          outline.statements.toList ++ added ∧
        List.Forall₂ ShowsShape added node.family
  | .simple first last => by
      let kind : StatementKind :=
        if profile.returnKeywords.contains first.text then
          .result
        else
          .simple
      have notBlock : kind ≠ .block := by
        unfold kind
        split <;> simp
      exact
        ⟨[outline.nextRow parent kind first last none],
          by simp [Node.layOut, kind],
          .cons ⟨iff_of_false notBlock Bool.false_ne_true, rfl, rfl, rfl⟩ .nil⟩
  | .block head body last => by
      obtain ⟨added, rows, shown⟩ :=
        layOutAll_shapes profile (outline.addBlock parent head last)
          (some outline.blocks.size) body
      refine
        ⟨outline.nextRow parent .block head.first last
            (some outline.blocks.size) :: added,
          ?_, .cons ⟨iff_of_true rfl rfl, rfl, rfl, rfl⟩ shown⟩
      rw [Node.layOut, rows]
      simp

/-- The same for all statements of a body. -/
theorem layOutAll_shapes
    (profile : Profile)
    (outline : Outline)
    (parent : Option Nat) :
    (nodes : List Node) →
    ∃ added,
      (layOutAll profile parent outline nodes).statements.toList =
          outline.statements.toList ++ added ∧
        List.Forall₂ ShowsShape added (families nodes)
  | [] =>
      ⟨[], by simp [layOutAll], .nil⟩
  | node :: rest => by
      obtain ⟨added, rows, shown⟩ := layOut_shapes profile outline parent node
      obtain ⟨further, furtherRows, furtherShown⟩ :=
        layOutAll_shapes profile (node.layOut profile parent outline)
          parent rest
      refine ⟨added ++ further, ?_, List.rel_append shown furtherShown⟩
      rw [layOutAll, furtherRows, rows, List.append_assoc]

end

/-- Every row has the shape of the statement at its place. -/
theorem shapes_ofForest
    (profile : Profile)
    (forest : List Node) :
    List.Forall₂
      ShowsShape
      (ofForest profile forest).statements.toList
      (families forest) := by
  obtain ⟨added, rows, shown⟩ := layOutAll_shapes profile empty none forest
  rw [ofForest, rows]
  exact shown

end Outline

/-- The last token of a statement's header, and of a statement without one. -/
def Node.headerLast : Node → Placed
  | .simple _ last => last
  | .block head _ _ => head.opener

namespace SourceModel

/-- The index of the last token of a row's header, or of all of the row. -/
def headerLast
    (model : SourceModel)
    (row : Statement) :
    Nat :=
  ((model.blockOf? row).map Block.headerEnd).getD row.last

namespace ReadFrom

variable
  {model : SourceModel}
  {forest : List Node}
  {spelled : List Placed}
  (readFrom : model.ReadFrom forest spelled)

include readFrom

/-- Statements of the forest that start with the same token are the same. -/
theorem eq_of_first
    {one other : Node}
    (member : one ∈ families forest)
    (otherMember : other ∈ families forest)
    (same : one.first.index = other.first.index) :
    one = other :=
  readFrom.spells.eq_of_first readFrom.ordered member otherMember same

/-- The row at an index has the range and the header of its statement. -/
theorem exists_shown
    {index : Nat}
    {row : Statement}
    (found : model.outline.statements[index]? = some row) :
    ∃ node ∈ families forest,
      row.first = node.first.index ∧
        row.last = node.last.index ∧
        row.block.isSome = node.isBlock ∧
        model.headerLast row = node.headerLast.index := by
  obtain ⟨node, foundNode, firstIs, lastIs⟩ := readFrom.family found
  have member : node ∈ families forest := List.mem_of_getElem? foundNode
  have shape : row.block.isSome = node.isBlock := by
    have foundRow := found
    rw [readFrom.outline, ← Array.getElem?_toList] at foundRow
    obtain ⟨other, foundOther, shown⟩ :=
      exists_getElem?_of_forall₂ (Outline.shapes_ofForest _ forest) foundRow
    rw [foundNode, Option.some.injEq] at foundOther
    rw [shown.block, foundOther]
  refine ⟨node, member, firstIs, lastIs, shape, ?_⟩
  cases isBlock : row.block with
  | none =>
      cases node with
      | simple first last =>
          simp [headerLast, blockOf?, isBlock, lastIs, Node.headerLast,
            Node.last]
      | block head body last =>
          rw [isBlock] at shape
          cases shape
  | some around =>
      obtain ⟨block, foundBlock, ownRow⟩ :=
        readFrom.consistent.blockOf index around row found isBlock
      obtain ⟨_, own, foundOwn, _, _, _, startsThere, _⟩ :=
        readFrom.consistent.own around block foundBlock
      rw [ownRow, found, Option.some.injEq] at foundOwn
      subst foundOwn
      have shownBlock := foundBlock
      rw [readFrom.outline] at shownBlock
      obtain ⟨head, body, last, isMember, shown, _⟩ :=
        Outline.blocks_ofForest shownBlock
      have isSame : node = .block head body last := by
        refine readFrom.eq_of_first member isMember ?_
        rw [← firstIs, startsThere, shown.first]
        rfl
      subst isSame
      simp [headerLast, blockOf?, isBlock, blocks, foundBlock,
        Node.headerLast, shown.headerEnd]

end ReadFrom

end SourceModel

end HouseStyle
