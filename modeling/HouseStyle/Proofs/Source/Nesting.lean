import HouseStyle.Proofs.Source.BlockParts
import HouseStyle.Proofs.Source.Reading

namespace HouseStyle

/-!
# Models are well nested

The statements and blocks of a model form a tree over the tokens of the file.
Statements are listed in the order of their starts, every block is a statement,
and the statements inside a block lie apart from each other between the token
that opens its body and its last token.
-/

namespace Outline

/-- The statements and blocks form a tree over so many tokens. -/
structure WellNested
    (outline : Outline)
    (tokenCount : Nat) :
    Prop where
  starts :
    ∀ (index other : Nat) (earlier later : Statement),
      outline.statements[index]? = some earlier →
      outline.statements[other]? = some later →
      index < other →
      earlier.first < later.first
  range :
    ∀ (index : Nat) (row : Statement),
      outline.statements[index]? = some row →
      row.first ≤ row.last ∧ row.last < tokenCount
  own :
    ∀ (index : Nat) (block : Block),
      outline.blocks[index]? = some block →
      ∃ row,
        outline.statements[block.statement]? = some row ∧
          row.block = some index ∧
          row.parent = block.parent ∧
          row.first = block.first ∧
          row.last = block.last
  header :
    ∀ (index : Nat) (block : Block),
      outline.blocks[index]? = some block →
      block.first ≤ block.headerEnd ∧
        block.headerEnd ≤ block.last ∧
        block.first < block.last
  /-- A body lists exactly the statements of its parent. -/
  body :
    ∀ (parent : Option Nat) (index : Nat),
      index ∈ outline.body parent ↔
        ∃ row,
          outline.statements[index]? = some row ∧ row.parent = parent
  increasing :
    ∀ parent, (outline.body parent).toList.Pairwise (· < ·)
  /-- The statements of a body do not overlap. -/
  apart :
    ∀ (parent : Option Nat) (place other left right : Nat)
      (earlier later : Statement),
      (outline.body parent)[place]? = some left →
      (outline.body parent)[other]? = some right →
      place < other →
      outline.statements[left]? = some earlier →
      outline.statements[right]? = some later →
      earlier.last < later.first
  inside :
    ∀ (index around : Nat) (row : Statement),
      outline.statements[index]? = some row →
      row.parent = some around →
      ∃ block,
        outline.blocks[around]? = some block ∧
          block.headerEnd ≤ row.first ∧
          row.last ≤ block.last
  bare :
    ∀ (index : Nat) (block : Block),
      outline.blocks[index]? = some block →
      block.delimited = false →
      ∃ only row,
        block.body = #[only] ∧
          outline.statements[only]? = some row ∧
          row.first = block.headerEnd

theorem body_of_some
    {outline : Outline}
    {index : Nat}
    {block : Block}
    (found : outline.blocks[index]? = some block) :
    outline.body (some index) = block.body := by
  simp [body, found]

/-- Whatever has a body with a statement in it is a block of the outline. -/
theorem exists_block_of_mem_body
    {outline : Outline}
    {index around : Nat}
    (member : index ∈ outline.body (some around)) :
    ∃ block, outline.blocks[around]? = some block := by
  cases found : outline.blocks[around]? with
  | none =>
      simp [body, found] at member
  | some block =>
      exact ⟨block, rfl⟩

/-- A statement that a body lists is shown by its row. -/
theorem ShowsBody.node_at
    {outline : Outline}
    {parent : Option Nat}
    {nodes : List Node}
    (shown : outline.ShowsBody parent nodes)
    {place index : Nat}
    {row : Statement}
    (listed : (outline.body parent)[place]? = some index)
    (found : outline.statements[index]? = some row) :
    ∃ node, nodes[place]? = some node ∧ ShowsRange row node := by
  rw [← Array.getElem?_toList] at listed
  obtain ⟨node, foundNode, other, foundOther, _, range⟩ :=
    exists_getElem?_of_forall₂ shown listed
  rw [found, Option.some.injEq] at foundOther
  subst foundOther
  exact ⟨node, foundNode, range⟩

/-- Rows of one body lie apart when the statements that they show do. -/
theorem ShowsBody.apart
    {outline : Outline}
    {parent : Option Nat}
    {nodes : List Node}
    (shown : outline.ShowsBody parent nodes)
    (nodesApart :
      nodes.Pairwise fun earlier later =>
        earlier.last.index < later.first.index)
    {place other left right : Nat}
    {earlier later : Statement}
    (listedLeft : (outline.body parent)[place]? = some left)
    (listedRight : (outline.body parent)[other]? = some right)
    (isEarlier : place < other)
    (foundLeft : outline.statements[left]? = some earlier)
    (foundRight : outline.statements[right]? = some later) :
    earlier.last < later.first := by
  obtain ⟨first, foundFirst, _, lastRange⟩ :=
    shown.node_at listedLeft foundLeft
  obtain ⟨second, foundSecond, firstRange, _⟩ :=
    shown.node_at listedRight foundRight
  obtain ⟨inNodes, rfl⟩ := List.getElem?_eq_some_iff.mp foundFirst
  obtain ⟨alsoInNodes, rfl⟩ := List.getElem?_eq_some_iff.mp foundSecond
  rw [lastRange, firstRange]
  exact
    List.pairwise_iff_getElem.mp nodesApart
      place other inNodes alsoInNodes isEarlier

end Outline

namespace SourceModel

namespace ReadFrom

variable
  {model : SourceModel}
  {forest : List Node}
  {spelled : List Placed}
  (readFrom : model.ReadFrom forest spelled)

include readFrom

theorem consistent :
    model.outline.Consistent := by
  rw [readFrom.outline]
  exact Outline.consistent_ofForest model.language.profile forest

/-- Every row of the block table is a block with its parts in order. -/
theorem blockParts
    {index : Nat}
    {block : Block}
    (found : model.outline.blocks[index]? = some block) :
    ∃ head body last header front inside ending,
      BlockParts
          model.language.profile.blockStyle
          head body last header front inside ending ∧
        (header ++ (front ++ (inside ++ ending))) <:+: spelled ∧
        InOrder (header ++ (front ++ (inside ++ ending))) ∧
        Outline.ShowsHead block head last ∧
        model.outline.ShowsBody (some index) body := by
  obtain ⟨head, body, last, these, spells, part, shown⟩ :=
    readFrom.block found
  obtain ⟨header, front, inside, ending, rfl, parts⟩ := spells.blockParts
  exact
    ⟨head, body, last, header, front, inside, ending, parts, part,
      readFrom.ordered.of_sublist part.sublist, shown⟩

/-- Statements start in the order of the table. -/
theorem starts_increase
    {index other : Nat}
    {earlier later : Statement}
    (foundEarlier : model.outline.statements[index]? = some earlier)
    (foundLater : model.outline.statements[other]? = some later)
    (isEarlier : index < other) :
    earlier.first < later.first := by
  obtain ⟨node, foundNode, firstIs, _⟩ := readFrom.family foundEarlier
  obtain ⟨laterNode, foundLaterNode, laterFirstIs, _⟩ :=
    readFrom.family foundLater
  have firsts : InOrder ((families forest).map Node.first) :=
    readFrom.ordered.of_sublist readFrom.spells.firsts_sublist
  obtain ⟨inFamilies, rfl⟩ := List.getElem?_eq_some_iff.mp foundNode
  obtain ⟨alsoInFamilies, rfl⟩ := List.getElem?_eq_some_iff.mp foundLaterNode
  rw [firstIs, laterFirstIs]
  exact
    List.pairwise_iff_getElem.mp (List.pairwise_map.mp firsts)
      index other inFamilies alsoInFamilies isEarlier

/-- Every statement ends behind its start, and before the file does. -/
theorem statement_range
    {index : Nat}
    {row : Statement}
    (found : model.outline.statements[index]? = some row) :
    row.first ≤ row.last ∧ row.last < model.tokens.size := by
  obtain ⟨node, these, spells, part, firstIs, lastIs⟩ :=
    readFrom.statement found
  have ordered : InOrder these := readFrom.ordered.of_sublist part.sublist
  rw [firstIs, lastIs]
  exact
    ⟨spells.first_le_last ordered,
      readFrom.index_lt (part.subset spells.last_mem)⟩

/-- The header of a block ends inside it, and the block behind its start. -/
theorem block_header
    {index : Nat}
    {block : Block}
    (found : model.outline.blocks[index]? = some block) :
    block.first ≤ block.headerEnd ∧
      block.headerEnd ≤ block.last ∧
      block.first < block.last := by
  obtain
    ⟨head, body, last, header, front, inside, ending, parts, _, ordered,
      shown, _⟩ := readFrom.blockParts found
  rw [shown.first, shown.headerEnd, shown.last]
  exact
    ⟨parts.first_le_opener ordered,
      parts.opener_le ordered parts.last_mem,
      parts.first_lt_last ordered⟩

/-- Every body shows statements that lie apart. -/
theorem body_apart
    {parent : Option Nat}
    {place other left right : Nat}
    {earlier later : Statement}
    (listedLeft : (model.outline.body parent)[place]? = some left)
    (listedRight : (model.outline.body parent)[other]? = some right)
    (isEarlier : place < other)
    (foundLeft : model.outline.statements[left]? = some earlier)
    (foundRight : model.outline.statements[right]? = some later) :
    earlier.last < later.first := by
  cases parent with
  | none =>
      exact
        readFrom.topLevel.apart
          (readFrom.spells.apart readFrom.ordered)
          listedLeft listedRight isEarlier foundLeft foundRight
  | some around =>
      obtain ⟨block, found⟩ :=
        Outline.exists_block_of_mem_body
          (Array.mem_of_getElem? listedLeft)
      obtain
        ⟨head, body, last, header, front, inside, ending, parts, _,
          ordered, _, shown⟩ := readFrom.blockParts found
      exact
        shown.apart
          (parts.spelled.apart ordered.right.right.left)
          listedLeft listedRight isEarlier foundLeft foundRight

/-- Every statement inside a block lies between its opening and its end. -/
theorem statement_inside
    {index around : Nat}
    {row : Statement}
    (found : model.outline.statements[index]? = some row)
    (isInside : row.parent = some around) :
    ∃ block,
      model.outline.blocks[around]? = some block ∧
        block.headerEnd ≤ row.first ∧
        row.last ≤ block.last := by
  have listed : index ∈ model.outline.body (some around) :=
    (readFrom.consistent.body _ index).mpr ⟨row, found, isInside⟩
  obtain ⟨block, foundBlock⟩ := Outline.exists_block_of_mem_body listed
  obtain
    ⟨head, body, last, header, front, inside, ending, parts, _, ordered,
      shown, shownBody⟩ := readFrom.blockParts foundBlock
  obtain ⟨place, listedAt⟩ := Array.mem_iff_getElem?.mp listed
  obtain ⟨node, foundNode, firstIs, lastIs⟩ :=
    shownBody.node_at listedAt found
  refine ⟨block, foundBlock, ?_⟩
  rw [shown.headerEnd, shown.last, firstIs, lastIs]
  exact parts.node_between ordered (List.mem_of_getElem? foundNode)

/-- A body without delimiters is one statement, where the header ends. -/
theorem block_bare
    {index : Nat}
    {block : Block}
    (found : model.outline.blocks[index]? = some block)
    (isBare : block.delimited = false) :
    ∃ only row,
      block.body = #[only] ∧
        model.outline.statements[only]? = some row ∧
        row.first = block.headerEnd := by
  obtain
    ⟨head, body, last, header, front, inside, ending, parts, _, ordered,
      shown, shownBody⟩ := readFrom.blockParts found
  obtain ⟨_, node, rfl, opens⟩ :=
    parts.bare (shown.delimited.symm.trans isBare)
  rw [Outline.ShowsBody, Outline.body_of_some found,
    List.forall₂_cons_right_iff] at shownBody
  obtain ⟨only, rest, ⟨row, foundRow, _, firstIs, _⟩, none, bodyIs⟩ :=
    shownBody
  rw [List.forall₂_nil_right_iff.mp none] at bodyIs
  refine ⟨only, row, Array.toList_inj.mp bodyIs, foundRow, ?_⟩
  rw [firstIs, opens, shown.headerEnd]

/-- A model that shows a forest is well nested. -/
theorem wellNested :
    model.outline.WellNested model.tokens.size where
  starts _ _ _ _ := readFrom.starts_increase
  range _ _ := readFrom.statement_range
  own index block found := by
    obtain ⟨_, row, foundRow, _, facts⟩ :=
      readFrom.consistent.own index block found
    exact ⟨row, foundRow, facts⟩
  header _ _ := readFrom.block_header
  body := readFrom.consistent.body
  increasing := readFrom.consistent.increasing
  apart _ _ _ _ _ _ _ := readFrom.body_apart
  inside _ _ _ := readFrom.statement_inside
  bare _ _ := readFrom.block_bare

end ReadFrom

/-- Asking for the neighbours of a statement gives those of its body. -/
structure FindsSiblings
    (model : SourceModel)
    (index : Nat)
    (row : Statement) :
    Prop where
  listed : (model.outline.body row.parent)[row.position]? = some index
  noneBefore : row.position = 0 → model.before? row = none
  before :
    ∀ place,
      place + 1 = row.position →
      ∃ sibling,
        model.before? row = some sibling ∧
          model.statements[sibling.index]? = some sibling ∧
          (model.outline.body row.parent)[place]? = some sibling.index
  noneAfter :
    (model.outline.body row.parent).size = row.position + 1 →
    model.after? row = none
  after :
    row.position + 1 < (model.outline.body row.parent).size →
    ∃ sibling,
      model.after? row = some sibling ∧
        model.statements[sibling.index]? = some sibling ∧
        (model.outline.body row.parent)[row.position + 1]? =
          some sibling.index

/-- What a body of a consistent outline lists is a row of the table. -/
theorem exists_row_of_listed
    {outline : Outline}
    (consistent : outline.Consistent)
    {parent : Option Nat}
    {place index : Nat}
    (listed : (outline.body parent)[place]? = some index) :
    ∃ row, outline.statements[index]? = some row ∧ row.index = index := by
  obtain ⟨row, found, _⟩ :=
    (consistent.body parent index).mp (Array.mem_of_getElem? listed)
  exact ⟨row, found, consistent.index index row found⟩

/-- In a consistent outline every statement finds its neighbours. -/
theorem findsSiblings_of_consistent
    {model : SourceModel}
    (consistent : model.outline.Consistent)
    {index : Nat}
    {row : Statement}
    (found : model.statements[index]? = some row) :
    model.FindsSiblings index row := by
  have listed := consistent.position index row found
  refine ⟨listed, ?_, ?_, ?_, ?_⟩
  · intro isFirst
    rw [before?, isFirst]
    rfl
  · intro place isNext
    have inBody : place < (model.outline.body row.parent).size := by
      have := (Array.getElem?_eq_some_iff.mp listed).1
      omega
    have listedBefore := Array.getElem?_eq_getElem inBody
    obtain ⟨sibling, foundSibling, numbered⟩ :=
      exists_row_of_listed consistent listedBefore
    refine ⟨sibling, ?_, ?_, ?_⟩
    · simp [before?, ← isNext, listedBefore, statements, foundSibling]
    · rw [numbered]
      exact foundSibling
    · rw [numbered, listedBefore]
  · intro isLast
    simp [after?, isLast]
  · intro inBody
    have listedAfter := Array.getElem?_eq_getElem inBody
    obtain ⟨sibling, foundSibling, numbered⟩ :=
      exists_row_of_listed consistent listedAfter
    refine ⟨sibling, ?_, ?_, ?_⟩
    · simp [after?, listedAfter, statements, foundSibling]
    · rw [numbered]
      exact foundSibling
    · rw [numbered, listedAfter]

/--
Every model that is built is well nested, and each of its statements finds its
neighbours.
-/
theorem build_wellNested
    {source : SourceFile}
    {model : SourceModel}
    (built : build source = .ok model) :
    model.outline.WellNested model.tokens.size ∧
      ∀ (index : Nat) (row : Statement),
        model.statements[index]? = some row →
        model.FindsSiblings index row := by
  obtain ⟨forest, spelled, readFrom⟩ := readFrom_of_build built
  exact
    ⟨readFrom.wellNested,
      fun _ _ => findsSiblings_of_consistent readFrom.consistent⟩

/-- A loop that is the body of a condition is well nested. -/
theorem loopSample_wellNested :
    ∃ model,
      build loopSample = .ok model ∧
        model.blocks.size = 2 ∧
        model.outline.WellNested model.tokens.size ∧
        ∀ (index : Nat) (row : Statement),
          model.statements[index]? = some row →
          model.FindsSiblings index row := by
  obtain ⟨model, built, blockCount⟩ := loopSample_built
  exact ⟨model, built, blockCount, build_wellNested built⟩

end SourceModel

end HouseStyle
