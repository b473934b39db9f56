import HouseStyle.Proofs.Source.Family

namespace HouseStyle

/-!
# Tokens of one statement only

All tokens of a statement that is no block are its own, and of a block the header
with what opens a delimited body. What is a statement's own is no other
statement's, however deep one of the two is inside of the other.
-/

/-- Whether a statement is a block whose body has no delimiters. -/
def Node.isBare : Node → Bool
  | .simple _ _ => false
  | .block head _ _ => !head.delimited

/--
The index lies in the statement, and for a block in its header. What opens a body
without delimiters belongs to the body.
-/
structure Node.Owns
    (node : Node)
    (index : Nat) :
    Prop where
  notBefore : node.first.index ≤ index
  notBehind : index ≤ node.headerLast.index
  isOutside : node.isBare = true → index < node.headerLast.index

section Nodes

variable {style : BlockStyle}

/-- The header of a statement ends with one of its tokens. -/
theorem Spells.headerLast_mem
    {node : Node}
    {tokens : List Placed}
    (spelled : Spells style node tokens) :
    node.headerLast ∈ tokens := by
  cases node with
  | simple first last =>
      exact spelled.last_mem
  | block head body last =>
      obtain ⟨header, front, inside, ending, rfl, parts⟩ := spelled.blockParts
      exact
        List.mem_append_right _ (List.mem_of_head? parts.head?_region)

/-- Every statement of a family starts at the tokens of the family. -/
theorem SpellsAll.first_mem_of_family
    {nodes : List Node}
    {tokens : List Placed}
    {node : Node}
    (spelled : SpellsAll style nodes tokens)
    (member : node ∈ families nodes) :
    node.first ∈ tokens := by
  obtain ⟨these, spells, part⟩ := spelled.part_of_mem_families member
  exact part.subset spells.first_mem

/-- What a block owns stands before all statements inside it. -/
theorem Spells.lt_first_of_owns
    {head : BlockHead}
    {body : List Node}
    {last : Placed}
    {tokens : List Placed}
    (spelled : Spells style (.block head body last) tokens)
    (ordered : InOrder tokens)
    {index : Nat}
    (owns : Node.Owns (.block head body last) index)
    {node : Node}
    (member : node ∈ families body) :
    index < node.first.index := by
  obtain ⟨header, front, inside, ending, rfl, parts⟩ := spelled.blockParts
  have inBody : node.first ∈ inside ++ ending :=
    List.mem_append_left _ (parts.spelled.first_mem_of_family member)
  have notBehind : index ≤ head.opener.index := owns.notBehind
  cases isDelimited : head.delimited with
  | true =>
      exact
        Nat.lt_of_le_of_lt notBehind
          (parts.opener_lt ordered isDelimited inBody)
  | false =>
      have isBare : Node.isBare (.block head body last) = true := by
        simp [Node.isBare, isDelimited]
      exact
        Nat.lt_of_lt_of_le (owns.isOutside isBare)
          (parts.opener_le ordered inBody)

/-- If no token inside a block has two owners, none of the block has. -/
theorem Spells.eq_of_owns_block
    {head : BlockHead}
    {body : List Node}
    {last : Placed}
    {tokens : List Placed}
    (spelled : Spells style (.block head body last) tokens)
    (ordered : InOrder tokens)
    {index : Nat}
    (inside :
      ∀ one ∈ families body, ∀ other ∈ families body,
        one.Owns index → other.Owns index → one = other)
    {one other : Node}
    (member : one ∈ Node.family (.block head body last))
    (otherMember : other ∈ Node.family (.block head body last))
    (owns : one.Owns index)
    (ownsToo : other.Owns index) :
    one = other := by
  rw [Node.family, List.mem_cons] at member otherMember
  rcases member with rfl | inBody <;>
    rcases otherMember with rfl | alsoInBody
  · rfl
  · have isBefore := spelled.lt_first_of_owns ordered owns alsoInBody
    exact (Nat.not_le.mpr isBefore ownsToo.notBefore).elim
  · have isBefore := spelled.lt_first_of_owns ordered ownsToo inBody
    exact (Nat.not_le.mpr isBefore owns.notBefore).elim
  · exact inside one inBody other alsoInBody owns ownsToo

/-- What is owned in one part stands before what is owned in the next. -/
theorem Spells.lt_of_owns
    {node : Node}
    {nodes : List Node}
    {these tokens : List Placed}
    (first : Spells style node these)
    (others : SpellsAll style nodes tokens)
    (ordered : InOrder (these ++ tokens))
    {one other : Node}
    (member : one ∈ node.family)
    (otherMember : other ∈ families nodes)
    {index : Nat}
    (owns : one.Owns index) :
    index < other.first.index := by
  obtain ⟨part, spells, isPart⟩ := first.part_of_mem_family member
  exact
    Nat.lt_of_le_of_lt owns.notBehind
      (ordered.left_lt_right
        (isPart.subset spells.headerLast_mem)
        (others.first_mem_of_family otherMember))

mutual

/-- In the family of a statement no token has two owners. -/
theorem Spells.eq_of_owns
    {node one other : Node}
    {tokens : List Placed}
    {index : Nat}
    (spelled : Spells style node tokens)
    (ordered : InOrder tokens)
    (member : one ∈ node.family)
    (otherMember : other ∈ node.family)
    (owns : one.Owns index)
    (ownsToo : other.Owns index) :
    one = other := by
  match spelled with
  | .simple _ _ =>
      rw [Node.family, List.mem_singleton] at member otherMember
      rw [member, otherMember]
  | @Spells.delimited _ _ body _ header within ending
        isDelimited starts inside isEnd ends =>
      refine
        (Spells.delimited isDelimited starts inside isEnd ends).eq_of_owns_block
          ordered ?_ member otherMember owns ownsToo
      have bodyOrdered : InOrder within := by
        refine ordered.of_sublist ?_
        exact
          ((List.sublist_append_left within ending).cons _).trans
            (List.sublist_append_right header _)
      intro inner inBody another alsoInBody
      exact inside.eq_of_owns bodyOrdered inBody alsoInBody
  | @Spells.bare _ _ only _ header within ending
        isBare starts opens inside isEnd ends =>
      refine
        (Spells.bare isBare starts opens inside isEnd ends).eq_of_owns_block
          ordered ?_ member otherMember owns ownsToo
      have bodyOrdered : InOrder within := ordered.right.left
      intro inner inBody another alsoInBody
      rw [families, families, List.append_nil] at inBody alsoInBody
      exact inside.eq_of_owns bodyOrdered inBody alsoInBody

/-- In the families of a body no token has two owners. -/
theorem SpellsAll.eq_of_owns
    {nodes : List Node}
    {one other : Node}
    {tokens : List Placed}
    {index : Nat}
    (spelled : SpellsAll style nodes tokens)
    (ordered : InOrder tokens)
    (member : one ∈ families nodes)
    (otherMember : other ∈ families nodes)
    (owns : one.Owns index)
    (ownsToo : other.Owns index) :
    one = other := by
  match spelled with
  | .nil =>
      simp [families] at member
  | .separator _ rest =>
      exact
        rest.eq_of_owns (List.pairwise_cons.mp ordered).2 member otherMember
          owns ownsToo
  | .node first others =>
      rw [families, List.mem_append] at member otherMember
      rcases member with inFirst | inOthers <;>
        rcases otherMember with alsoInFirst | alsoInOthers
      · exact
          first.eq_of_owns ordered.left inFirst alsoInFirst owns ownsToo
      · have isBefore :=
          first.lt_of_owns others ordered inFirst alsoInOthers owns
        exact (Nat.not_le.mpr isBefore ownsToo.notBefore).elim
      · have isBefore :=
          first.lt_of_owns others ordered alsoInFirst inOthers ownsToo
        exact (Nat.not_le.mpr isBefore owns.notBefore).elim
      · exact
          others.eq_of_owns ordered.right inOthers alsoInOthers owns ownsToo

end

end Nodes

namespace SourceModel

/--
The index lies in the row, and for a block in its header. What opens a body
without delimiters belongs to the body.
-/
structure Owns
    (model : SourceModel)
    (row : Statement)
    (index : Nat) :
    Prop where
  notBefore : row.first ≤ index
  notBehind : index ≤ model.headerLast row
  isOutside :
    ∀ block ∈ model.blockOf? row,
      block.delimited = false → index < block.headerEnd

namespace ReadFrom

variable
  {model : SourceModel}
  {forest : List Node}
  {spelled : List Placed}
  (readFrom : model.ReadFrom forest spelled)

include readFrom

/-- The row of a block shows the head that the block shows. -/
theorem exists_headOf
    {index : Nat}
    {row : Statement}
    {block : Block}
    (found : model.outline.statements[index]? = some row)
    (isBlock : model.blockOf? row = some block) :
    ∃ head body last,
      .block head body last ∈ families forest ∧
        row.first = head.first.index ∧
        row.last = last.index ∧
        Outline.ShowsHead block head last := by
  obtain ⟨around, isAround, foundBlock⟩ := Option.bind_eq_some_iff.mp isBlock
  obtain ⟨same, foundSame, ownRow⟩ :=
    readFrom.consistent.blockOf index around row found isAround
  have isSame : block = same :=
    Option.some.inj (foundBlock.symm.trans foundSame)
  subst isSame
  obtain ⟨_, own, foundOwn, _, _, _, startsThere, endsThere⟩ :=
    readFrom.consistent.own around block foundSame
  rw [ownRow, found, Option.some.injEq] at foundOwn
  subst foundOwn
  have shownBlock := foundSame
  rw [readFrom.outline] at shownBlock
  obtain ⟨head, body, last, member, shown, _⟩ :=
    Outline.blocks_ofForest shownBlock
  exact
    ⟨head, body, last, member, startsThere.trans shown.first,
      endsThere.trans shown.last, shown⟩

/-- What a row owns is its statement's own. -/
theorem exists_owner
    {index own : Nat}
    {row : Statement}
    (found : model.outline.statements[index]? = some row)
    (owns : model.Owns row own) :
    ∃ node ∈ families forest,
      row.first = node.first.index ∧ node.Owns own := by
  obtain ⟨node, member, firstIs, lastIs, shape, headerIs⟩ :=
    readFrom.exists_shown found
  refine ⟨node, member, firstIs, firstIs ▸ owns.notBefore,
    headerIs ▸ owns.notBehind, ?_⟩
  cases node with
  | simple first last =>
      simp [Node.isBare]
  | block head body last =>
      intro isBare
      obtain ⟨around, isAround⟩ := Option.isSome_iff_exists.mp shape
      obtain ⟨block, foundBlock, _⟩ :=
        readFrom.consistent.blockOf index around row found isAround
      have isBlock : model.blockOf? row = some block := by
        simp [blockOf?, isAround, blocks, foundBlock]
      obtain ⟨other, _, _, isMember, startsThere, _, shown⟩ :=
        readFrom.exists_headOf found isBlock
      have isSame := readFrom.eq_of_first member isMember
        (firstIs.symm.trans startsThere)
      cases isSame
      have noDelimiter : block.delimited = false := by
        rw [shown.delimited]
        simpa [Node.isBare] using isBare
      have isBefore := owns.isOutside block isBlock noDelimiter
      rwa [shown.headerEnd] at isBefore

/-- No token has two rows as its owners. -/
theorem index_eq_of_owns
    {index other own : Nat}
    {row another : Statement}
    (found : model.outline.statements[index]? = some row)
    (foundToo : model.outline.statements[other]? = some another)
    (owns : model.Owns row own)
    (ownsToo : model.Owns another own) :
    index = other := by
  obtain ⟨node, member, firstIs, nodeOwns⟩ :=
    readFrom.exists_owner found owns
  obtain ⟨otherNode, otherMember, otherFirstIs, otherOwns⟩ :=
    readFrom.exists_owner foundToo ownsToo
  have isSame : node = otherNode :=
    readFrom.spells.eq_of_owns readFrom.ordered member otherMember
      nodeOwns otherOwns
  have sameFirst : row.first = another.first := by
    rw [firstIs, otherFirstIs, isSame]
  rcases Nat.lt_trichotomy index other with isEarlier | same | isLater
  · have increases := readFrom.starts_increase found foundToo isEarlier
    omega
  · exact same
  · have increases := readFrom.starts_increase foundToo found isLater
    omega

end ReadFrom

end SourceModel

end HouseStyle
