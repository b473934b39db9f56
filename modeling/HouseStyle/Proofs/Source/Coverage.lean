import HouseStyle.Proofs.Source.Nesting

namespace HouseStyle

/-!
# Statements cover the code

No code token is lost and none is counted twice. At file scope every code token
is a semicolon or lies in the range of exactly one statement. The same holds of
the body of every block, but for the tokens that end the block: its closing
brace, and the `while` clause of a `do` block.
-/

/-- The token at `place` lies in the range of the statement. -/
def Statement.Covers
    (row : Statement)
    (place : Nat) :
    Prop :=
  row.first ≤ place ∧ place ≤ row.last

/--
The token at `place` lies in the body of the block: behind the token that opens
it, or from the first token on where nothing delimits the body.
-/
def Block.HoldsInBody
    (block : Block)
    (place : Nat) :
    Prop :=
  (if block.delimited then
    block.headerEnd < place
  else
    block.headerEnd ≤ place) ∧
    place ≤ block.last

namespace Block.HoldsInBody

variable {block : Block} {place : Nat}

/-- No token of a body stands before the one that ends the header. -/
theorem headerEnd_le
    (holds : block.HoldsInBody place) :
    block.headerEnd ≤ place := by
  obtain ⟨isBehind, _⟩ := holds
  split at isBehind
  · exact Nat.le_of_lt isBehind
  · exact isBehind

theorem headerEnd_lt
    (holds : block.HoldsInBody place)
    (isDelimited : block.delimited = true) :
    block.headerEnd < place := by
  obtain ⟨isBehind, _⟩ := holds
  rwa [if_pos isDelimited] at isBehind

end Block.HoldsInBody

/-- Exactly one statement of the body covers the token at `place`. -/
def Outline.CoversOnce
    (outline : Outline)
    (parent : Option Nat)
    (place : Nat) :
    Prop :=
  ∃! index,
    index ∈ outline.body parent ∧
      ∃ row, outline.statements[index]? = some row ∧ row.Covers place

/-- A token in the range of a statement that a body shows is covered once. -/
theorem Outline.ShowsBody.coversOnce
    {outline : Outline}
    {parent : Option Nat}
    {nodes : List Node}
    (shown : outline.ShowsBody parent nodes)
    (nodesApart :
      nodes.Pairwise fun earlier later =>
        earlier.last.index < later.first.index)
    {node : Node}
    (member : node ∈ nodes)
    {place : Nat}
    (notBefore : node.first.index ≤ place)
    (notAfter : place ≤ node.last.index) :
    outline.CoversOnce parent place := by
  obtain ⟨slot, foundNode⟩ := List.mem_iff_getElem?.mp member
  obtain ⟨index, listed, row, found, _, firstIs, lastIs⟩ :=
    exists_getElem?_of_forall₂ shown.flip foundNode
  rw [Array.getElem?_toList] at listed
  have covers : row.Covers place := by
    rw [Statement.Covers, firstIs, lastIs]
    exact ⟨notBefore, notAfter⟩
  refine ⟨index, ⟨Array.mem_of_getElem? listed, row, found, covers⟩, ?_⟩
  rintro other ⟨otherMember, otherRow, otherFound, otherCovers⟩
  obtain ⟨otherSlot, otherListed⟩ := Array.mem_iff_getElem?.mp otherMember
  rcases Nat.lt_trichotomy slot otherSlot with isEarlier | same | isLater
  · have isApart :=
      shown.apart nodesApart listed otherListed isEarlier found otherFound
    obtain ⟨_, behind⟩ := covers
    obtain ⟨ahead, _⟩ := otherCovers
    omega
  · subst same
    rw [listed, Option.some.injEq] at otherListed
    exact otherListed.symm
  · have isApart :=
      shown.apart nodesApart otherListed listed isLater otherFound found
    obtain ⟨ahead, _⟩ := covers
    obtain ⟨_, behind⟩ := otherCovers
    omega

/-- A code token of a body is a semicolon between statements or in one of them. -/
theorem Outline.ShowsBody.separates_or_coversOnce
    {outline : Outline}
    {parent : Option Nat}
    {style : BlockStyle}
    {nodes : List Node}
    {spelled : List Placed}
    (shown : outline.ShowsBody parent nodes)
    (spells : SpellsAll style nodes spelled)
    (ordered : InOrder spelled)
    {place : Nat}
    {token : Token}
    (member : ⟨place, token⟩ ∈ spelled)
    (isCode : token.isCode = true) :
    token.text = ";" ∨ outline.CoversOnce parent place := by
  rcases spells.separates_or_between ordered member with
    (isRemark | isSemicolon) | ⟨node, isNode, notBefore, notAfter⟩
  · simp [isCode] at isRemark
  · exact .inl isSemicolon
  · exact
      .inr
        (shown.coversOnce (spells.apart ordered) isNode notBefore notAfter)

namespace SourceModel

/-- Every token in the body of a block is accounted for once. -/
structure CoversBody
    (model : SourceModel)
    (index : Nat)
    (block : Block)
    (ending : List Placed) :
    Prop where
  isEnd :
    IsBlockEnd
      model.language.profile.blockStyle
      block.keyword
      block.delimited
      ending
  /-- What ends the block is a run of code tokens up to its last one. -/
  isRun : ending <:+: placeCode model.tokens
  ends : ∀ token ∈ ending.getLast?, token.index = block.last
  behind :
    ∀ (inside : Nat) (row : Statement),
      inside ∈ model.outline.body (some index) →
      model.outline.statements[inside]? = some row →
      ∀ token ∈ ending, row.last < token.index
  covers :
    ∀ (place : Nat) (token : Token),
      model.tokens[place]? = some token →
      token.isCode = true →
      block.HoldsInBody place →
      token.text = ";" ∨
        ⟨place, token⟩ ∈ ending ∨
        model.outline.CoversOnce (some index) place

namespace ReadFrom

variable
  {model : SourceModel}
  {forest : List Node}
  {spelled : List Placed}
  (readFrom : model.ReadFrom forest spelled)

include readFrom

/-- At file scope every code token is accounted for once. -/
theorem topLevel_covers
    {place : Nat}
    {token : Token}
    (found : model.tokens[place]? = some token)
    (isCode : token.isCode = true) :
    token.text = ";" ∨ model.outline.CoversOnce none place :=
  readFrom.topLevel.separates_or_coversOnce readFrom.spells readFrom.ordered
    (readFrom.mem_of_isCode found isCode) isCode

/-- In a block every token of the body is accounted for once. -/
theorem block_covers
    {index : Nat}
    {block : Block}
    (found : model.outline.blocks[index]? = some block) :
    ∃ ending, model.CoversBody index block ending := by
  obtain
    ⟨head, body, last, header, front, inside, ending, parts, part,
      ordered, shown, shownBody⟩ := readFrom.blockParts found
  have isRegion : front ++ (inside ++ ending) <:+: spelled :=
    (List.suffix_append header _).isInfix.trans part
  refine
    ⟨ending,
      { isEnd := ?_, isRun := ?_, ends := ?_, behind := ?_, covers := ?_ }⟩
  · rw [shown.keyword, shown.delimited]
    exact parts.isEnd
  · cases style : model.language.profile.blockStyle with
    | braces =>
        -- Here `spelled` has no remarks, so a part of it is a run of code.
        rw [← readFrom.codeOnly style]
        exact
          ((List.suffix_append inside ending).trans
            (List.suffix_append front _)).isInfix.trans isRegion
    | indent =>
        rw [style] at parts
        rw [parts.isEnd.eq_nil_of_indent]
        exact List.nil_infix
  · intro token isLast
    have lastIs := parts.ends
    rw [List.getLast?_append, Option.mem_def.mp isLast] at lastIs
    rw [shown.last, Option.some.inj lastIs]
  · intro statement row member foundRow token inEnding
    obtain ⟨slot, listed⟩ := Array.mem_iff_getElem?.mp member
    obtain ⟨node, foundNode, _, lastIs⟩ :=
      shownBody.node_at listed foundRow
    obtain ⟨these, spells, isPart⟩ :=
      parts.spelled.part_of_mem (List.mem_of_getElem? foundNode)
    rw [lastIs]
    exact
      ordered.right.right.left_lt_right
        (isPart.subset spells.last_mem)
        inEnding
  · intro place token foundToken isCode holds
    have member := readFrom.mem_of_isCode foundToken isCode
    have inRegion : ⟨place, token⟩ ∈ front ++ (inside ++ ending) :=
      readFrom.ordered.mem_of_between
        isRegion parts.head?_region parts.getLast?_region member
        (shown.headerEnd ▸ holds.headerEnd_le)
        (shown.last ▸ holds.2)
    have isBehind (isDelimited : head.delimited = true) :
        head.opener.index < place :=
      shown.headerEnd ▸
        holds.headerEnd_lt (shown.delimited.trans isDelimited)
    rcases List.mem_append.mp (parts.mem_of_behind inRegion isBehind) with
      inBody | inEnding
    · exact
        (shownBody.separates_or_coversOnce parts.spelled
          ordered.right.right.left inBody isCode).imp_right .inr
    · exact .inr (.inl inEnding)

end ReadFrom

/--
In every model that is built each code token is accounted for once, at file
scope as well as in the body of each block.
-/
theorem build_coversCode
    {source : SourceFile}
    {model : SourceModel}
    (built : build source = .ok model) :
    (∀ (place : Nat) (token : Token),
      model.tokens[place]? = some token →
      token.isCode = true →
      token.text = ";" ∨ model.outline.CoversOnce none place) ∧
    ∀ (index : Nat) (block : Block),
      model.blocks[index]? = some block →
      ∃ ending, model.CoversBody index block ending := by
  obtain ⟨forest, spelled, readFrom⟩ := readFrom_of_build built
  exact
    ⟨fun _ _ => readFrom.topLevel_covers,
      fun _ _ => readFrom.block_covers⟩

/-- The code of a loop that is the body of a condition is covered. -/
theorem loopSample_coversCode :
    ∃ model,
      build loopSample = .ok model ∧
        model.blocks.size = 2 ∧
        (∀ (place : Nat) (token : Token),
          model.tokens[place]? = some token →
          token.isCode = true →
          token.text = ";" ∨ model.outline.CoversOnce none place) ∧
        ∀ (index : Nat) (block : Block),
          model.blocks[index]? = some block →
          ∃ ending, model.CoversBody index block ending := by
  obtain ⟨model, built, blockCount⟩ := loopSample_built
  exact ⟨model, built, blockCount, build_coversCode built⟩

end SourceModel

end HouseStyle
