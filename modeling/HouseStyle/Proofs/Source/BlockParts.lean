import HouseStyle.Proofs.Source.Spelling

namespace HouseStyle

/-!
# The parts of a block

The tokens of a block are its header, the token that opens a delimited body, the
tokens of the body, and what ends the block. From the order of the tokens it
follows where the parts lie: the body starts at the opening token or behind it,
no statement of the body ends behind the block, and the block ends behind its
first token.
-/

/-- The tokens of a block, cut into its parts. -/
structure BlockParts
    (style : BlockStyle)
    (head : BlockHead)
    (body : List Node)
    (last : Placed)
    (header front inside ending : List Placed) :
    Prop where
  starts : (header ++ [head.opener]).head? = some head.first
  opening : front = if head.delimited then [head.opener] else []
  opens : (front ++ inside).head? = some head.opener
  spelled : SpellsAll style body inside
  isEnd : IsBlockEnd style head.keyword head.delimited ending
  ends : (inside ++ ending).getLast? = some last
  /-- A body without delimiters is one statement, and has a header before it. -/
  bare :
    head.delimited = false →
    header ≠ [] ∧ ∃ node, body = [node] ∧ node.first = head.opener

/-- Nothing ends a block of an indented file. -/
theorem IsBlockEnd.eq_nil_of_indent
    {keyword : String}
    {delimited : Bool}
    {tokens : List Placed}
    (isEnd : IsBlockEnd .indent keyword delimited tokens) :
    tokens = [] := by
  obtain ⟨closing, tail, rfl, isClosing, isTail⟩ := isEnd
  have noClosing : closing = [] := by
    simpa [IsClosing] using isClosing
  have noTail : tail = [] := by
    simpa using isTail
  rw [noClosing, noTail, List.append_nil]

/-- The tokens of every block have these parts. -/
theorem Spells.blockParts
    {style : BlockStyle}
    {head : BlockHead}
    {body : List Node}
    {last : Placed}
    {tokens : List Placed}
    (spelled : Spells style (.block head body last) tokens) :
    ∃ header front inside ending,
      tokens = header ++ (front ++ (inside ++ ending)) ∧
        BlockParts style head body last header front inside ending := by
  cases spelled with
  | @delimited _ _ _ header inside ending
      isDelimited starts spelled isEnd ends =>
      refine ⟨header, [head.opener], inside, ending, by simp, ?_⟩
      exact
        { starts := starts
          opening := by simp [isDelimited]
          opens := rfl
          spelled := spelled
          isEnd := isEnd
          ends := ends
          bare := by simp [isDelimited] }
  | @bare _ node _ header inside ending
      isBare starts opens spelled isEnd ends =>
      have hasHeader : header ≠ [] := by
        rintro rfl
        simp at starts
      refine ⟨header, [], inside, ending, by simp, ?_⟩
      exact
        { starts := by simp [List.head?_append, starts]
          opening := by simp [isBare]
          opens := by simpa [opens] using spelled.starts
          spelled := .single spelled
          isEnd := isEnd
          ends := ends
          bare := fun _ => ⟨hasHeader, node, rfl, opens⟩ }

namespace BlockParts

variable
  {style : BlockStyle}
  {head : BlockHead}
  {body : List Node}
  {last : Placed}
  {header front inside ending : List Placed}
  (parts :
    BlockParts style head body last header front inside ending)
  (ordered : InOrder (header ++ (front ++ (inside ++ ending))))

include parts

/-- The opening token is the first one behind the header. -/
theorem head?_region :
    (front ++ (inside ++ ending)).head? = some head.opener := by
  rw [← List.append_assoc, List.head?_append]
  simp [parts.opens]

/-- The last token of a block is the last one behind its header. -/
theorem getLast?_region :
    (front ++ (inside ++ ending)).getLast? = some last := by
  rw [List.getLast?_append]
  simp [parts.ends]

theorem last_mem :
    last ∈ inside ++ ending :=
  List.mem_of_getLast? parts.ends

include ordered

/-- The body opens at the first token of the block or behind it. -/
theorem first_le_opener :
    head.first.index ≤ head.opener.index := by
  refine ordered.head_le ?_ ?_
  · cases header with
    | nil =>
        have same : head.opener = head.first := by
          simpa using parts.starts
        rw [List.nil_append, parts.head?_region, same]
    | cons =>
        simpa using parts.starts
  · exact
      List.mem_append_right _ (List.mem_of_head? parts.head?_region)

theorem opener_le
    {token : Placed}
    (member : token ∈ inside ++ ending) :
    head.opener.index ≤ token.index :=
  ordered.right.head_le
    parts.head?_region
    (List.mem_append_right _ member)

theorem opener_lt
    (isDelimited : head.delimited = true)
    {token : Placed}
    (member : token ∈ inside ++ ending) :
    head.opener.index < token.index := by
  have regionOrdered := ordered.right
  rw [parts.opening, if_pos isDelimited] at regionOrdered
  exact regionOrdered.left_lt_right (by simp) member

/-- No token of the body stands behind the last one. -/
theorem le_last
    {token : Placed}
    (member : token ∈ inside ++ ending) :
    token.index ≤ last.index :=
  (ordered.right.of_sublist
      (List.sublist_append_right front _)).le_getLast
    parts.ends
    member

/-- A block ends behind its first token. -/
theorem first_lt_last :
    head.first.index < last.index := by
  have opensInTime := parts.first_le_opener ordered
  cases isDelimited : head.delimited with
  | true =>
      have behind := parts.opener_lt ordered isDelimited parts.last_mem
      omega
  | false =>
      obtain ⟨hasHeader, _⟩ := parts.bare isDelimited
      obtain ⟨token, rest, rfl⟩ := List.exists_cons_of_ne_nil hasHeader
      have isFirst : token = head.first := by
        simpa using parts.starts
      subst isFirst
      exact
        ordered.left_lt_right
          (by simp)
          (List.mem_append_right _ parts.last_mem)

/-- Every statement of the body lies in it. -/
theorem node_between
    {node : Node}
    (member : node ∈ body) :
    head.opener.index ≤ node.first.index ∧
      node.last.index ≤ last.index := by
  obtain ⟨these, spells, part⟩ := parts.spelled.part_of_mem member
  have isInside : these ⊆ inside ++ ending :=
    List.Subset.trans
      part.subset
      (List.subset_append_left inside ending)
  exact
    ⟨parts.opener_le ordered (isInside spells.first_mem),
      parts.le_last ordered (isInside spells.last_mem)⟩

omit ordered in
/-- Behind the opening token of a delimited body there is only the body. -/
theorem mem_of_behind
    {token : Placed}
    (member : token ∈ front ++ (inside ++ ending))
    (isBehind : head.delimited = true → head.opener.index < token.index) :
    token ∈ inside ++ ending := by
  rcases List.mem_append.mp member with inFront | inBody
  · rw [parts.opening] at inFront
    cases isDelimited : head.delimited with
    | true =>
        rw [if_pos isDelimited, List.mem_singleton] at inFront
        have behind := isBehind isDelimited
        rw [inFront] at behind
        exact (Nat.lt_irrefl _ behind).elim
    | false =>
        simp [isDelimited] at inFront
  · exact inBody

end BlockParts

end HouseStyle
