import HouseStyle.Proofs.Source.BodyOpener
import HouseStyle.Proofs.Source.BraceMatching
import HouseStyle.Proofs.Source.Lookup

namespace HouseStyle

/-!
# Where brackets may be left open

No reader counts the brackets of a statement that is no block: a bracket that the
statement leaves open, or closes without opening it, goes unnoticed. What the
readers do see to is the bodies. So a file that is read and yet is not well nested
has its fault inside one statement, one header or one loop's `while` clause.
-/

/-- A token between two statements moves no bracket. -/
theorem Placed.Separates.nest
    {token : Placed}
    {opened : List Placed}
    (separates : token.Separates) :
    token.nest opened = some opened := by
  rcases separates with isRemark | isSemicolon
  · have isComment : token.token.kind = .comment := by
      simpa [Token.isCode] using isRemark
    refine Placed.nest_of_other ?_ ?_
    · simp [Token.opensBracket, isComment]
    · simp [Token.closesBracket, isComment]
  · have reads : token.reads ";" = true := by
      simpa [Placed.reads, Placed.text] using isSemicolon
    exact Placed.nest_of_reads reads (by decide) (by decide)

/-- A brace closes a brace. -/
theorem Placed.nest_of_braces
    {opener closing : Placed}
    (opens : opener.token.isDelimiter "\x7b" = true)
    (closes : closing.token.isDelimiter "\x7d" = true) :
    closing.nest [opener] = some [] := by
  have opensNone := Token.opensBracket_of_isDelimiter closes
  have closesOne := Token.closesBracket_of_isDelimiter closes
  simp only [Token.isDelimiter, Bool.and_eq_true, beq_iff_eq] at opens closes
  have isPair : (opener.text, closing.text) ∈ bracketPairs := by
    simp [Placed.text, opens.2, closes.2, bracketPairs]
  simp only [nest, opensNone, closesOne]
  simp [isPair]

/-- Remarks move no bracket. -/
theorem openBehind_filter_isCode
    (opened tokens : List Placed) :
    openBehind opened (tokens.filter (·.token.isCode)) =
      openBehind opened tokens := by
  induction tokens generalizing opened with
  | nil =>
      rfl
  | cons token rest inductionHypothesis =>
      rw [List.filter_cons, openBehind_cons]
      split
      · rw [openBehind_cons]
        exact congrArg _ (funext inductionHypothesis)
      · next isRemark =>
          rw [Placed.Separates.nest (.inl (by simpa using isRemark)),
            Option.bind_some, inductionHypothesis]

/-- A delimited body is nested with what opens and closes it. -/
theorem nested_body
    {style : BlockStyle}
    {opener : Placed}
    {inside closing : List Placed}
    (plain :
      ∀ placed ∈ opener :: (inside ++ closing), placed.token.DelimitsBrackets)
    (opens : opener.reads style.bodyOpener = true)
    (nested : Nested inside)
    (isClosing : IsClosing style true closing) :
    Nested (opener :: (inside ++ closing)) := by
  cases style with
  | braces =>
      rw [IsClosing, if_pos ⟨rfl, rfl⟩] at isClosing
      obtain ⟨brace, rfl, isBrace⟩ := isClosing
      have opensGroup :=
        Placed.isDelimiter_of_reads (plain opener (by simp))
          (by decide : '\x7b' ∈ brackets) opens
      have closesGroup :=
        Placed.isDelimiter_of_reads (plain brace (by simp))
          (by decide : '\x7d' ∈ brackets) isBrace
      exact
        nested.group (Token.opensBracket_of_isDelimiter opensGroup)
          (Placed.nest_of_braces opensGroup closesGroup)
  | indent =>
      rw [IsClosing, if_neg (by simp)] at isClosing
      rw [isClosing, List.append_nil, Nested, openBehind_cons,
        Placed.nest_of_reads opens (by decide) (by decide), Option.bind_some]
      exact nested

/-- Tokens in order are told apart by their indices. -/
theorem InOrder.nodup
    {tokens : List Placed}
    (ordered : InOrder tokens) :
    tokens.Nodup := by
  refine List.Pairwise.imp ?_ ordered
  intro earlier later before same
  rw [same] at before
  exact Nat.lt_irrefl _ before

/-- Two rows of tokens in order are the same if their tokens are. -/
theorem InOrder.eq_of_mem_iff
    {tokens others : List Placed}
    (ordered : InOrder tokens)
    (othersOrdered : InOrder others)
    (same : ∀ placed, placed ∈ tokens ↔ placed ∈ others) :
    tokens = others := by
  have isPerm : tokens.Perm others :=
    (List.perm_ext_iff_of_nodup ordered.nodup othersOrdered.nodup).mpr same
  refine isPerm.eq_of_pairwise ?_ ordered othersOrdered
  intro left right _ _ before behind
  exact (Nat.lt_asymm before behind).elim

/-- The code tokens between two indices are in order. -/
theorem codeBetween_inOrder
    (tokens : Array Token)
    (first stop : Nat) :
    InOrder (codeBetween tokens first stop) := by
  let slice := (tokens.extract first stop).toList
  have increasing : (List.range' first slice.length).Pairwise (· < ·) :=
    List.pairwise_lt_range'
  have indices :
      (tokensBetween tokens first stop).map Placed.index =
        List.range' first slice.length := by
    simp [tokensBetween, Function.comp_def, slice]
  rw [← indices, List.pairwise_map] at increasing
  exact InOrder.of_sublist increasing List.filter_sublist

/-- The code tokens between two indices are the file's that stand there. -/
theorem mem_codeBetween
    {tokens : Array Token}
    {first stop : Nat}
    {placed : Placed} :
    placed ∈ codeBetween tokens first stop ↔
      placed ∈ placeCode tokens ∧
        first ≤ placed.index ∧ placed.index < stop := by
  rw [codeBetween, placeCode, List.mem_filter, List.mem_filter, and_right_comm]
  refine and_congr_left fun isCode => ⟨of_mem_tokensBetween, ?_⟩
  rintro ⟨isThere, notBefore, isBefore⟩
  exact mem_tokensBetween isThere notBefore isBefore

namespace SourceModel

/--
A piece of a file that no body is in: a statement that is no block, what stands
before the body of a block, or the `while` clause behind a `do` block's body.
-/
inductive IsPiece (model : SourceModel) : List Placed → Prop where
  | statement
      {row : Statement}
      (isRow : row ∈ model.statements)
      (isSimple : row.block = none) :
      IsPiece model (codeBetween model.tokens row.first (row.last + 1))
  | header
      {block : Block}
      (isBlock : block ∈ model.blocks) :
      IsPiece model (codeBetween model.tokens block.first block.headerEnd)
  | loopTail
      {block : Block}
      {tail : List Placed}
      (isBlock : block ∈ model.blocks)
      (isLoop : block.keyword = "do")
      (isEnd :
        tail <:+ codeBetween model.tokens block.first (block.last + 1))
      (isTail : IsLoopTail tail) :
      IsPiece model tail

namespace ReadFrom

section Pieces

variable
  {model : SourceModel}
  {forest : List Node}
  {spelled : List Placed}
  (readFrom : model.ReadFrom forest spelled)

include readFrom

/-- The code tokens of a part between two indices are the file's there. -/
theorem codeBetween_eq
    {before part after : List Placed}
    {first stop : Nat}
    (same : spelled = before ++ (part ++ after))
    (isBefore : ∀ placed ∈ before, placed.index < first)
    (isInside : ∀ placed ∈ part, first ≤ placed.index ∧ placed.index < stop)
    (isAfter : ∀ placed ∈ after, stop ≤ placed.index) :
    codeBetween model.tokens first stop = part.filter (·.token.isCode) := by
  have partOrdered : InOrder part := by
    have ordered := readFrom.ordered
    rw [same] at ordered
    exact ordered.right.left
  refine
    (codeBetween_inOrder _ _ _).eq_of_mem_iff
      (partOrdered.of_sublist List.filter_sublist) fun placed => ?_
  rw [mem_codeBetween, placeCode, List.mem_filter, List.mem_filter,
    and_right_comm]
  refine and_congr_left fun isCode => ⟨?_, fun member => ?_⟩
  · rintro ⟨isThere, notBefore, inTime⟩
    have isSpelled : placed ∈ spelled :=
      readFrom.mem_of_isCode (mem_placeTokens.mp isThere) isCode
    rw [same, List.mem_append, List.mem_append] at isSpelled
    rcases isSpelled with inBefore | inPart | inAfter
    · have isEarlier := isBefore placed inBefore
      omega
    · exact inPart
    · have isLater := isAfter placed inAfter
      omega
  · refine ⟨readFrom.keeps.sublist.subset ?_, isInside placed member⟩
    rw [same]
    exact List.mem_append_right _ (List.mem_append_left _ member)

/-- The row of a statement has its range, and is a block if it is one. -/
theorem exists_row
    {node : Node}
    (member : node ∈ families forest) :
    ∃ (index : Nat) (row : Statement),
      model.outline.statements[index]? = some row ∧
        Outline.ShowsRange row node ∧
        row.block.isSome = node.isBlock := by
  obtain ⟨index, inFamilies, rfl⟩ := List.mem_iff_getElem.mp member
  have inTable : index < model.outline.statements.size := by
    have shown :
        List.Forall₂ Outline.ShowsRange
          model.outline.statements.toList (families forest) := by
      rw [readFrom.outline]
      exact Outline.statements_ofForest
    rw [← Array.length_toList, shown.length_eq]
    exact inFamilies
  have found := Array.getElem?_eq_getElem inTable
  obtain ⟨shown, foundNode, range⟩ := readFrom.family found
  rw [List.getElem?_eq_getElem inFamilies, Option.some.injEq] at foundNode
  subst foundNode
  obtain ⟨other, isOther, firstIs, _, shape, _⟩ := readFrom.exists_shown found
  have isSame := readFrom.eq_of_first isOther member (firstIs.symm.trans range.1)
  exact ⟨index, _, found, range, isSame ▸ shape⟩

/-- The row of a block shows its head. -/
theorem exists_block
    {head : BlockHead}
    {body : List Node}
    {last : Placed}
    (member : .block head body last ∈ families forest) :
    ∃ block ∈ model.blocks, Outline.ShowsHead block head last := by
  obtain ⟨index, row, foundRow, ⟨firstIs, _⟩, shape⟩ :=
    readFrom.exists_row member
  obtain ⟨around, isBlock⟩ := Option.isSome_iff_exists.mp shape
  obtain ⟨block, found, isOwn⟩ :=
    readFrom.consistent.blockOf index around row foundRow isBlock
  obtain ⟨_, own, foundOwn, _, _, _, startsThere, _⟩ :=
    readFrom.consistent.own around block found
  rw [isOwn, foundRow, Option.some.injEq] at foundOwn
  subst foundOwn
  have shownBlock := found
  rw [readFrom.outline] at shownBlock
  obtain ⟨otherHead, otherBody, otherLast, isMember, shown, _⟩ :=
    Outline.blocks_ofForest shownBlock
  have isSame : Node.block otherHead otherBody otherLast = .block head body last := by
    refine readFrom.eq_of_first isMember member ?_
    exact shown.first.symm.trans (startsThere.symm.trans firstIs)
  cases isSame
  exact ⟨block, Array.mem_of_getElem? found, shown⟩

/-- The code of a statement is the file's between its ends. -/
theorem codeBetween_of_spells
    {node : Node}
    {before these after : List Placed}
    (spells : Spells model.language.profile.blockStyle node these)
    (same : spelled = before ++ (these ++ after)) :
    codeBetween model.tokens node.first.index (node.last.index + 1) =
      these.filter (·.token.isCode) := by
  have ordered := readFrom.ordered
  rw [same] at ordered
  have theseOrdered : InOrder these := ordered.right.left
  refine readFrom.codeBetween_eq same ?_ ?_ ?_
  · intro placed inBefore
    exact
      ordered.left_lt_right inBefore
        (List.mem_append_left _ spells.first_mem)
  · intro placed member
    exact
      ⟨theseOrdered.head_le spells.starts member,
        Nat.lt_succ_of_le (theseOrdered.le_getLast spells.ends member)⟩
  · intro placed inAfter
    exact ordered.right.left_lt_right spells.last_mem inAfter

variable (pieces : ∀ piece, model.IsPiece piece → Nested piece)

include pieces

/-- A statement that is no block is a piece. -/
theorem nested_simple
    {first last : Placed}
    {these : List Placed}
    (member : .simple first last ∈ families forest)
    (spells :
      Spells model.language.profile.blockStyle (.simple first last) these)
    (part : these <:+: spelled) :
    Nested these := by
  obtain ⟨before, after, joined⟩ := part
  rw [List.append_assoc] at joined
  obtain ⟨index, row, found, ⟨firstIs, lastIs⟩, shape⟩ :=
    readFrom.exists_row member
  have isSimple : row.block = none := by
    simpa [Node.isBlock] using shape
  have nested := pieces _ (.statement (Array.mem_of_getElem? found) isSimple)
  rw [firstIs, lastIs, readFrom.codeBetween_of_spells spells joined.symm,
    Nested, openBehind_filter_isCode] at nested
  exact nested

/-- What stands before the body of a block is a piece. -/
theorem nested_header
    {head : BlockHead}
    {body : List Node}
    {last : Placed}
    {header region : List Placed}
    (member : .block head body last ∈ families forest)
    (starts : (header ++ [head.opener]).head? = some head.first)
    (opens : region.head? = some head.opener)
    (part : header ++ region <:+: spelled) :
    Nested header := by
  obtain ⟨before, after, joined⟩ := part
  rw [List.append_assoc, List.append_assoc] at joined
  obtain ⟨block, isBlock, shown⟩ := readFrom.exists_block member
  have nested := pieces _ (.header isBlock)
  have ordered := readFrom.ordered
  rw [← joined] at ordered
  have opener : head.opener ∈ region ++ after :=
    List.mem_append_left _ (List.mem_of_head? opens)
  have first : (header ++ (region ++ after)).head? = some head.first := by
    cases header with
    | nil =>
        have sameToken : head.opener = head.first := by
          simpa using starts
        simp [List.head?_append, opens, sameToken]
    | cons =>
        simpa using starts
  rw [shown.first, shown.headerEnd,
    readFrom.codeBetween_eq joined.symm ?before ?inside ?after, Nested,
    openBehind_filter_isCode] at nested
  case before =>
    intro placed inBefore
    exact ordered.left_lt_right inBefore (List.mem_of_head? first)
  case inside =>
    intro placed inHeader
    exact
      ⟨ordered.right.head_le first (List.mem_append_left _ inHeader),
        ordered.right.left_lt_right inHeader opener⟩
  case after =>
    intro placed isBehind
    refine ordered.right.right.head_le ?_ isBehind
    rw [List.head?_append, opens, Option.some_or]
  exact nested

/-- The `while` clause behind a body is a piece. -/
theorem nested_loopTail
    {head : BlockHead}
    {body : List Node}
    {last : Placed}
    {these tail : List Placed}
    (member : .block head body last ∈ families forest)
    (isBraces : model.language.profile.blockStyle = .braces)
    (isLoop : head.keyword = "do")
    (isTail : IsLoopTail tail)
    (spells :
      Spells model.language.profile.blockStyle (.block head body last) these)
    (isEnd : tail <:+ these)
    (part : these <:+: spelled) :
    Nested tail := by
  have allCode : these.filter (·.token.isCode) = these := by
    refine List.filter_eq_self.mpr fun placed isThere => ?_
    have isCode := part.subset isThere
    rw [readFrom.codeOnly isBraces] at isCode
    exact (List.mem_filter.mp isCode).2
  obtain ⟨before, after, joined⟩ := part
  rw [List.append_assoc] at joined
  obtain ⟨block, isBlock, shown⟩ := readFrom.exists_block member
  refine pieces _ (.loopTail isBlock (shown.keyword.trans isLoop) ?_ isTail)
  rw [shown.first, shown.last]
  have whole := readFrom.codeBetween_of_spells spells joined.symm
  rw [allCode] at whole
  exact whole ▸ isEnd

/-- What ends a block behind its closing brace is nested. -/
theorem nested_ending
    {head : BlockHead}
    {body : List Node}
    {last : Placed}
    {these tail : List Placed}
    (member : .block head body last ∈ families forest)
    (isTail :
      tail = [] ∨
        (model.language.profile.blockStyle = .braces ∧
          head.keyword = "do" ∧
          IsLoopTail tail))
    (spells :
      Spells model.language.profile.blockStyle (.block head body last) these)
    (isEnd : tail <:+ these)
    (part : these <:+: spelled) :
    Nested tail := by
  rcases isTail with rfl | ⟨isBraces, isLoop, isLoopTail⟩
  · rfl
  · exact
      readFrom.nested_loopTail pieces member isBraces isLoop isLoopTail
        spells isEnd part

end Pieces

mutual

/-- A statement whose pieces are well nested is well nested. -/
theorem nested_of_spells
    {model : SourceModel}
    {forest : List Node}
    {spelled : List Placed}
    (readFrom : model.ReadFrom forest spelled)
    (pieces : ∀ piece, model.IsPiece piece → Nested piece)
    (opened : OpenWith model.language.profile.blockStyle.bodyOpener forest)
    (plain : ∀ placed ∈ spelled, placed.token.DelimitsBrackets)
    {node : Node}
    {these : List Placed} :
    Spells model.language.profile.blockStyle node these →
    node ∈ families forest →
    these <:+: spelled →
    Nested these
  | .simple starts ends, member, part =>
      readFrom.nested_simple pieces member (.simple starts ends) part
  | @Spells.delimited _ head _ _ header inside _
        isDelimited starts spells isEnd ends,
      member, part => by
      have whole := Spells.delimited isDelimited starts spells isEnd ends
      have headerNested :=
        readFrom.nested_header pieces member starts rfl part
      obtain ⟨closing, tail, rfl, closes, isTail⟩ := isEnd
      have insideNested : Nested inside := by
        refine nested_of_spellsAll readFrom pieces opened plain spells ?_ ?_
        · exact fun inner isInner => mem_families_of_body member isInner
        · refine List.IsInfix.trans ?_ part
          exact ⟨header ++ [head.opener], closing ++ tail, by simp⟩
      have tailNested : Nested tail := by
        refine readFrom.nested_ending pieces member isTail whole ?_ part
        exact ⟨header ++ head.opener :: (inside ++ closing), by simp⟩
      have bodyNested : Nested (head.opener :: (inside ++ closing)) := by
        refine nested_body ?_ ?_ insideNested (isDelimited ▸ closes)
        · intro placed isThere
          refine plain placed (part.subset ?_)
          rw [← List.append_assoc inside, ← List.cons_append]
          exact List.mem_append_right _ (List.mem_append_left _ isThere)
        · exact opened head _ _ member isDelimited
      have shown := headerNested.append (bodyNested.append tailNested)
      simpa using shown
  | @Spells.bare _ head node _ header inside _
        isBare starts opens spells isEnd ends,
      member, part => by
      have whole := Spells.bare isBare starts opens spells isEnd ends
      obtain ⟨closing, tail, rfl, closes, isTail⟩ := isEnd
      have noClosing : closing = [] := by
        simpa [IsClosing, isBare] using closes
      subst noClosing
      have headerNested : Nested header := by
        refine readFrom.nested_header pieces member ?_ ?_ part
        · rw [List.head?_append, starts, Option.some_or]
        · rw [List.head?_append, spells.starts, Option.some_or, opens]
      have insideNested : Nested inside := by
        refine nested_of_spells readFrom pieces opened plain spells ?_ ?_
        · exact mem_families_of_body member (List.mem_singleton_self _)
        · refine List.IsInfix.trans ?_ part
          exact ⟨header, tail, by simp⟩
      have tailNested : Nested tail := by
        refine readFrom.nested_ending pieces member isTail whole ?_ part
        exact ⟨header ++ inside, by simp⟩
      exact headerNested.append (insideNested.append tailNested)

/-- Statements whose pieces are well nested are well nested in a row. -/
theorem nested_of_spellsAll
    {model : SourceModel}
    {forest : List Node}
    {spelled : List Placed}
    (readFrom : model.ReadFrom forest spelled)
    (pieces : ∀ piece, model.IsPiece piece → Nested piece)
    (opened : OpenWith model.language.profile.blockStyle.bodyOpener forest)
    (plain : ∀ placed ∈ spelled, placed.token.DelimitsBrackets)
    {nodes : List Node}
    {these : List Placed} :
    SpellsAll model.language.profile.blockStyle nodes these →
    (∀ node ∈ nodes, node ∈ families forest) →
    these <:+: spelled →
    Nested these
  | .nil, _, _ =>
      rfl
  | .separator separates others, members, part => by
      have behind := (List.suffix_cons _ _).isInfix.trans part
      have restNested :=
        nested_of_spellsAll readFrom pieces opened plain others members behind
      exact (Nested.singleton separates.nest).append restNested
  | .node first others, members, part => by
      obtain ⟨isMember, areMembers⟩ := List.forall_mem_cons.mp members
      have front := (List.prefix_append _ _).isInfix.trans part
      have behind := (List.suffix_append _ _).isInfix.trans part
      have firstNested :=
        nested_of_spells readFrom pieces opened plain first isMember front
      have restNested :=
        nested_of_spellsAll readFrom pieces opened plain others areMembers
          behind
      exact firstNested.append restNested

end

end ReadFrom

/-- A file that is read keeps its tokens, and is well nested if its pieces are. -/
theorem nested_of_build
    {source : SourceFile}
    {model : SourceModel}
    {tokens : Array Token}
    (read : source.language.profile.tokenize source.text = .ok tokens)
    (built : build source = .ok model) :
    model.tokens = tokens ∧
      ((∀ piece, model.IsPiece piece → Nested piece) →
        Nested (placeCode tokens)) := by
  unfold build at built
  simp only [read] at built
  split at built
  · cases built
  · next forest readForest =>
      cases built
      refine ⟨rfl, fun pieces => ?_⟩
      obtain ⟨spelled, keeps, codeOnly, spells⟩ :=
        readForest_spells readForest
      have plain : ∀ placed ∈ spelled, placed.token.DelimitsBrackets := by
        intro placed isSpelled
        have found := mem_placeTokens.mp (keeps.sublist.subset isSpelled)
        exact
          tokenize_delimitsBrackets read placed.token
            (Array.mem_of_getElem? found)
      have nested :=
        ReadFrom.nested_of_spellsAll ⟨rfl, keeps, codeOnly, spells⟩ pieces
          (readForest_openWith readForest) plain spells
          (fun _ isNode => mem_families isNode) List.infix_rfl
      -- The remarks that indented files keep among their tokens do not count.
      rw [Nested, ← openBehind_filter_isCode] at nested
      have sameCode :
          spelled.filter (·.token.isCode) = placeCode tokens := by
        have fewer := keeps.sublist.filter (·.token.isCode)
        have noFewer := keeps.code.filter (·.token.isCode)
        rw [List.filter_filter] at noFewer
        simp only [Bool.and_self] at noFewer
        exact fewer.antisymm noFewer
      rw [sameCode] at nested
      exact nested

/--
A text that is not well nested is refused, or one of its pieces is not well
nested: a statement that is no block, what stands before a body, or the `while`
clause of a loop.
-/
theorem build_refuses_or_confines
    {source : SourceFile}
    {tokens : Array Token}
    (read : source.language.profile.tokenize source.text = .ok tokens)
    (unbalanced : ¬ Nested (placeCode tokens)) :
    (∃ fault, build source = .error fault) ∨
      ∃ model,
        build source = .ok model ∧
          model.tokens = tokens ∧
          ∃ piece, model.IsPiece piece ∧ ¬ Nested piece := by
  cases built : build source with
  | error fault =>
      exact .inl ⟨fault, rfl⟩
  | ok model =>
      obtain ⟨sameTokens, nested⟩ := nested_of_build read built
      refine .inr ⟨model, rfl, sameTokens, ?_⟩
      by_contra confined
      push Not at confined
      exact unbalanced (nested confined)

/-- A text with a bracket that is opened and never closed. -/
def openSample : SourceFile where
  path := "open.py"
  text := "x = (1\n"
  language := .python

/-- A text with a closing bracket of another shape and one too many. -/
def crossedSample : SourceFile where
  path := "Crossed.java"
  text := "f(a]);"
  language := .java

/-- The text is taken apart into tokens that are not well nested. -/
def IsUnbalanced (source : SourceFile) : Prop :=
  ∃ tokens,
    source.language.profile.tokenize source.text = .ok tokens ∧
      ¬ Nested (placeCode tokens)

/-- A text is unbalanced if the brackets of its tokens are found to be. -/
theorem isUnbalanced_of_any
    {source : SourceFile}
    (found :
      (source.language.profile.tokenize source.text).toOption.any
        (fun tokens => openBehind [] (placeCode tokens) != some []) = true) :
    IsUnbalanced source := by
  cases read : source.language.profile.tokenize source.text with
  | error fault =>
      simp [read, Except.toOption] at found
  | ok tokens =>
      exact ⟨tokens, read, by simpa [read, Except.toOption] using found⟩

/-- A source is read if the attempt is found to succeed. -/
theorem exists_of_isOk
    {source : SourceFile}
    (found : (build source).isOk = true) :
    ∃ model, build source = .ok model := by
  cases built : build source with
  | error fault =>
      rw [built] at found
      cases found
  | ok model =>
      exact ⟨model, rfl⟩

/-- Texts with stray brackets are read, by indentation and between braces. -/
theorem build_accepts_unbalanced :
    (IsUnbalanced openSample ∧ ∃ model, build openSample = .ok model) ∧
      IsUnbalanced crossedSample ∧ ∃ model, build crossedSample = .ok model := by
  refine ⟨⟨?_, ?_⟩, ?_, ?_⟩
  · exact isUnbalanced_of_any (by decide +kernel)
  · exact exists_of_isOk (by decide +kernel)
  · exact isUnbalanced_of_any (by decide +kernel)
  · exact exists_of_isOk (by decide +kernel)

/-- The fault of the crossed brackets lies in one piece of the text. -/
theorem crossedSample_confines :
    ∃ model,
      build crossedSample = .ok model ∧
        ∃ piece, model.IsPiece piece ∧ ¬ Nested piece := by
  obtain ⟨tokens, read, unbalanced⟩ : IsUnbalanced crossedSample :=
    isUnbalanced_of_any (by decide +kernel)
  rcases build_refuses_or_confines read unbalanced with
    ⟨fault, refused⟩ | ⟨model, built, _, confined⟩
  · obtain ⟨model, built⟩ : ∃ model, build crossedSample = .ok model :=
      exists_of_isOk (by decide +kernel)
    rw [refused] at built
    cases built
  · exact ⟨model, built, confined⟩

end SourceModel

end HouseStyle
