import HouseStyle.Language.Profile
import HouseStyle.Source.Tree

namespace HouseStyle

/-!
# What statements are spelled by

`Spells` is the grammar behind the two readers of statements: it says which
tokens make up a statement, and `SpellsAll` says which make up a body. Between
the statements of a body there are only remarks and semicolons. Behind the body
of a block there is only what ends the block: a closing brace, and for a `do`
block its `while` clause.

Tokens are told apart by their indices. In a row of tokens whose indices
increase, the statements of a body lie apart from each other and in order,
every other token stands between them, and the statements of the whole forest,
taken in the order in which they start, start at increasing indices.
-/

/-- Tokens in the order of the file. -/
def InOrder (tokens : List Placed) : Prop :=
  tokens.Pairwise fun earlier later => earlier.index < later.index

/-- A token that may stand between two statements: a remark or a semicolon. -/
def Placed.Separates (placed : Placed) : Prop :=
  placed.token.isCode = false ∨ placed.text = ";"

/--
Tokens of which the last, and none before it, closes the last of `depth` open
brackets.
-/
inductive ClosesGroup : Nat → List Placed → Prop where
  | last
      {closer : Placed}
      (opensNone : closer.token.opensBracket = false)
      (closes : closer.token.closesBracket = true) :
      ClosesGroup 1 [closer]
  | opening
      {depth : Nat}
      {token : Placed}
      {rest : List Placed}
      (opens : token.token.opensBracket = true) :
      ClosesGroup (depth + 1) rest →
      ClosesGroup depth (token :: rest)
  | closing
      {depth : Nat}
      {token : Placed}
      {rest : List Placed}
      (opensNone : token.token.opensBracket = false)
      (closes : token.token.closesBracket = true) :
      ClosesGroup (depth + 1) rest →
      ClosesGroup (depth + 2) (token :: rest)
  | other
      {depth : Nat}
      {token : Placed}
      {rest : List Placed}
      (opensNone : token.token.opensBracket = false)
      (closesNone : token.token.closesBracket = false) :
      ClosesGroup depth rest →
      ClosesGroup depth (token :: rest)

/-- A condition in parentheses, or nothing. -/
def IsLoopCondition (tokens : List Placed) : Prop :=
  tokens = [] ∨
    ∃ opener rest,
      tokens = opener :: rest ∧
        opener.reads "(" = true ∧
        ClosesGroup 1 rest

/-- A semicolon, or nothing. -/
def IsStatementEnd (tokens : List Placed) : Prop :=
  tokens = [] ∨
    ∃ semicolon,
      tokens = [semicolon] ∧ semicolon.reads ";" = true

/-- The `while` clause behind the body of a `do` block. -/
def IsLoopTail (tokens : List Placed) : Prop :=
  ∃ keyword condition ending,
    tokens = keyword :: (condition ++ ending) ∧
      keyword.reads "while" = true ∧
      IsLoopCondition condition ∧
      IsStatementEnd ending

/-- The brace that closes a body between braces. -/
def IsClosing
    (style : BlockStyle)
    (delimited : Bool)
    (tokens : List Placed) :
    Prop :=
  if style = .braces ∧ delimited = true then
    ∃ brace, tokens = [brace] ∧ brace.reads "\x7d" = true
  else
    tokens = []

/--
What ends a block behind the statements inside it. Blocks between braces have
their closing brace there, and `do` blocks may have a `while` clause behind it.
-/
def IsBlockEnd
    (style : BlockStyle)
    (keyword : String)
    (delimited : Bool)
    (tokens : List Placed) :
    Prop :=
  ∃ closing tail,
    tokens = closing ++ tail ∧
      IsClosing style delimited closing ∧
      (tail = [] ∨
        (style = .braces ∧ keyword = "do" ∧ IsLoopTail tail))

mutual

/-- The tokens that make up a statement. -/
inductive Spells (style : BlockStyle) : Node → List Placed → Prop where
  | simple
      {first last : Placed}
      {tokens : List Placed}
      (starts : tokens.head? = some first)
      (ends : tokens.getLast? = some last) :
      Spells style (.simple first last) tokens
  | delimited
      {head : BlockHead}
      {body : List Node}
      {last : Placed}
      {header inside ending : List Placed}
      (isDelimited : head.delimited = true)
      (starts : (header ++ [head.opener]).head? = some head.first)
      (spelled : SpellsAll style body inside)
      (isEnd : IsBlockEnd style head.keyword head.delimited ending)
      (ends : (inside ++ ending).getLast? = some last) :
      Spells
        style
        (.block head body last)
        (header ++ head.opener :: (inside ++ ending))
  | bare
      {head : BlockHead}
      {node : Node}
      {last : Placed}
      {header inside ending : List Placed}
      (isBare : head.delimited = false)
      (starts : header.head? = some head.first)
      (opens : node.first = head.opener)
      (spelled : Spells style node inside)
      (isEnd : IsBlockEnd style head.keyword head.delimited ending)
      (ends : (inside ++ ending).getLast? = some last) :
      Spells
        style
        (.block head [node] last)
        (header ++ (inside ++ ending))

/-- The tokens that make up the statements of a body. -/
inductive SpellsAll (style : BlockStyle) : List Node → List Placed → Prop where
  | nil : SpellsAll style [] []
  | separator
      {nodes : List Node}
      {token : Placed}
      {tokens : List Placed}
      (separates : token.Separates)
      (spelled : SpellsAll style nodes tokens) :
      SpellsAll style nodes (token :: tokens)
  | node
      {node : Node}
      {nodes : List Node}
      {these tokens : List Placed}
      (first : Spells style node these)
      (others : SpellsAll style nodes tokens) :
      SpellsAll style (node :: nodes) (these ++ tokens)

end

/-- Every numbered token stands in the file at its index. -/
theorem mem_placeTokens
    {tokens : Array Token}
    {placed : Placed} :
    placed ∈ placeTokens tokens ↔
      tokens[placed.index]? = some placed.token := by
  obtain ⟨index, token⟩ := placed
  simp only [placeTokens, List.mem_map, Prod.exists, Placed.mk.injEq]
  constructor
  · rintro ⟨_, _, member, rfl, rfl⟩
    simpa using List.mem_zipIdx_iff_getElem?.mp member
  · intro found
    exact
      ⟨token, index,
        List.mem_zipIdx_iff_getElem?.mpr (by simpa using found), rfl, rfl⟩

/-- The tokens of a file are numbered from zero on. -/
theorem map_index_placeTokens (tokens : Array Token) :
    (placeTokens tokens).map Placed.index = List.range tokens.size := by
  simp [placeTokens, Function.comp_def, List.range_eq_range']

/-- The numbered tokens of a file are in order. -/
theorem placeTokens_inOrder (tokens : Array Token) :
    InOrder (placeTokens tokens) := by
  have increasing : (List.range tokens.size).Pairwise (· < ·) :=
    List.pairwise_lt_range
  rw [← map_index_placeTokens, List.pairwise_map] at increasing
  exact increasing

namespace InOrder

theorem of_sublist
    {tokens part : List Placed}
    (ordered : InOrder tokens)
    (sublist : part.Sublist tokens) :
    InOrder part :=
  List.Pairwise.sublist sublist ordered

theorem left
    {left right : List Placed}
    (ordered : InOrder (left ++ right)) :
    InOrder left :=
  ordered.of_sublist (List.sublist_append_left left right)

theorem right
    {left right : List Placed}
    (ordered : InOrder (left ++ right)) :
    InOrder right :=
  ordered.of_sublist (List.sublist_append_right left right)

/-- The first token has the least index. -/
theorem head_le
    {tokens : List Placed}
    {first token : Placed}
    (ordered : InOrder tokens)
    (starts : tokens.head? = some first)
    (member : token ∈ tokens) :
    first.index ≤ token.index := by
  obtain ⟨rest, rfl⟩ := List.head?_eq_some_iff.mp starts
  rcases List.mem_cons.mp member with isFirst | inRest
  · subst isFirst
    exact Nat.le_refl _
  · exact Nat.le_of_lt ((List.pairwise_cons.mp ordered).1 token inRest)

/-- The last token has the greatest index. -/
theorem le_getLast
    {tokens : List Placed}
    {last token : Placed}
    (ordered : InOrder tokens)
    (ends : tokens.getLast? = some last)
    (member : token ∈ tokens) :
    token.index ≤ last.index := by
  obtain ⟨rest, rfl⟩ := List.getLast?_eq_some_iff.mp ends
  rcases List.mem_append.mp member with inRest | isLast
  · exact
      Nat.le_of_lt
        ((List.pairwise_append.mp ordered).2.2
          token inRest last (by simp))
  · obtain rfl := List.mem_singleton.mp isLast
    exact Nat.le_refl _

theorem left_lt_right
    {left right : List Placed}
    {earlier later : Placed}
    (ordered : InOrder (left ++ right))
    (inLeft : earlier ∈ left)
    (inRight : later ∈ right) :
    earlier.index < later.index :=
  (List.pairwise_append.mp ordered).2.2 earlier inLeft later inRight

/-- A token whose index lies between those of a part belongs to the part. -/
theorem mem_of_between
    {tokens part : List Placed}
    {first last token : Placed}
    (ordered : InOrder tokens)
    (isPart : part <:+: tokens)
    (starts : part.head? = some first)
    (ends : part.getLast? = some last)
    (member : token ∈ tokens)
    (notBefore : first.index ≤ token.index)
    (notAfter : token.index ≤ last.index) :
    token ∈ part := by
  obtain ⟨before, after, rfl⟩ := isPart
  have firstMember : first ∈ part := List.mem_of_head? starts
  have lastMember : last ∈ part := List.mem_of_getLast? ends
  rcases List.mem_append.mp member with inFront | inAfter
  · rcases List.mem_append.mp inFront with inBefore | inPart
    · have isBefore : token.index < first.index := by
        rw [List.append_assoc] at ordered
        exact ordered.left_lt_right inBefore (by simp [firstMember])
      omega
    · exact inPart
  · have isAfter : last.index < token.index :=
      ordered.left_lt_right (by simp [lastMember]) inAfter
    omega

end InOrder

/-- `kept` is left of `tokens` when only remarks are dropped. -/
structure KeepsCode (kept tokens : List Placed) : Prop where
  sublist : kept.Sublist tokens
  code :
    (tokens.filter fun placed => placed.token.isCode).Sublist kept

namespace KeepsCode

theorem refl (tokens : List Placed) :
    KeepsCode tokens tokens where
  sublist := .refl tokens
  code := List.filter_sublist

theorem append
    {front back frontTokens backTokens : List Placed}
    (left : KeepsCode front frontTokens)
    (right : KeepsCode back backTokens) :
    KeepsCode (front ++ back) (frontTokens ++ backTokens) where
  sublist := left.sublist.append right.sublist
  code := by
    rw [List.filter_append]
    exact left.code.append right.code

theorem drop
    {remarks : List Placed}
    (noCode : ∀ placed ∈ remarks, placed.token.isCode = false) :
    KeepsCode [] remarks where
  sublist := List.nil_sublist remarks
  code :=
    List.sublist_nil.mpr
      (List.filter_eq_nil_iff.mpr (by simpa using noCode))

end KeepsCode

mutual

/-- A statement and every statement inside it, in the order of their starts. -/
def Node.family : Node → List Node
  | .simple first last =>
      [.simple first last]
  | .block head body last =>
      .block head body last :: families body

/-- Statements and every statement inside them, in the order of their starts. -/
def families : List Node → List Node
  | [] =>
      []
  | node :: rest =>
      node.family ++ families rest

end

/-- The families of two bodies side by side. -/
theorem families_append
    (first second : List Node) :
    families (first ++ second) = families first ++ families second := by
  induction first with
  | nil =>
      rfl
  | cons node rest inductionHypothesis =>
      simp [families, inductionHypothesis]

theorem Node.mem_family (node : Node) :
    node ∈ node.family := by
  cases node <;> simp [Node.family]

/-- The statements of a body are among all the statements inside it. -/
theorem mem_families
    {node : Node}
    {nodes : List Node}
    (member : node ∈ nodes) :
    node ∈ families nodes := by
  induction nodes with
  | nil =>
      simp at member
  | cons first rest inductionHypothesis =>
      simp only [families, List.mem_append]
      rcases List.mem_cons.mp member with isFirst | inRest
      · subst node
        exact .inl first.mem_family
      · exact .inr (inductionHypothesis inRest)

namespace Spells

variable {style : BlockStyle} {node : Node} {tokens : List Placed}

/-- A statement starts with the first of its tokens. -/
theorem starts
    (spelled : Spells style node tokens) :
    tokens.head? = some node.first := by
  cases spelled with
  | simple starts ends =>
      exact starts
  | @delimited head body last header inside ending _ starts _ _ _ =>
      rw [← List.singleton_append, ← List.append_assoc, List.head?_append]
      simp [starts, Node.first]
  | bare _ starts _ _ _ _ =>
      rw [List.head?_append]
      simp [starts, Node.first]

/-- A statement ends with the last of its tokens. -/
theorem ends
    (spelled : Spells style node tokens) :
    tokens.getLast? = some node.last := by
  cases spelled with
  | simple starts ends =>
      exact ends
  | @delimited head body last header inside ending _ _ _ _ ends =>
      rw [← List.singleton_append, ← List.append_assoc, List.getLast?_append]
      simp [ends, Node.last]
  | bare _ _ _ _ _ ends =>
      rw [List.getLast?_append]
      simp [ends, Node.last]

theorem first_mem
    (spelled : Spells style node tokens) :
    node.first ∈ tokens :=
  List.mem_of_head? spelled.starts

theorem last_mem
    (spelled : Spells style node tokens) :
    node.last ∈ tokens :=
  List.mem_of_getLast? spelled.ends

/-- No statement starts behind its end. -/
theorem first_le_last
    (spelled : Spells style node tokens)
    (ordered : InOrder tokens) :
    node.first.index ≤ node.last.index :=
  ordered.head_le spelled.starts spelled.last_mem

end Spells

namespace SpellsAll

variable {style : BlockStyle}

theorem single
    {node : Node}
    {tokens : List Placed}
    (spelled : Spells style node tokens) :
    SpellsAll style [node] tokens := by
  simpa using SpellsAll.node spelled .nil

/-- Tokens that separate statements are a body without statements. -/
theorem separators
    {tokens : List Placed}
    (separate : ∀ token ∈ tokens, token.Separates) :
    SpellsAll style [] tokens := by
  induction tokens with
  | nil =>
      exact .nil
  | cons token rest inductionHypothesis =>
      exact
        .separator
          (separate token (by simp))
          (inductionHypothesis fun other member =>
            separate other (by simp [member]))

theorem append
    {nodes more : List Node}
    {tokens others : List Placed} :
    SpellsAll style nodes tokens →
    SpellsAll style more others →
    SpellsAll style (nodes ++ more) (tokens ++ others)
  | .nil, second =>
      second
  | .separator separates spelled, second =>
      .separator separates (spelled.append second)
  | .node first rest, second => by
      rw [List.append_assoc]
      exact .node first (rest.append second)

/-- A token of a body separates statements or belongs to one of them. -/
theorem separates_or_mem
    {token : Placed}
    {nodes : List Node}
    {tokens : List Placed} :
    SpellsAll style nodes tokens →
    token ∈ tokens →
    token.Separates ∨
      ∃ node ∈ nodes, ∃ these,
        Spells style node these ∧ these <:+: tokens ∧ token ∈ these
  | .nil, member => by
      simp at member
  | .separator separates spelled, member => by
      rcases List.mem_cons.mp member with isFirst | inRest
      · subst isFirst
        exact .inl separates
      · rcases spelled.separates_or_mem inRest with
          separates | ⟨node, isNode, these, spells, part, inThese⟩
        · exact .inl separates
        · exact
            .inr ⟨node, isNode, these, spells, List.infix_cons part, inThese⟩
  | @SpellsAll.node _ statement _ these others first rest, member => by
      rcases List.mem_append.mp member with inFirst | inRest
      · exact
          .inr
            ⟨statement, by simp, these, first,
              (List.prefix_append these others).isInfix, inFirst⟩
      · rcases rest.separates_or_mem inRest with
          separates | ⟨other, isOther, later, spells, part, inLater⟩
        · exact .inl separates
        · exact
            .inr
              ⟨other, by simp [isOther], later, spells,
                part.trans (List.suffix_append these others).isInfix,
                inLater⟩

/-- A token of a body separates statements or lies in the range of one. -/
theorem separates_or_between
    {token : Placed}
    {nodes : List Node}
    {tokens : List Placed}
    (spelled : SpellsAll style nodes tokens)
    (ordered : InOrder tokens)
    (member : token ∈ tokens) :
    token.Separates ∨
      ∃ node ∈ nodes,
        node.first.index ≤ token.index ∧ token.index ≤ node.last.index := by
  rcases spelled.separates_or_mem member with
    separates | ⟨node, isNode, these, spells, part, inThese⟩
  · exact .inl separates
  · have theseOrdered := ordered.of_sublist part.sublist
    exact
      .inr
        ⟨node, isNode,
          theseOrdered.head_le spells.starts inThese,
          theseOrdered.le_getLast spells.ends inThese⟩

end SpellsAll

section Families

variable {style : BlockStyle}

mutual

/-- All statements of a family start at tokens of it, and in their order. -/
theorem Spells.firsts_sublist
    {node : Node}
    {tokens : List Placed} :
    Spells style node tokens →
    (node.family.map Node.first).Sublist tokens
  | .simple starts _ => by
      simpa [Node.family, Node.first] using List.mem_of_head? starts
  | @Spells.delimited _ head body last header inside ending
        _ starts spelled _ _ => by
      have firstPart : [head.first].Sublist (header ++ [head.opener]) :=
        List.singleton_sublist.mpr (List.mem_of_head? starts)
      have bodyPart :
          ((families body).map Node.first).Sublist (inside ++ ending) :=
        spelled.firsts_sublist.trans (List.sublist_append_left inside ending)
      simpa [Node.family, Node.first] using firstPart.append bodyPart
  | @Spells.bare _ head node last header inside ending
        _ starts _ spelled _ _ => by
      have firstPart : [head.first].Sublist header :=
        List.singleton_sublist.mpr (List.mem_of_head? starts)
      have bodyPart :
          (node.family.map Node.first).Sublist (inside ++ ending) :=
        spelled.firsts_sublist.trans (List.sublist_append_left inside ending)
      simpa [Node.family, families, Node.first] using
        firstPart.append bodyPart

/-- The same for all families of a body. -/
theorem SpellsAll.firsts_sublist
    {nodes : List Node}
    {tokens : List Placed} :
    SpellsAll style nodes tokens →
    ((families nodes).map Node.first).Sublist tokens
  | .nil => by
      simp [families]
  | .separator _ spelled =>
      spelled.firsts_sublist.cons _
  | .node first others => by
      simpa [families] using
        first.firsts_sublist.append others.firsts_sublist

end

mutual

/-- Every statement of a family is spelled by a part of its tokens. -/
theorem Spells.part_of_mem_family
    {node member : Node}
    {tokens : List Placed} :
    Spells style node tokens →
    member ∈ node.family →
    ∃ these, Spells style member these ∧ these <:+: tokens
  | .simple starts ends, isMember => by
      simp only [Node.family, List.mem_singleton] at isMember
      subst isMember
      exact ⟨tokens, .simple starts ends, List.infix_rfl⟩
  | @Spells.delimited _ head body last header inside ending
        isDelimited starts spelled isEnd ends, isMember => by
      simp only [Node.family, List.mem_cons] at isMember
      rcases isMember with isWhole | inBody
      · subst isWhole
        exact
          ⟨_, .delimited isDelimited starts spelled isEnd ends,
            List.infix_rfl⟩
      · obtain ⟨these, spells, part⟩ := spelled.part_of_mem_families inBody
        refine ⟨these, spells, part.trans ?_⟩
        exact ⟨header ++ [head.opener], ending, by simp⟩
  | @Spells.bare _ head node last header inside ending
        isBare starts opens spelled isEnd ends, isMember => by
      simp only [Node.family, families, List.append_nil,
        List.mem_cons] at isMember
      rcases isMember with isWhole | inBody
      · subst isWhole
        exact
          ⟨_, .bare isBare starts opens spelled isEnd ends, List.infix_rfl⟩
      · obtain ⟨these, spells, part⟩ := spelled.part_of_mem_family inBody
        exact ⟨these, spells, part.trans ⟨header, ending, by simp⟩⟩

/-- The same for all families of a body. -/
theorem SpellsAll.part_of_mem_families
    {nodes : List Node}
    {member : Node}
    {tokens : List Placed} :
    SpellsAll style nodes tokens →
    member ∈ families nodes →
    ∃ these, Spells style member these ∧ these <:+: tokens
  | .nil, isMember => by
      simp [families] at isMember
  | .separator _ spelled, isMember => by
      obtain ⟨these, spells, part⟩ := spelled.part_of_mem_families isMember
      exact ⟨these, spells, List.infix_cons part⟩
  | @SpellsAll.node _ _ _ front others first rest, isMember => by
      simp only [families, List.mem_append] at isMember
      rcases isMember with inFirst | inRest
      · obtain ⟨these, spells, part⟩ := first.part_of_mem_family inFirst
        exact
          ⟨these, spells,
            part.trans (List.prefix_append front others).isInfix⟩
      · obtain ⟨these, spells, part⟩ := rest.part_of_mem_families inRest
        exact
          ⟨these, spells,
            part.trans (List.suffix_append front others).isInfix⟩

end

end Families

namespace SpellsAll

variable {style : BlockStyle}

theorem part_of_mem
    {node : Node}
    {nodes : List Node}
    {tokens : List Placed}
    (spelled : SpellsAll style nodes tokens)
    (member : node ∈ nodes) :
    ∃ these, Spells style node these ∧ these <:+: tokens :=
  spelled.part_of_mem_families (mem_families member)

/-- The statements of a body end before the later ones start. -/
theorem apart
    {nodes : List Node}
    {tokens : List Placed}
    (spelled : SpellsAll style nodes tokens)
    (ordered : InOrder tokens) :
    nodes.Pairwise fun earlier later =>
      earlier.last.index < later.first.index := by
  match spelled with
  | .nil =>
      exact .nil
  | .separator _ rest =>
      exact rest.apart (List.pairwise_cons.mp ordered).2
  | .node first rest =>
      refine List.pairwise_cons.mpr ⟨?_, ?_⟩
      · intro later member
        obtain ⟨these, spells, part⟩ := rest.part_of_mem member
        exact
          ordered.left_lt_right
            first.last_mem
            (part.subset spells.first_mem)
      · exact rest.apart ordered.right

end SpellsAll

end HouseStyle
