import HouseStyle.Proofs.Source.Confinement

namespace HouseStyle

/-!
# The innermost pair of brackets

In code whose brackets are well nested, each of the brackets that are open in front of
a token is closed behind it, and no other pair is around the token. So of the pairs
around it the innermost is that of the last bracket that is open there.
-/

/-! ## Pairs of brackets -/

/-- A token stands between a bracket and the one that closes it. -/
structure Encloses (code : List Placed) (opener closing placed : Placed) : Prop where
  opens : opener.token.opensBracket = true
  closes : closing.token.closesBracket = true
  isPair : (opener.text, closing.text) ∈ bracketPairs
  /-- What is between the two is well nested. -/
  around :
    ∃ before left right after,
      code = before ++ opener :: (left ++ placed :: (right ++ closing :: after)) ∧
        Nested (left ++ placed :: right)

/-- Of the pairs of brackets around a token, that of the bracket starts last. -/
structure IsInnermost (code : List Placed) (opener placed : Placed) : Prop where
  encloses : ∃ closing, Encloses code opener closing placed
  isLast :
    ∀ other closing, Encloses code other closing placed → other.index ≤ opener.index

/-- How a row of tokens is cut at the brackets that it leaves open. -/
inductive LeavesOpen : List Placed → List Placed → Prop where
  | none
      {tokens : List Placed}
      (nested : Nested tokens) :
      LeavesOpen tokens []
  | above
      {front inside stack : List Placed}
      {opener : Placed}
      (outer : LeavesOpen front stack)
      (opens : opener.token.opensBracket = true)
      (nested : Nested inside) :
      LeavesOpen (front ++ opener :: inside) (opener :: stack)

namespace LeavesOpen

variable {front stack left : List Placed} {token : Placed}

/-- What is well nested leaves nothing more open. -/
theorem append
    (leavesOpen : LeavesOpen front stack)
    {more : List Placed}
    (nested : Nested more) :
    LeavesOpen (front ++ more) stack := by
  cases leavesOpen with
  | none inFront =>
      exact .none (inFront.append nested)
  | above outer opens inside =>
      rw [List.append_assoc, List.cons_append]
      exact .above outer opens (inside.append nested)

/-- One more token opens a bracket, closes the last one or leaves all as they are. -/
theorem next
    (leavesOpen : LeavesOpen front stack)
    (nests : token.nest stack = some left) :
    LeavesOpen (front ++ [token]) left := by
  cases opens : token.token.opensBracket with
  | true =>
      rw [Placed.nest_of_opens opens, Option.some.injEq] at nests
      rw [← nests]
      exact .above leavesOpen opens openBehind_nil
  | false =>
      cases closes : token.token.closesBracket with
      | true =>
          obtain ⟨opener, rfl, isPair⟩ := Placed.exists_of_nest opens closes nests
          have closesIt : token.nest [opener] = some [] := by
            simp [Placed.nest, opens, closes, isPair]
          cases leavesOpen with
          | above outer opensOuter inside =>
              rw [List.append_assoc, List.cons_append]
              exact outer.append (inside.group opensOuter closesIt)
      | false =>
          rw [Placed.nest_of_other opens closes, Option.some.injEq] at nests
          rw [← nests]
          exact leavesOpen.append (.singleton (Placed.nest_of_other opens closes))

/-- The brackets that are open behind a row are those that it leaves open. -/
theorem of_openBehind
    (opened : openBehind [] front = some stack) :
    LeavesOpen front stack := by
  induction front using List.reverseRecOn generalizing stack with
  | nil =>
      cases opened
      exact .none openBehind_nil
  | append_singleton front token inductionHypothesis =>
      rw [openBehind_append, Option.bind_eq_some_iff] at opened
      obtain ⟨before, openedBefore, nests⟩ := opened
      rw [openBehind_cons, Option.bind_eq_some_iff] at nests
      obtain ⟨behind, nests, same⟩ := nests
      cases same
      exact (inductionHypothesis openedBefore).next nests

end LeavesOpen

/-- Where all brackets are closed in the end, so is the one on top of any stack. -/
theorem exists_closing
    {inner outer tokens : List Placed}
    {opener : Placed}
    (nested : openBehind (inner ++ opener :: outer) tokens = some []) :
    ∃ inside closing after,
      tokens = inside ++ closing :: after ∧
        openBehind inner inside = some [] ∧
        closing.token.closesBracket = true ∧
        (opener.text, closing.text) ∈ bracketPairs := by
  induction tokens generalizing inner with
  | nil =>
      simp at nested
  | cons token rest inductionHypothesis =>
      by_cases closesIt :
          inner = [] ∧
            token.token.opensBracket = false ∧ token.token.closesBracket = true
      · obtain ⟨rfl, opensNone, closes⟩ := closesIt
        rw [openBehind_cons, Option.bind_eq_some_iff] at nested
        obtain ⟨stack, nests, _⟩ := nested
        obtain ⟨_, same, isPair⟩ := Placed.exists_of_nest opensNone closes nests
        obtain ⟨rfl, _⟩ := List.cons.inj same
        exact ⟨[], token, rest, rfl, openBehind_nil, closes, isPair⟩
      · have noClosing :
            inner = [] →
              token.token.opensBracket = false →
                token.token.closesBracket = false := by
          intro isEmpty opensNone
          by_contra closes
          exact closesIt ⟨isEmpty, opensNone, Bool.eq_true_of_not_eq_false closes⟩
        obtain ⟨left, nests, _, nestedRest⟩ :=
          exists_of_openBehind_cons noClosing nested
        obtain ⟨inside, closing, after, rfl, closesInner, closes, isPair⟩ :=
          inductionHypothesis nestedRest
        refine ⟨token :: inside, closing, after, rfl, ?_, closes, isPair⟩
        rw [openBehind_cons, nests, Option.bind_some, closesInner]

/-- The open brackets are brackets of the row, the last one first. -/
theorem openBehind_sublist
    {opened tokens stack : List Placed}
    (isStack : openBehind opened tokens = some stack) :
    stack.Sublist (tokens.reverse ++ opened) := by
  induction tokens generalizing opened with
  | nil =>
      cases isStack
      exact .refl _
  | cons token rest inductionHypothesis =>
      rw [openBehind_cons, Option.bind_eq_some_iff] at isStack
      obtain ⟨behind, nests, isStack⟩ := isStack
      have notMore : behind.Sublist (token :: opened) := by
        cases opens : token.token.opensBracket with
        | true =>
            rw [Placed.nest_of_opens opens, Option.some.injEq] at nests
            rw [nests]
        | false =>
            cases closes : token.token.closesBracket with
            | true =>
                obtain ⟨opener, rfl, _⟩ := Placed.exists_of_nest opens closes nests
                exact (List.sublist_cons_self ..).cons token
            | false =>
                rw [Placed.nest_of_other opens closes, Option.some.injEq] at nests
                rw [← nests]
                exact List.sublist_cons_self ..
      rw [List.reverse_cons, List.append_assoc]
      exact (inductionHypothesis isStack).trans (notMore.append_left _)

/-- A token of a row in order stands at one place of it. -/
theorem InOrder.split_unique
    {code front back front' back' : List Placed}
    {placed : Placed}
    (ordered : InOrder code)
    (isCode : code = front ++ placed :: back)
    (alsoCode : code = front' ++ placed :: back') :
    front = front' ∧ back = back' := by
  have distinct := ordered.nodup
  rw [isCode, List.nodup_append] at distinct
  obtain ⟨_, behind, apart⟩ := distinct
  have notInFront : placed ∉ front :=
    fun isThere => apart placed isThere placed (List.mem_cons_self ..) rfl
  have notBehind : placed ∉ back := (List.nodup_cons.mp behind).1
  obtain ⟨sameFront, _, sameBack⟩ :=
    (List.append_cons_inj_of_notMem notInFront notBehind).mp (isCode.symm.trans alsoCode)
  exact ⟨sameFront, sameBack⟩

section Innermost

variable
  {code front back stack : List Placed}
  {placed : Placed}
  (ordered : InOrder code)
  (isCode : code = front ++ placed :: back)
  (opened : openBehind [] front = some stack)

include isCode opened

/-- The last bracket that is open in front of a token is closed behind it. -/
theorem exists_encloses_of_head?
    (nested : Nested code)
    (closesNone : placed.token.closesBracket = false)
    {opener : Placed}
    (isTop : stack.head? = some opener) :
    ∃ closing, Encloses code opener closing placed := by
  obtain ⟨outer, rfl⟩ := List.head?_eq_some_iff.mp isTop
  have nestedBehind : openBehind ([] ++ opener :: outer) (placed :: back) = some [] := by
    rwa [isCode, Nested, openBehind_append, opened, Option.bind_some] at nested
  obtain ⟨inside, closing, after, isBehind, closesInside, closes, isPair⟩ :=
    exists_closing nestedBehind
  cases inside with
  | nil =>
      obtain ⟨rfl, _⟩ := List.cons.inj isBehind
      rw [closesNone] at closes
      cases closes
  | cons _ right =>
      obtain ⟨rfl, rfl⟩ := List.cons.inj isBehind
      cases LeavesOpen.of_openBehind opened with
      | @above before left _ _ _ opens nestedLeft =>
          refine
            ⟨closing, opens, closes, isPair, before, left, right, after, ?_,
              nestedLeft.append closesInside⟩
          rw [isCode, List.append_assoc, List.cons_append, List.append_eq]

include ordered

/-- A bracket around a token stands open in front of it. -/
theorem mem_of_encloses
    {opener closing : Placed}
    (encloses : Encloses code opener closing placed) :
    opener ∈ stack := by
  obtain ⟨opens, _, _, before, left, right, after, same, nested⟩ := encloses
  have alsoCode :
      code = (before ++ opener :: left) ++ placed :: (right ++ closing :: after) := by
    rw [same, List.append_assoc, List.cons_append]
  obtain ⟨isFront, _⟩ := ordered.split_unique isCode alsoCode
  rw [isFront, openBehind_append, Option.bind_eq_some_iff] at opened
  obtain ⟨outer, _, opened⟩ := opened
  rw [openBehind_cons, Placed.nest_of_opens opens, Option.bind_some] at opened
  rw [Nested, openBehind_append, Option.bind_eq_some_iff] at nested
  obtain ⟨inner, openedInner, _⟩ := nested
  have isStack : openBehind (opener :: outer) left = some (inner ++ opener :: outer) :=
    openBehind_above openedInner
  rw [isStack, Option.some.injEq] at opened
  rw [← opened]
  simp

/-- The last bracket that is open in front of a token is that of the innermost pair. -/
theorem isInnermost_iff
    (nested : Nested code)
    (closesNone : placed.token.closesBracket = false)
    {opener : Placed} :
    IsInnermost code opener placed ↔ stack.head? = some opener := by
  have inFront : InOrder front :=
    ordered.of_sublist (isCode ▸ List.sublist_append_left front _)
  have falling : stack.Pairwise fun later earlier => earlier.index < later.index := by
    have isPart := openBehind_sublist opened
    rw [List.append_nil] at isPart
    exact (List.pairwise_reverse.mpr inFront).sublist isPart
  have isTop_or_lt
      {top other : Placed}
      (isTop : stack.head? = some top)
      (isOpen : other ∈ stack) :
      other = top ∨ other.index < top.index := by
    obtain ⟨outer, rfl⟩ := List.head?_eq_some_iff.mp isTop
    exact (List.mem_cons.mp isOpen).imp_right (List.rel_of_pairwise_cons falling)
  constructor
  · rintro ⟨⟨closing, encloses⟩, isLast⟩
    have isOpen := mem_of_encloses ordered isCode opened encloses
    obtain ⟨top, isTop⟩ : ∃ top, stack.head? = some top :=
      Option.isSome_iff_exists.mp (List.isSome_head?.mpr (List.ne_nil_of_mem isOpen))
    obtain ⟨other, topEncloses⟩ :=
      exists_encloses_of_head? isCode opened nested closesNone isTop
    have notBelow := isLast top other topEncloses
    rcases isTop_or_lt isTop isOpen with rfl | isBelow
    · exact isTop
    · exact (Nat.not_lt_of_le notBelow isBelow).elim
  · intro isTop
    refine
      ⟨exists_encloses_of_head? isCode opened nested closesNone isTop, ?_⟩
    intro other closing encloses
    rcases isTop_or_lt isTop (mem_of_encloses ordered isCode opened encloses) with
      rfl | isBelow
    · exact Nat.le_refl _
    · exact Nat.le_of_lt isBelow

end Innermost

/-! ## Neighbours in the code -/

section Neighbours

variable
  {code front back : List Placed}
  {placed neighbour : Placed}
  (ordered : InOrder code)
  (isCode : code = front ++ placed :: back)

include ordered isCode

/-- What is right in front of a token is the last of the code in front of it. -/
theorem infix_before_iff :
    [neighbour, placed] <:+: code ↔ front.getLast? = some neighbour := by
  constructor
  · rintro ⟨before, after, same⟩
    have alsoCode : code = (before ++ [neighbour]) ++ placed :: after := by
      rw [← same]
      simp
    obtain ⟨rfl, _⟩ := ordered.split_unique isCode alsoCode
    simp
  · intro isLast
    obtain ⟨before, rfl⟩ := List.getLast?_eq_some_iff.mp isLast
    exact ⟨before, back, by simp [isCode]⟩

/-- What is right behind a token is the first of the code behind it. -/
theorem infix_behind_iff :
    [placed, neighbour] <:+: code ↔ back.head? = some neighbour := by
  constructor
  · rintro ⟨before, after, same⟩
    have alsoCode : code = before ++ placed :: (neighbour :: after) := by
      rw [← same]
      simp
    obtain ⟨_, rfl⟩ := ordered.split_unique isCode alsoCode
    rfl
  · intro isFirst
    obtain ⟨after, rfl⟩ := List.head?_eq_some_iff.mp isFirst
    exact ⟨front, after, by simp [isCode]⟩

end Neighbours

end HouseStyle
