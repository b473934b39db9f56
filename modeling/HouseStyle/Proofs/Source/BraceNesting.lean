import HouseStyle.Proofs.Source.BraceSpelling
import HouseStyle.Proofs.Source.Brackets

namespace HouseStyle

/-!
# Reading keeps to the nesting of brackets

Inside a body whose brackets are well nested, every reader stops where all the
brackets that it opened are closed again. So a group in parentheses is always
closed, and a statement that is split off before its body is well nested,
wherever a semicolon or a line break ended it and whichever way its braces were
taken.
-/

/-- A row that ends a group takes the brackets of the group off the stack. -/
theorem ClosesGroup.closes
    {depth : Nat}
    {inner opened taken rest : List Placed}
    (group : ClosesGroup depth taken)
    (isDepth : inner.length = depth)
    (nested : openBehind (inner ++ opened) (taken ++ rest) = some []) :
    openBehind inner taken = some [] := by
  induction group generalizing inner with
  | @last closer opensNone closes =>
      obtain ⟨left, nests, isLeft, _⟩ :=
        exists_of_openBehind_inside (by omega) nested
      have noneLeft : left = [] := by
        rw [← List.length_eq_zero_iff, isLeft, isDepth]
        simp [Placed.depthBehind, opensNone, closes]
      rw [openBehind_cons, nests, noneLeft]
      rfl
  | @opening depth token others opens _ inductionHypothesis =>
      rw [List.cons_append, openBehind_cons, Placed.nest_of_opens opens,
        Option.bind_some] at nested
      rw [openBehind_cons, Placed.nest_of_opens opens, Option.bind_some]
      exact inductionHypothesis (by simp [isDepth]) nested
  | @closing depth token others opensNone closes _ inductionHypothesis =>
      obtain ⟨left, nests, isLeft, nestedRest⟩ :=
        exists_of_openBehind_inside (by omega) nested
      rw [openBehind_cons, nests, Option.bind_some]
      refine inductionHypothesis ?_ nestedRest
      simp [isLeft, Placed.depthBehind, opensNone, closes, isDepth]
  | @other depth token others opensNone closesNone _ inductionHypothesis =>
      rw [List.cons_append, openBehind_cons,
        Placed.nest_of_other opensNone closesNone,
        Option.bind_some] at nested
      rw [openBehind_cons, Placed.nest_of_other opensNone closesNone,
        Option.bind_some]
      exact inductionHypothesis isDepth nested

/-- A group whose brackets are closed again can be skipped. -/
theorem skipGroup_succeeds
    {opener : Placed}
    {inner opened : List Placed}
    {depth bound : Nat}
    {tokens : List Placed}
    {bounded : tokens.length ≤ bound}
    (isOpen : 0 < depth)
    (isDepth : inner.length = depth)
    (nested : openBehind (inner ++ opened) tokens = some []) :
    ∃ group, skipGroup opener depth bound tokens bounded = .ok group := by
  fun_induction skipGroup opener depth bound tokens bounded generalizing inner
    with
  | case1 =>
      have noneOpen : inner = [] := by
        simp only [openBehind_nil, Option.some.injEq,
          List.append_eq_nil_iff] at nested
        exact nested.1
      simp only [noneOpen, List.length_nil] at isDepth
      omega
  | case2 depth token rest _ _ opens inductionHypothesis =>
      obtain ⟨left, _, isLeft, nestedRest⟩ :=
        exists_of_openBehind_inside (by omega) nested
      refine inductionHypothesis (Nat.succ_pos depth) ?_ nestedRest
      simp [isLeft, Placed.depthBehind, opens, isDepth]
  | case3 token rest _ _ opensNone closes =>
      exact ⟨_, rfl⟩
  | case4 depth token rest _ _ opensNone closes notLast inductionHypothesis =>
      obtain ⟨left, _, isLeft, nestedRest⟩ :=
        exists_of_openBehind_inside (by omega) nested
      refine inductionHypothesis (by omega) ?_ nestedRest
      simp [isLeft, Placed.depthBehind, opensNone, closes, isDepth]
  | case5 depth token rest _ _ opensNone closesNone inductionHypothesis =>
      obtain ⟨left, _, isLeft, nestedRest⟩ :=
        exists_of_openBehind_inside (by omega) nested
      refine inductionHypothesis isOpen ?_ nestedRest
      simp [isLeft, Placed.depthBehind, opensNone, closesNone, isDepth]

/-- A group in parentheses inside a body is closed again. -/
theorem InBody.exists_group
    {opener : Placed}
    {opened rest : List Placed}
    {bound : Nat}
    (bounded : rest.length ≤ bound)
    (inBody : InBody opened (opener :: rest))
    (isOpener : opener.is "(" = true) :
    ∃ group,
      skipGroup opener 1 bound rest bounded = .ok group ∧
        ClosesUpTo [] (opener :: rest) group.rest := by
  have isDelimiter : opener.token.isDelimiter "(" = true :=
    Placed.isDelimiter_of_reads
      (inBody.plain opener (by simp))
      (by decide : '(' ∈ brackets)
      (Placed.reads_of_is isOpener)
  have opens : opener.token.opensBracket = true :=
    Token.opensBracket_of_isDelimiter isDelimiter
  have nested : openBehind ([opener] ++ opened) rest = some [] := by
    have whole := inBody.nested
    rwa [openBehind_cons, Placed.nest_of_opens opens,
      Option.bind_some] at whole
  obtain ⟨group, skipped⟩ :
      ∃ group, skipGroup opener 1 bound rest bounded = .ok group :=
    skipGroup_succeeds Nat.one_pos rfl nested
  obtain ⟨taken, same, isGroup, _⟩ := skipGroup_takes Nat.one_pos skipped
  rw [same] at nested
  exact
    ⟨group, skipped,
      .cons
        (Placed.nest_of_opens opens)
        ⟨taken, same, isGroup.closes rfl nested⟩⟩

/-- The condition of a control statement can be skipped. -/
theorem InBody.exists_condition
    {profile : Profile}
    {opened tokens : List Placed}
    (inBody : InBody opened tokens)
    (inParentheses : profile.parenConditions = true)
    (keyword : String) :
    ∃ condition,
      skipCondition profile keyword tokens = .ok condition ∧
        ClosesUpTo [] tokens condition.rest := by
  unfold skipCondition
  rw [if_pos inParentheses]
  cases tokens with
  | nil =>
      exact ⟨_, rfl, .refl []⟩
  | cons opener rest =>
      cases isOpener : opener.is "(" with
      | true =>
          obtain ⟨group, skipped, closes⟩ :=
            inBody.exists_group (Nat.le_succ rest.length) isOpener
          simp only [isOpener, ↓reduceIte, skipped]
          exact ⟨_, rfl, closes⟩
      | false =>
          simp only [isOpener, Bool.false_eq_true, ↓reduceIte]
          exact ⟨_, rfl, .refl (opener :: rest)⟩

/-- The condition behind a `do` block can be skipped. -/
theorem InBody.exists_loopCondition
    {opened tokens : List Placed}
    (inBody : InBody opened tokens)
    (keyword : Placed) :
    ∃ condition,
      readLoopCondition keyword tokens = .ok condition ∧
        ClosesUpTo [] tokens condition.rest := by
  unfold readLoopCondition
  cases tokens with
  | nil =>
      exact ⟨_, rfl, .refl []⟩
  | cons opener rest =>
      cases isOpener : opener.is "(" with
      | true =>
          obtain ⟨group, skipped, closes⟩ :=
            inBody.exists_group (Nat.le_succ rest.length) isOpener
          simp only [isOpener, ↓reduceIte]
          exact ⟨group, skipped, closes⟩
      | false =>
          simp only [isOpener, Bool.false_eq_true, ↓reduceIte]
          exact ⟨_, rfl, .refl (opener :: rest)⟩

/-- A semicolon opens and closes nothing. -/
theorem readEnding_closesUpTo
    (last : Placed)
    (tokens : List Placed) :
    ClosesUpTo [] tokens (readEnding last tokens).rest := by
  unfold readEnding
  split
  · exact .refl []
  · next ending rest =>
      split
      · next isSemicolon =>
          exact
            .cons
              (Placed.nest_of_is isSemicolon (by decide) (by decide))
              (.refl rest)
      · exact .refl (ending :: rest)

/-- The clause behind a `do` block can be read. -/
theorem InBody.exists_loopTail
    {opened tokens : List Placed}
    (inBody : InBody opened tokens)
    (last : Placed) :
    ∃ tail,
      readLoopTail last tokens = .ok tail ∧
        ClosesUpTo [] tokens tail.rest := by
  unfold readLoopTail
  cases tokens with
  | nil =>
      exact ⟨_, rfl, .refl []⟩
  | cons keyword rest =>
      cases isWhile : keyword.is "while" with
      | true =>
          have nests : keyword.nest [] = some [] :=
            Placed.nest_of_is isWhile (by decide) (by decide)
          have behindKeyword : InBody opened rest :=
            inBody.behind (.cons nests (.refl rest))
          obtain ⟨condition, read, closes⟩ :=
            behindKeyword.exists_loopCondition keyword
          simp only [isWhile, ↓reduceIte, read]
          exact
            ⟨_, rfl,
              .cons nests
                (closes.trans (readEnding_closesUpTo _ condition.rest))⟩
      | false =>
          simp only [isWhile, Bool.false_eq_true, ↓reduceIte]
          exact ⟨_, rfl, .refl (keyword :: rest)⟩

/-- A block can be ended behind its body. -/
theorem InBody.exists_closed
    {opened tokens : List Placed}
    (inBody : InBody opened tokens)
    (head : BlockHead)
    (body : List Node)
    (last : Placed) :
    ∃ closed,
      closeBlock head body last tokens = .ok closed ∧
        ClosesUpTo [] tokens closed.rest := by
  unfold closeBlock
  split
  · obtain ⟨tail, read, closes⟩ := inBody.exists_loopTail last
    rw [read]
    exact ⟨_, rfl, closes⟩
  · exact ⟨_, rfl, .refl tokens⟩

/-- No block is refused behind its body. -/
theorem InBody.closeBlock_ne_error
    {opened tokens : List Placed}
    {head : BlockHead}
    {body : List Node}
    {last : Placed}
    (inBody : InBody opened tokens)
    (fault : Fault) :
    closeBlock head body last tokens ≠ .error fault := by
  obtain ⟨closed, closes, _⟩ := inBody.exists_closed head body last
  rw [closes]
  nofun

/-- What a statement's opening takes of `tokens` closes those in `inner`. -/
def Opening.Nests
    {bound : Nat}
    (inner tokens : List Placed) :
    Opening bound →
    Prop
  | .simple _ after _ =>
      ClosesUpTo inner tokens after
  | .braced head after _ =>
      ClosesUpTo inner tokens (head.opener :: after) ∧
        head.opener.token.isDelimiter "\x7b" = true
  | .bare head after _ =>
      ClosesUpTo inner tokens (head.opener :: after) ∧
        head.opener.is "\x7d" = false

/-- A token may be put before an opening. -/
theorem Opening.Nests.cons
    {bound : Nat}
    {opening : Opening bound}
    {token : Placed}
    {inner stack rest : List Placed}
    (nests : token.nest inner = some stack)
    (opens : opening.Nests stack rest) :
    opening.Nests inner (token :: rest) := by
  cases opening with
  | simple =>
      exact ClosesUpTo.cons nests opens
  | braced | bare =>
      exact ⟨ClosesUpTo.cons nests opens.1, opens.2⟩

/-- Reading on stops outside all brackets that the statement opened. -/
theorem readOn_nests
    {profile : Profile}
    {start current : Placed}
    {header inner opened tokens : List Placed}
    {depth bound : Nat}
    {bounded : tokens.length ≤ bound}
    (isBody : IsBody opened)
    (isDepth : inner.length = depth)
    (nested : openBehind (inner ++ opened) tokens = some []) :
    (readOn profile start current header depth bound tokens bounded).Nests
      inner tokens := by
  have noneOpen
      {inner : List Placed}
      {depth : Nat}
      (isDepth : inner.length = depth)
      (atLevel : depth = 0) :
      inner = [] := by
    rw [← List.length_eq_zero_iff, isDepth, atLevel]
  fun_induction readOn profile start current header depth bound tokens bounded
      generalizing inner
  case case1 _ _ _ _ _ stops =>
    obtain rfl := noneOpen isDepth stops.1
    exact .refl _
  case case2 =>
    have atEnd : inner ++ opened = [] := by
      simpa using nested
    obtain ⟨rfl, _⟩ := List.append_eq_nil_iff.mp atEnd
    exact .refl []
  case case3 token rest _ _ opens _ _ _ _ _ =>
    obtain rfl := noneOpen isDepth opens.1
    exact ⟨.refl (token :: rest), opens.2.1⟩
  case case4 token rest _ _ _ closes _ =>
    obtain rfl := noneOpen isDepth closes.1
    exact .refl (token :: rest)
  case case5 token rest _ _ _ _ ends _ =>
    obtain rfl := noneOpen isDepth ends.1
    have isSemicolon : token.is ";" = true :=
      Placed.is_of_isDelimiter ends.2
    have nests : token.nest [] = some [] :=
      Placed.nest_of_is isSemicolon (by decide) (by decide)
    exact ClosesUpTo.cons nests (.refl rest)
  case case6 depth token rest _ _ inside _ noBrace _ _ inductionHypothesis =>
    have noClosing :
        inner = [] →
        token.token.opensBracket = false →
        token.token.closesBracket = false := by
      rintro rfl opensNone
      by_contra closes
      have isBrace :=
        isBody.isDelimiter_of_closes nested opensNone (by simpa using closes)
      exact noBrace ⟨isDepth.symm, isBrace⟩
    obtain ⟨left, nests, isLeft, nestedRest⟩ :=
      exists_of_openBehind_cons noClosing nested
    have isInside : left.length = inside := by
      rw [isLeft, isDepth]
      rfl
    exact .cons nests (inductionHypothesis isInside nestedRest)

/-- The second part of a keyword opens and closes nothing. -/
theorem readKeyword_closesUpTo
    (first : Placed)
    (rest : List Placed) :
    ClosesUpTo [] rest (readKeyword first rest).rest := by
  unfold readKeyword
  split
  · exact .refl []
  · next second beyond =>
      split
      · next isElseIf =>
          rw [Bool.and_eq_true] at isElseIf
          exact
            .cons
              (Placed.nest_of_is isElseIf.2 (by decide) (by decide))
              (.refl beyond)
      · split
        · next isForAwait =>
            rw [Bool.and_eq_true] at isForAwait
            exact
              .cons
                (Placed.nest_of_is isForAwait.2 (by decide) (by decide))
                (.refl beyond)
        · exact .refl (second :: beyond)

section Openings

variable
  {profile : Profile}
  {first : Placed}
  {opened rest : List Placed}
  {opening : Opening rest.length}
  {fault : Fault}
  (inParentheses : profile.parenConditions = true)
  (inBody : InBody opened (first :: rest))

include inParentheses inBody

/-- The condition behind a control keyword is skipped as a whole. -/
theorem exists_controlCondition
    (isKeyword : first.kind = .keyword) :
    first.nest [] = some [] ∧
      ∃ condition,
        skipCondition
              profile
              (readKeyword first rest).value.1
              (readKeyword first rest).rest =
            .ok condition ∧
          ClosesUpTo [] rest condition.rest := by
  have noBracket : first.nest [] = some [] := by
    have kindSame : first.token.kind = .keyword := isKeyword
    refine Placed.nest_of_other ?_ ?_
    · rw [Token.opensBracket, kindSame]
      rfl
    · rw [Token.closesBracket, kindSame]
      rfl
  have behindKeyword : ClosesUpTo [] rest (readKeyword first rest).rest :=
    readKeyword_closesUpTo first rest
  obtain ⟨condition, skipped, closes⟩ :=
    ((inBody.behind (.cons noBracket (.refl rest))).behind
      behindKeyword).exists_condition inParentheses
        (readKeyword first rest).value.1
  exact ⟨noBracket, condition, skipped, behindKeyword.trans closes⟩

/-- A control statement's opening keeps to the nesting. -/
theorem readControl_nests
    (isKeyword : first.kind = .keyword)
    (read : readControl profile first rest = .ok opening) :
    opening.Nests [] (first :: rest) := by
  obtain ⟨noBracket, condition, skipped, closes⟩ :=
    exists_controlCondition inParentheses inBody isKeyword
  unfold readControl at read
  simp only [skipped] at read
  split at read
  · cases read
  · next opener after same =>
      rw [same] at closes
      have upToOpener : ClosesUpTo [] (first :: rest) (opener :: after) :=
        .cons noBracket closes
      split at read
      · cases read
      · next noBrace =>
          split at read
          · next isBrace =>
              cases read
              refine ⟨upToOpener, ?_⟩
              have plain := (inBody.behind upToOpener).plain opener (by simp)
              exact
                Placed.isDelimiter_of_reads
                  plain (by decide : '\x7b' ∈ brackets)
                  (Placed.reads_of_is isBrace)
          · cases read
            exact ⟨upToOpener, by simpa using noBrace⟩

/-- The only fault of a control statement's opening is that its body misses. -/
theorem readControl_refuses
    (isKeyword : first.kind = .keyword)
    (isControl : (profile.control? first.text).isSome = true)
    (read : readControl profile first rest = .error fault) :
    fault.MissesBody profile := by
  obtain ⟨_, condition, skipped, _⟩ :=
    exists_controlCondition inParentheses inBody isKeyword
  have misses :
      Fault.MissesBody profile
        { cause := .missingBody (readKeyword first rest).value.1
          line := first.token.start.line } := by
    refine ⟨_, rfl, ?_⟩
    rcases readKeyword_shown first rest with isFirst | isElseIf
    · rw [isFirst]
      exact .inl isControl
    · exact .inr isElseIf
  unfold readControl at read
  simp only [skipped] at read
  split at read
  · cases read
    exact misses
  · split at read
    · cases read
      exact misses
    · split at read <;> cases read

/-- However a statement opens, its opening keeps to the nesting. -/
theorem readOpening_nests
    (noBrace : first.is "\x7d" = false)
    (read : readOpening profile first rest = .ok opening) :
    opening.Nests [] (first :: rest) := by
  unfold readOpening at read
  split at read
  · next isControl =>
      exact readControl_nests inParentheses inBody isControl.1 read
  · split at read
    · next isBrace =>
        cases read
        exact
          ⟨.refl (first :: rest),
            Placed.isDelimiter_of_reads
              (inBody.plain first (by simp))
              (by decide : '\x7b' ∈ brackets)
              (Placed.reads_of_is isBrace)⟩
    · dsimp only at read
      cases read
      have noClosing :
          first.token.opensBracket = false →
          first.token.closesBracket = false := by
        intro opensNone
        by_contra closes
        have isBrace :=
          inBody.isBody.isDelimiter_of_closes
            inBody.nested opensNone (by simpa using closes)
        exact
          Bool.false_ne_true
            (noBrace.symm.trans (Placed.is_of_isDelimiter isBrace))
      have nested : openBehind ([] ++ opened) (first :: rest) = some [] :=
        inBody.nested
      obtain ⟨left, nests, isLeft, nestedRest⟩ :=
        exists_of_openBehind_cons (fun _ => noClosing) nested
      refine .cons nests (readOn_nests inBody.isBody ?_ nestedRest)
      simp [isLeft, Placed.depthBehind]

/-- The only fault of an opening is that a control statement has no body. -/
theorem readOpening_refuses
    (read : readOpening profile first rest = .error fault) :
    fault.MissesBody profile := by
  unfold readOpening at read
  split at read
  · next isControl =>
      exact
        readControl_refuses
          inParentheses inBody isControl.1 isControl.2 read
  · split at read <;> cases read

end Openings

end HouseStyle
