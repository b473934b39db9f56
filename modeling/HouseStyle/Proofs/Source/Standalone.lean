import HouseStyle.Proofs.Source.Surplus

namespace HouseStyle

/-!
# Bodies that are read by themselves

Where the brackets of a body balance, the body is read in the same way by itself
and in front of the brace that closes it. The readers look one token ahead, and a
closing brace ends what the end of the tokens ends. Only a statement with a
bracket left open would read on behind the brace, and such a statement is not in
a body whose brackets balance.
-/

/--
Behind `depth` open brackets, the tokens close no bracket that is not open, and
leave none open.
-/
structure Settled
    (depth : Int)
    (tokens : List Placed) :
    Prop where
  never : ∀ front back, tokens = front ++ back → 0 ≤ depth + surplus front
  level : depth + surplus tokens = 0

/-- Tokens that are well nested balance. -/
theorem Nested.settled
    {tokens : List Placed}
    (nested : Nested tokens) :
    Settled 0 tokens where
  never front back same := by
    rw [Nested, same, openBehind_append, Option.bind_eq_some_iff] at nested
    obtain ⟨stack, opens, _⟩ := nested
    have counted := surplus_of_openBehind opens
    rw [List.length_nil] at counted
    omega
  level := by
    have counted := surplus_of_openBehind nested
    rw [List.length_nil] at counted
    omega

namespace Settled

variable {depth : Int} {token : Placed} {rest tokens back : List Placed}

/-- The first token closes none but an open bracket. -/
theorem step_nonneg
    (settled : Settled depth (token :: rest)) :
    0 ≤ depth + token.step := by
  have reached := settled.never [token] rest rfl
  rwa [surplus_cons, surplus_nil, Int.add_zero] at reached

/-- Behind the first token, the others balance. -/
theorem tail
    (settled : Settled depth (token :: rest)) :
    Settled (depth + token.step) rest where
  never front back same := by
    have reached :=
      settled.never (token :: front) back (by rw [same, List.cons_append])
    rw [surplus_cons] at reached
    omega
  level := by
    have level := settled.level
    rw [surplus_cons] at level
    omega

/-- The number of open brackets that a reader counts is the right one. -/
theorem depth_inside
    {depth : Nat}
    (settled : Settled depth (token :: rest)) :
    ((if token.token.opensBracket then
          depth + 1
        else if token.token.closesBracket then
          depth - 1
        else
          depth : Nat) : Int) =
      depth + token.step := by
  have reached := settled.step_nonneg
  rw [Placed.step] at reached ⊢
  split
  · rfl
  · next opensNone =>
      rw [if_neg opensNone] at reached
      split
      · next closes =>
          rw [if_pos closes] at reached
          omega
      · exact (Int.add_zero _).symm

/-- Behind tokens that leave no bracket open, the others balance. -/
theorem behind
    (settled : Settled 0 tokens)
    (isSuffix : back <:+ tokens)
    (noSurplus : back ≠ [] → surplus tokens ≤ surplus back) :
    Settled 0 back := by
  obtain ⟨front, rfl⟩ := isSuffix
  rcases List.eq_nil_or_concat back with rfl | isThere
  · exact
      { never := by simp
        level := rfl }
  · have reached := settled.never front back rfl
    have level := settled.level
    have closed := noSurplus (by obtain ⟨_, _, rfl⟩ := isThere; simp)
    rw [surplus_append] at closed level
    refine ⟨fun middle final same => ?_, by omega⟩
    have further :=
      settled.never (front ++ middle) final (by rw [same, List.append_assoc])
    rw [surplus_append] at further
    omega

end Settled

/-- The start of a statement with more tokens behind those it was read from. -/
def Start.followedBy (beyond : List Placed) : Start → Start
  | .simple last after => .simple last (after ++ beyond)
  | .braced head after => .braced head (after ++ beyond)
  | .bare head after => .bare head (after ++ beyond)

/-! ## Readers that stop before the end -/

/-- A group that is closed is closed with more tokens behind it. -/
theorem groupEnd_append
    {opener last : Placed}
    {depth : Nat}
    {tokens after : List Placed}
    (closes : groupEnd opener depth tokens = .ok (last, after))
    (beyond : List Placed) :
    groupEnd opener depth (tokens ++ beyond) = .ok (last, after ++ beyond) := by
  induction tokens generalizing depth with
  | nil => cases closes
  | cons token rest inductionHypothesis =>
      rw [groupEnd] at closes
      rw [List.cons_append, groupEnd]
      split at closes
      · next opens =>
          rw [if_pos opens]
          exact inductionHypothesis closes
      · next opensNone =>
          rw [if_neg opensNone]
          split at closes
          · next closesOne =>
              rw [if_pos closesOne]
              split at closes
              · next isLast =>
                  rw [if_pos isLast]
                  cases closes
                  rfl
              · next notLast =>
                  rw [if_neg notLast]
                  exact inductionHypothesis closes
          · next closesNone =>
              rw [if_neg closesNone]
              exact inductionHypothesis closes

/-- A brace that is found is found with more tokens behind it. -/
theorem seekBrace_append
    {depth : Int}
    {tokens : List Placed}
    (isThere : seekBrace depth tokens ≠ [])
    (beyond : List Placed) :
    seekBrace depth (tokens ++ beyond) = seekBrace depth tokens ++ beyond := by
  induction tokens generalizing depth with
  | nil => exact (isThere rfl).elim
  | cons token rest inductionHypothesis =>
      rw [seekBrace] at isThere
      rw [List.cons_append, seekBrace, seekBrace]
      split
      · rfl
      · next notFound =>
          rw [if_neg notFound] at isThere
          split
          · next opens =>
              rw [if_pos opens] at isThere
              exact inductionHypothesis isThere
          · next opensNone =>
              rw [if_neg opensNone] at isThere
              split
              · next closes =>
                  rw [if_pos closes] at isThere
                  exact inductionHypothesis isThere
              · next closesNone =>
                  rw [if_neg closesNone] at isThere
                  exact inductionHypothesis isThere

/-- A condition that ends does so with more tokens behind it. -/
theorem conditionEnd_append
    {profile : Profile}
    {keyword : String}
    {tokens after : List Placed}
    (isEnd : profile.conditionEnd keyword tokens = .ok after)
    (isThere : after ≠ [])
    (beyond : List Placed) :
    profile.conditionEnd keyword (tokens ++ beyond) = .ok (after ++ beyond) := by
  unfold Profile.conditionEnd at isEnd ⊢
  split at isEnd
  · next inParentheses =>
      rw [if_pos inParentheses]
      cases tokens with
      | nil =>
          cases isEnd
          exact (isThere rfl).elim
      | cons opener rest =>
          dsimp only [List.cons_append] at isEnd ⊢
          split at isEnd
          · next isGroup =>
              rw [if_pos isGroup]
              obtain ⟨⟨last, left⟩, closes, same⟩ := exists_of_map_eq_ok isEnd
              cases same
              rw [groupEnd_append closes]
              rfl
          · next noGroup =>
              rw [if_neg noGroup]
              cases isEnd
              rfl
  · next noParentheses =>
      rw [if_neg noParentheses]
      split at isEnd
      · next isElse =>
          rw [if_pos isElse]
          cases isEnd
          rfl
      · next noElse =>
          rw [if_neg noElse]
          cases isEnd
          rw [seekBrace_append isThere]

/-- A control statement starts in the same way with more tokens behind it. -/
theorem controlStart_append
    {profile : Profile}
    {first : Placed}
    {keyword role : String}
    {tokens : List Placed}
    {start : Start}
    (starts : profile.controlStart first keyword role tokens = .ok start)
    (beyond : List Placed) :
    profile.controlStart first keyword role (tokens ++ beyond) =
      .ok (start.followedBy beyond) := by
  cases tokens with
  | nil => cases starts
  | cons opener after =>
      rw [Profile.controlStart] at starts
      rw [List.cons_append, Profile.controlStart]
      split at starts
      · cases starts
      · next noClosing =>
          rw [if_neg noClosing]
          split at starts
          · next opens =>
              rw [if_pos opens]
              cases starts
              rfl
          · next noOpening =>
              rw [if_neg noOpening]
              cases starts
              rfl

/-! ## Readers that may come to the end -/

section Readers

variable
  {profile : Profile}
  {closing : Placed}
  (isBrace : closing.token.isDelimiter "\x7d" = true)
  (beyond : List Placed)

include isBrace

/-- A statement that has closed its brackets ends before a closing brace. -/
theorem onwards_append
    {first current : Placed}
    {header tokens : List Placed}
    {depth : Nat}
    {start : Start}
    (reads : profile.onwards first current header depth tokens = start)
    (settled : start.left = [] → Settled depth tokens) :
    profile.onwards first current header depth (tokens ++ closing :: beyond) =
      start.followedBy (closing :: beyond) := by
  induction tokens generalizing current header depth with
  | nil =>
      rw [Profile.onwards] at reads
      subst reads
      -- No bracket is open at the end, so the brace behind it is not taken.
      have level := (settled rfl).level
      rw [surplus_nil] at level
      have atLevel : depth = 0 := by omega
      have noOpening : closing.token.isDelimiter "\x7b" = false := by
        have isClosing : closing.token.text = "\x7d" := by
          simp only [Token.isDelimiter, Bool.and_eq_true, beq_iff_eq] at isBrace
          exact isBrace.2
        simp [Token.isDelimiter, isClosing]
      rw [List.nil_append, Profile.onwards]
      split
      · rfl
      · simp [atLevel, noOpening, isBrace, Start.followedBy]
  | cons token rest inductionHypothesis =>
      rw [Profile.onwards] at reads
      rw [List.cons_append, Profile.onwards]
      have sameEnd :
          lineEnds first current (token :: (rest ++ closing :: beyond)) =
            lineEnds first current (token :: rest) := rfl
      rw [sameEnd]
      split at reads
      · next stops =>
          subst reads
          rw [if_pos stops]
          rfl
      · next goesOn =>
          rw [if_neg goesOn]
          split at reads
          · next opens =>
              subst reads
              rw [if_pos opens]
              rfl
          · next noBlock =>
              rw [if_neg noBlock]
              split at reads
              · next closes =>
                  subst reads
                  rw [if_pos closes]
                  rfl
              · next noClosing =>
                  rw [if_neg noClosing]
                  split at reads
                  · next ends =>
                      subst reads
                      rw [if_pos ends]
                      rfl
                  · next noEnd =>
                      rw [if_neg noEnd]
                      refine inductionHypothesis reads fun atEnd => ?_
                      have inside := (settled atEnd).depth_inside
                      rw [inside]
                      exact (settled atEnd).tail

/-- No keyword of two words ends with a closing brace. -/
theorem keywordOf_append
    (first : Placed)
    (rest : List Placed) :
    keywordOf first (rest ++ closing :: beyond) =
      ((keywordOf first rest).1, (keywordOf first rest).2 ++ closing :: beyond) := by
  cases rest with
  | nil =>
      have noIf : closing.is "if" = false :=
        Placed.is_eq_false (Placed.is_of_isDelimiter isBrace) (by decide)
      have noAwait : closing.is "await" = false :=
        Placed.is_eq_false (Placed.is_of_isDelimiter isBrace) (by decide)
      simp [keywordOf, noIf, noAwait]
  | cons second others =>
      rw [List.cons_append, keywordOf, keywordOf]
      split
      · rfl
      · split <;> rfl

/-- A statement starts in the same way before a closing brace. -/
theorem startOf_append
    {first : Placed}
    {rest : List Placed}
    {start : Start}
    (starts : profile.startOf first rest = .ok start)
    (settled : start.left = [] → Settled 0 (first :: rest)) :
    profile.startOf first (rest ++ closing :: beyond) =
      .ok (start.followedBy (closing :: beyond)) := by
  rw [Profile.startOf_eq] at starts ⊢
  split at starts
  · next isControl =>
      rw [if_pos isControl]
      obtain ⟨after, isEnd, begins⟩ := exists_of_bind_eq_ok starts
      have isThere : after ≠ [] := by
        rintro rfl
        cases begins
      have ends := conditionEnd_append isEnd isThere (closing :: beyond)
      rw [Profile.controlOf, keywordOf_append isBrace]
      dsimp only
      rw [ends]
      exact controlStart_append begins (closing :: beyond)
  · next noControl =>
      rw [if_neg noControl]
      split at starts
      · next isBody =>
          rw [if_pos isBody]
          cases starts
          rfl
      · next noBody =>
          rw [if_neg noBody]
          have reads := Except.ok.inj starts
          refine congrArg Except.ok (onwards_append isBrace beyond reads fun atEnd => ?_)
          have settledAll : Settled (0 : Nat) (first :: rest) := settled atEnd
          have inside := settledAll.depth_inside
          simp only [Nat.zero_add, Nat.zero_sub, ite_self] at inside
          rw [inside]
          exact (settled atEnd).tail

/-- A loop's end is read in the same way before a closing brace. -/
theorem loopConditionEnd_append
    {keyword last : Placed}
    {tokens after : List Placed}
    (isEnd : loopConditionEnd keyword tokens = .ok (last, after)) :
    loopConditionEnd keyword (tokens ++ closing :: beyond) =
      .ok (last, after ++ closing :: beyond) := by
  cases tokens with
  | nil =>
      have noGroup : closing.is "(" = false :=
        Placed.is_eq_false (Placed.is_of_isDelimiter isBrace) (by decide)
      cases isEnd
      simp [loopConditionEnd, noGroup]
  | cons opener rest =>
      rw [loopConditionEnd] at isEnd
      rw [List.cons_append, loopConditionEnd]
      split at isEnd
      · next isGroup =>
          rw [if_pos isGroup]
          exact groupEnd_append isEnd (closing :: beyond)
      · next noGroup =>
          rw [if_neg noGroup]
          cases isEnd
          rfl

/-- A closing brace is no semicolon. -/
theorem endingAfter_append
    (last : Placed)
    (tokens : List Placed) :
    endingAfter last (tokens ++ closing :: beyond) =
      ((endingAfter last tokens).1,
        (endingAfter last tokens).2 ++ closing :: beyond) := by
  cases tokens with
  | nil =>
      have noEnding : closing.is ";" = false :=
        Placed.is_eq_false (Placed.is_of_isDelimiter isBrace) (by decide)
      simp [endingAfter, noEnding]
  | cons ending rest =>
      rw [List.cons_append, endingAfter, endingAfter]
      split <;> rfl

/-- The clause behind a `do` block ends before a closing brace. -/
theorem loopEnd_append
    {last final : Placed}
    {tokens after : List Placed}
    (isEnd : loopEnd last tokens = .ok (final, after)) :
    loopEnd last (tokens ++ closing :: beyond) =
      .ok (final, after ++ closing :: beyond) := by
  cases tokens with
  | nil =>
      have noLoop : closing.is "while" = false :=
        Placed.is_eq_false (Placed.is_of_isDelimiter isBrace) (by decide)
      cases isEnd
      simp [loopEnd, noLoop]
  | cons keyword rest =>
      rw [loopEnd] at isEnd
      rw [List.cons_append, loopEnd]
      split at isEnd
      · next isLoop =>
          rw [if_pos isLoop]
          obtain ⟨⟨middle, left⟩, condition, ends⟩ := exists_of_map_eq_ok isEnd
          have same : endingAfter middle left = (final, after) := ends
          rw [loopConditionEnd_append isBrace beyond condition]
          refine congrArg Except.ok ?_
          exact (endingAfter_append isBrace beyond middle left).trans (by rw [same])
      · next noLoop =>
          rw [if_neg noLoop]
          cases isEnd
          rfl

/-- A block that ends does so before a closing brace. -/
theorem closedOf_append
    {head : BlockHead}
    {body : List Node}
    {last : Placed}
    {tokens after : List Placed}
    {node : Node}
    (closes : closedOf head body last tokens = .ok (node, after)) :
    closedOf head body last (tokens ++ closing :: beyond) =
      .ok (node, after ++ closing :: beyond) := by
  rw [closedOf_eq] at closes ⊢
  split at closes
  · next isLoop =>
      rw [if_pos isLoop]
      obtain ⟨⟨final, left⟩, isEnd, same⟩ := exists_of_map_eq_ok closes
      cases same
      rw [loopEnd_append isBrace beyond isEnd]
      rfl
  · next noLoop =>
      rw [if_neg noLoop]
      cases closes
      rfl

mutual

/-- A body whose brackets balance is read as if nothing followed its brace. -/
theorem bodyOf_append
    {tokens after : List Placed}
    {nodes : List Node}
    (plain : ∀ placed ∈ tokens, placed.token.DelimitsBrackets)
    (isRead : profile.bodyOf tokens = .ok (nodes, after))
    (settled : after = [] → Settled 0 tokens) :
    profile.bodyOf (tokens ++ closing :: beyond) =
      .ok (nodes, after ++ closing :: beyond) := by
  match tokens with
  | [] =>
      have closes := Placed.is_of_isDelimiter isBrace
      rw [Profile.bodyOf_nil] at isRead
      cases isRead
      rw [List.nil_append, Profile.bodyOf_cons, if_pos closes]
  | token :: rest =>
      rw [Profile.bodyOf_cons] at isRead
      rw [List.cons_append, Profile.bodyOf_cons]
      split at isRead
      · next closes =>
          rw [if_pos closes]
          cases isRead
          rfl
      · next noClosing =>
          rw [if_neg noClosing]
          split at isRead
          · next isSemicolon =>
              rw [if_pos isSemicolon]
              refine bodyOf_append ?_ isRead fun atEnd => ?_
              · exact fun placed member =>
                  plain placed (List.mem_cons_of_mem token member)
              · have noBracket := Placed.step_of_is isSemicolon rfl rfl
                have behind := (settled atEnd).tail
                rwa [noBracket] at behind
          · next noSemicolon =>
              rw [if_neg noSemicolon]
              obtain ⟨⟨node, middle⟩, isStatement, others⟩ :=
                exists_of_bind_eq_ok isRead
              obtain ⟨⟨nodes, left⟩, isBody, same⟩ := exists_of_bind_eq_ok others
              cases same
              have shorter := Profile.length_le_of_statementOf isStatement
              have isSuffix := statementOf_suffix isStatement
              have first :
                  profile.statementOf token (rest ++ closing :: beyond) =
                    .ok (node, middle ++ closing :: beyond) := by
                refine statementOf_append plain isStatement fun atEnd => ?_
                -- A statement with nothing behind it ends the body as well.
                subst atEnd
                rw [Profile.bodyOf_nil] at isBody
                cases isBody
                exact settled rfl
              have behind :
                  profile.bodyOf (middle ++ closing :: beyond) =
                    .ok (nodes, after ++ closing :: beyond) := by
                refine bodyOf_append ?_ isBody fun atEnd => ?_
                · exact fun placed member =>
                    plain placed (isSuffix.subset member)
                · exact
                    (settled atEnd).behind isSuffix
                      (surplus_statementOf plain isStatement)
              rw [first, ok_bind]
              dsimp only
              rw [behind]
              rfl
  termination_by (tokens.length, 1)

/-- A statement whose brackets balance ends before a closing brace. -/
theorem statementOf_append
    {first : Placed}
    {rest after : List Placed}
    {node : Node}
    (plain : ∀ placed ∈ first :: rest, placed.token.DelimitsBrackets)
    (isRead : profile.statementOf first rest = .ok (node, after))
    (settled : after = [] → Settled 0 (first :: rest)) :
    profile.statementOf first (rest ++ closing :: beyond) =
      .ok (node, after ++ closing :: beyond) := by
  rw [Profile.statementOf_eq] at isRead ⊢
  obtain ⟨start, starts, ends⟩ := exists_of_bind_eq_ok isRead
  have isSuffix := left_suffix starts
  match start with
  | .simple last inside =>
      cases ends
      rw [startOf_append isBrace beyond starts settled]
      rfl
  | .braced head inside =>
      have shorter := Profile.length_le_of_startOf_braced starts
      have plainInside : ∀ placed ∈ inside, placed.token.DelimitsBrackets :=
        fun placed member =>
          plain placed
            (isSuffix.subset (List.mem_cons_of_mem head.opener member))
      obtain ⟨⟨body, left⟩, isBody, encloses⟩ := exists_of_bind_eq_ok ends
      cases left with
      | nil => cases encloses
      | cons closer others =>
          have inBody :=
            bodyOf_append plainInside isBody (by nofun)
          rw [startOf_append isBrace beyond starts (by nofun), ok_bind,
            Start.followedBy, Profile.endOf, inBody, ok_bind]
          exact closedOf_append isBrace beyond encloses
  | .bare head inside =>
      have shorter := Profile.length_lt_of_startOf_bare starts
      rw [startOf_append isBrace beyond starts (by nofun), ok_bind,
        Start.followedBy, Profile.endOf]
      rw [Profile.endOf] at ends
      split at ends
      · next isSemicolon =>
          rw [if_pos isSemicolon]
          exact closedOf_append isBrace beyond ends
      · next noSemicolon =>
          rw [if_neg noSemicolon]
          obtain ⟨⟨body, left⟩, isBody, closes⟩ := exists_of_bind_eq_ok ends
          have inBody :
              profile.statementOf head.opener (inside ++ closing :: beyond) =
                .ok (body, left ++ closing :: beyond) := by
            refine
              statementOf_append
                (fun placed member => plain placed (isSuffix.subset member))
                isBody fun atEnd => ?_
            -- With nothing behind the body, the block ends where its body ends.
            subst atEnd
            cases (closedOf_nil head [body] body.last).symm.trans closes
            exact
              (settled rfl).behind isSuffix fun _ =>
                surplus_startOf starts (by nofun)
          rw [inBody, ok_bind]
          exact closedOf_append isBrace beyond closes
  termination_by (rest.length + 1, 0)

end

end Readers

end HouseStyle
