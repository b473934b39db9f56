import HouseStyle.Proofs.Source.BraceReading
import HouseStyle.Proofs.Source.Spelling

namespace HouseStyle

/-!
# Statements between braces are spelled by their tokens

Each reader takes a row of tokens from the front of what is left. The lemmas
below say for every reader which tokens those are, from the bracketed group up
to the statement and the body. Put together, the forest of a file is spelled by
all of its code tokens: none is lost and none is used twice.
-/

/-- What a statement's opening takes from the front of `tokens`. -/
def Opening.Takes
    {bound : Nat}
    (tokens : List Placed) :
    Opening bound →
    Prop
  | .simple last after _ =>
      ∃ taken,
        tokens = taken ++ after ∧
          taken.getLast? = some last
  | .braced head after _ =>
      ∃ header,
        tokens = header ++ head.opener :: after ∧
          (header ++ [head.opener]).head? = some head.first ∧
          head.delimited = true
  | .bare head after _ =>
      ∃ header,
        tokens = header ++ head.opener :: after ∧
          header.head? = some head.first ∧
          head.delimited = false

/-- Reading on takes the header so far and what it adds to it. -/
theorem readOn_takes
    (profile : Profile)
    (start current : Placed)
    (header : List Placed)
    (depth bound : Nat)
    (tokens : List Placed)
    (bounded : tokens.length ≤ bound)
    (isCurrent : header.head? = some current)
    (isStart : header.getLast? = some start) :
    (readOn profile start current header depth bound tokens bounded).Takes
      (header.reverse ++ tokens) := by
  -- `header` holds the tokens from `start` up to `current`, the last one first.
  fun_induction readOn profile start current header depth bound tokens bounded
  case case1 | case2 | case4 =>
    exact ⟨_, rfl, by simpa using isCurrent⟩
  case case3 =>
    exact ⟨_, rfl, by simp [List.head?_append, isStart], rfl⟩
  case case5 current header depth token rest _ _ _ _ _ _ =>
    exact ⟨header.reverse ++ [token], by simp, by simp⟩
  case case6 current header depth token rest _ _ _ _ _ _ _ taken =>
    have moved := taken (by simp) (by simp [List.getLast?_cons, isStart])
    simpa using moved

/-- Skipping a group takes the tokens up to its closing bracket. -/
theorem skipGroup_takes
    {opener : Placed}
    {depth bound : Nat}
    {tokens : List Placed}
    {bounded : tokens.length ≤ bound}
    {group : Reading Placed bound}
    (isOpen : 0 < depth)
    (skipped : skipGroup opener depth bound tokens bounded = .ok group) :
    ∃ taken,
      tokens = taken ++ group.rest ∧
        ClosesGroup depth taken ∧
        taken.getLast? = some group.value := by
  fun_induction skipGroup opener depth bound tokens bounded with
  | case1 =>
      cases skipped
  | case2 depth token rest _ _ opens inductionHypothesis =>
      obtain ⟨taken, same, closesGroup, ends⟩ :=
        inductionHypothesis (Nat.succ_pos depth) skipped
      refine ⟨token :: taken, by simp [same], ?_, ?_⟩
      · exact .opening opens closesGroup
      · simp [List.getLast?_cons, ends]
  | case3 token rest _ _ opensNone closes =>
      cases skipped
      exact ⟨[token], rfl, .last (by simpa using opensNone) closes, rfl⟩
  | case4 depth token rest _ _ opensNone closes notLast inductionHypothesis =>
      obtain ⟨outer, rfl⟩ : ∃ outer, depth = outer + 2 :=
        ⟨depth - 2, by omega⟩
      obtain ⟨taken, same, closesGroup, ends⟩ :=
        inductionHypothesis (by omega) skipped
      refine ⟨token :: taken, by simp [same], ?_, ?_⟩
      · exact .closing (by simpa using opensNone) closes closesGroup
      · simp [List.getLast?_cons, ends]
  | case5 depth token rest _ _ opensNone closesNone inductionHypothesis =>
      obtain ⟨taken, same, closesGroup, ends⟩ :=
        inductionHypothesis isOpen skipped
      refine ⟨token :: taken, by simp [same], ?_, ?_⟩
      · exact
          .other (by simpa using opensNone) (by simpa using closesNone)
            closesGroup
      · simp [List.getLast?_cons, ends]

/-- What `seekBrace` leaves is the end of what it is given. -/
theorem seekBrace_suffix
    (depth : Int)
    (tokens : List Placed) :
    seekBrace depth tokens <:+ tokens := by
  fun_induction seekBrace depth tokens with
  | case1 =>
      exact List.suffix_rfl
  | case2 =>
      exact List.suffix_rfl
  | case3 _ token rest _ _ inductionHypothesis =>
      exact inductionHypothesis.trans (List.suffix_cons token rest)
  | case4 _ token rest _ _ _ inductionHypothesis =>
      exact inductionHypothesis.trans (List.suffix_cons token rest)
  | case5 _ token rest _ _ _ inductionHypothesis =>
      exact inductionHypothesis.trans (List.suffix_cons token rest)

/-- Skipping a condition leaves the end of what it is given. -/
theorem skipCondition_suffix
    {profile : Profile}
    {keyword : String}
    {tokens : List Placed}
    {condition : Reading Unit tokens.length}
    (skipped : skipCondition profile keyword tokens = .ok condition) :
    condition.rest <:+ tokens := by
  unfold skipCondition at skipped
  split at skipped
  · split at skipped
    · cases skipped
      exact List.suffix_rfl
    · next opener rest =>
        split at skipped
        · split at skipped
          · cases skipped
          · next group skippedGroup =>
              cases skipped
              obtain ⟨taken, same, _, _⟩ :=
                skipGroup_takes Nat.one_pos skippedGroup
              exact ⟨opener :: taken, by simp [same]⟩
        · cases skipped
          exact List.suffix_rfl
  · split at skipped
    · cases skipped
      exact List.suffix_rfl
    · cases skipped
      exact seekBrace_suffix 0 tokens

/-- Reading a keyword leaves the end of what stands behind its first part. -/
theorem readKeyword_suffix
    (first : Placed)
    (rest : List Placed) :
    (readKeyword first rest).rest <:+ rest := by
  unfold readKeyword
  split
  · exact List.suffix_rfl
  · next second beyond =>
      split
      · exact List.suffix_cons second beyond
      · split
        · exact List.suffix_cons second beyond
        · exact List.suffix_rfl

/-- A control statement is shown by its first token or as `else if`. -/
theorem readKeyword_shown
    (first : Placed)
    (rest : List Placed) :
    (readKeyword first rest).value.1 = first.text ∨
      (readKeyword first rest).value.1 = "else if" := by
  unfold readKeyword
  split
  · exact .inl rfl
  · split
    · exact .inr rfl
    · split
      · exact .inl rfl
      · exact .inl rfl

/-- The fault says that a control keyword of the language has no body. -/
def Fault.MissesBody
    (profile : Profile)
    (fault : Fault) :
    Prop :=
  ∃ keyword,
    fault.cause = .missingBody keyword ∧
      ((profile.control? keyword).isSome = true ∨ keyword = "else if")

/-- A control statement opens with its keyword and condition. -/
theorem readControl_takes
    {profile : Profile}
    {first : Placed}
    {rest : List Placed}
    {opening : Opening rest.length}
    (read : readControl profile first rest = .ok opening) :
    opening.Takes (first :: rest) := by
  unfold readControl at read
  dsimp only at read
  split at read
  · cases read
  · next condition skipped =>
      have isEnd : condition.rest <:+ rest :=
        (skipCondition_suffix skipped).trans (readKeyword_suffix first rest)
      split at read
      · cases read
      · next opener after same =>
          rw [same] at isEnd
          obtain ⟨skippedTokens, joined⟩ := isEnd
          have whole :
              first :: rest =
                (first :: skippedTokens) ++ opener :: after := by
            simp [joined]
          split at read
          · cases read
          · split at read
            · next isDelimited =>
                cases read
                exact ⟨first :: skippedTokens, whole, rfl, isDelimited⟩
            · next isBare =>
                cases read
                exact
                  ⟨first :: skippedTokens, whole, rfl,
                    by simpa using isBare⟩

/-- However a statement opens, its first token is the first one taken. -/
theorem readOpening_takes
    {profile : Profile}
    {first : Placed}
    {rest : List Placed}
    {opening : Opening rest.length}
    (read : readOpening profile first rest = .ok opening) :
    opening.Takes (first :: rest) := by
  unfold readOpening at read
  split at read
  · exact readControl_takes read
  · split at read
    · cases read
      exact ⟨[], rfl, rfl, rfl⟩
    · dsimp only at read
      cases read
      simpa using
        readOn_takes profile first first [first]
          (if first.token.opensBracket then 1 else 0)
          _ rest (Nat.le_refl _) rfl rfl

/-- The condition of a loop's end is a group in parentheses, or missing. -/
theorem readLoopCondition_takes
    {keyword : Placed}
    {tokens : List Placed}
    {condition : Reading Placed tokens.length}
    (read : readLoopCondition keyword tokens = .ok condition) :
    ∃ taken,
      tokens = taken ++ condition.rest ∧
        IsLoopCondition taken ∧
        (keyword :: taken).getLast? = some condition.value := by
  unfold readLoopCondition at read
  split at read
  · cases read
    exact ⟨[], rfl, .inl rfl, rfl⟩
  · next opener rest =>
      split at read
      · next isOpener =>
          obtain ⟨taken, same, closesGroup, ends⟩ :=
            skipGroup_takes Nat.one_pos read
          refine ⟨opener :: taken, by simp [same], ?_, ?_⟩
          · exact
              .inr
                ⟨opener, taken, rfl, Placed.reads_of_is isOpener,
                  closesGroup⟩
          · simp [List.getLast?_cons, ends]
      · cases read
        exact ⟨[], rfl, .inl rfl, rfl⟩

/-- A statement's end is a semicolon, or missing. -/
theorem readEnding_takes
    (last : Placed)
    (tokens : List Placed) :
    ∃ taken,
      tokens = taken ++ (readEnding last tokens).rest ∧
        IsStatementEnd taken ∧
        (last :: taken).getLast? = some (readEnding last tokens).value := by
  unfold readEnding
  split
  · exact ⟨[], rfl, .inl rfl, rfl⟩
  · next ending rest =>
      split
      · next isSemicolon =>
          exact
            ⟨[ending], rfl,
              .inr ⟨ending, rfl, Placed.reads_of_is isSemicolon⟩, rfl⟩
      · exact ⟨[], rfl, .inl rfl, rfl⟩

theorem getLast?_cons_append
    {first middle final : Placed}
    {left right : List Placed}
    (leftEnds : (first :: left).getLast? = some middle)
    (rightEnds : (middle :: right).getLast? = some final) :
    (first :: (left ++ right)).getLast? = some final := by
  rw [← List.cons_append, List.getLast?_append, leftEnds, ← rightEnds,
    List.getLast?_cons]
  cases right.getLast? <;> rfl

/-- The clause behind a `do` block is a loop tail, or there is none. -/
theorem readLoopTail_takes
    {last : Placed}
    {tokens : List Placed}
    {tail : Reading Placed tokens.length}
    (read : readLoopTail last tokens = .ok tail) :
    ∃ taken,
      tokens = taken ++ tail.rest ∧
        (taken = [] ∨ IsLoopTail taken) ∧
        (last :: taken).getLast? = some tail.value := by
  unfold readLoopTail at read
  split at read
  · cases read
    exact ⟨[], rfl, .inl rfl, rfl⟩
  · next keyword rest =>
      split at read
      · next isWhile =>
          split at read
          · cases read
          · next condition readCondition =>
              cases read
              obtain ⟨group, groupSame, isCondition, groupEnds⟩ :=
                readLoopCondition_takes readCondition
              obtain ⟨ending, endingSame, isEnding, endingEnds⟩ :=
                readEnding_takes condition.value condition.rest
              refine ⟨keyword :: (group ++ ending), ?_, ?_, ?_⟩
              · have restSame :
                    rest =
                      group ++
                        (ending ++
                          (readEnding condition.value condition.rest).rest) :=
                  groupSame.trans (congrArg (group ++ ·) endingSame)
                simpa using restSame
              · exact
                  .inr
                    ⟨keyword, group, ending, rfl, Placed.reads_of_is isWhile,
                      isCondition, isEnding⟩
              · rw [List.getLast?_cons_cons]
                exact getLast?_cons_append groupEnds endingEnds
      · cases read
        exact ⟨[], rfl, .inl rfl, rfl⟩

/-- What closes a block stands directly behind it. -/
theorem closeBlock_takes
    {head : BlockHead}
    {body : List Node}
    {last : Placed}
    {tokens : List Placed}
    {closed : Reading Node tokens.length}
    (closes : closeBlock head body last tokens = .ok closed) :
    ∃ taken final,
      tokens = taken ++ closed.rest ∧
        (taken = [] ∨ (head.keyword = "do" ∧ IsLoopTail taken)) ∧
        (last :: taken).getLast? = some final ∧
        closed.value = .block head body final := by
  unfold closeBlock at closes
  split at closes
  · next isDo =>
      split at closes
      · cases closes
      · next tail readTail =>
          cases closes
          obtain ⟨taken, same, isTail, ends⟩ := readLoopTail_takes readTail
          exact
            ⟨taken, tail.value, same,
              isTail.imp_right fun loopTail => ⟨isDo, loopTail⟩,
              ends, rfl⟩
  · cases closes
    exact ⟨[], last, rfl, .inl rfl, rfl, rfl⟩

/-- A row that is not empty starts where the whole starts. -/
private theorem head?_of_cons_eq_append
    {first last : Placed}
    {rest taken after : List Placed}
    (same : first :: rest = taken ++ after)
    (ends : taken.getLast? = some last) :
    taken.head? = some first := by
  cases taken with
  | nil =>
      simp at ends
  | cons head others =>
      simp only [List.cons_append, List.cons.injEq] at same
      rw [same.1]
      rfl

/-- A body stops only before a closing brace. -/
theorem ReadsBody.closes
    {profile : Profile}
    {tokens beyond : List Placed}
    {nodes : List Node}
    {closing : Placed} :
    ReadsBody profile tokens nodes (closing :: beyond) →
    closing.is "\x7d" = true
  | .atBrace closes =>
      closes
  | .semicolon _ others =>
      others.closes
  | .statement _ _ _ others =>
      others.closes

/-- Closing a block whose body is one statement spells the block. -/
theorem Spells.closeBlock
    {head : BlockHead}
    {node : Node}
    {inside after : List Placed}
    {closed : Reading Node after.length}
    (header : List Placed)
    (isBare : head.delimited = false)
    (starts : header.head? = some head.first)
    (opens : node.first = head.opener)
    (spelled : Spells .braces node inside)
    (closes : HouseStyle.closeBlock head [node] node.last after = .ok closed) :
    ∃ tail,
      after = tail ++ closed.rest ∧
        Spells .braces closed.value (header ++ (inside ++ tail)) := by
  obtain ⟨tail, final, tailSame, isTail, ends, value⟩ :=
    closeBlock_takes closes
  have isEnd : IsBlockEnd .braces head.keyword head.delimited tail := by
    refine ⟨[], tail, rfl, by simp [IsClosing, isBare], ?_⟩
    exact isTail.imp_right fun clause => ⟨rfl, clause⟩
  refine ⟨tail, tailSame, ?_⟩
  rw [value]
  refine .bare isBare starts opens spelled isEnd ?_
  rw [List.getLast?_append, spelled.ends, ← ends, List.getLast?_cons]
  cases tail.getLast? <;> rfl

mutual

/-- A statement is spelled by the tokens that its reading takes. -/
theorem ReadsStatement.spells
    {profile : Profile}
    {first : Placed}
    {rest after : List Placed}
    {node : Node} :
    ReadsStatement profile first rest node after →
    ∃ taken,
      first :: rest = taken ++ after ∧
        Spells .braces node taken
  | .simple opening => by
      obtain ⟨taken, same, ends⟩ := readOpening_takes opening
      exact ⟨taken, same, .simple (head?_of_cons_eq_append same ends) ends⟩
  | @ReadsStatement.braced _ _ closing head _ _ _ _ _ closed
        opening body closes => by
      obtain ⟨header, same, starts, isDelimited⟩ := readOpening_takes opening
      obtain ⟨inside, insideSame, spelled⟩ := body.spells
      obtain ⟨tail, final, tailSame, isTail, ends, value⟩ :=
        closeBlock_takes closes
      have isEnd :
          IsBlockEnd .braces head.keyword head.delimited
            (closing :: tail) := by
        refine ⟨[closing], tail, rfl, ?_, ?_⟩
        · simpa [IsClosing, isDelimited] using
            Placed.reads_of_is body.closes
        · exact isTail.imp_right fun clause => ⟨rfl, clause⟩
      rw [value]
      refine
        ⟨header ++ head.opener :: (inside ++ closing :: tail), ?_,
          .delimited isDelimited starts spelled isEnd ?_⟩
      · -- The type of `closed` mentions what is rewritten here.
        generalize closed.rest = left at tailSame
        rw [same, insideSame, tailSame]
        simp
      · rw [List.getLast?_append, ends]
        rfl
  | @ReadsStatement.empty _ _ head _ _ _ closed opening _ closes => by
      obtain ⟨header, same, starts, isBare⟩ := readOpening_takes opening
      have spelled :
          Spells .braces (.simple head.opener head.opener) [head.opener] :=
        .simple rfl rfl
      obtain ⟨tail, tailSame, spelledBlock⟩ :=
        spelled.closeBlock header isBare starts rfl closes
      refine ⟨header ++ ([head.opener] ++ tail), ?_, spelledBlock⟩
      generalize closed.rest = left at tailSame
      rw [same, tailSame]
      simp
  | @ReadsStatement.bare _ _ head _ _ _ _ _ closed opening _ body closes => by
      obtain ⟨header, same, starts, isBare⟩ := readOpening_takes opening
      obtain ⟨inside, insideSame, spelled⟩ := body.spells
      have opens := head?_of_cons_eq_append insideSame spelled.ends
      obtain ⟨tail, tailSame, spelledBlock⟩ :=
        spelled.closeBlock header isBare starts
          (Option.some.inj (spelled.starts.symm.trans opens)) closes
      refine ⟨header ++ (inside ++ tail), ?_, spelledBlock⟩
      generalize closed.rest = left at tailSame
      rw [same, insideSame, tailSame]
      simp

/-- A body is spelled by the tokens that its reading takes. -/
theorem ReadsBody.spells
    {profile : Profile}
    {tokens after : List Placed}
    {nodes : List Node} :
    ReadsBody profile tokens nodes after →
    ∃ taken,
      tokens = taken ++ after ∧
        SpellsAll .braces nodes taken
  | .atEnd =>
      ⟨[], rfl, .nil⟩
  | .atBrace _ =>
      ⟨[], rfl, .nil⟩
  | @ReadsBody.semicolon _ token _ _ _ isSemicolon others => by
      obtain ⟨taken, same, spelled⟩ := others.spells
      refine ⟨token :: taken, by simp [same], .separator ?_ spelled⟩
      exact .inr (Placed.text_of_is isSemicolon)
  | .statement _ _ first others => by
      obtain ⟨these, theseSame, spelledFirst⟩ := first.spells
      obtain ⟨taken, same, spelled⟩ := others.spells
      refine ⟨these ++ taken, ?_, .node spelledFirst spelled⟩
      rw [theseSame, same, List.append_assoc]

end

/-- A forest between braces is spelled by all the tokens it was read from. -/
theorem readBraces_spells
    {profile : Profile}
    {tokens : List Placed}
    {forest : List Node}
    (read : readBraces profile tokens = .ok forest) :
    SpellsAll .braces forest tokens := by
  unfold readBraces at read
  split at read
  · cases read
  · next body readWhole =>
      split at read
      · next atEnd =>
          cases read
          obtain ⟨nodes, value, reading⟩ := ReadsBody.of_readBody readWhole
          obtain ⟨taken, same, spelled⟩ := reading.spells
          rw [atEnd, List.append_nil] at same
          rw [value, same]
          exact spelled
      · cases read

end HouseStyle
