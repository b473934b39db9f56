import HouseStyle.Proofs.Source.BraceEquations
import HouseStyle.Proofs.Source.BraceSpelling
import HouseStyle.Proofs.Source.Brackets

namespace HouseStyle

/-!
# Brackets that are opened and not closed

The readers of statements between braces count brackets of all shapes together,
and take a closing bracket that nothing opened for none. So what a reader takes
before it stops has no surplus of opening brackets: a statement closes as many
brackets as it opens, or more.
-/

/-- What a token adds to the number of open brackets. -/
def Placed.step (placed : Placed) : Int :=
  if placed.token.opensBracket then
    1
  else if placed.token.closesBracket then
    -1
  else
    0

/-- The opening brackets of a row of tokens less the closing ones. -/
def surplus (tokens : List Placed) : Int :=
  (tokens.map Placed.step).sum

@[simp] theorem surplus_nil : surplus [] = 0 := rfl

@[simp] theorem surplus_cons
    (token : Placed)
    (rest : List Placed) :
    surplus (token :: rest) = token.step + surplus rest := by
  simp [surplus]

@[simp] theorem surplus_append (front back : List Placed) :
    surplus (front ++ back) = surplus front + surplus back := by
  simp [surplus]

namespace Placed

variable {placed : Placed}

theorem step_le_one : placed.step ≤ 1 := by
  unfold step
  split
  · exact Int.le_refl 1
  · split <;> decide

theorem step_of_opens
    (opens : placed.token.opensBracket = true) :
    placed.step = 1 := by
  rw [step, if_pos opens]

theorem step_of_closes
    (opensNone : placed.token.opensBracket = false)
    (closes : placed.token.closesBracket = true) :
    placed.step = -1 := by
  rw [step, opensNone, closes]
  rfl

theorem step_of_other
    (opensNone : placed.token.opensBracket = false)
    (closesNone : placed.token.closesBracket = false) :
    placed.step = 0 := by
  rw [step, opensNone, closesNone]
  rfl

/-- A token of another kind than a delimiter is no bracket. -/
theorem step_of_kind
    (noDelimiter : placed.kind ≠ .delimiter) :
    placed.step = 0 := by
  have kind : placed.token.kind ≠ .delimiter := noDelimiter
  refine step_of_other ?_ ?_
  · simp [Token.opensBracket, kind]
  · simp [Token.closesBracket, kind]

/-- No other text than a bracket's counts. -/
theorem step_of_is
    {text : String}
    (isText : placed.is text = true)
    (noOpener : ["(", "[", "\x7b"].contains text = false)
    (noCloser : [")", "]", "\x7d"].contains text = false) :
    placed.step = 0 := by
  have same : placed.token.text = text := text_of_is isText
  refine step_of_other ?_ ?_
  · rw [Token.opensBracket, same, noOpener, Bool.and_false]
  · rw [Token.closesBracket, same, noCloser, Bool.and_false]

/-- A delimiter that closes a block counts as a closing bracket. -/
theorem step_of_closingBrace
    (isBrace : placed.token.isDelimiter "\x7d" = true) :
    placed.step = -1 :=
  step_of_closes
    (Token.opensBracket_of_isDelimiter isBrace)
    (Token.closesBracket_of_isDelimiter isBrace)

end Placed

/-- The surplus behind some tokens is the number of brackets that stand open. -/
theorem surplus_of_openBehind
    {opened stack tokens : List Placed}
    (opens : openBehind opened tokens = some stack) :
    (opened.length : Int) + surplus tokens = stack.length := by
  induction tokens generalizing opened with
  | nil =>
      cases opens
      simp
  | cons token rest inductionHypothesis =>
      rw [openBehind_cons, Option.bind_eq_some_iff] at opens
      obtain ⟨middle, nests, opensRest⟩ := opens
      have goesOn := inductionHypothesis opensRest
      rw [surplus_cons]
      cases opensOne : token.token.opensBracket with
      | true =>
          rw [Placed.nest_of_opens opensOne, Option.some.injEq] at nests
          subst nests
          rw [Placed.step_of_opens opensOne]
          rw [List.length_cons] at goesOn
          omega
      | false =>
          cases closesOne : token.token.closesBracket with
          | true =>
              obtain ⟨opener, rfl, _⟩ :=
                Placed.exists_of_nest opensOne closesOne nests
              rw [Placed.step_of_closes opensOne closesOne, List.length_cons]
              omega
          | false =>
              rw [Placed.nest_of_other opensOne closesOne,
                Option.some.injEq] at nests
              subst nests
              rw [Placed.step_of_other opensOne closesOne]
              omega

/-! ## What the readers leave -/

/-- The tokens from the body on, or behind a statement without a body. -/
def Start.left : Start → List Placed
  | .simple _ after => after
  | .braced head after => head.opener :: after
  | .bare head after => head.opener :: after

section Readers

variable {profile : Profile}

/-- A semicolon is no bracket. -/
theorem Placed.step_of_semicolon
    {placed : Placed}
    (isSemicolon : placed.token.isDelimiter ";" = true) :
    placed.step = 0 :=
  step_of_other
    (Token.opensBracket_of_isDelimiter isSemicolon)
    (Token.closesBracket_of_isDelimiter isSemicolon)

/-- A statement ends or opens its body outside the brackets that it opened. -/
theorem surplus_onwards
    {first current : Placed}
    {header tokens : List Placed}
    {depth : Nat}
    {start : Start}
    (reads : profile.onwards first current header depth tokens = start)
    (goesOn : start.left ≠ []) :
    depth + surplus tokens ≤ surplus start.left := by
  induction tokens generalizing current header depth with
  | nil =>
      subst reads
      exact (goesOn rfl).elim
  | cons token rest inductionHypothesis =>
      rw [Profile.onwards] at reads
      split at reads
      · next stops =>
          subst reads
          simp [Start.left, stops.1]
      · split at reads
        · next opens =>
            subst reads
            simp [Start.left, opens.1]
        · split at reads
          · next closes =>
              subst reads
              simp [Start.left, closes.1]
          · split at reads
            · next ends =>
                subst reads
                simp [Start.left, ends.1, Placed.step_of_semicolon ends.2]
            · have behind := inductionHypothesis reads
              rw [surplus_cons, Placed.step]
              split at behind
              · next opens =>
                  rw [if_pos opens]
                  omega
              · next opensNone =>
                  rw [if_neg opensNone]
                  split at behind
                  · next closes =>
                      rw [if_pos closes]
                      omega
                  · next closesNone =>
                      rw [if_neg closesNone]
                      omega

/-- A group is closed where as many brackets are closed as opened. -/
theorem surplus_groupEnd
    {opener last : Placed}
    {depth : Nat}
    {tokens after : List Placed}
    (isInside : 0 < depth)
    (closes : groupEnd opener depth tokens = .ok (last, after)) :
    depth + surplus tokens = surplus after := by
  induction tokens generalizing depth with
  | nil => cases closes
  | cons token rest inductionHypothesis =>
      rw [groupEnd] at closes
      rw [surplus_cons, Placed.step]
      split at closes
      · next opens =>
          have behind := inductionHypothesis (Nat.succ_pos depth) closes
          rw [if_pos opens]
          omega
      · next opensNone =>
          rw [if_neg opensNone]
          split at closes
          · next closesOne =>
              rw [if_pos closesOne]
              split at closes
              · next isLast =>
                  cases closes
                  omega
              · next notLast =>
                  have behind := inductionHypothesis (by omega) closes
                  omega
          · next closesNone =>
              have behind := inductionHypothesis isInside closes
              rw [if_neg closesNone]
              omega

/-- The brace that is sought stands where all brackets balance. -/
theorem surplus_seekBrace
    {depth : Int}
    {tokens : List Placed}
    (isThere : seekBrace depth tokens ≠ []) :
    depth + surplus tokens = surplus (seekBrace depth tokens) := by
  induction tokens generalizing depth with
  | nil => exact (isThere rfl).elim
  | cons token rest inductionHypothesis =>
      rw [seekBrace] at isThere ⊢
      split
      · next found => simp [found.1]
      · next notFound =>
          rw [if_neg notFound] at isThere
          rw [surplus_cons, Placed.step]
          split
          · next opens =>
              rw [if_pos opens] at isThere
              have behind := inductionHypothesis isThere
              omega
          · next opensNone =>
              rw [if_neg opensNone] at isThere
              split
              · next closes =>
                  rw [if_pos closes] at isThere
                  have behind := inductionHypothesis isThere
                  omega
              · next closesNone =>
                  rw [if_neg closesNone] at isThere
                  have behind := inductionHypothesis isThere
                  omega

/-- A keyword of two words counts no brackets. -/
theorem surplus_keywordOf
    (first : Placed)
    (rest : List Placed) :
    surplus (keywordOf first rest).2 = surplus rest := by
  cases rest with
  | nil => rfl
  | cons second beyond =>
      rw [keywordOf]
      split
      · next isElseIf =>
          rw [Bool.and_eq_true] at isElseIf
          rw [surplus_cons, Placed.step_of_is isElseIf.2 rfl rfl, Int.zero_add]
      · split
        · next isAwait =>
            rw [Bool.and_eq_true] at isAwait
            rw [surplus_cons, Placed.step_of_is isAwait.2 rfl rfl, Int.zero_add]
        · rfl

/-- A condition closes the brackets that it opens. -/
theorem surplus_conditionEnd
    {keyword : String}
    {tokens after : List Placed}
    (isEnd : profile.conditionEnd keyword tokens = .ok after)
    (isThere : after ≠ []) :
    surplus tokens ≤ surplus after := by
  unfold Profile.conditionEnd at isEnd
  split at isEnd
  · cases tokens with
    | nil =>
        cases isEnd
        exact Int.le_refl _
    | cons opener rest =>
        dsimp only at isEnd
        split at isEnd
        · cases closes : groupEnd opener 1 rest with
          | error fault =>
              rw [closes] at isEnd
              cases isEnd
          | ok group =>
              rw [closes] at isEnd
              cases isEnd
              have balanced := surplus_groupEnd Nat.one_pos closes
              have atMost := opener.step_le_one
              rw [surplus_cons]
              omega
        · cases isEnd
          exact Int.le_refl _
  · split at isEnd
    · cases isEnd
      exact Int.le_refl _
    · cases isEnd
      have balanced := surplus_seekBrace isThere
      omega

/-- Where a body follows a control statement, it follows the condition. -/
theorem left_of_controlStart
    {first : Placed}
    {keyword role : String}
    {tokens : List Placed}
    {start : Start}
    (starts : profile.controlStart first keyword role tokens = .ok start) :
    start.left = tokens := by
  cases tokens with
  | nil => cases starts
  | cons opener after =>
      rw [Profile.controlStart] at starts
      split at starts
      · cases starts
      · split at starts <;>
          · cases starts
            rfl

/-- Up to its body, a statement opens no more brackets than it closes. -/
theorem surplus_startOf
    {first : Placed}
    {rest : List Placed}
    {start : Start}
    (starts : profile.startOf first rest = .ok start)
    (goesOn : start.left ≠ []) :
    surplus (first :: rest) ≤ surplus start.left := by
  rw [Profile.startOf_eq] at starts
  split at starts
  · next isControl =>
      obtain ⟨after, isEnd, begins⟩ := exists_of_bind_eq_ok starts
      have isLeft := left_of_controlStart begins
      rw [isLeft] at goesOn ⊢
      have condition := surplus_conditionEnd isEnd goesOn
      have noBracket : first.step = 0 :=
        Placed.step_of_kind (by rw [isControl.1]; decide)
      rw [surplus_keywordOf] at condition
      rw [surplus_cons, noBracket]
      omega
  · split at starts
    · cases starts
      exact Int.le_refl _
    · have reads := Except.ok.inj starts
      have behind := surplus_onwards reads goesOn
      rw [surplus_cons, Placed.step]
      split at behind
      · next opens =>
          rw [if_pos opens]
          omega
      · next opensNone =>
          rw [if_neg opensNone]
          split <;> omega

/-- The condition of a loop's end closes the brackets that it opens. -/
theorem surplus_loopConditionEnd
    {keyword last : Placed}
    {tokens after : List Placed}
    (isEnd : loopConditionEnd keyword tokens = .ok (last, after)) :
    surplus tokens ≤ surplus after := by
  cases tokens with
  | nil =>
      cases isEnd
      exact Int.le_refl _
  | cons opener rest =>
      rw [loopConditionEnd] at isEnd
      split at isEnd
      · have balanced := surplus_groupEnd Nat.one_pos isEnd
        have atMost := opener.step_le_one
        rw [surplus_cons]
        omega
      · cases isEnd
        exact Int.le_refl _

/-- A semicolon at the end of a loop counts no brackets. -/
theorem surplus_endingAfter
    (last : Placed)
    (tokens : List Placed) :
    surplus (endingAfter last tokens).2 = surplus tokens := by
  cases tokens with
  | nil => rfl
  | cons ending rest =>
      rw [endingAfter]
      split
      · next isSemicolon =>
          rw [surplus_cons, Placed.step_of_is isSemicolon rfl rfl, Int.zero_add]
      · rfl

/-- The clause behind a `do` block closes the brackets that it opens. -/
theorem surplus_loopEnd
    {last final : Placed}
    {tokens after : List Placed}
    (isEnd : loopEnd last tokens = .ok (final, after)) :
    surplus tokens ≤ surplus after := by
  cases tokens with
  | nil =>
      cases isEnd
      exact Int.le_refl _
  | cons keyword rest =>
      rw [loopEnd] at isEnd
      split at isEnd
      · next isLoop =>
          obtain ⟨⟨middle, beyond⟩, condition, ends⟩ := exists_of_map_eq_ok isEnd
          have inCondition := surplus_loopConditionEnd condition
          have same : endingAfter middle beyond = (final, after) := ends
          have behind := surplus_endingAfter middle beyond
          rw [same] at behind
          dsimp only at behind
          rw [surplus_cons, Placed.step_of_is isLoop rfl rfl]
          omega
      · cases isEnd
        exact Int.le_refl _

/-- Behind its body, a block closes the brackets that it opens. -/
theorem surplus_closedOf
    {head : BlockHead}
    {body : List Node}
    {last : Placed}
    {tokens after : List Placed}
    {node : Node}
    (closes : closedOf head body last tokens = .ok (node, after)) :
    surplus tokens ≤ surplus after := by
  rw [closedOf_eq] at closes
  split at closes
  · obtain ⟨⟨final, beyond⟩, isEnd, same⟩ := exists_of_map_eq_ok closes
    cases same
    exact surplus_loopEnd isEnd
  · cases closes
    exact Int.le_refl _

/-! ## Statements and bodies -/

/-- The start of a statement leaves an end of its tokens. -/
theorem left_suffix
    {first : Placed}
    {rest : List Placed}
    {start : Start}
    (starts : profile.startOf first rest = .ok start) :
    start.left <:+ first :: rest := by
  obtain ⟨opening, reads, same⟩ := exists_of_map_eq_ok starts
  have takes := readOpening_takes reads
  subst same
  cases opening with
  | simple last after bounded =>
      obtain ⟨taken, whole, _⟩ := takes
      exact ⟨taken, whole.symm⟩
  | braced head after bounded =>
      obtain ⟨header, whole, _⟩ := takes
      exact ⟨header, whole.symm⟩
  | bare head after shorter =>
      obtain ⟨header, whole, _⟩ := takes
      exact ⟨header, whole.symm⟩

/-- What `statementOf` gives is read in one of the listed ways. -/
theorem readsStatement_of_statementOf
    {first : Placed}
    {rest after : List Placed}
    {node : Node}
    (isRead : profile.statementOf first rest = .ok (node, after)) :
    ReadsStatement profile first rest node after := by
  obtain ⟨reading, reads, same⟩ := exists_of_map_eq_ok isRead
  cases same
  exact ReadsStatement.of_readStatement reads

/-- What `bodyOf` gives is read in one of the listed ways. -/
theorem readsBody_of_bodyOf
    {tokens after : List Placed}
    {nodes : List Node}
    (isRead : profile.bodyOf tokens = .ok (nodes, after)) :
    ReadsBody profile tokens nodes after := by
  obtain ⟨reading, reads, same⟩ := exists_of_map_eq_ok isRead
  cases same
  obtain ⟨nodes, value, body⟩ := ReadsBody.of_readBody reads
  rw [show reading.value = nodes from value]
  exact body

/-- A statement leaves an end of its tokens. -/
theorem statementOf_suffix
    {first : Placed}
    {rest after : List Placed}
    {node : Node}
    (isRead : profile.statementOf first rest = .ok (node, after)) :
    after <:+ first :: rest := by
  obtain ⟨taken, whole, _⟩ := (readsStatement_of_statementOf isRead).spells
  exact ⟨taken, whole.symm⟩

/-- A body leaves an end of its tokens. -/
theorem bodyOf_suffix
    {tokens after : List Placed}
    {nodes : List Node}
    (isRead : profile.bodyOf tokens = .ok (nodes, after)) :
    after <:+ tokens := by
  obtain ⟨taken, whole, _⟩ := (readsBody_of_bodyOf isRead).spells
  exact ⟨taken, whole.symm⟩

mutual

/-- The statements before a closing brace leave no brackets open. -/
theorem surplus_bodyOf
    {tokens after : List Placed}
    {nodes : List Node}
    (plain : ∀ placed ∈ tokens, placed.token.DelimitsBrackets)
    (isRead : profile.bodyOf tokens = .ok (nodes, after))
    (goesOn : after ≠ []) :
    surplus tokens ≤ surplus after := by
  match tokens with
  | [] =>
      rw [Profile.bodyOf_nil] at isRead
      cases isRead
      exact (goesOn rfl).elim
  | token :: rest =>
      have plainRest : ∀ placed ∈ rest, placed.token.DelimitsBrackets :=
        fun placed member => plain placed (List.mem_cons_of_mem token member)
      rw [Profile.bodyOf_cons] at isRead
      split at isRead
      · cases isRead
        exact Int.le_refl _
      · split at isRead
        · next isSemicolon =>
            have behind := surplus_bodyOf plainRest isRead goesOn
            rw [surplus_cons, Placed.step_of_is isSemicolon rfl rfl]
            omega
        · obtain ⟨⟨node, middle⟩, isStatement, others⟩ :=
            exists_of_bind_eq_ok isRead
          obtain ⟨⟨nodes, beyond⟩, isBody, same⟩ := exists_of_bind_eq_ok others
          cases same
          have shorter := Profile.length_le_of_statementOf isStatement
          have isSuffix := statementOf_suffix isStatement
          -- At the end of the file a body would leave nothing.
          have middleGoesOn : middle ≠ [] := by
            rintro rfl
            rw [Profile.bodyOf_nil] at isBody
            cases isBody
            exact goesOn rfl
          have first := surplus_statementOf plain isStatement middleGoesOn
          have behind :=
            surplus_bodyOf
              (fun placed member => plain placed (isSuffix.subset member))
              isBody goesOn
          exact Int.le_trans first behind
  termination_by (tokens.length, 1)

/-- A statement before others leaves no brackets open. -/
theorem surplus_statementOf
    {first : Placed}
    {rest after : List Placed}
    {node : Node}
    (plain : ∀ placed ∈ first :: rest, placed.token.DelimitsBrackets)
    (isRead : profile.statementOf first rest = .ok (node, after))
    (goesOn : after ≠ []) :
    surplus (first :: rest) ≤ surplus after := by
  rw [Profile.statementOf_eq] at isRead
  obtain ⟨start, starts, ends⟩ := exists_of_bind_eq_ok isRead
  have isSuffix := left_suffix starts
  match start with
  | .simple last inside =>
      cases ends
      exact surplus_startOf starts goesOn
  | .braced head inside =>
      have shorter := Profile.length_le_of_startOf_braced starts
      have toBody := surplus_startOf starts (by nofun)
      obtain ⟨⟨body, left⟩, isBody, encloses⟩ := exists_of_bind_eq_ok ends
      cases left with
      | nil => cases encloses
      | cons closing beyond =>
          have plainInside :
              ∀ placed ∈ inside, placed.token.DelimitsBrackets :=
            fun placed member =>
              plain placed
                (isSuffix.subset (List.mem_cons_of_mem head.opener member))
          have inBody := surplus_bodyOf plainInside isBody (by nofun)
          have isClosing :=
            Placed.isDelimiter_of_reads
              (plainInside closing ((bodyOf_suffix isBody).subset (by simp)))
              (by decide : '\x7d' ∈ brackets)
              (Placed.reads_of_is (readsBody_of_bodyOf isBody).closes)
          -- The brace that closes the body makes up for the one that opens it.
          have closes := Placed.step_of_closingBrace isClosing
          have opens := head.opener.step_le_one
          have behind := surplus_closedOf encloses
          rw [Start.left, surplus_cons head.opener] at toBody
          rw [surplus_cons closing, closes] at inBody
          omega
  | .bare head inside =>
      have shorter := Profile.length_lt_of_startOf_bare starts
      have toBody := surplus_startOf starts (by nofun)
      rw [Profile.endOf] at ends
      split at ends
      · next isSemicolon =>
          have noBracket := Placed.step_of_is isSemicolon rfl rfl
          have behind := surplus_closedOf ends
          rw [Start.left, surplus_cons head.opener, noBracket] at toBody
          omega
      · obtain ⟨⟨body, beyond⟩, isBody, closes⟩ := exists_of_bind_eq_ok ends
        have behind := surplus_closedOf closes
        have beyondGoesOn : beyond ≠ [] := by
          rintro rfl
          cases (closedOf_nil head [body] body.last).symm.trans closes
          exact goesOn rfl
        have inBody :=
          surplus_statementOf
            (fun placed member => plain placed (isSuffix.subset member))
            isBody beyondGoesOn
        exact Int.le_trans toBody (Int.le_trans inBody behind)
  termination_by (rest.length + 1, 0)

end

end Readers

end HouseStyle
