import HouseStyle.Proofs.Source.Reading
import HouseStyle.Proofs.Token.Tiling
import Mathlib

namespace HouseStyle

/-!
# The lines that faults show

A reader of statements refuses a text at a token that it was given, and the
reader of tokens refuses it at the next character. So every fault is shown at a
line of the file. If it names a keyword, this is one of the language's own.
-/

/-- The fault can come from reading statements from the tokens. -/
structure Fault.ArisesAmong
    (profile : Profile)
    (fault : Fault)
    (tokens : List Placed) :
    Prop where
  /-- It is shown at the line on which one of the tokens starts. -/
  shown : ∃ placed ∈ tokens, placed.token.start.line = fault.line
  /-- A keyword that it names is one of control statements. -/
  named : ∀ keyword, fault.cause = .missingBody keyword → fault.MissesBody profile

/-- A fault that names no keyword arises at any of the tokens. -/
theorem Fault.ArisesAmong.of_mem
    {profile : Profile}
    {fault : Fault}
    {tokens : List Placed}
    {placed : Placed}
    (member : placed ∈ tokens)
    (sameLine : placed.token.start.line = fault.line)
    (namesNone : ∀ keyword, fault.cause ≠ .missingBody keyword) :
    fault.ArisesAmong profile tokens where
  shown := ⟨placed, member, sameLine⟩
  named keyword isNamed := (namesNone keyword isNamed).elim

theorem Fault.ArisesAmong.of_suffix
    {profile : Profile}
    {fault : Fault}
    {tokens rest : List Placed}
    (arises : fault.ArisesAmong profile rest)
    (isEnd : rest <:+ tokens) :
    fault.ArisesAmong profile tokens := by
  obtain ⟨⟨placed, member, sameLine⟩, named⟩ := arises
  exact ⟨⟨placed, isEnd.subset member, sameLine⟩, named⟩

/-! ## Between braces -/

/-- A group is refused if nothing closes it. -/
theorem skipGroup_refuses
    {opener : Placed}
    {depth bound : Nat}
    {tokens : List Placed}
    {bounded : tokens.length ≤ bound}
    {fault : Fault}
    (refused : skipGroup opener depth bound tokens bounded = .error fault) :
    fault =
      { cause := .unbalancedParenthesis, line := opener.token.start.line } := by
  fun_induction skipGroup opener depth bound tokens bounded with
  | case1 =>
      cases refused
      rfl
  | case2 _ _ _ _ _ _ inductionHypothesis =>
      exact inductionHypothesis refused
  | case3 =>
      cases refused
  | case4 _ _ _ _ _ _ _ _ inductionHypothesis =>
      exact inductionHypothesis refused
  | case5 _ _ _ _ _ _ _ inductionHypothesis =>
      exact inductionHypothesis refused

/-- A group is refused at its opening bracket. -/
theorem skipGroup_arises
    {profile : Profile}
    {opener : Placed}
    {depth bound : Nat}
    {rest tokens : List Placed}
    {bounded : tokens.length ≤ bound}
    {fault : Fault}
    (refused : skipGroup opener depth bound tokens bounded = .error fault) :
    fault.ArisesAmong profile (opener :: rest) := by
  rw [skipGroup_refuses refused]
  exact .of_mem List.mem_cons_self rfl nofun

/-- A condition is refused at one of its tokens. -/
theorem skipCondition_arises
    {profile : Profile}
    {keyword : String}
    {tokens : List Placed}
    {fault : Fault}
    (refused : skipCondition profile keyword tokens = .error fault) :
    fault.ArisesAmong profile tokens := by
  unfold skipCondition at refused
  split at refused
  · split at refused
    · cases refused
    · next opener rest =>
        split at refused
        · split at refused
          · next failed skips =>
              cases refused
              exact skipGroup_arises skips
          · cases refused
        · cases refused
  · split at refused <;> cases refused

/-- The opening of a control statement is refused at one of its tokens. -/
theorem readControl_arises
    {profile : Profile}
    {first : Placed}
    {rest : List Placed}
    {fault : Fault}
    (isControl : (profile.control? first.text).isSome = true)
    (refused : readControl profile first rest = .error fault) :
    fault.ArisesAmong profile (first :: rest) := by
  have isMissing :
      Fault.ArisesAmong profile
        { cause := .missingBody (readKeyword first rest).value.1
          line := first.token.start.line }
        (first :: rest) := by
    refine ⟨⟨first, List.mem_cons_self, rfl⟩, fun _ _ => ⟨_, rfl, ?_⟩⟩
    rcases readKeyword_shown first rest with isFirst | isElseIf
    · exact .inl (isFirst ▸ isControl)
    · exact .inr isElseIf
  unfold readControl at refused
  dsimp only at refused
  split at refused
  · next failed skips =>
      cases refused
      have behindKeyword :
          (readKeyword first rest).rest <:+ first :: rest :=
        (readKeyword_suffix first rest).trans (List.suffix_cons first rest)
      exact (skipCondition_arises skips).of_suffix behindKeyword
  · split at refused
    · cases refused
      exact isMissing
    · split at refused
      · cases refused
        exact isMissing
      · split at refused <;> cases refused

/-- The opening of a statement is refused at one of its tokens. -/
theorem readOpening_arises
    {profile : Profile}
    {first : Placed}
    {rest : List Placed}
    {fault : Fault}
    (refused : readOpening profile first rest = .error fault) :
    fault.ArisesAmong profile (first :: rest) := by
  unfold readOpening at refused
  split at refused
  · next isControl => exact readControl_arises isControl.2 refused
  · split at refused <;> cases refused

/-- The condition of a loop's end is refused at one of its tokens. -/
theorem readLoopCondition_arises
    {profile : Profile}
    {keyword : Placed}
    {tokens : List Placed}
    {fault : Fault}
    (refused : readLoopCondition keyword tokens = .error fault) :
    fault.ArisesAmong profile tokens := by
  unfold readLoopCondition at refused
  split at refused
  · cases refused
  · next opener rest =>
      split at refused
      · exact skipGroup_arises refused
      · cases refused

/-- The clause behind a `do` block is refused at one of its tokens. -/
theorem readLoopTail_arises
    {profile : Profile}
    {last : Placed}
    {tokens : List Placed}
    {fault : Fault}
    (refused : readLoopTail last tokens = .error fault) :
    fault.ArisesAmong profile tokens := by
  unfold readLoopTail at refused
  split at refused
  · cases refused
  · next keyword rest =>
      split at refused
      · split at refused
        · next failed conditionRefused =>
            cases refused
            exact
              (readLoopCondition_arises conditionRefused).of_suffix
                (List.suffix_cons keyword rest)
        · cases refused
      · cases refused

/-- What closes a block is refused at one of the tokens behind the block. -/
theorem closeBlock_arises
    {profile : Profile}
    {head : BlockHead}
    {body : List Node}
    {last : Placed}
    {tokens : List Placed}
    {fault : Fault}
    (refused : closeBlock head body last tokens = .error fault) :
    fault.ArisesAmong profile tokens := by
  unfold closeBlock at refused
  split at refused
  · split at refused
    · next failed tailRefused =>
        cases refused
        exact readLoopTail_arises tailRefused
    · cases refused
  · cases refused

mutual

/-- A body is refused at one of its tokens. -/
theorem readBody_arises
    {profile : Profile}
    {reversed : List Node}
    {bound : Nat}
    {tokens : List Placed}
    {bounded : tokens.length ≤ bound}
    {fault : Fault}
    (refused :
      readBody profile reversed bound tokens bounded = .error fault) :
    fault.ArisesAmong profile tokens := by
  match tokens with
  | [] =>
      rw [readBody] at refused
      cases refused
  | token :: rest =>
      rw [readBody] at refused
      split at refused
      · cases refused
      · split at refused
        · exact
            (readBody_arises refused).of_suffix (List.suffix_cons token rest)
        · split at refused
          · next failed statementRefused =>
              cases refused
              exact readStatement_arises statementRefused
          · next statement readFirst =>
              have shorter := statement.bounded
              obtain ⟨taken, same, _⟩ :=
                (ReadsStatement.of_readStatement readFirst).spells
              exact (readBody_arises refused).of_suffix ⟨taken, same.symm⟩
  termination_by (tokens.length, 1)

/-- A statement is refused at one of its tokens. -/
theorem readStatement_arises
    {profile : Profile}
    {first : Placed}
    {rest : List Placed}
    {fault : Fault}
    (refused : readStatement profile first rest = .error fault) :
    fault.ArisesAmong profile (first :: rest) := by
  rw [readStatement] at refused
  split at refused
  · next failed openingRefused =>
      cases refused
      exact readOpening_arises openingRefused
  · cases refused
  · next head after bounded opening =>
      obtain ⟨header, same, starts, _⟩ := readOpening_takes opening
      have whole : header ++ [head.opener] ++ after = first :: rest := by
        simp [same]
      have behindOpener : after <:+ first :: rest := ⟨_, whole⟩
      split at refused
      · next failed bodyRefused =>
          cases refused
          exact (readBody_arises bodyRefused).of_suffix behindOpener
      · next body readInside =>
          obtain ⟨_, _, inside⟩ := ReadsBody.of_readBody readInside
          obtain ⟨taken, insideSame, _⟩ := inside.spells
          dsimp only at refused
          split at refused
          · cases refused
            -- A block that nothing closes is shown at its own first token.
            have isThere : head.first ∈ header ++ [head.opener] ++ after :=
              List.mem_append_left after (List.mem_of_head? starts)
            exact .of_mem (whole ▸ isThere) rfl nofun
          · next closing beyond atClosing =>
              rw [atClosing] at insideSame
              have behindClosing : beyond <:+ after :=
                ⟨taken ++ [closing], by simp [insideSame]⟩
              split at refused
              · next failed closes =>
                  cases refused
                  exact
                    (closeBlock_arises closes).of_suffix
                      (behindClosing.trans behindOpener)
              · cases refused
  · next head after shorter opening =>
      obtain ⟨header, same, _⟩ := readOpening_takes opening
      have fromOpener : head.opener :: after <:+ first :: rest :=
        ⟨header, same.symm⟩
      split at refused
      · split at refused
        · next failed closes =>
            cases refused
            exact
              (closeBlock_arises closes).of_suffix
                ((List.suffix_cons head.opener after).trans fromOpener)
        · cases refused
      · split at refused
        · next failed statementRefused =>
            cases refused
            exact (readStatement_arises statementRefused).of_suffix fromOpener
        · next body readInside =>
            obtain ⟨taken, insideSame, _⟩ :=
              (ReadsStatement.of_readStatement readInside).spells
            have behindBody : body.rest <:+ head.opener :: after :=
              ⟨taken, insideSame.symm⟩
            split at refused
            · next failed closes =>
                cases refused
                exact
                  (closeBlock_arises closes).of_suffix
                    (behindBody.trans fromOpener)
            · cases refused
  termination_by (rest.length + 1, 0)

end

/-- A file between braces is refused at one of its tokens. -/
theorem readBraces_arises
    {profile : Profile}
    {tokens : List Placed}
    {fault : Fault}
    (refused : readBraces profile tokens = .error fault) :
    fault.ArisesAmong profile tokens := by
  unfold readBraces at refused
  split at refused
  · next failed bodyRefused =>
      cases refused
      exact readBody_arises bodyRefused
  · next body read =>
      obtain ⟨_, _, inside⟩ := ReadsBody.of_readBody read
      obtain ⟨taken, same, _⟩ := inside.spells
      split at refused
      · cases refused
      · next closing rest atClosing =>
          cases refused
          rw [atClosing] at same
          have isThere : closing ∈ tokens := by
            simp [same]
          refine .of_mem isThere rfl ?_
          intro keyword isMissing
          cases isMissing

/-! ## By indentation -/

/-- Decorator lines are refused if they decorate nothing. -/
theorem undecorate_refuses
    {start line : LogicalLine}
    {rest : List LogicalLine}
    {fault : Fault}
    (refused : undecorate start line rest = .error fault) :
    fault =
      { cause := .strayDecorator, line := start.first.token.start.line } := by
  fun_induction undecorate start line rest with
  | case1 =>
      cases refused
      rfl
  | case2 _ _ _ _ _ inductionHypothesis =>
      exact inductionHypothesis refused
  | case3 =>
      cases refused
      rfl
  | case4 =>
      cases refused

/-- The keyword of a header is a token of its line. -/
theorem suiteHeader?_keyword
    {profile : Profile}
    {line : LogicalLine}
    {header : SuiteHeader}
    (isHeader : suiteHeader? profile line = some header) :
    header.keyword ∈ line.tokens := by
  unfold suiteHeader? at isHeader
  split at isHeader
  · cases isHeader
  · next keyword rest same =>
      obtain ⟨kind, _, isHeader⟩ := Option.bind_eq_some_iff.mp isHeader
      obtain ⟨_, _, isHeader⟩ := Option.bind_eq_some_iff.mp isHeader
      dsimp only at isHeader
      split at isHeader
      · cases isHeader
      · cases isHeader
        refine (headerTokens_suffix line).subset ?_
        rw [same]
        exact List.mem_cons_self

/-- Tokens of the last lines are tokens of all lines. -/
theorem tokensOf_suffix
    {lines rest : List LogicalLine}
    (isEnd : rest <:+ lines) :
    tokensOf rest <:+ tokensOf lines := by
  obtain ⟨taken, same⟩ := isEnd
  exact ⟨tokensOf taken, by rw [← same, tokensOf_append]⟩

mutual

/-- A suite is refused at one of the tokens of its lines. -/
theorem readSuite_arises
    {profile : Profile}
    {indent bound : Nat}
    {reversed : List Node}
    {line : LogicalLine}
    {rest : List LogicalLine}
    {bounded : rest.length ≤ bound}
    {fault : Fault}
    (refused :
      readSuite profile indent reversed bound line rest bounded =
        .error fault) :
    fault.ArisesAmong profile (tokensOf (line :: rest)) := by
  rw [readSuite] at refused
  split at refused
  · next failed lineRefused =>
      cases refused
      exact readLine_arises lineRefused
  · next lineReading readFirst =>
      obtain ⟨_, _, first⟩ := ReadsLine.of_readLine readFirst
      obtain ⟨taken, same, _⟩ := first.spells
      dsimp only at refused
      split at refused
      · cases refused
      · next next beyond atNext =>
          rw [atNext] at same
          have fromNext : next :: beyond <:+ line :: rest :=
            ⟨taken, same.symm⟩
          have shorter : beyond.length < rest.length := by
            have bounded := lineReading.bounded
            simp only [atNext, List.length_cons] at bounded
            omega
          split at refused
          · cases refused
          · split at refused
            · cases refused
              have isNext : next.first ∈ tokensOf (next :: beyond) := by
                simp [LogicalLine.tokens]
              exact
                .of_mem ((tokensOf_suffix fromNext).subset isNext) rfl nofun
            · exact
                (readSuite_arises refused).of_suffix (tokensOf_suffix fromNext)
  termination_by (rest.length, 1)

/-- A line with its suite is refused at one of the tokens of its lines. -/
theorem readLine_arises
    {profile : Profile}
    {start : LogicalLine}
    {reversed : List Node}
    {rest : List LogicalLine}
    {fault : Fault}
    (refused : readLine profile start reversed rest = .error fault) :
    fault.ArisesAmong profile (tokensOf (start :: rest)) := by
  have isStart : start.first ∈ tokensOf (start :: rest) := by
    simp [LogicalLine.tokens]
  rw [readLine] at refused
  split at refused
  · next failed undecorates =>
      cases refused
      rw [undecorate_refuses undecorates]
      exact .of_mem isStart rfl nofun
  · next line after undecorated =>
      obtain ⟨decorators, same⟩ := undecorate_takes undecorated
      dsimp only at refused
      split at refused
      · split at refused
        · cases refused
          exact .of_mem isStart rfl nofun
        · cases refused
      · next header isHeader =>
          have isKeyword : header.keyword ∈ tokensOf (start :: rest) := by
            rw [same, tokensOf_append, tokensOf_cons]
            exact
              List.mem_append_right _
                (List.mem_append_left _ (suiteHeader?_keyword isHeader))
          split at refused
          · cases refused
          · split at refused
            · cases refused
              exact .of_mem isKeyword rfl nofun
            · next next beyond _ _ =>
                have shorter : beyond.length < rest.length :=
                  length_of_undecorate undecorated
                have fromNext : next :: beyond <:+ start :: rest :=
                  ⟨decorators ++ [line], by simp [same]⟩
                split at refused
                · cases refused
                  exact .of_mem isKeyword rfl nofun
                · split at refused
                  · next failed suiteRefused =>
                      cases refused
                      exact
                        (readSuite_arises suiteRefused).of_suffix
                          (tokensOf_suffix fromNext)
                  · cases refused
  termination_by (rest.length, 0)

end

/-- A file by indentation is refused at one of the tokens of its lines. -/
theorem readIndented_arises
    {profile : Profile}
    {lines : List LogicalLine}
    {fault : Fault}
    (refused : readIndented profile lines = .error fault) :
    fault.ArisesAmong profile (tokensOf lines) := by
  unfold readIndented at refused
  split at refused
  · cases refused
  · next line rest =>
      split at refused
      · split at refused
        · next failed suiteRefused =>
            cases refused
            exact readSuite_arises suiteRefused
        · cases refused
      · cases refused
        have isFirst : line.first ∈ tokensOf (line :: rest) := by
          simp [LogicalLine.tokens]
        refine .of_mem isFirst rfl ?_
        intro keyword isMissing
        cases isMissing

/-! ## In the file -/

/-- Statements are refused at one of the tokens of the file. -/
theorem readForest_arises
    {profile : Profile}
    {lines : Array Line}
    {tokens : Array Token}
    {fault : Fault}
    (refused : SourceModel.readForest profile lines tokens = .error fault) :
    fault.ArisesAmong profile (placeTokens tokens) := by
  unfold SourceModel.readForest at refused
  split at refused
  · obtain ⟨⟨placed, member, sameLine⟩, named⟩ := readBraces_arises refused
    exact ⟨⟨placed, List.filter_sublist.subset member, sameLine⟩, named⟩
  · obtain ⟨⟨placed, member, sameLine⟩, named⟩ := readIndented_arises refused
    have keeps := (logicalLines_keeps lines tokens).sublist
    exact ⟨⟨placed, keeps.subset member, sameLine⟩, named⟩

/-- Tokens are refused at the line of a character that is left. -/
theorem Profile.tokensFrom_shown
    {profile : Profile}
    {whole passed text : List Char}
    {previous : Option Token}
    {position : Position}
    {found : Array Token}
    {fault : Fault}
    (isLeft : IsLeft whole passed text position)
    (refused :
      profile.tokensFrom previous position found text = .error fault) :
    ∃ offset,
      offset < whole.length ∧
        fault.line = (Position.ofOffset whole offset).line := by
  fun_induction Profile.tokensFrom profile previous position found text
    generalizing passed with
  | case1 =>
      cases refused
  | case2 previous position found first rest gap _ =>
      rename_i inductionHypothesis
      exact inductionHypothesis (isLeft.behind (gap - 1)) refused
  | case3 _ position _ first rest =>
      cases refused
      refine ⟨passed.length, by simp [isLeft.same], ?_⟩
      simp [isLeft.same, isLeft.place, Position.ofOffset]
  | case4 _ position _ first rest _ _ lexeme _ characters _ =>
      rename_i inductionHypothesis
      exact inductionHypothesis (isLeft.behind (lexeme.length - 1)) refused

/-- Every token that is read lies in the lines of its text. -/
theorem Profile.tokenize_liesIn
    {language : Language}
    {text : String}
    {tokens : Array Token}
    (read : language.profile.tokenize text = .ok tokens) :
    ∀ token ∈ tokens, token.LiesIn (splitLines text) := by
  intro token member
  obtain ⟨start, stop, occupies⟩ :=
    (tiles_of_tokenize read).exists_occupies (Array.mem_toList_iff.mpr member)
  exact occupies.liesIn

/-- The fault is shown at one of the lines of the text. -/
def Fault.IsAtLineOf
    (fault : Fault)
    (text : String) :
    Prop :=
  1 ≤ fault.line ∧ fault.line ≤ (splitLines text).size

/-- A text that is not cut into tokens is refused at one of its lines. -/
theorem Profile.tokenize_isAtLineOf
    {profile : Profile}
    {text : String}
    {fault : Fault}
    (refused : profile.tokenize text = .error fault) :
    fault.IsAtLineOf text := by
  have shown :
      ∃ offset,
        offset < text.toList.length ∧
          fault.line = (Position.ofOffset text.toList offset).line :=
    Profile.tokensFrom_shown ⟨(List.nil_append _).symm, rfl⟩ refused
  obtain ⟨offset, inText, isLine⟩ := shown
  rw [Fault.IsAtLineOf, isLine]
  exact ⟨Nat.le_add_left 1 _, line_le_size_splitLines inText⟩

/-- Statements that are not told apart are refused at a line of their text. -/
theorem readForest_isAtLineOf
    {language : Language}
    {text : String}
    {lines : Array Line}
    {tokens : Array Token}
    {fault : Fault}
    (read : language.profile.tokenize text = .ok tokens)
    (refused :
      SourceModel.readForest language.profile lines tokens = .error fault) :
    fault.IsAtLineOf text := by
  obtain ⟨placed, member, sameLine⟩ := (readForest_arises refused).shown
  have isThere := mem_placeTokens.mp member
  have liesIn :=
    Profile.tokenize_liesIn read placed.token (Array.mem_of_getElem? isThere)
  rw [Fault.IsAtLineOf, ← sameLine]
  exact ⟨liesIn.fromFirst, Nat.le_trans liesIn.inOrder liesIn.toLast⟩

end HouseStyle
