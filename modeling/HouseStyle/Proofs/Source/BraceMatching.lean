import HouseStyle.Proofs.Source.BraceNesting
import HouseStyle.Proofs.Source.Reading

namespace HouseStyle

/-!
# Well nested files are read with matching braces

A file whose brackets are well nested is refused only when a control statement
has no body. Each body between braces that is read runs from its opening brace
to the brace that closes it. Both follow by induction on the reading: every
statement is taken as a whole number of groups, so a body starts and stops at
the same level.
-/

/--
A body between braces starts at an opening brace and ends at the one that closes
it. Behind that brace the block has no more than its `while` clause.
-/
def BlockHead.MatchedIn
    (tokens : List Placed)
    (head : BlockHead)
    (last : Placed) :
    Prop :=
  ∃ before inside closing tail after,
    tokens =
        before ++ head.opener :: (inside ++ closing :: (tail ++ after)) ∧
      head.opener.token.isDelimiter "\x7b" = true ∧
      Nested inside ∧
      closing.token.isDelimiter "\x7d" = true ∧
      (closing :: tail).getLast? = some last ∧
      (tail = [] ∨ (head.keyword = "do" ∧ IsLoopTail tail))

/-- A body that is matched in a part is matched in the whole. -/
theorem BlockHead.MatchedIn.mono
    {tokens part : List Placed}
    {head : BlockHead}
    {last : Placed}
    (isPart : part <:+: tokens)
    (matched : head.MatchedIn part last) :
    head.MatchedIn tokens last := by
  obtain ⟨front, back, rfl⟩ := isPart
  obtain ⟨before, inside, closing, tail, after, rfl, isMatched⟩ := matched
  exact
    ⟨front ++ before, inside, closing, tail, after ++ back, by simp,
      isMatched⟩

/-- All bodies between braces among the statements are matched. -/
def AllMatched
    (tokens : List Placed)
    (nodes : List Node) :
    Prop :=
  ∀ head body last,
    .block head body last ∈ families nodes →
    head.delimited = true →
    head.MatchedIn tokens last

namespace AllMatched

variable {tokens part : List Placed} {nodes : List Node}

theorem mono
    (isPart : part <:+: tokens)
    (matched : AllMatched part nodes) :
    AllMatched tokens nodes :=
  fun head body last member isDelimited =>
    (matched head body last member isDelimited).mono isPart

theorem nil :
    AllMatched tokens [] := by
  intro head body last member
  simp [families] at member

theorem simple
    (first last : Placed) :
    AllMatched tokens [.simple first last] := by
  intro head body last member
  simp [families, Node.family] at member

/-- The statements of two rows side by side are matched in the whole. -/
theorem cons
    {front back : List Placed}
    {node : Node}
    (first : AllMatched front [node])
    (others : AllMatched back nodes) :
    AllMatched (front ++ back) (node :: nodes) := by
  intro head body last member isDelimited
  simp only [families, List.mem_append] at member
  rcases member with inFirst | inOthers
  · refine (first head body last ?_ isDelimited).mono ?_
    · simpa [families] using inFirst
    · exact (List.prefix_append front back).isInfix
  · refine (others head body last inOthers isDelimited).mono ?_
    exact (List.suffix_append front back).isInfix

/-- A block is matched with its body. -/
theorem block
    {head : BlockHead}
    {last : Placed}
    (body : AllMatched tokens nodes)
    (matched : head.delimited = true → head.MatchedIn tokens last) :
    AllMatched tokens [.block head nodes last] := by
  intro other inside final member isDelimited
  simp only [families, Node.family, List.append_nil, List.mem_cons] at member
  rcases member with isWhole | inBody
  · cases isWhole
    exact matched isDelimited
  · exact body other inside final inBody isDelimited

end AllMatched

/-- Statements taken from the front as groups, with all their braces matched. -/
def TakesMatched
    (tokens : List Placed)
    (nodes : List Node)
    (after : List Placed) :
    Prop :=
  ∃ taken,
    tokens = taken ++ after ∧
      Nested taken ∧
      AllMatched taken nodes

theorem TakesMatched.closesUpTo
    {tokens after : List Placed}
    {nodes : List Node}
    (takes : TakesMatched tokens nodes after) :
    ClosesUpTo [] tokens after := by
  obtain ⟨taken, same, nested, _⟩ := takes
  exact ⟨taken, same, nested⟩

/-- What ends a block is well nested. -/
theorem InBody.closed_takes
    {opened tokens : List Placed}
    {head : BlockHead}
    {body : List Node}
    {last : Placed}
    {closed : Reading Node tokens.length}
    (inBody : InBody opened tokens)
    (closes : closeBlock head body last tokens = .ok closed) :
    ∃ tail final,
      tokens = tail ++ closed.rest ∧
        Nested tail ∧
        (tail = [] ∨ (head.keyword = "do" ∧ IsLoopTail tail)) ∧
        (last :: tail).getLast? = some final ∧
        closed.value = .block head body final := by
  obtain ⟨tail, final, same, isTail, ends, value⟩ := closeBlock_takes closes
  obtain ⟨other, closesOther, taken, sameTaken, nested⟩ :=
    inBody.exists_closed head body last
  rw [closes] at closesOther
  cases closesOther
  have isTaken : tail = taken :=
    List.append_cancel_right (same.symm.trans sameTaken)
  exact ⟨tail, final, same, isTaken ▸ nested, isTail, ends, value⟩

/-- A bare body and what ends its block are taken behind the header. -/
theorem TakesMatched.bare
    {opened tokens middle after : List Placed}
    {head : BlockHead}
    {node : Node}
    {closed : Reading Node after.length}
    (inBody : InBody opened tokens)
    (header : ClosesUpTo [] tokens middle)
    (isBare : head.delimited = false)
    (takes : TakesMatched middle [node] after)
    (closes : closeBlock head [node] node.last after = .ok closed) :
    TakesMatched tokens [closed.value] closed.rest := by
  have behindBody : InBody opened after :=
    inBody.behind (header.trans takes.closesUpTo)
  obtain ⟨tail, final, tailSame, tailNested, _, _, value⟩ :=
    behindBody.closed_takes closes
  obtain ⟨front, rfl, frontNested⟩ := header
  obtain ⟨inside, rfl, insideNested, matched⟩ := takes
  refine ⟨front ++ (inside ++ tail), ?_, ?_, ?_⟩
  · rw [List.append_assoc, List.append_assoc, ← tailSame]
  · exact Nested.append frontNested (insideNested.append tailNested)
  · rw [value]
    refine .block (matched.mono ⟨front, tail, by simp⟩) ?_
    intro isDelimited
    rw [isBare] at isDelimited
    cases isDelimited

/-- A body between braces and what ends its block are taken as a group. -/
theorem TakesMatched.braced
    {opened tokens after beyond : List Placed}
    {closing : Placed}
    {head : BlockHead}
    {nodes : List Node}
    {closed : Reading Node beyond.length}
    (inBody : InBody opened tokens)
    (header : ClosesUpTo [] tokens (head.opener :: after))
    (opens : head.opener.token.isDelimiter "\x7b" = true)
    (takes : TakesMatched after nodes (closing :: beyond))
    (isBrace : closing.is "\x7d" = true)
    (closes : closeBlock head nodes closing beyond = .ok closed) :
    TakesMatched tokens [closed.value] closed.rest := by
  have atOpener : InBody opened (head.opener :: after) :=
    inBody.behind header
  have behindGroup : InBody opened beyond :=
    atOpener.behind_group opens takes.closesUpTo isBrace
  obtain ⟨front, rfl, frontNested⟩ := header
  obtain ⟨inside, rfl, insideNested, matched⟩ := takes
  obtain ⟨isClosing, groupNested⟩ :=
    atOpener.group opens insideNested isBrace
  obtain ⟨tail, final, tailSame, tailNested, isTail, ends, value⟩ :=
    behindGroup.closed_takes closes
  refine
    ⟨front ++ (head.opener :: (inside ++ [closing]) ++ tail), ?_, ?_, ?_⟩
  · generalize closed.rest = left at tailSame
    rw [tailSame]
    simp
  · exact Nested.append frontNested (groupNested.append tailNested)
  · rw [value]
    refine .block (matched.mono ?_) fun _ => ?_
    · exact ⟨front ++ [head.opener], closing :: tail, by simp⟩
    · exact
        ⟨front, inside, closing, tail, [], by simp, opens, insideNested,
          isClosing, ends, isTail⟩

mutual

/-- A statement inside a body is taken with all its braces matched. -/
theorem ReadsStatement.takesMatched
    {profile : Profile}
    {first : Placed}
    {opened rest after : List Placed}
    {node : Node}
    (inParentheses : profile.parenConditions = true)
    (inBody : InBody opened (first :: rest))
    (noBrace : first.is "\x7d" = false)
    (reads : ReadsStatement profile first rest node after) :
    TakesMatched (first :: rest) [node] after := by
  match reads with
  | .simple opening =>
      obtain ⟨taken, same, nested⟩ :=
        readOpening_nests inParentheses inBody noBrace opening
      exact ⟨taken, same, nested, .simple first _⟩
  | .braced opening body closes =>
      obtain ⟨header, opens⟩ :=
        readOpening_nests inParentheses inBody noBrace opening
      have takes :=
        body.takesMatched inParentheses ((inBody.behind header).inside opens)
      exact .braced inBody header opens takes body.closes closes
  | @ReadsStatement.empty _ _ head _ after _ closed
        opening isSemicolon closes =>
      obtain ⟨header, _⟩ :=
        readOpening_nests inParentheses inBody noBrace opening
      obtain ⟨_, _, _, isBare⟩ := readOpening_takes opening
      have nests : head.opener.nest [] = some [] :=
        Placed.nest_of_is isSemicolon (by decide) (by decide)
      have takes :
          TakesMatched
            (head.opener :: after) [.simple head.opener head.opener] after :=
        ⟨[head.opener], rfl, .singleton nests, .simple _ _⟩
      exact .bare inBody header isBare takes closes
  | .bare opening _ body closes =>
      obtain ⟨header, bodyNoBrace⟩ :=
        readOpening_nests inParentheses inBody noBrace opening
      obtain ⟨_, _, _, isBare⟩ := readOpening_takes opening
      have takes :=
        body.takesMatched inParentheses (inBody.behind header) bodyNoBrace
      exact .bare inBody header isBare takes closes

/-- A body is taken with all its braces matched. -/
theorem ReadsBody.takesMatched
    {profile : Profile}
    {opened tokens after : List Placed}
    {nodes : List Node}
    (inParentheses : profile.parenConditions = true)
    (inBody : InBody opened tokens)
    (reads : ReadsBody profile tokens nodes after) :
    TakesMatched tokens nodes after := by
  match reads with
  | .atEnd =>
      exact ⟨[], rfl, rfl, .nil⟩
  | .atBrace _ =>
      exact ⟨[], rfl, rfl, .nil⟩
  | @ReadsBody.semicolon _ token rest _ _ isSemicolon others =>
      have nests : token.nest [] = some [] :=
        Placed.nest_of_is isSemicolon (by decide) (by decide)
      obtain ⟨taken, same, nested, isMatched⟩ :=
        others.takesMatched
          inParentheses (inBody.behind (.cons nests (.refl rest)))
      refine
        ⟨token :: taken, by simp [same],
          (Nested.singleton nests).append nested,
          isMatched.mono (List.suffix_cons token taken).isInfix⟩
  | .statement noBrace _ first others =>
      have takesFirst :=
        first.takesMatched inParentheses inBody noBrace
      have takesOthers :=
        others.takesMatched
          inParentheses (inBody.behind takesFirst.closesUpTo)
      obtain ⟨these, theseSame, theseNested, theseMatched⟩ := takesFirst
      obtain ⟨taken, same, nested, isMatched⟩ := takesOthers
      refine
        ⟨these ++ taken, ?_, theseNested.append nested,
          theseMatched.cons isMatched⟩
      rw [theseSame, same, List.append_assoc]

end

mutual

/-- A body is refused only if the body of a control statement in it misses. -/
theorem readBody_refuses
    {profile : Profile}
    {opened tokens : List Placed}
    {reversed : List Node}
    {bound : Nat}
    {bounded : tokens.length ≤ bound}
    {fault : Fault}
    (inParentheses : profile.parenConditions = true)
    (inBody : InBody opened tokens)
    (read : readBody profile reversed bound tokens bounded = .error fault) :
    fault.MissesBody profile := by
  match tokens with
  | [] =>
      rw [readBody] at read
      cases read
  | token :: rest =>
      rw [readBody] at read
      cases brace : token.is "\x7d" with
      | true =>
          simp [brace] at read
      | false =>
          cases semicolon : token.is ";" with
          | true =>
              simp only [brace, semicolon, ↓reduceIte,
                Bool.false_eq_true] at read
              have nests : token.nest [] = some [] :=
                Placed.nest_of_is semicolon (by decide) (by decide)
              exact
                readBody_refuses
                  inParentheses (inBody.behind (.cons nests (.refl rest))) read
          | false =>
              simp only [brace, semicolon, ↓reduceIte,
                Bool.false_eq_true] at read
              split at read
              · next failed readFirst =>
                  cases read
                  exact
                    readStatement_refuses
                      inParentheses inBody brace readFirst
              · next statement readFirst =>
                  have shorter := statement.bounded
                  have takes :=
                    (ReadsStatement.of_readStatement readFirst).takesMatched
                      inParentheses inBody brace
                  exact
                    readBody_refuses
                      inParentheses (inBody.behind takes.closesUpTo) read
  termination_by (tokens.length, 1)

/-- A statement is refused only if the body of a control statement misses. -/
theorem readStatement_refuses
    {profile : Profile}
    {first : Placed}
    {opened rest : List Placed}
    {fault : Fault}
    (inParentheses : profile.parenConditions = true)
    (inBody : InBody opened (first :: rest))
    (noBrace : first.is "\x7d" = false)
    (read : readStatement profile first rest = .error fault) :
    fault.MissesBody profile := by
  rw [readStatement] at read
  split at read
  · next failed opening =>
      cases read
      exact readOpening_refuses inParentheses inBody opening
  · cases read
  · next head after bounded opening =>
      obtain ⟨header, opens⟩ :=
        readOpening_nests inParentheses inBody noBrace opening
      have atOpener : InBody opened (head.opener :: after) :=
        inBody.behind header
      have inGroup : InBody (head.opener :: opened) after :=
        atOpener.inside opens
      split at read
      · next failed readInside =>
          cases read
          exact readBody_refuses inParentheses inGroup readInside
      · next body readInside =>
          obtain ⟨nodes, _, inside⟩ := ReadsBody.of_readBody readInside
          have takes := inside.takesMatched inParentheses inGroup
          dsimp only at read
          split at read
          · next atEnd =>
              -- The brace that opened the body would be left open.
              have nested := (inGroup.behind takes.closesUpTo).nested
              rw [atEnd, openBehind_nil] at nested
              cases nested
          · next closing beyond same =>
              rw [same] at inside takes
              have behindGroup : InBody opened beyond :=
                atOpener.behind_group opens takes.closesUpTo inside.closes
              split at read
              · next failed closes =>
                  exact (behindGroup.closeBlock_ne_error failed closes).elim
              · cases read
  · next head after shorter opening =>
      obtain ⟨header, bodyNoBrace⟩ :=
        readOpening_nests inParentheses inBody noBrace opening
      have atOpener : InBody opened (head.opener :: after) :=
        inBody.behind header
      cases semicolon : head.opener.is ";" with
      | true =>
          simp only [semicolon, ↓reduceIte] at read
          have nests : head.opener.nest [] = some [] :=
            Placed.nest_of_is semicolon (by decide) (by decide)
          have behindBody : InBody opened after :=
            atOpener.behind (.cons nests (.refl after))
          split at read
          · next failed closes =>
              exact (behindBody.closeBlock_ne_error failed closes).elim
          · cases read
      | false =>
          simp only [semicolon, ↓reduceIte, Bool.false_eq_true] at read
          split at read
          · next failed readInside =>
              cases read
              exact
                readStatement_refuses
                  inParentheses atOpener bodyNoBrace readInside
          · next body readInside =>
              have takes :=
                (ReadsStatement.of_readStatement readInside).takesMatched
                  inParentheses atOpener bodyNoBrace
              have behindBody : InBody opened body.rest :=
                atOpener.behind takes.closesUpTo
              split at read
              · next failed closes =>
                  exact (behindBody.closeBlock_ne_error failed closes).elim
              · cases read
  termination_by (rest.length + 1, 0)

end

/-- Well nested tokens are read with all braces matched, or a body misses. -/
theorem readBraces_matched
    {profile : Profile}
    {tokens : List Placed}
    (inParentheses : profile.parenConditions = true)
    (inFile : InBody [] tokens) :
    (∃ forest,
        readBraces profile tokens = .ok forest ∧
          AllMatched tokens forest) ∨
      ∃ fault,
        readBraces profile tokens = .error fault ∧
          fault.MissesBody profile := by
  unfold readBraces
  cases read : readBody profile [] _ tokens (Nat.le_refl _) with
  | error fault =>
      exact .inr ⟨fault, rfl, readBody_refuses inParentheses inFile read⟩
  | ok body =>
      obtain ⟨nodes, value, reading⟩ := ReadsBody.of_readBody read
      simp only [List.reverse_nil, List.nil_append] at value
      have takes := reading.takesMatched inParentheses inFile
      dsimp only
      split
      · next atEnd =>
          obtain ⟨taken, same, _, isMatched⟩ := takes
          rw [atEnd, List.append_nil] at same
          rw [value, same]
          exact .inl ⟨nodes, rfl, isMatched⟩
      · next closing rest same =>
          rw [same] at reading takes
          have atBrace : InBody [] (closing :: rest) :=
            inFile.behind takes.closesUpTo
          have isClosing : closing.token.isDelimiter "\x7d" = true :=
            Placed.isDelimiter_of_reads
              (atBrace.plain closing (by simp))
              (by decide : '\x7d' ∈ brackets)
              (Placed.reads_of_is reading.closes)
          -- Outside all bodies there is no brace for this one to close.
          have nested := atBrace.nested
          rw [openBehind_cons, Option.bind_eq_some_iff] at nested
          obtain ⟨_, nests, _⟩ := nested
          obtain ⟨_, noneOpen, _⟩ :=
            Placed.exists_of_nest
              (Token.opensBracket_of_isDelimiter isClosing)
              (Token.closesBracket_of_isDelimiter isClosing)
              nests
          cases noneOpen

/--
The body of the block starts at an opening brace, and the block ends with the
brace that closes it or, for a `do` block, with the `while` clause behind that
brace.
-/
def Block.BracesMatch
    (tokens : List Placed)
    (block : Block) :
    Prop :=
  ∃ before opener inside closing tail after last,
    tokens = before ++ opener :: (inside ++ closing :: (tail ++ after)) ∧
      opener.index = block.headerEnd ∧
      opener.token.isDelimiter "\x7b" = true ∧
      Nested inside ∧
      closing.token.isDelimiter "\x7d" = true ∧
      (closing :: tail).getLast? = some last ∧
      last.index = block.last ∧
      (tail = [] ∨ (block.keyword = "do" ∧ IsLoopTail tail))

namespace SourceModel

/--
In the languages with conditions in parentheses, a file whose brackets are well
nested is read with matching braces, or refused because a control statement has
no body.
-/
theorem build_matchesBraces
    {source : SourceFile}
    {tokens : Array Token}
    (inParentheses :
      source.language ∈
        [Language.java, .javascript, .typescript, .csharp, .c])
    (read : source.language.profile.tokenize source.text = .ok tokens)
    (nested : Nested (placeCode tokens)) :
    (∃ model,
        build source = .ok model ∧
          model.tokens = tokens ∧
          ∀ block ∈ model.blocks,
            block.delimited = true →
            block.BracesMatch (placeCode tokens)) ∨
      ∃ fault,
        build source = .error fault ∧
          fault.MissesBody source.language.profile := by
  have isBraces : source.language.profile.blockStyle = .braces := by
    revert inParentheses
    cases source.language <;> decide
  have isParenthesised : source.language.profile.parenConditions = true := by
    revert inParentheses
    cases source.language <;> decide
  have inFile : InBody [] (placeCode tokens) :=
    { plain := by
        intro placed member
        have found :=
          mem_placeTokens.mp (List.filter_sublist.subset member)
        exact
          tokenize_delimitsBrackets read placed.token
            (Array.mem_of_getElem? found)
      nested := nested
      isBody := nofun }
  unfold build
  simp only [read, readForest, isBraces]
  rcases readBraces_matched isParenthesised inFile with
    ⟨forest, readForest, isMatched⟩ | ⟨fault, refused, misses⟩
  · rw [readForest]
    refine .inl ⟨_, rfl, rfl, ?_⟩
    intro block member isDelimited
    obtain ⟨index, found⟩ := Array.getElem?_of_mem member
    obtain ⟨head, body, last, inForest, shown, _⟩ :=
      Outline.blocks_ofForest found
    obtain
      ⟨before, inside, closing, tail, after, same, opens, insideNested,
        closes, ends, isTail⟩ :=
      isMatched head body last inForest (shown.delimited ▸ isDelimited)
    exact
      ⟨before, head.opener, inside, closing, tail, after, last, same,
        shown.headerEnd.symm, opens, insideNested, closes, ends,
        shown.last.symm, shown.keyword ▸ isTail⟩
  · rw [refused]
    exact .inr ⟨fault, rfl, misses⟩

/-- The brackets of a loop that is the body of a condition match. -/
theorem loopSample_matchesBraces :
    ∃ tokens model,
      loopSample.language.profile.tokenize loopSample.text = .ok tokens ∧
        Nested (placeCode tokens) ∧
        build loopSample = .ok model ∧
        model.blocks.size = 2 ∧
        ∀ block ∈ model.blocks,
          block.delimited = true →
          block.BracesMatch (placeCode tokens) := by
  have isNested :
      (loopSample.language.profile.tokenize loopSample.text).toOption.map
          (fun tokens => openBehind [] (placeCode tokens)) =
        some (some []) := by
    decide +kernel
  obtain ⟨model, built, blockCount⟩ := loopSample_built
  cases read : loopSample.language.profile.tokenize loopSample.text with
  | error fault =>
      simp [read, Except.toOption] at isNested
  | ok tokens =>
      have nested : Nested (placeCode tokens) := by
        simpa [read, Except.toOption] using isNested
      rcases build_matchesBraces (by decide) read nested with
        ⟨other, builtOther, _, isMatched⟩ | ⟨fault, refused, _⟩
      · rw [built] at builtOther
        cases builtOther
        exact
          ⟨tokens, model, rfl, nested, built, blockCount, isMatched⟩
      · rw [built] at refused
        cases refused

end SourceModel

end HouseStyle
