import HouseStyle.Proofs.Source.Standalone
import HouseStyle.Proofs.Source.StatementPlace

namespace HouseStyle

/-!
# Headers without parentheses

In Go no parentheses mark the end of a control statement's header. The reader
takes the first opening brace before which as many brackets are closed as
opened, counting from the keyword and brackets of all shapes together. That is
the body's brace if the brackets of the header balance and no other brace stands
outside them. The count may also fall below zero and rise again: then the brace
that is taken stands outside the block that the keyword is in.
-/

/--
`opener` is the first opening brace among the tokens before which as many
brackets are closed as opened; `front` stands before it and `after` behind it.
-/
structure FirstLevelBrace
    (tokens front : List Placed)
    (opener : Placed)
    (after : List Placed) :
    Prop where
  same : tokens = front ++ opener :: after
  isBrace : opener.token.isDelimiter "\x7b" = true
  level : surplus front = 0
  isFirst :
    ∀ earlier brace later,
      front = earlier ++ brace :: later →
      brace.token.isDelimiter "\x7b" = true →
      surplus earlier ≠ 0

/-- No opening brace stands where all brackets of the tokens are closed. -/
def WithoutOuterBrace (tokens : List Placed) : Prop :=
  ∀ earlier brace later,
    tokens = earlier ++ brace :: later →
    brace.token.isDelimiter "\x7b" = true →
    ¬ Nested earlier

/-- A brace behind a header whose brackets balance is the first at its level. -/
theorem Nested.firstLevelBrace
    {header after : List Placed}
    {opener : Placed}
    (nested : Nested header)
    (noOuter : WithoutOuterBrace header)
    (isBrace : opener.token.isDelimiter "\x7b" = true) :
    FirstLevelBrace (header ++ opener :: after) header opener after where
  same := rfl
  isBrace := isBrace
  level := by
    have level := nested.settled.level
    omega
  isFirst earlier brace later same opens level := by
    have nestedAll := nested
    rw [Nested, same, openBehind_append, Option.bind_eq_some_iff] at nestedAll
    obtain ⟨stack, opened, _⟩ := nestedAll
    have counted := surplus_of_openBehind opened
    rw [level, List.length_nil] at counted
    have noneOpen : stack = [] := List.length_eq_zero_iff.mp (by omega)
    rw [noneOpen] at opened
    exact noOuter earlier brace later same opens opened

/-- The search goes past tokens with no opening brace at its level. -/
theorem seekBrace_of_skips
    {depth : Int}
    {front : List Placed}
    (skips :
      ∀ earlier brace later,
        front = earlier ++ brace :: later →
        brace.token.isDelimiter "\x7b" = true →
        depth + surplus earlier ≠ 0)
    (rest : List Placed) :
    seekBrace depth (front ++ rest) = seekBrace (depth + surplus front) rest := by
  induction front generalizing depth with
  | nil => simp
  | cons token others inductionHypothesis =>
      have notHere : ¬ (depth = 0 ∧ token.token.isDelimiter "\x7b" = true) := by
        rintro ⟨atLevel, isBrace⟩
        exact skips [] token others rfl isBrace (by simp [atLevel])
      have behind :
          seekBrace (depth + token.step) (others ++ rest) =
            seekBrace (depth + token.step + surplus others) rest := by
        refine inductionHypothesis fun earlier brace later same isBrace => ?_
        have further :=
          skips (token :: earlier) brace later (by rw [same]; rfl) isBrace
        rw [surplus_cons] at further
        omega
      rw [List.cons_append, seekBrace, if_neg notHere, surplus_cons,
        ← Int.add_assoc, ← behind, Placed.step]
      split
      · rfl
      · split
        · rfl
        · rw [Int.add_zero]

/-- The search ends at the first opening brace at its level. -/
theorem FirstLevelBrace.seekBrace_eq
    {tokens front after : List Placed}
    {opener : Placed}
    (first : FirstLevelBrace tokens front opener after) :
    seekBrace 0 tokens = opener :: after := by
  rw [first.same,
    seekBrace_of_skips fun earlier brace later same isBrace => by
      have skipped := first.isFirst earlier brace later same isBrace
      omega,
    first.level, seekBrace, if_pos ⟨rfl, first.isBrace⟩]

/-- Without an opening brace at its level, the search finds none. -/
theorem seekBrace_eq_nil
    {tokens : List Placed}
    (noBrace :
      ∀ front brace after,
        tokens = front ++ brace :: after →
        brace.token.isDelimiter "\x7b" = true →
        surplus front ≠ 0) :
    seekBrace 0 tokens = [] := by
  have skipped : seekBrace 0 (tokens ++ []) = seekBrace (0 + surplus tokens) [] := by
    refine seekBrace_of_skips (fun earlier brace later same isBrace => ?_) []
    have notHere := noBrace earlier brace later same isBrace
    omega
  rwa [List.append_nil] at skipped

/-! ## Control statements of Go -/

/-- The keywords of Go that a header follows. -/
def headerKeywords : List String :=
  ["if", "for", "switch", "select"]

section Go

variable
  {keyword : Placed}
  {rest : List Placed}

/-- A word that follows a keyword is no brace. -/
theorem seekBrace_keywordOf
    (keyword : Placed)
    (rest : List Placed) :
    seekBrace 0 (keywordOf keyword rest).2 = seekBrace 0 rest := by
  have word
      {second : Placed}
      {beyond : List Placed}
      {text : String}
      (isText : second.is text = true)
      (noBrace : text ≠ "\x7b")
      (noBracket : second.step = 0) :
      seekBrace 0 beyond = seekBrace 0 (second :: beyond) := by
    have spelled := Placed.text_of_is isText
    have skipped :=
      @seekBrace_of_skips 0 [second]
        (fun earlier brace later same isBrace => by
          cases earlier with
          | nil =>
              obtain ⟨rfl, rfl⟩ := List.cons.inj same
              simp only [Token.isDelimiter, Bool.and_eq_true, beq_iff_eq] at isBrace
              exact (noBrace (spelled.symm.trans isBrace.2)).elim
          | cons _ others => cases others <;> cases same)
        beyond
    rw [surplus_cons, noBracket, surplus_nil] at skipped
    exact skipped.symm
  cases rest with
  | nil => rfl
  | cons second beyond =>
      rw [keywordOf]
      split
      · next isElseIf =>
          rw [Bool.and_eq_true] at isElseIf
          exact
            word isElseIf.2 (by decide)
              (Placed.step_of_is isElseIf.2 rfl rfl)
      · split
        · next isAwait =>
            rw [Bool.and_eq_true] at isAwait
            exact
              word isAwait.2 (by decide)
                (Placed.step_of_is isAwait.2 rfl rfl)
        · rfl

/-- A control statement starts at the first brace at the level of its keyword. -/
theorem startOf_header
    (isKeyword : keyword.kind = .keyword)
    (isControl : keyword.text ∈ headerKeywords)
    (rest : List Placed) :
    goProfile.startOf keyword rest =
      goProfile.controlStart keyword keyword.text keyword.text
        (seekBrace 0 rest) := by
  have noElse : keyword.reads "else" = false := by
    have isOther : keyword.token.text ∈ headerKeywords := isControl
    by_contra isElse
    rw [Bool.not_eq_false, Placed.reads, beq_iff_eq] at isElse
    rw [isElse] at isOther
    revert isOther
    decide
  have known : (goProfile.control? keyword.text).isSome = true := by
    revert isControl
    generalize keyword.text = text
    intro isControl
    fin_cases isControl <;> rfl
  have shown : (keywordOf keyword rest).1 = (keyword.text, keyword.text) := by
    cases rest with
    | nil => rfl
    | cons second beyond =>
        rw [keywordOf, noElse]
        simp only [Bool.false_and, Bool.false_eq_true, if_false]
        split <;> rfl
  have behind :
      goProfile.conditionEnd keyword.text (keywordOf keyword rest).2 =
        .ok (seekBrace 0 rest) := by
    have isOther : keyword.text ≠ "else" := by
      simpa [Placed.reads, Placed.text] using noElse
    unfold Profile.conditionEnd
    rw [if_neg (by decide), if_neg isOther, seekBrace_keywordOf]
  rw [Profile.startOf_eq, if_pos ⟨isKeyword, known⟩, Profile.controlOf, shown,
    behind]
  rfl

/-- The head of the block that a control statement with this body's brace is. -/
def headerOf (keyword opener : Placed) : BlockHead where
  kind := (goProfile.control? keyword.text).getD .other
  keyword := keyword.text
  name := ""
  first := keyword
  opener := opener
  delimited := true
  continues := goProfile.continuationKeywords.contains keyword.text

/-- The first brace at the level of the keyword opens the body. -/
theorem startOf_firstLevelBrace
    {front after : List Placed}
    {opener : Placed}
    (isKeyword : keyword.kind = .keyword)
    (isControl : keyword.text ∈ headerKeywords)
    (first : FirstLevelBrace rest front opener after) :
    goProfile.startOf keyword rest =
      .ok (.braced (headerOf keyword opener) after) := by
  have opens : opener.is "\x7b" = true :=
    Placed.is_of_isDelimiter first.isBrace
  have noClosing : opener.is "\x7d" = false :=
    Placed.is_eq_false opens (by decide)
  rw [startOf_header isKeyword isControl, first.seekBrace_eq,
    Profile.controlStart]
  simp only [noClosing, opens, Bool.false_eq_true, if_false, if_true]
  rfl

/-- What starts with a brace at the level of the keyword is one block. -/
theorem exists_block_of_firstLevelBrace
    {front after left : List Placed}
    {opener : Placed}
    {node : Node}
    (isKeyword : keyword.kind = .keyword)
    (isControl : keyword.text ∈ headerKeywords)
    (first : FirstLevelBrace rest front opener after)
    (isRead : goProfile.statementOf keyword rest = .ok (node, left)) :
    ∃ body last, node = .block (headerOf keyword opener) body last := by
  rw [Profile.statementOf_eq, startOf_firstLevelBrace isKeyword isControl first,
    ok_bind] at isRead
  obtain ⟨⟨body, beyond⟩, _, encloses⟩ := exists_of_bind_eq_ok isRead
  cases beyond with
  | nil => cases encloses
  | cons closing others =>
      obtain ⟨last, same⟩ := exists_block_of_closedOf encloses
      exact ⟨body, last, same⟩

/--
Where the brackets of a header and of a body balance, the statement is the block
between the braces around the body.
-/
theorem statementOf_header
    {header inside beyond : List Placed}
    {opener closing : Placed}
    {nodes : List Node}
    (isKeyword : keyword.kind = .keyword)
    (isControl : keyword.text ∈ headerKeywords)
    (plain : ∀ placed ∈ inside, placed.token.DelimitsBrackets)
    (nested : Nested header)
    (noOuter : WithoutOuterBrace header)
    (opens : opener.token.isDelimiter "\x7b" = true)
    (nestedInside : Nested inside)
    (isBody : goProfile.bodyOf inside = .ok (nodes, []))
    (closes : closing.token.isDelimiter "\x7d" = true) :
    goProfile.statementOf keyword
        (header ++ opener :: (inside ++ closing :: beyond)) =
      .ok (.block (headerOf keyword opener) nodes closing, beyond) := by
  have first :
      FirstLevelBrace (header ++ opener :: (inside ++ closing :: beyond)) header
        opener (inside ++ closing :: beyond) :=
    nested.firstLevelBrace noOuter opens
  have starts := startOf_firstLevelBrace isKeyword isControl first
  have body :=
    bodyOf_append closes beyond plain isBody fun _ => nestedInside.settled
  have noLoop : (headerOf keyword opener).keyword ≠ "do" := by
    intro isLoop
    have isOther : keyword.text = "do" := isLoop
    rw [isOther] at isControl
    revert isControl
    decide
  rw [Profile.statementOf_eq, starts, ok_bind, Profile.endOf, body, ok_bind]
  change closedOf (headerOf keyword opener) nodes closing beyond = _
  rw [closedOf_eq, if_neg noLoop]

end Go

namespace SourceModel

/--
What a file of Go comes to at a control keyword with the tokens `rest` behind it.
-/
structure ReadsHeader
    (source : SourceFile)
    (keyword : Placed)
    (rest : List Placed) :
    Prop where
  /-- Without an opening brace at the level of the keyword, the file is refused. -/
  refused :
    (∀ front brace after,
      rest = front ++ brace :: after →
      brace.token.isDelimiter "\x7b" = true →
      surplus front ≠ 0) →
    build source =
      .error
        { cause := .missingBody keyword.text
          line := keyword.token.start.line }
  /-- Otherwise the first such brace opens the body, wherever it stands. -/
  opened :
    ∀ front opener after model,
      FirstLevelBrace rest front opener after →
      build source = .ok model →
      ∃ block ∈ model.blocks,
        block.keyword = keyword.text ∧
          block.first = keyword.index ∧
            block.headerEnd = opener.index
  /--
  A header and a body whose brackets balance are read as one block, up to the
  brace that closes the body, if no brace stands outside the header's brackets.
  -/
  whole :
    ∀ header opener inside closing beyond nodes,
      rest = header ++ opener :: (inside ++ closing :: beyond) →
      Nested header →
      WithoutOuterBrace header →
      opener.token.isDelimiter "\x7b" = true →
      Nested inside →
      goProfile.bodyOf inside = .ok (nodes, []) →
      closing.token.isDelimiter "\x7d" = true →
      goProfile.statementOf keyword rest =
          .ok (.block (headerOf keyword opener) nodes closing, beyond) ∧
        ∀ model,
          build source = .ok model →
          ∃ block ∈ model.blocks,
            block.keyword = keyword.text ∧
              block.first = keyword.index ∧
                block.headerEnd = opener.index ∧
                  block.last = closing.index

/-- Every file of Go reads its control headers by counting brackets. -/
theorem readsHeader_of_comesTo
    {source : SourceFile}
    {tokens : Array Token}
    {keyword : Placed}
    {rest : List Placed}
    (isGo : source.language = .go)
    (read : source.language.profile.tokenize source.text = .ok tokens)
    (comesTo : BodyComesTo goProfile (placeCode tokens) keyword rest)
    (isKeyword : keyword.kind = .keyword)
    (isControl : keyword.text ∈ headerKeywords) :
    ReadsHeader source keyword rest := by
  have isProfile : source.language.profile = goProfile := by
    rw [isGo]
    rfl
  have isBraced : source.language.profile.blockStyle = .braces := by
    rw [isProfile]
    rfl
  have comes : BodyComesTo source.language.profile (placeCode tokens) keyword rest := by
    rwa [isProfile]
  have plain :
      ∀ placed ∈ keyword :: rest, placed.token.DelimitsBrackets := by
    intro placed member
    have found :=
      mem_placeTokens.mp (List.filter_sublist.subset (comesTo.suffix.subset member))
    exact
      tokenize_delimitsBrackets read placed.token (Array.mem_of_getElem? found)
  refine ⟨fun noBrace => ?_, ?_, ?_⟩
  · refine build_refuses_of_comesTo isBraced read comes ?_
    rw [isProfile, Profile.statementOf_eq, startOf_header isKeyword isControl,
      seekBrace_eq_nil noBrace]
    rfl
  · intro front opener after model first built
    cases isRead : source.language.profile.statementOf keyword rest with
    | error fault =>
        cases built.symm.trans (build_refuses_of_comesTo isBraced read comes isRead)
    | ok found =>
        obtain ⟨node, left⟩ := found
        have onGo := isRead
        rw [isProfile] at onGo
        obtain ⟨body, last, rfl⟩ :=
          exists_block_of_firstLevelBrace isKeyword isControl first onGo
        obtain ⟨block, member, shown⟩ :=
          exists_block_of_comesTo isBraced read comes built isRead
        exact ⟨block, member, shown.keyword, shown.first, shown.headerEnd⟩
  · rintro header opener inside closing beyond nodes rfl nested noOuter opens
      nestedInside isBody closes
    have plainInside : ∀ placed ∈ inside, placed.token.DelimitsBrackets :=
      fun placed member => plain placed (by simp [member])
    have isRead :=
      @statementOf_header keyword header inside beyond opener closing nodes
        isKeyword isControl plainInside nested noOuter opens nestedInside isBody
        closes
    refine ⟨isRead, fun model built => ?_⟩
    rw [← isProfile] at isRead
    obtain ⟨block, member, shown⟩ :=
      exists_block_of_comesTo isBraced read comes built isRead
    exact
      ⟨block, member, shown.keyword, shown.first, shown.headerEnd, shown.last⟩

/-- A loop over a composite literal in parentheses. -/
def headerSample : SourceFile where
  path := "header.go"
  text := "for _, x := range v([]int\x7b1\x7d) \x7b g(x) \x7d\n"
  language := .go

/-- The brace behind the literal's parentheses opens the body of the loop. -/
theorem headerSample_readsHeader :
    (∃ tokens keyword rest,
        headerSample.language.profile.tokenize headerSample.text = .ok tokens ∧
          placeCode tokens = keyword :: rest ∧
            keyword.text = "for" ∧
              ReadsHeader headerSample keyword rest) ∧
      ∃ model,
        build headerSample = .ok model ∧
          model.blocks.toList.map
              (fun block => (block.keyword, block.first, block.headerEnd, block.last)) =
            [("for", 0, 15, 20)] := by
  have shown :
      (headerSample.language.profile.tokenize headerSample.text).toOption.map
          (fun tokens =>
            (placeCode tokens).head?.map fun keyword =>
              (keyword.kind, keyword.text)) =
        some (some (.keyword, "for")) := by
    decide +kernel
  have blocks :
      (build headerSample).toOption.map
          (fun model =>
            model.blocks.toList.map fun block =>
              (block.keyword, block.first, block.headerEnd, block.last)) =
        some [("for", 0, 15, 20)] := by
    decide +kernel
  constructor
  · cases read : headerSample.language.profile.tokenize headerSample.text with
    | error fault =>
        rw [read] at shown
        cases shown
    | ok tokens =>
        rw [read] at shown
        cases same : placeCode tokens with
        | nil => simp [Except.toOption, same] at shown
        | cons keyword rest =>
            obtain ⟨isKeyword, isFor⟩ :
                keyword.kind = .keyword ∧ keyword.text = "for" := by
              simpa [Except.toOption, same] using shown
            have spelled : keyword.token.text = "for" := isFor
            have comesTo : BodyComesTo goProfile (placeCode tokens) keyword rest := by
              rw [same]
              exact
                .statement (by simp [Placed.is, Placed.reads, spelled])
                  (by simp [Placed.is, Placed.reads, spelled]) .here
            exact
              ⟨tokens, keyword, rest, rfl, same, isFor,
                readsHeader_of_comesTo rfl read comesTo isKeyword
                  (by rw [isFor]; decide)⟩
  · cases built : build headerSample with
    | error fault =>
        rw [built] at blocks
        cases blocks
    | ok model =>
        rw [built] at blocks
        exact ⟨model, rfl, Option.some.inj blocks⟩

/-- A condition without a body in a function, before another function. -/
def bodylessSample : SourceFile where
  path := "bodyless.go"
  text := "func f() \x7b if x \x7d\nfunc g() \x7b for \x7b \x7d \x7d\n"
  language := .go

/-- A loop over a composite literal without parentheses. -/
def literalSample : SourceFile where
  path := "literal.go"
  text :=
    "func f() \x7b for _, x := range []int\x7b1, 2\x7d \x7b g(x) \x7d \x7d\n"
  language := .go

/--
The condition without a body takes the brace of a loop that stands behind the
closing brace around the condition, which is token 7; and the loop over a literal
takes the literal's brace, which is token 14, and not the body's, token 19.
-/
theorem build_takes_other_braces :
    (build bodylessSample).toOption.map
          (fun model =>
            (model.tokens[7]?.map Token.text,
              model.blocks.toList.map fun block =>
                (block.keyword, block.first, block.headerEnd, block.last))) =
        some (some "\x7d", [("", 0, 4, 16), ("if", 5, 14, 15)]) ∧
      (build literalSample).toOption.map
          (fun model =>
            model.blocks.toList.map fun block =>
              (block.keyword, block.first, block.headerEnd, block.last)) =
        some [("", 0, 4, 25), ("for", 5, 14, 18), ("", 19, 19, 24)] := by
  constructor
  · decide +kernel
  · decide +kernel

end SourceModel

end HouseStyle
