import HouseStyle.Proofs.Source.FaultLine
import HouseStyle.Proofs.Source.SuiteLineage
import HouseStyle.Proofs.Token.Punctuation
import Mathlib

namespace HouseStyle

/-!
# The names of blocks

A block that has a name takes it from its header: between braces the name is one
of the header's tokens, and by indentation it stands behind the keyword that
defines it. So whoever looks a name up between the first token of a block and
the token that opens its body finds it.
-/

/-! ## Between braces -/

theorem dropQualifiers_suffix (tokens : List Placed) :
    dropQualifiers tokens <:+ tokens := by
  fun_induction dropQualifiers tokens with
  | case1 dot name rest _ inductionHypothesis =>
      exact inductionHypothesis.trans ⟨[dot, name], rfl⟩
  | case2 => exact List.suffix_rfl
  | case3 => exact List.suffix_rfl

theorem dropArguments_suffix
    (depth : Int)
    (tokens : List Placed) :
    dropArguments depth tokens <:+ tokens := by
  fun_induction dropArguments depth tokens with
  | case1 => exact List.suffix_rfl
  | case2 _ token rest _ inductionHypothesis =>
      exact inductionHypothesis.trans (List.suffix_cons token rest)
  | case3 _ token rest => exact List.suffix_cons token rest
  | case4 _ token rest _ _ _ inductionHypothesis =>
      exact inductionHypothesis.trans (List.suffix_cons token rest)
  | case5 _ token rest _ _ inductionHypothesis =>
      exact inductionHypothesis.trans (List.suffix_cons token rest)

/-- What looking over a marker leaves is the end of what it is given. -/
theorem dropMarkerName_suffix (tokens : List Placed) :
    dropMarkerName tokens <:+ tokens := by
  have qualifiers : dropQualifiers (tokens.drop 1) <:+ tokens :=
    (dropQualifiers_suffix _).trans (List.drop_suffix 1 tokens)
  unfold dropMarkerName
  split
  · exact List.nil_suffix
  · next token rest same =>
      rw [same] at qualifiers
      split
      · exact (dropArguments_suffix 0 _).trans qualifiers
      · exact qualifiers

/-- The name of a signature stands before the parenthesis of its parameters. -/
theorem signatureFrom?_before
    {previous : Option Placed}
    {depth : Int}
    {tokens : List Placed}
    {name : Placed}
    (found : signatureFrom? previous depth tokens = some name) :
    name.kind = .identifier ∧
      ∃ before opener after,
        previous.toList ++ tokens = before ++ name :: opener :: after ∧
          opener.token.isDelimiter "(" = true := by
  fun_induction signatureFrom? previous depth tokens with
  | case1 => cases found
  | case2 previous _ token rest _ _ inductionHypothesis =>
      obtain ⟨isIdentifier, before, opener, after, same, opens⟩ :=
        inductionHypothesis found
      obtain ⟨marker, isRest⟩ := dropMarkerName_suffix rest
      refine
        ⟨isIdentifier, previous.toList ++ token :: (marker ++ before), opener,
          after, ?_, opens⟩
      rw [← isRest, ← List.nil_append (dropMarkerName rest)]
      simpa using same
  | case3 _ token rest _ opens name isName =>
      cases found
      exact ⟨isName.2, [], token, rest, rfl, opens⟩
  | case4 _ _ _ _ _ previous _ inductionHypothesis =>
      obtain ⟨isIdentifier, before, opener, after, same, opens⟩ :=
        inductionHypothesis found
      exact
        ⟨isIdentifier, previous :: before, opener, after, by simpa using same,
          opens⟩
  | case5 _ _ _ _ _ inductionHypothesis =>
      exact inductionHypothesis found
  | case6 previous _ _ _ _ _ _ inductionHypothesis
  | case7 previous _ _ _ _ _ _ inductionHypothesis =>
      obtain ⟨isIdentifier, before, opener, after, same, opens⟩ :=
        inductionHypothesis found
      exact
        ⟨isIdentifier, previous.toList ++ before, opener, after,
          by simpa using same, opens⟩

/-- A signature's name is the token before it or one of its tokens. -/
theorem signatureFrom?_mem
    {previous : Option Placed}
    {depth : Int}
    {tokens : List Placed}
    {name : Placed}
    (found : signatureFrom? previous depth tokens = some name) :
    name ∈ previous.toList ++ tokens := by
  obtain ⟨_, before, opener, after, same, _⟩ := signatureFrom?_before found
  simp [same]

/-- The keyword of a type stands between the tokens that are found beside it. -/
theorem classKeyword?_between
    {profile : Profile}
    {previous before after : Option Placed}
    {depth : Int}
    {tokens : List Placed}
    {keyword : Placed}
    (found :
      classKeyword? profile previous depth tokens =
        some (before, keyword, after)) :
    (keyword.kind = .keyword ∧ keyword.text ∈ profile.classKeywords) ∧
      ∃ front behind,
        previous.toList ++ tokens =
            front ++ before.toList ++ keyword :: behind ∧
          behind.head? = after := by
  fun_induction classKeyword? profile previous depth tokens with
  | case1 => cases found
  | case2 previous _ _ _ _ inductionHypothesis
  | case3 previous _ _ _ _ _ inductionHypothesis
  | case5 previous _ _ _ _ _ _ inductionHypothesis =>
      obtain ⟨isKeyword, front, behind, same, isAfter⟩ :=
        inductionHypothesis found
      refine ⟨isKeyword, previous.toList ++ front, behind, ?_, isAfter⟩
      simpa using same
  | case4 _ _ _ rest _ _ isKeyword =>
      cases found
      exact ⟨isKeyword.2, [], rest, rfl, rfl⟩

/-- The tokens around a type's keyword are tokens of the header. -/
theorem classKeyword?_mem
    {profile : Profile}
    {previous before after : Option Placed}
    {depth : Int}
    {tokens : List Placed}
    {keyword : Placed}
    (found :
      classKeyword? profile previous depth tokens =
        some (before, keyword, after)) :
    ∀ name, after = some name ∨ before = some name →
      name ∈ previous.toList ++ tokens := by
  obtain ⟨_, front, behind, same, isAfter⟩ := classKeyword?_between found
  rintro name (rfl | rfl)
  · rw [same]
    have isBehind := List.mem_of_head? isAfter
    exact List.mem_append_right _ (List.mem_cons_of_mem _ isBehind)
  · simp [same]

/-- The name that a header gives is the text of one of its tokens. -/
theorem classifyHeader_name
    {profile : Profile}
    {first : Placed}
    {header : List Placed}
    {kind : BlockKind}
    {keyword name : String}
    (classified :
      classifyHeader profile first header = (kind, keyword, name))
    (isNamed : name ≠ "") :
    ∃ placed ∈ header, placed.text = name := by
  unfold classifyHeader at classified
  split at classified
  · next before keyword after found =>
      dsimp only at classified
      cases named :
          ([after, before].filterMap id).find? (·.kind = .identifier) with
      | none =>
          rw [named] at classified
          cases classified
          exact (isNamed rfl).elim
      | some placed =>
          rw [named] at classified
          cases classified
          have isAround := List.mem_of_find?_eq_some named
          refine ⟨placed, ?_, rfl⟩
          refine classKeyword?_mem found placed ?_
          simpa [eq_comm] using isAround
  · split at classified
    · next placed isSignature =>
        cases classified
        exact ⟨placed, signatureFrom?_mem isSignature, rfl⟩
    · cases classified
      exact (isNamed rfl).elim

/-- The tokens hold the block's header, which is as said, before what opens it. -/
def BlockHead.HasHeader
    (head : BlockHead)
    (tokens : List Placed)
    (holds : List Placed → Prop) :
    Prop :=
  ∃ before header after,
    tokens = before ++ header ++ head.opener :: after ∧
      header.head? = some head.first ∧
      holds header

theorem BlockHead.HasHeader.of_suffix
    {head : BlockHead}
    {tokens rest : List Placed}
    {holds : List Placed → Prop}
    (hasHeader : head.HasHeader rest holds)
    (isEnd : rest <:+ tokens) :
    head.HasHeader tokens holds := by
  obtain ⟨before, header, after, same, found⟩ := hasHeader
  obtain ⟨taken, joined⟩ := isEnd
  exact ⟨taken ++ before, header, after, by simp [← joined, same], found⟩

/-- A token of the block's header, before the body's opener, is spelled so. -/
def BlockHead.HeaderShows
    (head : BlockHead)
    (tokens : List Placed)
    (text : String) :
    Prop :=
  head.HasHeader tokens fun header => ∃ placed ∈ header, placed.text = text

/-- What the header says of the block is what the block is taken for. -/
def BlockHead.HeaderClassifies
    (profile : Profile)
    (head : BlockHead)
    (tokens : List Placed) :
    Prop :=
  head.HasHeader tokens fun header =>
    classifyHeader profile head.first header =
      (head.kind, head.keyword, head.name)

/-- A block that its header names shows the name there. -/
theorem BlockHead.HeaderClassifies.headerShows
    {profile : Profile}
    {head : BlockHead}
    {tokens : List Placed}
    (classified : head.HeaderClassifies profile tokens)
    (isNamed : head.name ≠ "") :
    head.HeaderShows tokens head.name := by
  obtain ⟨before, header, after, same, starts, isClassified⟩ := classified
  exact
    ⟨before, header, after, same, starts,
      classifyHeader_name isClassified isNamed⟩

/-- The block that a statement opens, if it is one. -/
def Opening.head?
    {bound : Nat} :
    Opening bound →
    Option BlockHead
  | .simple _ _ _ => none
  | .braced head _ _ => some head
  | .bare head _ _ => some head

/-- A block that is opened while reading on is what its header says. -/
theorem readOn_classifies
    (profile : Profile)
    (start current : Placed)
    (header : List Placed)
    (depth bound : Nat)
    (tokens : List Placed)
    (bounded : tokens.length ≤ bound)
    (isStart : header.getLast? = some start) :
    ∀ head ∈
      (readOn profile start current header depth bound tokens bounded).head?,
      head.HeaderClassifies profile (header.reverse ++ tokens) := by
  fun_induction readOn profile start current header depth bound tokens bounded
  case case1 | case2 | case4 | case5 =>
    simp [Opening.head?]
  case case3 current header _ token rest _ _ _ _ _ _ classified _ =>
    intro head isHead
    cases isHead
    refine ⟨[], header.reverse, rest, rfl, ?_, classified⟩
    simpa using isStart
  case case6 current header depth token rest _ _ _ _ _ _ _ classifies =>
    intro head isHead
    have moved :=
      classifies (by simp [List.getLast?_cons, isStart]) head isHead
    simpa using moved

/-- However a block with a name opens, it is what its header says. -/
theorem readOpening_classifies
    {profile : Profile}
    {first : Placed}
    {rest : List Placed}
    {opening : Opening rest.length}
    (read : readOpening profile first rest = .ok opening) :
    ∀ head ∈ opening.head?,
      head.name ≠ "" → head.HeaderClassifies profile (first :: rest) := by
  unfold readOpening at read
  split at read
  · unfold readControl at read
    dsimp only at read
    split at read
    · cases read
    · split at read
      · cases read
      · split at read
        · cases read
        · split at read <;>
            (cases read
             intro head isHead hasName
             cases isHead
             exact (hasName rfl).elim)
  · split at read
    · cases read
      intro head isHead hasName
      cases isHead
      exact (hasName rfl).elim
    · dsimp only at read
      cases read
      intro head isHead _
      exact
        readOn_classifies profile first first [first]
          (if first.token.opensBracket then 1 else 0)
          _ rest (Nat.le_refl _) rfl head isHead

/-- The block was opened by what is left of some tokens from one of them on. -/
def BlockHead.OpenedAmong
    (profile : Profile)
    (tokens : List Placed)
    (head : BlockHead) :
    Prop :=
  ∃ (first : Placed) (rest : List Placed) (opening : Opening rest.length),
    first :: rest <:+ tokens ∧
      readOpening profile first rest = .ok opening ∧
      opening.head? = some head

theorem BlockHead.OpenedAmong.of_suffix
    {profile : Profile}
    {head : BlockHead}
    {tokens rest : List Placed}
    (opened : head.OpenedAmong profile rest)
    (isEnd : rest <:+ tokens) :
    head.OpenedAmong profile tokens := by
  obtain ⟨first, behind, opening, isThere, opens⟩ := opened
  exact ⟨first, behind, opening, isThere.trans isEnd, opens⟩

mutual

/-- The blocks of a statement were opened among the tokens it is read from. -/
theorem ReadsStatement.opened
    {profile : Profile}
    {first : Placed}
    {rest after : List Placed}
    {node : Node} :
    ReadsStatement profile first rest node after →
    ∀ head body last,
      .block head body last ∈ node.family →
      head.OpenedAmong profile (first :: rest)
  | .simple _ => by
      intro head body last member
      simp [Node.family] at member
  | @ReadsStatement.braced _ _ _ opened _ _ _ _ _ _
        opening body closes => by
      intro head inside last member
      obtain ⟨_, final, _, _, _, value⟩ := closeBlock_takes closes
      obtain ⟨header, same, _⟩ := readOpening_takes opening
      rw [value, Node.family, List.mem_cons] at member
      rcases member with isWhole | inBody
      · cases isWhole
        exact ⟨first, rest, _, List.suffix_rfl, opening, rfl⟩
      · exact
          (body.opened head inside last inBody).of_suffix
            ⟨header ++ [opened.opener], by simp [same]⟩
  | @ReadsStatement.empty _ _ _ _ _ _ _ opening _ closes => by
      intro head inside last member
      obtain ⟨_, final, _, _, _, value⟩ := closeBlock_takes closes
      rw [value, Node.family, List.mem_cons] at member
      rcases member with isWhole | inBody
      · cases isWhole
        exact ⟨first, rest, _, List.suffix_rfl, opening, rfl⟩
      · simp [families, Node.family] at inBody
  | @ReadsStatement.bare _ _ _ _ _ _ _ _ _ opening _ body closes => by
      intro head inside last member
      obtain ⟨_, final, _, _, _, value⟩ := closeBlock_takes closes
      obtain ⟨header, same, _⟩ := readOpening_takes opening
      rw [value, Node.family, List.mem_cons] at member
      rcases member with isWhole | inBody
      · cases isWhole
        exact ⟨first, rest, _, List.suffix_rfl, opening, rfl⟩
      · rw [families, families, List.append_nil] at inBody
        exact
          (body.opened head inside last inBody).of_suffix
            ⟨header, same.symm⟩

/-- The blocks of a body were opened among the tokens it is read from. -/
theorem ReadsBody.opened
    {profile : Profile}
    {tokens after : List Placed}
    {nodes : List Node} :
    ReadsBody profile tokens nodes after →
    ∀ head body last,
      .block head body last ∈ families nodes →
      head.OpenedAmong profile tokens
  | .atEnd => by
      simp [families]
  | .atBrace _ => by
      simp [families]
  | .semicolon _ others => by
      intro head body last member
      exact
        (others.opened head body last member).of_suffix (List.suffix_cons _ _)
  | .statement _ _ first others => by
      intro head body last member
      rw [families, List.mem_append] at member
      rcases member with inFirst | inOthers
      · exact first.opened head body last inFirst
      · obtain ⟨taken, same, _⟩ := first.spells
        exact
          (others.opened head body last inOthers).of_suffix ⟨taken, same.symm⟩

end

/-- The blocks of a file between braces were opened among its tokens. -/
theorem readBraces_opened
    {profile : Profile}
    {tokens : List Placed}
    {forest : List Node}
    (read : readBraces profile tokens = .ok forest) :
    ∀ head body last,
      .block head body last ∈ families forest →
      head.OpenedAmong profile tokens := by
  unfold readBraces at read
  split at read
  · cases read
  · next body readWhole =>
      obtain ⟨nodes, value, reading⟩ := ReadsBody.of_readBody readWhole
      rw [List.reverse_nil, List.nil_append] at value
      split at read
      · cases read
        rw [value]
        exact reading.opened
      · cases read

/-- A block with a name between braces is what its header says. -/
theorem readBraces_classifies
    {profile : Profile}
    {tokens : List Placed}
    {forest : List Node}
    (read : readBraces profile tokens = .ok forest) :
    ∀ head body last,
      .block head body last ∈ families forest →
      head.name ≠ "" →
      head.HeaderClassifies profile tokens := by
  intro head body last member hasName
  obtain ⟨first, rest, opening, isEnd, opens, isHead⟩ :=
    readBraces_opened read head body last member
  exact
    (readOpening_classifies opens head isHead hasName).of_suffix isEnd

/-- The blocks of a file between braces are named among its tokens. -/
theorem readBraces_named
    {profile : Profile}
    {tokens : List Placed}
    {forest : List Node}
    (read : readBraces profile tokens = .ok forest) :
    ∀ head body last,
      .block head body last ∈ families forest →
      head.name ≠ "" →
      head.HeaderShows tokens head.name := by
  intro head body last member hasName
  exact
    (readBraces_classifies read head body last member hasName).headerShows
      hasName

/-! ## By indentation -/

/-- The colon that ends a header is spelled as one. -/
theorem splitAtColon_reads
    {depth : Int}
    {tokens inside : List Placed}
    {colon : Placed}
    (split : splitAtColon depth tokens = some (colon, inside)) :
    colon.reads ":" = true := by
  fun_induction splitAtColon depth tokens with
  | case1 =>
      cases split
  | case2 _ _ _ _ inductionHypothesis =>
      exact inductionHypothesis split
  | case3 _ _ _ _ _ inductionHypothesis =>
      exact inductionHypothesis split
  | case4 _ _ _ _ _ isColon =>
      cases split
      exact isColon.2.2
  | case5 _ _ _ _ _ _ inductionHypothesis =>
      exact inductionHypothesis split

/-- A keyword that defines a name stands before the colon of its header. -/
theorem suiteHeader?_defines
    {profile : Profile}
    {line : LogicalLine}
    {header : SuiteHeader}
    (isHeader : suiteHeader? profile line = some header)
    (defines : (definitionKeywords.lookup header.keyword.text).isSome) :
    ∃ before between,
      line.tokens =
        before ++ header.keyword ::
          (between ++ header.colon :: header.inside) := by
  unfold suiteHeader? at isHeader
  split at isHeader
  · cases isHeader
  · next keyword rest same =>
      obtain ⟨kind, _, isHeader⟩ := Option.bind_eq_some_iff.mp isHeader
      obtain ⟨⟨colon, inside⟩, found, isHeader⟩ :=
        Option.bind_eq_some_iff.mp isHeader
      dsimp only at isHeader
      split at isHeader
      · cases isHeader
      · cases isHeader
        dsimp only at defines ⊢
        obtain ⟨before, split⟩ := splitAtColon_takes found
        obtain ⟨front, joined⟩ := headerTokens_suffix line
        cases before with
        | nil =>
            -- A colon defines no name.
            obtain ⟨rfl, _⟩ := List.cons.inj split
            have isColon : keyword.text = ":" := by
              simpa [Placed.reads, Placed.text] using splitAtColon_reads found
            have noName : definitionKeywords.lookup ":" = none := by
              decide
            rw [isColon, noName] at defines
            cases defines
        | cons first between =>
            obtain ⟨rfl, sameRest⟩ := List.cons.inj split
            refine ⟨front, between, ?_⟩
            rw [← joined, same, sameRest]
            rfl

/-- A header line shows the keyword that defines a name before its colon. -/
theorem block_defines
    {profile : Profile}
    {start line : LogicalLine}
    {rest after : List LogicalLine}
    {header : SuiteHeader}
    (undecorated : undecorate start start rest = .ok (line, after))
    (isHeader : suiteHeader? profile line = some header)
    (defines : (definitionKeywords.lookup header.keyword.text).isSome) :
    (header.blockHead profile start).HeaderShows
      (tokensOf (start :: rest)) header.keyword.text := by
  obtain ⟨decorators, same⟩ := undecorate_takes undecorated
  obtain ⟨before, between, split⟩ := suiteHeader?_defines isHeader defines
  refine
    ⟨[], tokensOf decorators ++ before ++ header.keyword :: between,
      header.inside ++ tokensOf after, ?_, ?_, ?_⟩
  · rw [same]
    simp [split, SuiteHeader.blockHead]
  · have wholeStarts : (tokensOf (start :: rest)).head? = some start.first :=
      rfl
    rw [same, tokensOf_append, tokensOf_cons, split] at wholeStarts
    simpa [List.head?_append, SuiteHeader.blockHead] using wholeStarts
  · exact ⟨header.keyword, by simp, rfl⟩

/-- The block is headed by one of the lines, behind its decorators. -/
def BlockHead.HeadedAmong
    (profile : Profile)
    (lines : List LogicalLine)
    (head : BlockHead) :
    Prop :=
  ∃ start rest line after header,
    start :: rest <:+ lines ∧
      undecorate start start rest = .ok (line, after) ∧
      suiteHeader? profile line = some header ∧
      head = header.blockHead profile start

theorem BlockHead.HeadedAmong.of_suffix
    {profile : Profile}
    {head : BlockHead}
    {lines rest : List LogicalLine}
    (headed : head.HeadedAmong profile rest)
    (isEnd : rest <:+ lines) :
    head.HeadedAmong profile lines := by
  obtain ⟨start, behind, line, after, header, isThere, heads⟩ := headed
  exact ⟨start, behind, line, after, header, isThere.trans isEnd, heads⟩

mutual

/-- The blocks of a line and its suite are headed by one of their lines. -/
theorem ReadsLine.headed
    {profile : Profile}
    {start : LogicalLine}
    {rest after : List LogicalLine}
    {nodes : List Node}
    {last : Placed} :
    ReadsLine profile start rest nodes last after →
    ∀ head body final,
      .block head body final ∈ families nodes →
      head.HeadedAmong profile (start :: rest)
  | .simple _ _ _ => by
      intro head body final member
      exact (not_mem_families_of_simpleStatements member).elim
  | .inline undecorated isHeader _ => by
      intro head body final member
      simp only [families, Node.family, List.append_nil,
        List.mem_cons] at member
      rcases member with isBlock | inBody
      · cases isBlock
        exact
          ⟨start, rest, _, _, _, List.suffix_rfl, undecorated, isHeader, rfl⟩
      · exact (not_mem_families_of_simpleStatements inBody).elim
  | @ReadsLine.suite _ _ line _ _ _ _ _ _ _
        undecorated isHeader _ _ body => by
      intro head inside final member
      simp only [families, Node.family, List.append_nil,
        List.mem_cons] at member
      rcases member with isBlock | inBody
      · cases isBlock
        exact
          ⟨start, rest, _, _, _, List.suffix_rfl, undecorated, isHeader, rfl⟩
      · obtain ⟨decorators, same⟩ := undecorate_takes undecorated
        refine
          (body.headed head inside final inBody).of_suffix
            ⟨decorators ++ [line], ?_⟩
        rw [same]
        simp

/-- The blocks of a suite are headed by one of its lines. -/
theorem ReadsSuite.headed
    {profile : Profile}
    {indent : Nat}
    {line : LogicalLine}
    {rest after : List LogicalLine}
    {nodes : List Node}
    {last : Placed} :
    ReadsSuite profile indent line rest nodes last after →
    ∀ head body final,
      .block head body final ∈ families nodes →
      head.HeadedAmong profile (line :: rest)
  | .atEnd read =>
      read.headed
  | .dedent read _ =>
      read.headed
  | .next read _ others => by
      intro head body final member
      rw [families_append, List.mem_append] at member
      rcases member with inFirst | inOthers
      · exact read.headed head body final inFirst
      · obtain ⟨taken, same, _⟩ := read.spells
        exact
          (others.headed head body final inOthers).of_suffix ⟨taken, same.symm⟩

end

/-- The blocks of a file by indentation are headed by its lines. -/
theorem readIndented_headed
    {profile : Profile}
    {lines : List LogicalLine}
    {forest : List Node}
    (read : readIndented profile lines = .ok forest) :
    ∀ head body final,
      .block head body final ∈ families forest →
      head.HeadedAmong profile lines := by
  unfold readIndented at read
  split at read
  · cases read
    simp [families]
  · split at read
    · split at read
      · cases read
      · next suite readWhole =>
          cases read
          obtain ⟨nodes, value, reading⟩ := ReadsSuite.of_readSuite readWhole
          rw [List.append_nil] at value
          rw [value, List.reverse_reverse]
          exact reading.headed
    · cases read

/-- The blocks of a file by indentation show the keywords that define them. -/
theorem readIndented_defines
    {profile : Profile}
    {lines : List LogicalLine}
    {forest : List Node}
    (read : readIndented profile lines = .ok forest) :
    ∀ head body final,
      .block head body final ∈ families forest →
      (definitionKeywords.lookup head.keyword).isSome →
      head.HeaderShows (tokensOf lines) head.keyword := by
  intro head body final member defines
  obtain ⟨start, rest, line, after, header, isEnd, undecorated, isHeader, rfl⟩ :=
    readIndented_headed read head body final member
  exact
    (block_defines undecorated isHeader defines).of_suffix
      (tokensOf_suffix isEnd)

end HouseStyle
