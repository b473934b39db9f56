import HouseStyle.Proofs.Source.Family
import HouseStyle.Proofs.Source.IndentAcceptance

namespace HouseStyle

/-!
# Lines and statements sit in their suites

A suite is a header whose colon ends the line, with the lines below it that
stand at least as deep as the first of them. Every line stands at the indent of
the suite that it belongs to, and a statement of a block's body stands on lines
of the block's suite, at that suite's indent.
-/

/-- The header of a statement shares tokens with the line. -/
def Node.StandsOn
    (node : Node)
    (line : LogicalLine) :
    Prop :=
  node.first.index ≤ line.last.index ∧
    line.first.index ≤ node.headerLast.index

/-- A header line with the lines of its suite. -/
structure IsSuite
    (profile : Profile)
    (lines : List LogicalLine)
    (header : LogicalLine)
    (inside : List LogicalLine)
    (indent : Nat) :
    Prop where
  place : ∃ before after, lines = before ++ header :: (inside ++ after)
  opens : header.opensSuite profile = true
  deeper : header.indent < indent
  first : inside.head?.map LogicalLine.indent = some indent
  deep : ∀ line ∈ inside, indent ≤ line.indent

/-- The line stands at the indent of a suite that it belongs to. -/
def IsHoused
    (profile : Profile)
    (lines : List LogicalLine)
    (line : LogicalLine) :
    Prop :=
  ∃ header inside indent,
    IsSuite profile lines header inside indent ∧
      line ∈ inside ∧
      line.indent = indent

/-- The statements stand only on lines among `inside`, at one indent. -/
def SitsIn
    (lines inside : List LogicalLine)
    (indent : Nat)
    (nodes : List Node) :
    Prop :=
  ∀ node ∈ nodes, ∀ line ∈ lines,
    node.StandsOn line →
    line ∈ inside ∧ line.indent = indent

/-- A body stands on the line of its header, or sits in the header's suite. -/
def BodySits
    (profile : Profile)
    (lines : List LogicalLine)
    (head : BlockHead)
    (body : List Node)
    (last : Placed) :
    Prop :=
  (∀ node ∈ body, ∀ line ∈ lines,
      node.StandsOn line →
      (Node.block head body last).StandsOn line) ∨
    ∃ header inside indent,
      IsSuite profile lines header inside indent ∧
        header.last = head.opener ∧
        SitsIn lines inside indent body

/-- What a reading takes stands at one indent or in deeper suites. -/
structure SuiteTaken
    (profile : Profile)
    (lines taken : List LogicalLine)
    (indent : Nat)
    (nodes : List Node) :
    Prop where
  first : taken.head?.map LogicalLine.indent = some indent
  deep : ∀ line ∈ taken, indent ≤ line.indent
  housed :
    ∀ line ∈ taken, line.indent = indent ∨ IsHoused profile lines line
  sits : SitsIn lines taken indent nodes
  bodies :
    ∀ head body last,
      .block head body last ∈ families nodes →
      BodySits profile lines head body last

theorem tokensOf_part
    {lines part : List LogicalLine}
    (isPart : part <:+: lines) :
    tokensOf part <:+: tokensOf lines := by
  obtain ⟨before, after, rfl⟩ := isPart
  exact ⟨tokensOf before, tokensOf after, by simp⟩

theorem LogicalLine.last_mem (line : LogicalLine) :
    line.last ∈ line.tokens :=
  List.mem_of_getLast? line.getLast?_tokens

theorem mem_tokensOf
    {lines : List LogicalLine}
    {line : LogicalLine}
    {placed : Placed}
    (member : line ∈ lines)
    (inLine : placed ∈ line.tokens) :
    placed ∈ tokensOf lines :=
  List.mem_flatMap.mpr ⟨line, member, inLine⟩

/-- A statement stands only on the lines that its header is written on. -/
theorem mem_of_standsOn
    {lines part : List LogicalLine}
    {line : LogicalLine}
    {node : Node}
    (ordered : InOrder (tokensOf lines))
    (isPart : part <:+: lines)
    (starts : node.first ∈ tokensOf part)
    (ends : node.headerLast ∈ tokensOf part)
    (member : line ∈ lines)
    (stands : node.StandsOn line) :
    line ∈ part := by
  obtain ⟨before, after, rfl⟩ := isPart
  rw [tokensOf_append, tokensOf_append] at ordered
  obtain ⟨startsInTime, endsInTime⟩ := stands
  rcases List.mem_append.mp member with inFront | inAfter
  · rcases List.mem_append.mp inFront with inBefore | inPart
    · have isBefore :=
        ordered.left.left_lt_right
          (mem_tokensOf inBefore line.last_mem) starts
      omega
    · exact inPart
  · have isAfter :=
      ordered.left_lt_right
        (List.mem_append_right _ ends)
        (mem_tokensOf inAfter List.mem_cons_self)
    omega

section Simple

/-- Statements split at semicolons are no blocks. -/
theorem isBlock_of_mem_splitSimple
    {depth : Int}
    {pending tokens : List Placed}
    {found : List Node}
    (noBlocks : ∀ node ∈ found, node.isBlock = false) :
    ∀ node ∈ splitSimple depth pending found tokens,
      node.isBlock = false := by
  fun_induction splitSimple depth pending found tokens with
  | case1 _ _ found =>
      intro node member
      simp only [List.mem_reverse, List.mem_cons] at member
      rcases member with rfl | inFound
      · rfl
      · exact noBlocks node inFound
  | case2 =>
      simpa using noBlocks
  | case3 _ _ _ _ _ _ inductionHypothesis =>
      exact inductionHypothesis noBlocks
  | case4 _ _ _ _ _ _ _ inductionHypothesis =>
      exact inductionHypothesis noBlocks
  | case5 _ _ _ _ _ _ _ _ _ inductionHypothesis =>
      exact inductionHypothesis noBlocks
  | case6 _ _ _ _ _ _ _ _ _ _ inductionHypothesis =>
      refine inductionHypothesis ?_
      intro node member
      rcases List.mem_cons.mp member with rfl | inFound
      · rfl
      · exact noBlocks node inFound
  | case7 _ _ _ _ _ _ _ _ inductionHypothesis =>
      exact inductionHypothesis noBlocks

/-- Simple statements are all of their families. -/
theorem families_of_simple
    {nodes : List Node}
    (noBlocks : ∀ node ∈ nodes, node.isBlock = false) :
    families nodes = nodes := by
  induction nodes with
  | nil =>
      rfl
  | cons node rest inductionHypothesis =>
      have noBlock := noBlocks node (by simp)
      cases node with
      | simple first last =>
          rw [families, inductionHypothesis fun other member =>
            noBlocks other (by simp [member])]
          rfl
      | block =>
          cases noBlock

end Simple

/-- Decorators stand at the indent of what they decorate. -/
theorem undecorate_run
    {start line decorated : LogicalLine}
    {rest after : List LogicalLine}
    (level : line.indent = start.indent)
    (undecorated : undecorate start line rest = .ok (decorated, after)) :
    ∃ decorators,
      line :: rest = decorators ++ decorated :: after ∧
        ∀ other ∈ decorators ++ [decorated],
          other.indent = start.indent := by
  fun_induction undecorate start line rest with
  | case1 =>
      cases undecorated
  | case2 line next beyond _ sameIndent inductionHypothesis =>
      obtain ⟨decorators, same, isLevel⟩ :=
        inductionHypothesis sameIndent undecorated
      refine ⟨line :: decorators, by simp [same], ?_⟩
      simpa [level] using isLevel
  | case3 =>
      cases undecorated
  | case4 line rest _ =>
      cases undecorated
      exact ⟨[], rfl, by simpa using level⟩

/-- Simple statements start and end in the tokens that they are split from. -/
theorem mem_of_simpleStatements
    {tokens : List Placed}
    {node : Node}
    (member : node ∈ simpleStatements tokens) :
    node.isBlock = false ∧
      node.first ∈ tokens ∧
      node.headerLast ∈ tokens := by
  have noBlock : node.isBlock = false :=
    isBlock_of_mem_splitSimple (by simp) node member
  obtain ⟨these, spells, part⟩ :=
    (simpleStatements_spells tokens).part_of_mem member
  have isLast : node.headerLast = node.last := by
    cases node with
    | simple =>
        rfl
    | block =>
        cases noBlock
  rw [isLast]
  exact
    ⟨noBlock, part.subset spells.first_mem, part.subset spells.last_mem⟩

/-- No block is among simple statements. -/
theorem not_mem_families_of_simpleStatements
    {tokens : List Placed}
    {head : BlockHead}
    {body : List Node}
    {last : Placed} :
    .block head body last ∉ families (simpleStatements tokens) := by
  intro member
  rw [families_of_simple fun node isSimple =>
    (mem_of_simpleStatements isSimple).1] at member
  have noBlock := (mem_of_simpleStatements member).1
  cases noBlock

/-- A header with nothing behind its colon ends its line. -/
theorem LogicalLine.last_of_header
    {profile : Profile}
    (line : LogicalLine)
    {header : SuiteHeader}
    (isHeader : suiteHeader? profile line = some header)
    (ends : header.inside = []) :
    line.last = header.colon := by
  obtain ⟨before, split⟩ := suiteHeader?_takes isHeader
  have finish := line.getLast?_tokens
  rw [split, ends, List.getLast?_concat, Option.some.injEq] at finish
  exact finish.symm

section Readings

variable
  {profile : Profile}
  {lines : List LogicalLine}
  (ordered : InOrder (tokensOf lines))

section Run

variable
  {decorators after rest : List LogicalLine}
  {start line : LogicalLine}
  {header : SuiteHeader}
  (isEnd : start :: rest <:+ lines)
  (same : start :: rest = decorators ++ line :: after)

include same

/-- A run of decorators with what they decorate starts with its first line. -/
theorem head?_of_run :
    (decorators ++ [line]).head? = some start := by
  have whole := congrArg List.head? same
  rw [List.head?_append] at whole ⊢
  simpa using whole.symm

include isEnd

/-- The run is a part of the file. -/
theorem part_of_run :
    decorators ++ [line] <:+: lines := by
  refine List.IsInfix.trans ?_ isEnd.isInfix
  rw [same]
  exact ⟨[], after, by simp⟩

include ordered

/-- The header of a block stands on the run of decorators above it only. -/
theorem block_sits
    (level : ∀ other ∈ decorators ++ [line], other.indent = start.indent)
    (isHeader : suiteHeader? profile line = some header)
    (body : List Node)
    (last : Placed) :
    SitsIn lines (decorators ++ [line]) start.indent
      [.block (header.blockHead profile start) body last] := by
  intro node isBlock other inFile stands
  obtain rfl := List.mem_singleton.mp isBlock
  obtain ⟨before, split⟩ := suiteHeader?_takes isHeader
  have starts : start.first ∈ tokensOf (decorators ++ [line]) :=
    mem_tokensOf (List.mem_of_head? (head?_of_run same)) List.mem_cons_self
  have ends : header.colon ∈ tokensOf (decorators ++ [line]) :=
    mem_tokensOf (by simp) (show header.colon ∈ line.tokens by simp [split])
  have inRun : other ∈ decorators ++ [line] := by
    refine
      mem_of_standsOn ordered (part_of_run isEnd same) ?_ ?_ inFile stands
    · exact starts
    · exact ends
  exact ⟨inRun, level other inRun⟩

/-- The body on a header's own line stands where the header stands. -/
theorem inline_stands
    (isHeader : suiteHeader? profile line = some header)
    (body : List Node)
    (last : Placed) :
    ∀ node ∈ simpleStatements header.inside, ∀ other ∈ lines,
      node.StandsOn other →
      (Node.block
          (header.blockHead profile start) body last).StandsOn other := by
  intro node member other inFile stands
  obtain ⟨before, split⟩ := suiteHeader?_takes isHeader
  obtain ⟨_, starts, ends⟩ := mem_of_simpleStatements member
  have isRun := part_of_run isEnd same
  have isLine : other ∈ [line] := by
    have inLine : header.inside ⊆ tokensOf [line] := by
      intro placed isInside
      simp [split, isInside]
    exact
      mem_of_standsOn ordered
        ((List.suffix_append decorators [line]).isInfix.trans isRun)
        (inLine starts) (inLine ends) inFile stands
  obtain rfl := List.mem_singleton.mp isLine
  have runOrdered : InOrder (tokensOf (decorators ++ [other])) :=
    ordered.of_sublist (tokensOf_part isRun).sublist
  have runStarts :
      (tokensOf (decorators ++ [other])).head? = some start.first := by
    obtain ⟨others, shape⟩ :=
      List.head?_eq_some_iff.mp (head?_of_run same)
    rw [shape]
    rfl
  have lineOrdered : InOrder other.tokens := by
    rw [tokensOf_append] at runOrdered
    simpa using runOrdered.right
  exact
    ⟨runOrdered.head_le runStarts (mem_tokensOf (by simp) other.last_mem),
      lineOrdered.head_le rfl
        (show header.colon ∈ other.tokens by simp [split])⟩

/-- A header line with its body stands with the decorators above it. -/
theorem SuiteTaken.inline
    (level : ∀ other ∈ decorators ++ [line], other.indent = start.indent)
    (isHeader : suiteHeader? profile line = some header)
    (last : Placed) :
    SuiteTaken profile lines (decorators ++ [line]) start.indent
      [.block
        (header.blockHead profile start)
        (simpleStatements header.inside)
        last] where
  first := by
    rw [head?_of_run same]
    rfl
  deep := fun other member => (level other member).ge
  housed := fun other member => .inl (level other member)
  sits := block_sits ordered isEnd same level isHeader _ last
  bodies := by
    intro head body final member
    simp only [families, Node.family, List.append_nil,
      List.mem_cons] at member
    rcases member with isBlock | inBody
    · cases isBlock
      exact .inl (inline_stands ordered isEnd same isHeader _ last)
    · exact (not_mem_families_of_simpleStatements inBody).elim

/-- A header line with its suite below stands with the decorators above it. -/
theorem SuiteTaken.suite
    {inside : List LogicalLine}
    {indent : Nat}
    {nodes : List Node}
    (level : ∀ other ∈ decorators ++ [line], other.indent = start.indent)
    (isHeader : suiteHeader? profile line = some header)
    (ends : header.inside = [])
    (isSuite : IsSuite profile lines line inside indent)
    (taken : SuiteTaken profile lines inside indent nodes)
    (last : Placed) :
    SuiteTaken profile lines (decorators ++ [line] ++ inside) start.indent
      [.block (header.blockHead profile start) nodes last] where
  first := by
    rw [List.head?_append, head?_of_run same]
    rfl
  deep := by
    intro other member
    rcases List.mem_append.mp member with inRun | inSuite
    · exact (level other inRun).ge
    · have isDeep := taken.deep other inSuite
      have deeper := isSuite.deeper
      have lineLevel := level line (by simp)
      omega
  housed := by
    intro other member
    rcases List.mem_append.mp member with inRun | inSuite
    · exact .inl (level other inRun)
    · rcases taken.housed other inSuite with isLevel | isHoused
      · exact .inr ⟨line, inside, indent, isSuite, inSuite, isLevel⟩
      · exact .inr isHoused
  sits := fun node member other inFile stands =>
    (block_sits ordered isEnd same level isHeader nodes last
      node member other inFile stands).imp_left (List.mem_append_left inside)
  bodies := by
    intro head body final member
    simp only [families, Node.family, List.append_nil,
      List.mem_cons] at member
    rcases member with isBlock | inBody
    · cases isBlock
      exact
        .inr
          ⟨line, inside, indent, isSuite, line.last_of_header isHeader ends,
            taken.sits⟩
    · exact taken.bodies head body final inBody

end Run

include ordered

/-- Simple statements stand on their line. -/
theorem SuiteTaken.simple
    {line : LogicalLine}
    (isPart : [line] <:+: lines) :
    SuiteTaken profile lines [line] line.indent
      (simpleStatements line.tokens) where
  first := rfl
  deep := by simp
  housed := by simp
  sits := by
    intro node member other inFile stands
    obtain ⟨_, starts, ends⟩ := mem_of_simpleStatements member
    have isLine : other ∈ [line] :=
      mem_of_standsOn ordered isPart
        (by simpa using starts) (by simpa using ends) inFile stands
    exact ⟨isLine, by rw [List.mem_singleton.mp isLine]⟩
  bodies := fun _ _ _ member =>
    (not_mem_families_of_simpleStatements member).elim

omit ordered

/-- What stands at one indent does so together. -/
theorem SuiteTaken.append
    {taken more : List LogicalLine}
    {indent : Nat}
    {nodes others : List Node}
    (front : SuiteTaken profile lines taken indent nodes)
    (behind : SuiteTaken profile lines more indent others) :
    SuiteTaken profile lines (taken ++ more) indent (nodes ++ others) where
  first := by
    rw [List.head?_append, Option.map_or, front.first]
    rfl
  deep := by
    intro line member
    rcases List.mem_append.mp member with inFront | inMore
    · exact front.deep line inFront
    · exact behind.deep line inMore
  housed := by
    intro line member
    rcases List.mem_append.mp member with inFront | inMore
    · exact front.housed line inFront
    · exact behind.housed line inMore
  sits := by
    intro node member line inFile stands
    rcases List.mem_append.mp member with inFront | inOthers
    · exact
        (front.sits node inFront line inFile stands).imp_left
          (List.mem_append_left more)
    · exact
        (behind.sits node inOthers line inFile stands).imp_left
          (List.mem_append_right taken)
  bodies := by
    intro head body last member
    rw [families_append] at member
    rcases List.mem_append.mp member with inFront | inOthers
    · exact front.bodies head body last inFront
    · exact behind.bodies head body last inOthers

end Readings

-- Both halves keep that the lines still to be read end the file: a suite is
-- placed in the file by what was read before it and by what is left behind it.
mutual

/-- A line and its suite stand at the indent of the line or deeper. -/
theorem ReadsLine.suiteTaken
    {profile : Profile}
    {start : LogicalLine}
    {lines rest after : List LogicalLine}
    {nodes : List Node}
    {last : Placed}
    (ordered : InOrder (tokensOf lines))
    (isEnd : start :: rest <:+ lines) :
    ReadsLine profile start rest nodes last after →
    ∃ taken,
      start :: rest = taken ++ after ∧
        SuiteTaken profile lines taken start.indent nodes
  | @ReadsLine.simple _ line _ _ _ undecorated _ noMark => by
      rw [undecorate_of_no_mark noMark] at undecorated
      cases undecorated
      have isPart : [line] <:+: lines :=
        (List.prefix_append [line] rest).isInfix.trans isEnd.isInfix
      exact ⟨[line], rfl, .simple ordered isPart⟩
  | @ReadsLine.inline _ start line header _ _ undecorated isHeader _ => by
      obtain ⟨decorators, same, level⟩ := undecorate_run rfl undecorated
      exact
        ⟨decorators ++ [line], by simp [same],
          .inline ordered isEnd same level isHeader line.last⟩
  | @ReadsLine.suite _ start line next header _ beyond _ nodes last
        undecorated isHeader ends deeper body => by
      obtain ⟨decorators, same, level⟩ := undecorate_run rfl undecorated
      have isEndBelow : next :: beyond <:+ lines := by
        refine List.IsSuffix.trans ?_ isEnd
        exact ⟨decorators ++ [line], by simp [same]⟩
      obtain ⟨inside, insideSame, taken⟩ :=
        body.suiteTaken ordered isEndBelow rfl
      have isSuite : IsSuite profile lines line inside next.indent :=
        { place := by
            obtain ⟨before, joined⟩ := isEnd
            exact
              ⟨before ++ decorators, after, by
                rw [← joined, same, insideSame]
                simp⟩
          opens := by simp [LogicalLine.opensSuite, isHeader, ends]
          deeper := deeper
          first := taken.first
          deep := taken.deep }
      exact
        ⟨decorators ++ [line] ++ inside, by simp [same, insideSame],
          .suite ordered isEnd same level isHeader ends isSuite taken last⟩

/-- A suite stands at its indent or deeper. -/
theorem ReadsSuite.suiteTaken
    {profile : Profile}
    {indent : Nat}
    {line : LogicalLine}
    {lines rest after : List LogicalLine}
    {nodes : List Node}
    {last : Placed}
    (ordered : InOrder (tokensOf lines))
    (isEnd : line :: rest <:+ lines)
    (isFirst : line.indent = indent) :
    ReadsSuite profile indent line rest nodes last after →
    ∃ taken,
      line :: rest = taken ++ after ∧
        SuiteTaken profile lines taken indent nodes
  | .atEnd read => by
      rw [← isFirst]
      exact read.suiteTaken ordered isEnd
  | .dedent read _ => by
      rw [← isFirst]
      exact read.suiteTaken ordered isEnd
  | @ReadsSuite.next _ _ _ next _ beyond _ nodes more _ _
        read level others => by
      obtain ⟨front, frontSame, frontTaken⟩ := read.suiteTaken ordered isEnd
      rw [isFirst] at frontTaken
      have isEndBelow : next :: beyond <:+ lines := by
        refine List.IsSuffix.trans ?_ isEnd
        exact ⟨front, frontSame.symm⟩
      obtain ⟨taken, same, isTaken⟩ :=
        others.suiteTaken ordered isEndBelow level
      exact
        ⟨front ++ taken, by rw [frontSame, same]; simp,
          frontTaken.append isTaken⟩

end

end HouseStyle
