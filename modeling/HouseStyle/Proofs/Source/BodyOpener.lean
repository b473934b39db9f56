import HouseStyle.Proofs.Source.BlockName
import HouseStyle.Source.Model

namespace HouseStyle

/-!
# What opens a body

Whichever way a block is read, a body that stands between delimiters is opened by
a token of one spelling: a brace, or the colon of a header line.
-/

/-- The spelling of the token that opens a delimited body. -/
def BlockStyle.bodyOpener : BlockStyle → String
  | .braces => "\x7b"
  | .indent => ":"

/-- Every delimited body among the statements is opened by such a token. -/
def OpenWith
    (opener : String)
    (nodes : List Node) :
    Prop :=
  ∀ head body last,
    .block head body last ∈ families nodes →
    head.delimited = true →
    head.opener.reads opener = true

namespace OpenWith

variable {opener : String} {nodes more : List Node}

theorem nil : OpenWith opener [] := by
  simp [OpenWith, families]

theorem simple (first last : Placed) :
    OpenWith opener [.simple first last] := by
  simp [OpenWith, families, Node.family]

/-- The bodies of two rows of statements are the bodies of both. -/
theorem append
    (opened : OpenWith opener nodes)
    (others : OpenWith opener more) :
    OpenWith opener (nodes ++ more) := by
  intro head body last member
  rw [families_append, List.mem_append] at member
  rcases member with inNodes | inOthers
  · exact opened head body last inNodes
  · exact others head body last inOthers

/-- The bodies of a block are its own and those inside it. -/
theorem block
    {head : BlockHead}
    {last : Placed}
    (opens : head.delimited = true → head.opener.reads opener = true)
    (opened : OpenWith opener nodes) :
    OpenWith opener [.block head nodes last] := by
  intro inner body final member
  simp only [families, Node.family, List.append_nil, List.mem_cons] at member
  rcases member with isWhole | isInside
  · cases isWhole
    exact opens
  · exact opened inner body final isInside

end OpenWith

/-! ## Between braces -/

/-- What a statement opens by a delimiter it opens by a brace. -/
theorem readOn_opensWithBrace
    (profile : Profile)
    (start current : Placed)
    (header : List Placed)
    (depth bound : Nat)
    (tokens : List Placed)
    (bounded : tokens.length ≤ bound) :
    ∀ head ∈
      (readOn profile start current header depth bound tokens bounded).head?,
      head.opener.reads "\x7b" = true := by
  fun_induction readOn profile start current header depth bound tokens bounded
  case case1 | case2 | case4 | case5 =>
    simp [Opening.head?]
  case case3 opens _ _ _ _ _ =>
    intro head isHead
    cases isHead
    exact Placed.reads_of_is (Placed.is_of_isDelimiter opens.2.1)
  case case6 inductionHypothesis =>
    exact inductionHypothesis

/-- However a statement opens, a delimited body opens by a brace. -/
theorem readOpening_opensWithBrace
    {profile : Profile}
    {first : Placed}
    {rest : List Placed}
    {opening : Opening rest.length}
    (read : readOpening profile first rest = .ok opening) :
    ∀ head ∈ opening.head?,
      head.delimited = true →
      head.opener.reads "\x7b" = true := by
  unfold readOpening at read
  split at read
  · unfold readControl at read
    dsimp only at read
    split at read
    · cases read
    · split at read
      · cases read
      · split at read
        · cases read
        · split at read
          · cases read
            intro head isHead isDelimited
            cases isHead
            exact Placed.reads_of_is isDelimited
          · cases read
            intro head isHead isDelimited
            cases isHead
            exact Placed.reads_of_is isDelimited
  · split at read
    · next isBrace =>
        cases read
        intro head isHead _
        cases isHead
        exact Placed.reads_of_is isBrace
    · cases read
      intro head isHead _
      exact readOn_opensWithBrace _ _ _ _ _ _ _ _ head isHead

mutual

/-- The bodies of a statement are opened by braces. -/
theorem ReadsStatement.openWithBrace
    {profile : Profile}
    {first : Placed}
    {rest after : List Placed}
    {node : Node} :
    ReadsStatement profile first rest node after →
    OpenWith "\x7b" [node]
  | .simple _ =>
      .simple _ _
  | .braced opening body closes => by
      obtain ⟨_, _, _, _, _, value⟩ := closeBlock_takes closes
      rw [value]
      exact .block (readOpening_opensWithBrace opening _ rfl) body.openWithBrace
  | .empty opening _ closes => by
      obtain ⟨_, _, _, _, _, value⟩ := closeBlock_takes closes
      rw [value]
      exact .block (readOpening_opensWithBrace opening _ rfl) (.simple _ _)
  | .bare opening _ body closes => by
      obtain ⟨_, _, _, _, _, value⟩ := closeBlock_takes closes
      rw [value]
      exact .block (readOpening_opensWithBrace opening _ rfl) body.openWithBrace

/-- The bodies inside a body are opened by braces. -/
theorem ReadsBody.openWithBrace
    {profile : Profile}
    {tokens after : List Placed}
    {nodes : List Node} :
    ReadsBody profile tokens nodes after →
    OpenWith "\x7b" nodes
  | .atEnd => .nil
  | .atBrace _ => .nil
  | .semicolon _ others => others.openWithBrace
  | .statement _ _ first others =>
      first.openWithBrace.append others.openWithBrace

end

/-- Between braces all delimited bodies are opened by braces. -/
theorem readBraces_openWithBrace
    {profile : Profile}
    {tokens : List Placed}
    {forest : List Node}
    (read : readBraces profile tokens = .ok forest) :
    OpenWith "\x7b" forest := by
  unfold readBraces at read
  split at read
  · cases read
  · next body readWhole =>
      obtain ⟨nodes, value, reading⟩ := ReadsBody.of_readBody readWhole
      rw [List.reverse_nil, List.nil_append] at value
      split at read
      · cases read
        rw [value]
        exact reading.openWithBrace
      · cases read

/-! ## By indentation -/

/-- A header line opens its suite by a colon. -/
theorem suiteHeader?_colon
    {profile : Profile}
    {line : LogicalLine}
    {header : SuiteHeader}
    (isHeader : suiteHeader? profile line = some header) :
    header.colon.reads ":" = true := by
  unfold suiteHeader? at isHeader
  split at isHeader
  · cases isHeader
  · obtain ⟨_, _, isHeader⟩ := Option.bind_eq_some_iff.mp isHeader
    obtain ⟨_, found, isHeader⟩ := Option.bind_eq_some_iff.mp isHeader
    dsimp only at isHeader
    split at isHeader
    · cases isHeader
    · cases isHeader
      exact splitAtColon_reads found

theorem simpleStatements_openWith
    (opener : String)
    (tokens : List Placed) :
    OpenWith opener (simpleStatements tokens) := by
  intro head body last member
  exact (not_mem_families_of_simpleStatements member).elim

mutual

/-- The bodies of a line and its suite are opened by colons. -/
theorem ReadsLine.openWithColon
    {profile : Profile}
    {start : LogicalLine}
    {rest after : List LogicalLine}
    {nodes : List Node}
    {last : Placed} :
    ReadsLine profile start rest nodes last after →
    OpenWith ":" nodes
  | .simple _ _ _ =>
      simpleStatements_openWith _ _
  | .inline _ isHeader _ =>
      .block (fun _ => suiteHeader?_colon isHeader)
        (simpleStatements_openWith _ _)
  | .suite _ isHeader _ _ body =>
      .block (fun _ => suiteHeader?_colon isHeader) body.openWithColon

/-- The bodies of a suite are opened by colons. -/
theorem ReadsSuite.openWithColon
    {profile : Profile}
    {indent : Nat}
    {line : LogicalLine}
    {rest after : List LogicalLine}
    {nodes : List Node}
    {last : Placed} :
    ReadsSuite profile indent line rest nodes last after →
    OpenWith ":" nodes
  | .atEnd read => read.openWithColon
  | .dedent read _ => read.openWithColon
  | .next read _ others => read.openWithColon.append others.openWithColon

end

/-- By indentation all bodies are opened by colons. -/
theorem readIndented_openWithColon
    {profile : Profile}
    {lines : List LogicalLine}
    {forest : List Node}
    (read : readIndented profile lines = .ok forest) :
    OpenWith ":" forest := by
  unfold readIndented at read
  split at read
  · cases read
    exact .nil
  · split at read
    · split at read
      · cases read
      · next suite readWhole =>
          cases read
          obtain ⟨nodes, value, reading⟩ := ReadsSuite.of_readSuite readWhole
          rw [List.append_nil] at value
          rw [value, List.reverse_reverse]
          exact reading.openWithColon
    · cases read

/-- Delimited bodies are opened as the style of the language says. -/
theorem SourceModel.readForest_openWith
    {profile : Profile}
    {lines : Array Line}
    {tokens : Array Token}
    {forest : List Node}
    (read : readForest profile lines tokens = .ok forest) :
    OpenWith profile.blockStyle.bodyOpener forest := by
  unfold readForest at read
  split at read
  · next isBraces =>
      rw [isBraces]
      exact readBraces_openWithBrace read
  · next isIndent =>
      rw [isIndent]
      exact readIndented_openWithColon read

end HouseStyle
