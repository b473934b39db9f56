import HouseStyle.Proofs.Source.BlockName
import Mathlib

namespace HouseStyle

/-!
# Look-ups find what they look for

Reading a file looks up lines by number, roles by keyword, rows and tokens by
index, and names in headers. Where nothing is found a default would take its
place, or a declaration would be left out. No text leads there: what is looked
up is there for every text, and a text that is refused is refused at one of its
lines.
-/

/-! ## While statements are read -/

/-- Behind its first token every logical line ends with code. -/
theorem isCode_of_mem_logicalLines
    {lines : Array Line}
    {tokens : Array Token} :
    ∀ line ∈ logicalLines lines tokens,
      ∀ placed ∈ line.others.getLast?, placed.token.isCode = true := by
  refine
    @joinLines_forall lines _
      (fun line =>
        ∀ placed ∈ line.reversed.head?, placed.token.isCode = true)
      ?_ ?_ ?_ ?_ _ _ _ (by simp) (by simp)
  · intro placed _
    simp [OpenLine.start]
  · intro line placed ready
    exact ready
  · intro line placed isCode _
    simpa [OpenLine.push] using isCode
  · intro line ready placed isLast
    rw [OpenLine.close, List.getLast?_reverse] at isLast
    exact ready placed isLast

/-- The header of a logical line has a first token. -/
theorem headerTokens_ne_nil
    {lines : Array Line}
    {tokens : Array Token}
    {line : LogicalLine}
    (member : line ∈ logicalLines lines tokens) :
    headerTokens line ≠ [] := by
  unfold headerTokens
  split
  · next isAsync =>
      simp only [Bool.and_eq_true, Bool.not_eq_true',
        List.isEmpty_eq_false_iff] at isAsync
      have isThere := List.getLast?_eq_some_getLast isAsync.2
      have isCode := isCode_of_mem_logicalLines line member _ isThere
      intro noneLeft
      rw [List.dropWhile_eq_nil_iff] at noneLeft
      have isRemark := noneLeft _ (List.mem_of_getLast? isThere)
      simp [isCode] at isRemark
  · simp [LogicalLine.tokens]

/-- A control keyword has a role, read alone or with the word behind it. -/
theorem control?_readKeyword
    (language : Language)
    (first : Placed)
    (rest : List Placed)
    (isControl : (language.profile.control? first.text).isSome = true) :
    (language.profile.control? (readKeyword first rest).value.2).isSome =
      true := by
  unfold readKeyword
  split
  · exact isControl
  · split
    · have hasRole : (language.profile.control? "if").isSome = true := by
        cases language <;> decide
      exact hasRole
    · split <;> exact isControl

/-- What reading the statements of a file looks up is there. -/
structure ReadingFinds
    (profile : Profile)
    (lines : Array Line)
    (tokens : Array Token) :
    Prop where
  startLine :
    ∀ token ∈ tokens,
      ∃ line,
        lines[token.start.line - 1]? = some line ∧
          line.number = token.start.line
  stopLine :
    ∀ token ∈ tokens,
      1 ≤ token.stop.line ∧
        ∃ line, lines[token.stop.line - 1]? = some line
  header : ∀ line ∈ logicalLines lines tokens, headerTokens line ≠ []
  role :
    ∀ (first : Placed) (rest : List Placed),
      (profile.control? first.text).isSome = true →
      (profile.control? (readKeyword first rest).value.2).isSome = true

/-- Whatever text the tokens were read from, reading its statements finds. -/
theorem readingFinds_of_tokenize
    {language : Language}
    {text : String}
    {tokens : Array Token}
    (read : language.profile.tokenize text = .ok tokens) :
    ReadingFinds language.profile (splitLines text) tokens where
  startLine token member := by
    obtain ⟨line, _, found, numbered, _⟩ :=
      (Profile.tokenize_liesIn read token member).first
    exact ⟨line, found, numbered⟩
  stopLine token member := by
    have liesIn := Profile.tokenize_liesIn read token member
    have fromFirst := Nat.le_trans liesIn.fromFirst liesIn.inOrder
    have inText : token.stop.line - 1 < (splitLines text).size := by
      have toLast := liesIn.toLast
      omega
    exact ⟨fromFirst, _, Array.getElem?_eq_getElem inText⟩
  header line member := headerTokens_ne_nil member
  role := control?_readKeyword language

/-! ## While names are looked up -/

/-- A token of the file lies between two indices if its own index does. -/
theorem mem_tokensBetween
    {tokens : Array Token}
    {first stop : Nat}
    {placed : Placed}
    (isThere : placed ∈ placeTokens tokens)
    (notBefore : first ≤ placed.index)
    (isBefore : placed.index < stop) :
    placed ∈ tokensBetween tokens first stop := by
  have found := mem_placeTokens.mp isThere
  have inFile := (Array.getElem?_eq_some_iff.mp found).1
  have inside : placed.index - first < min stop tokens.size - first := by
    omega
  refine List.mem_map.mpr ⟨(placed.token, placed.index), ?_, rfl⟩
  rw [List.mk_mem_zipIdx_iff_le_and_getElem?_sub, Array.getElem?_toList,
    Array.getElem?_extract, if_pos inside, Nat.add_sub_cancel' notBefore]
  exact ⟨notBefore, found⟩

/-- What lies between two indices is a token of the file with such an index. -/
theorem of_mem_tokensBetween
    {tokens : Array Token}
    {first stop : Nat}
    {placed : Placed}
    (member : placed ∈ tokensBetween tokens first stop) :
    placed ∈ placeTokens tokens ∧
      first ≤ placed.index ∧ placed.index < stop := by
  obtain ⟨⟨token, index⟩, isThere, rfl⟩ := List.mem_map.mp member
  rw [List.mk_mem_zipIdx_iff_le_and_getElem?_sub, Array.getElem?_toList,
    Array.getElem?_extract] at isThere
  obtain ⟨notBefore, found⟩ := isThere
  split at found
  · next inside =>
      rw [Nat.add_sub_cancel' notBefore] at found
      exact ⟨mem_placeTokens.mpr found, notBefore, by dsimp only; omega⟩
  · cases found

/-- The tokens up to an index, the one at the index last. -/
theorem tokensBetween_succ
    {tokens : Array Token}
    {first last : Nat}
    (notAfter : first ≤ last)
    (inFile : last < tokens.size) :
    tokensBetween tokens first (last + 1) =
      tokensBetween tokens first last ++ [⟨last, tokens[last]⟩] := by
  have length : first + (tokens.extract first last).toList.length = last := by
    rw [Array.length_toList, Array.size_extract]
    omega
  rw [tokensBetween, Array.extract_succ_right (by omega) inFile,
    Array.toList_push, List.zipIdx_append, length, List.map_append]
  rfl

/-- A keyword with a token behind it defines a name. -/
theorem definedName_isSome
    {keyword : String}
    {tokens : List Placed}
    {placed : Placed}
    (member : placed ∈ tokens)
    (isKeyword : placed.kind = .keyword)
    (reads : placed.text = keyword)
    (last : Placed) :
    (definedName keyword (tokens ++ [last])).isSome = true := by
  induction tokens with
  | nil =>
      cases member
  | cons first rest inductionHypothesis =>
      rw [List.cons_append, definedName]
      split
      · cases rest <;> rfl
      · next noKeyword =>
          rcases List.mem_cons.mp member with isFirst | inRest
          · subst isFirst
            have isNamed : placed.reads keyword = true := by
              simpa [Placed.reads, Placed.text] using reads
            exact (noKeyword ⟨isKeyword, isNamed⟩).elim
          · exact inductionHypothesis inRest

/-- What a header shows lies between its first token and the block's body. -/
theorem BlockHead.HeaderShows.exists_between
    {head : BlockHead}
    {tokens : List Placed}
    {text : String}
    (shown : head.HeaderShows tokens text)
    (ordered : InOrder tokens) :
    ∃ placed ∈ tokens,
      placed.text = text ∧
        head.first.index ≤ placed.index ∧
        placed.index < head.opener.index := by
  obtain ⟨before, header, after, rfl, starts, placed, member, reads⟩ := shown
  rw [List.append_assoc] at ordered
  have headerOrdered := ordered.right
  refine ⟨placed, by simp [member], reads, ?_, ?_⟩
  · exact headerOrdered.left.head_le starts member
  · exact headerOrdered.left_lt_right member List.mem_cons_self

namespace SourceModel

/-- What the tables of a model and the names in them refer to is there. -/
structure FindsAll (model : SourceModel) : Prop where
  statement :
    ∀ row ∈ model.statements,
      row.first ≤ row.last ∧ row.last < model.tokens.size
  parent :
    ∀ row ∈ model.statements, ∀ around,
      row.parent = some around →
      ∃ block, model.blocks[around]? = some block
  own :
    ∀ row ∈ model.statements, ∀ own,
      row.block = some own →
      ∃ block, model.blocks[own]? = some block
  body :
    ∀ parent, ∀ index ∈ model.outline.body parent,
      ∃ row, model.statements[index]? = some row ∧ row.parent = parent
  block :
    ∀ block ∈ model.blocks,
      block.first ≤ block.headerEnd ∧
        block.headerEnd ≤ block.last ∧
        block.last < model.tokens.size ∧
        ∃ row, model.statements[block.statement]? = some row
  /-- Between braces a name is one of the tokens of its header. -/
  named :
    model.language.profile.blockStyle = .braces →
    ∀ block ∈ model.blocks,
      block.name ≠ "" →
      ∃ placed ∈ codeBetween model.tokens block.first block.headerEnd,
        placed.reads block.name = true
  /-- By indentation a name stands behind the keyword that defines it. -/
  defined :
    model.language.profile.blockStyle = .indent →
    ∀ block ∈ model.blocks,
      (definitionKeywords.lookup block.keyword).isSome = true →
      (definedName
          block.keyword
          (tokensBetween model.tokens block.first
            (block.headerEnd + 1))).isSome =
        true

namespace ReadFrom

variable
  {model : SourceModel}
  {forest : List Node}
  {spelled : List Placed}
  (readFrom : model.ReadFrom forest spelled)

include readFrom

/-- Every row of the block table has the header of a block of the forest. -/
theorem exists_head
    {block : Block}
    (member : block ∈ model.blocks) :
    ∃ head body last,
      .block head body last ∈ families forest ∧
        Outline.ShowsHead block head last := by
  obtain ⟨index, found⟩ := Array.getElem?_of_mem member
  rw [blocks, readFrom.outline] at found
  obtain ⟨head, body, last, inForest, shown, _⟩ :=
    Outline.blocks_ofForest found
  exact ⟨head, body, last, inForest, shown⟩

/-- A block whose header ends in the file ends in the file. -/
theorem block_range
    {block : Block}
    (member : block ∈ model.blocks) :
    block.first ≤ block.headerEnd ∧
      block.headerEnd ≤ block.last ∧
      block.last < model.tokens.size ∧
      ∃ row, model.statements[block.statement]? = some row := by
  obtain ⟨index, found⟩ := Array.getElem?_of_mem member
  obtain ⟨startsFirst, endsLast, _⟩ := readFrom.block_header found
  obtain ⟨_, row, foundRow, _, _, _, _, sameLast⟩ :=
    readFrom.consistent.own index block found
  have inFile := (readFrom.statement_range foundRow).2
  rw [sameLast] at inFile
  exact ⟨startsFirst, endsLast, inFile, row, foundRow⟩

/-- Names are found if the headers of the forest show them. -/
theorem findsAll
    (named :
      model.language.profile.blockStyle = .braces →
      ∀ head body last,
        .block head body last ∈ families forest →
        head.name ≠ "" →
        head.HeaderShows (placeCode model.tokens) head.name)
    (defined :
      model.language.profile.blockStyle = .indent →
      ∀ head body last,
        .block head body last ∈ families forest →
        (definitionKeywords.lookup head.keyword).isSome = true →
        ∃ kept,
          kept.Sublist (placeTokens model.tokens) ∧
            head.HeaderShows kept head.keyword)
    (keywords :
      model.language.profile.blockStyle = .indent →
      ∀ token ∈ model.tokens,
        (definitionKeywords.lookup token.text).isSome = true →
        token.kind = .keyword) :
    model.FindsAll where
  statement row member := by
    obtain ⟨index, found⟩ := Array.getElem?_of_mem member
    exact readFrom.statement_range found
  parent row member around isParent := by
    obtain ⟨index, found⟩ := Array.getElem?_of_mem member
    obtain ⟨block, foundBlock, _⟩ :=
      readFrom.statement_inside found isParent
    exact ⟨block, foundBlock⟩
  own row member own isOwn := by
    obtain ⟨index, found⟩ := Array.getElem?_of_mem member
    obtain ⟨block, foundBlock, _⟩ :=
      readFrom.consistent.blockOf index own row found isOwn
    exact ⟨block, foundBlock⟩
  body parent index listed :=
    (readFrom.consistent.body parent index).mp listed
  block block member := readFrom.block_range member
  named isBraces block member hasName := by
    obtain ⟨head, body, last, inForest, shown⟩ := readFrom.exists_head member
    rw [shown.name] at hasName
    have ordered : InOrder (placeCode model.tokens) :=
      (placeTokens_inOrder model.tokens).of_sublist List.filter_sublist
    obtain ⟨placed, isThere, reads, notBefore, isBefore⟩ :=
      (named isBraces head body last inForest hasName).exists_between ordered
    obtain ⟨inFile, isCode⟩ := List.mem_filter.mp isThere
    rw [shown.first, shown.headerEnd, shown.name]
    refine ⟨placed, List.mem_filter.mpr ⟨?_, isCode⟩, ?_⟩
    · exact mem_tokensBetween inFile notBefore isBefore
    · simpa [Placed.reads, Placed.text] using reads
  defined isIndent block member defines := by
    obtain ⟨startsFirst, endsLast, inFile, _⟩ := readFrom.block_range member
    obtain ⟨head, body, last, inForest, shown⟩ := readFrom.exists_head member
    rw [shown.keyword] at defines
    obtain ⟨kept, isPart, shows⟩ :=
      defined isIndent head body last inForest defines
    have ordered : InOrder kept :=
      (placeTokens_inOrder model.tokens).of_sublist isPart
    obtain ⟨placed, isThere, reads, notBefore, isBefore⟩ :=
      shows.exists_between ordered
    have isPlaced := isPart.subset isThere
    have isToken := Array.mem_of_getElem? (mem_placeTokens.mp isPlaced)
    have isKeyword : placed.kind = .keyword := by
      refine keywords isIndent placed.token isToken ?_
      rw [← reads] at defines
      exact defines
    rw [← shown.first] at notBefore
    rw [← shown.headerEnd] at isBefore
    rw [shown.keyword,
      tokensBetween_succ startsFirst (Nat.lt_of_le_of_lt endsLast inFile)]
    exact
      definedName_isSome
        (mem_tokensBetween isPlaced notBefore isBefore) isKeyword reads _

end ReadFrom

/-- In a text by indentation what is spelled like a definition is a keyword. -/
theorem isKeyword_of_defines
    {language : Language}
    {text : String}
    {tokens : Array Token}
    (isIndent : language.profile.blockStyle = .indent)
    (read : language.profile.tokenize text = .ok tokens) :
    ∀ token ∈ tokens,
      (definitionKeywords.lookup token.text).isSome = true →
      token.kind = .keyword := by
  have isPython : language = .python := by
    revert isIndent
    cases language <;> decide
  subst isPython
  have opensMethod : Language.python.profile.OpensKeyword "def" 'd' := by
    exact ⟨rfl, ⟨by decide, by decide, by decide, by decide, by decide,
      by decide, by decide⟩, by decide, by decide, by decide⟩
  have opensType : Language.python.profile.OpensKeyword "class" 'c' := by
    exact ⟨rfl, ⟨by decide, by decide, by decide, by decide, by decide,
      by decide, by decide⟩, by decide, by decide, by decide⟩
  intro token member defines
  have isEither : token.text = "def" ∨ token.text = "class" := by
    by_cases isMethod : token.text = "def"
    · exact .inl isMethod
    · by_cases isType : token.text = "class"
      · exact .inr isType
      · have noMethod : (token.text == "def") = false :=
          beq_false_of_ne isMethod
        have noType : (token.text == "class") = false :=
          beq_false_of_ne isType
        simp [definitionKeywords, List.lookup, noMethod, noType] at defines
  rcases isEither with isMethod | isType
  · exact Profile.tokenize_keyword opensMethod read token member isMethod
  · exact Profile.tokenize_keyword opensType read token member isType

/-- Every model that is built finds whatever it refers to. -/
theorem findsAll_of_build
    {source : SourceFile}
    {model : SourceModel}
    (built : build source = .ok model) :
    model.FindsAll := by
  unfold build at built
  simp only at built
  split at built
  · cases built
  · next tokens read =>
      split at built
      · cases built
      · next forest readForest =>
          cases built
          obtain ⟨spelled, keeps, codeOnly, spells⟩ :=
            readForest_spells readForest
          refine
            ReadFrom.findsAll ⟨rfl, keeps, codeOnly, spells⟩ ?_ ?_ ?_
          · intro isBraces
            rw [SourceModel.readForest, isBraces] at readForest
            exact readBraces_named readForest
          · intro isIndent head body last member defines
            rw [SourceModel.readForest, isIndent] at readForest
            exact
              ⟨_, (logicalLines_keeps _ tokens).sublist,
                readIndented_defines readForest head body last member
                  defines⟩
          · intro isIndent
            exact isKeyword_of_defines isIndent read

/--
Any text is read into a model whose look-ups all find something, or it is
refused at one of its lines; while its statements are read no look-up fails.
-/
theorem build_answers (source : SourceFile) :
    (∃ fault,
        source.language.profile.tokenize source.text = .error fault ∧
          build source = .error fault ∧
          fault.IsAtLineOf source.text) ∨
      ∃ tokens,
        source.language.profile.tokenize source.text = .ok tokens ∧
          ReadingFinds
            source.language.profile (splitLines source.text) tokens ∧
          ((∃ fault,
              build source = .error fault ∧
                fault.IsAtLineOf source.text) ∨
            ∃ model,
              build source = .ok model ∧
                model.lines = splitLines source.text ∧
                model.tokens = tokens ∧
                model.FindsAll) := by
  cases read : source.language.profile.tokenize source.text with
  | error fault =>
      have refused : build source = .error fault := by
        simp only [build, read]
      exact
        .inl ⟨fault, rfl, refused, Profile.tokenize_isAtLineOf read⟩
  | ok tokens =>
      refine .inr ⟨tokens, rfl, readingFinds_of_tokenize read, ?_⟩
      cases told :
          readForest
            source.language.profile (splitLines source.text) tokens with
      | error fault =>
          have refused : build source = .error fault := by
            simp only [build, read, told]
          exact .inl ⟨fault, refused, readForest_isAtLineOf read told⟩
      | ok forest =>
          obtain ⟨model, built, sameLines, sameTokens⟩ :
              ∃ model,
                build source = .ok model ∧
                  model.lines = splitLines source.text ∧
                  model.tokens = tokens := by
            simp only [build, read, told]
            exact ⟨_, rfl, rfl, rfl⟩
          exact
            .inr
              ⟨model, built, sameLines, sameTokens, findsAll_of_build built⟩

end SourceModel

end HouseStyle
