import HouseStyle.Proofs.Source.Confinement
import HouseStyle.Proofs.Source.RowDeclarations
import HouseStyle.Proofs.Token.Place

namespace HouseStyle

/-!
# Tokens that name blocks

A header names its block by one of its tokens, next to the keyword of a type or
before the parameters of a signature. The block is declared at the first token of
the header that is spelled alike. So an annotation or a type in front of the name
takes its place if it is spelled alike, and a visibility between the two is not
seen.
-/

/-! ## What a header names its block by -/

/-- The token that a header names its block by. -/
def namingToken?
    (profile : Profile)
    (header : List Placed) :
    Option Placed :=
  (classKeyword? profile none 0 header).elim
    (signature? header)
    fun found =>
      ([found.2.2, found.1].filterMap id).find? (·.kind = .identifier)

/-- The token is an identifier beside the keyword of a type or before parameters. -/
inductive NamesBlock
    (profile : Profile)
    (header : List Placed)
    (name : Placed) :
    Prop where
  | behindKeyword
      {before after : List Placed}
      {keyword : Placed}
      (isHeader : header = before ++ keyword :: name :: after)
      (isKeyword : keyword.kind = .keyword)
      (isType : keyword.text ∈ profile.classKeywords)
      (isIdentifier : name.kind = .identifier)
  | beforeKeyword
      {before after : List Placed}
      {keyword : Placed}
      (isHeader : header = before ++ name :: keyword :: after)
      (isKeyword : keyword.kind = .keyword)
      (isType : keyword.text ∈ profile.classKeywords)
      (isIdentifier : name.kind = .identifier)
  | beforeParameters
      {before after : List Placed}
      {opener : Placed}
      (isHeader : header = before ++ name :: opener :: after)
      (opens : opener.token.isDelimiter "(" = true)
      (isIdentifier : name.kind = .identifier)

/-- What names a block is an identifier. -/
theorem NamesBlock.isIdentifier
    {profile : Profile}
    {header : List Placed}
    {name : Placed}
    (names : NamesBlock profile header name) :
    name.kind = .identifier := by
  cases names <;> assumption

/-- What names a block is a token of its header. -/
theorem NamesBlock.mem
    {profile : Profile}
    {header : List Placed}
    {name : Placed}
    (names : NamesBlock profile header name) :
    name ∈ header := by
  cases names with
  | behindKeyword isHeader _ _ _ => simp [isHeader]
  | beforeKeyword isHeader _ _ _ => simp [isHeader]
  | beforeParameters isHeader _ _ => simp [isHeader]

/-- The token that a header names its block by stands where names stand. -/
theorem namesBlock_of_namingToken?
    {profile : Profile}
    {header : List Placed}
    {name : Placed}
    (found : namingToken? profile header = some name) :
    NamesBlock profile header name := by
  unfold namingToken? at found
  cases isType : classKeyword? profile none 0 header with
  | none =>
      rw [isType, Option.elim_none] at found
      obtain ⟨isIdentifier, before, opener, after, same, opens⟩ :=
        signatureFrom?_before found
      exact .beforeParameters same opens isIdentifier
  | some around =>
      obtain ⟨before, keyword, after⟩ := around
      rw [isType, Option.elim_some] at found
      obtain ⟨⟨isKeyword, isClass⟩, front, behind, same, isAfter⟩ :=
        classKeyword?_between isType
      have isIdentifier : name.kind = .identifier := by
        simpa using List.find?_some found
      have isBeside : after = some name ∨ before = some name := by
        simpa [eq_comm] using List.mem_of_find?_eq_some found
      rcases isBeside with rfl | rfl
      · obtain ⟨beyond, rfl⟩ := List.head?_eq_some_iff.mp isAfter
        exact .behindKeyword same isKeyword isClass isIdentifier
      · have isHeader : header = front ++ name :: keyword :: behind := by
          simpa using same
        exact .beforeKeyword isHeader isKeyword isClass isIdentifier

/-- The name of a block is the text of the token that names it. -/
theorem exists_namingToken?
    {profile : Profile}
    {first : Placed}
    {header : List Placed}
    {kind : BlockKind}
    {keyword name : String}
    (classified :
      classifyHeader profile first header = (kind, keyword, name))
    (isNamed : name ≠ "") :
    (kind = .type ∨ kind = .method) ∧
      ∃ naming, namingToken? profile header = some naming ∧ naming.text = name := by
  unfold classifyHeader at classified
  unfold namingToken?
  split at classified
  · next before _ after found =>
      cases classified
      refine ⟨.inl rfl, ?_⟩
      rw [found, Option.elim_some]
      cases named :
          ([after, before].filterMap id).find? (·.kind = .identifier) with
      | none =>
          rw [named] at isNamed
          exact (isNamed rfl).elim
      | some naming =>
          exact ⟨naming, rfl, rfl⟩
  · next found =>
      rw [found, Option.elim_none]
      split at classified
      · next naming isSignature =>
          cases classified
          exact ⟨.inr rfl, naming, isSignature, rfl⟩
      · cases classified
        exact (isNamed rfl).elim

/-! ## What is found again -/

section Ordered

variable {tokens : List Placed} (ordered : InOrder tokens)

include ordered

/-- The first token of a kind stands no later than any other. -/
theorem InOrder.exists_find?
    (test : Placed → Bool)
    {placed : Placed}
    (member : placed ∈ tokens)
    (passes : test placed = true) :
    ∃ found,
      tokens.find? test = some found ∧
        found ∈ tokens ∧ test found = true ∧ found.index ≤ placed.index := by
  obtain ⟨found, isFound⟩ :=
    Option.isSome_iff_exists.mp (List.find?_isSome.mpr ⟨placed, member, passes⟩)
  obtain ⟨foundPasses, before, after, rfl, others⟩ :=
    List.find?_eq_some_iff_append.mp isFound
  refine ⟨found, isFound, by simp, foundPasses, ?_⟩
  rcases List.mem_append.mp member with inFront | isBehind
  · have fails := others placed inFront
    simp [passes] at fails
  · exact ordered.right.head_le rfl isBehind

/-- What stands before an index is what has a smaller one. -/
theorem InOrder.mem_takeWhile
    {bound : Nat}
    {placed : Placed} :
    placed ∈ tokens.takeWhile (·.index < bound) ↔
      placed ∈ tokens ∧ placed.index < bound := by
  constructor
  · intro member
    exact
      ⟨(List.takeWhile_prefix _).subset member,
        by simpa using List.mem_takeWhile_imp member⟩
  · rintro ⟨member, isBefore⟩
    obtain ⟨before, after, rfl⟩ := List.append_of_mem member
    have areBefore :
        ∀ other ∈ before ++ [placed], decide (other.index < bound) = true := by
      intro other isThere
      rw [List.mem_append, List.mem_singleton] at isThere
      rcases isThere with inFront | rfl
      · have isEarlier := ordered.left_lt_right inFront List.mem_cons_self
        simpa using Nat.lt_trans isEarlier isBefore
      · simpa using isBefore
    rw [List.append_cons, List.takeWhile_append_of_pos areBefore]
    simp

end Ordered

/-- The visibility that a modifier states. -/
def Profile.stated?
    (profile : Profile)
    (placed : Placed) :
    Option Visibility :=
  if placed.kind = .keyword then
    profile.visibility? placed.text
  else
    none

/-- The first visibility before a name, or the one that its spelling implies. -/
def visibilityBefore
    (profile : Profile)
    (header : List Placed)
    (name : Placed) :
    Visibility :=
  ((header.takeWhile (·.index < name.index)).findSome? profile.stated?).getD
    (nameVisibility profile name.text)

/-- No modifier leaves a visibility open. -/
theorem Language.stated?_ne_unspecified
    {language : Language}
    {placed : Placed}
    {visibility : Visibility}
    (isStated : language.profile.stated? placed = some visibility) :
    visibility ≠ .unspecified := by
  have areStated :
      ∀ pair ∈ language.profile.visibilityKeywords,
        pair.2 ≠ .unspecified := by
    cases language <;> decide
  unfold Profile.stated? at isStated
  split at isStated
  · obtain ⟨before, behind, same, _⟩ := List.lookup_eq_some_iff.mp isStated
    exact areStated (placed.text, visibility) (by simp [same])
  · cases isStated

/-- A visibility is looked for before the name, and else implied by the name. -/
theorem Language.statedVisibility_eq
    (language : Language)
    (header : List Placed)
    (name : Placed) :
    (if statedVisibility language.profile header name = .unspecified then
        nameVisibility language.profile name.text
      else
        statedVisibility language.profile header name) =
      visibilityBefore language.profile header name := by
  have same :
      statedVisibility language.profile header name =
        ((header.takeWhile (·.index < name.index)).findSome?
          language.profile.stated?).getD .unspecified :=
    rfl
  rw [same, visibilityBefore]
  cases found :
      (header.takeWhile (·.index < name.index)).findSome?
        language.profile.stated? with
  | none =>
      simp
  | some visibility =>
      obtain ⟨placed, _, isStated⟩ := List.exists_of_findSome?_eq_some found
      simp [Language.stated?_ne_unspecified isStated]

/--
Before an earlier token that is spelled alike the same visibility is found, unless
the first one stands between the two.
-/
theorem exists_between_of_visibilityBefore_ne
    {profile : Profile}
    {header : List Placed}
    {shown naming : Placed}
    (ordered : InOrder header)
    (notBehind : shown.index ≤ naming.index)
    (alike : shown.text = naming.text)
    (different :
      visibilityBefore profile header shown ≠
        visibilityBefore profile header naming) :
    (∀ earlier ∈ header,
        earlier.index < shown.index → profile.stated? earlier = none) ∧
      ∃ keyword ∈ header,
        (profile.stated? keyword).isSome = true ∧
          shown.index ≤ keyword.index ∧ keyword.index < naming.index := by
  have isPart :
      header.takeWhile (·.index < shown.index) <+:
        header.takeWhile (·.index < naming.index) := by
    have both :
        (header.takeWhile (·.index < naming.index)).takeWhile
            (·.index < shown.index) =
          header.takeWhile (·.index < shown.index) := by
      rw [List.takeWhile_takeWhile]
      congr 1
      funext placed
      rw [decide_eq_decide, decide_eq_true_eq, decide_eq_true_eq]
      omega
    rw [← both]
    exact List.takeWhile_prefix _
  unfold visibilityBefore at different
  cases foundBefore :
      (header.takeWhile (·.index < shown.index)).findSome?
        profile.stated? with
  | some visibility =>
      rw [foundBefore, isPart.findSome?_eq_some foundBefore] at different
      exact (different rfl).elim
  | none =>
      have unstated :
          ∀ earlier ∈ header,
            earlier.index < shown.index → profile.stated? earlier = none :=
        fun earlier inHeader isBefore =>
          List.findSome?_eq_none_iff.mp foundBefore earlier
            (ordered.mem_takeWhile.mpr ⟨inHeader, isBefore⟩)
      refine ⟨unstated, ?_⟩
      cases found :
          (header.takeWhile (·.index < naming.index)).findSome?
            profile.stated? with
      | none =>
          rw [foundBefore, found, alike] at different
          exact (different rfl).elim
      | some visibility =>
          obtain ⟨keyword, member, isStated⟩ :=
            List.exists_of_findSome?_eq_some found
          obtain ⟨inHeader, isBefore⟩ := ordered.mem_takeWhile.mp member
          refine ⟨keyword, inHeader, by simp [isStated], ?_, isBefore⟩
          by_contra isEarlier
          have noneStated := unstated keyword inHeader (by omega)
          rw [isStated] at noneStated
          cases noneStated

/-! ## Where named blocks are declared -/

/-- A named type or method is declared at the first token that is spelled alike. -/
theorem bracedDeclaration?_of_shown
    (language : Language)
    {tokens : Array Token}
    (parent : Option Block)
    (row : Statement)
    {block : Block}
    {shown : Placed}
    (isNamed : block.name ≠ "")
    (kind : block.kind = .type ∨ block.kind = .method)
    (found :
      (codeBetween tokens block.first block.headerEnd).find?
          (·.reads block.name) =
        some shown) :
    ∃ kind,
      bracedDeclaration? language.profile tokens parent row block =
        some
          (row.declaring shown kind
            (visibilityBefore language.profile
              (codeBetween tokens block.first block.headerEnd) shown)) := by
  have alike : shown.text = block.name := by
    simpa [Placed.reads, Placed.text] using List.find?_some found
  unfold bracedDeclaration?
  rw [if_neg isNamed]
  simp only [found, Option.orElse_eq_orElse, Option.orElse_eq_or,
    Option.some_or, Option.bind_some]
  rw [← alike, Language.statedVisibility_eq]
  rcases kind with isType | isMethod
  · exact ⟨.type, by simp [isType]⟩
  · exact ⟨callableKind language.profile shown.text parent, by simp [isMethod]⟩

namespace SourceModel

/-- The code of a block before what opens its body. -/
def headerCode
    (model : SourceModel)
    (block : Block) :
    List Placed :=
  codeBetween model.tokens block.first block.headerEnd

/-- A header is in order. -/
theorem headerCode_inOrder
    (model : SourceModel)
    (block : Block) :
    InOrder (model.headerCode block) :=
  codeBetween_inOrder _ _ _

/-- A token of a header is a code token of the file. -/
theorem token_of_mem_headerCode
    {model : SourceModel}
    {block : Block}
    {placed : Placed}
    (member : placed ∈ model.headerCode block) :
    model.tokens[placed.index]? = some placed.token ∧
      placed.token.isCode = true := by
  have isThere := (mem_codeBetween.mp member).1
  obtain ⟨inFile, isCode⟩ := List.mem_filter.mp isThere
  exact ⟨mem_placeTokens.mp inFile, isCode⟩

/-- Between braces a block with a name is what the code of its header says. -/
theorem headerCode_classifies
    {source : SourceFile}
    {model : SourceModel}
    (built : build source = .ok model)
    (isBraces : model.language.profile.blockStyle = .braces)
    {block : Block}
    (member : block ∈ model.blocks)
    (isNamed : block.name ≠ "") :
    ∃ first,
      (model.headerCode block).head? = some first ∧
        classifyHeader model.language.profile first (model.headerCode block) =
          (block.kind, block.keyword, block.name) := by
  obtain ⟨forest, spelled, readForest, _, readFrom⟩ :=
    exists_forest_of_build built
  obtain ⟨head, body, last, inForest, shown⟩ := readFrom.exists_head member
  rw [← language_of_build built, SourceModel.readForest, isBraces]
    at readForest
  obtain ⟨before, header, after, same, starts, classified⟩ :=
    readBraces_classifies readForest head body last inForest
      (shown.name ▸ isNamed)
  rw [← readFrom.codeOnly isBraces, List.append_assoc] at same
  have ordered := readFrom.ordered
  rw [same] at ordered
  have allCode : header.filter (·.token.isCode) = header := by
    refine List.filter_eq_self.mpr fun placed isThere => ?_
    have isSpelled : placed ∈ spelled := by
      simp [same, isThere]
    rw [readFrom.codeOnly isBraces] at isSpelled
    exact (List.mem_filter.mp isSpelled).2
  have isHeader : model.headerCode block = header := by
    rw [headerCode, shown.first, shown.headerEnd,
      readFrom.codeBetween_eq same ?before ?inside ?after, allCode]
    case before =>
      intro placed inBefore
      exact
        ordered.left_lt_right inBefore
          (List.mem_append_left _ (List.mem_of_head? starts))
    case inside =>
      intro placed inHeader
      exact
        ⟨ordered.right.left.head_le starts inHeader,
          ordered.right.left_lt_right inHeader List.mem_cons_self⟩
    case after =>
      intro placed isBehind
      exact ordered.right.right.head_le rfl isBehind
  refine ⟨head.first, by rw [isHeader, starts], ?_⟩
  rw [isHeader, shown.kind, shown.keyword, shown.name]
  exact classified

/-- What is spelled like an identifier is one. -/
theorem isIdentifier_of_alike
    {source : SourceFile}
    {model : SourceModel}
    (built : build source = .ok model)
    {block : Block}
    {one other : Placed}
    (member : one ∈ model.headerCode block)
    (otherMember : other ∈ model.headerCode block)
    (alike : other.text = one.text)
    (isIdentifier : one.kind = .identifier) :
    other.kind = .identifier := by
  obtain ⟨_, _, _, read, _⟩ := exists_forest_of_build built
  have isNamed {placed : Placed} (isThere : placed ∈ model.headerCode block) :
      placed.kind = .identifier ↔
        source.language.profile.IsName placed.text.toList := by
    obtain ⟨found, isCode⟩ := token_of_mem_headerCode isThere
    exact
      tokenize_isNamed read placed.token (Array.mem_of_getElem? found) isCode
  rw [isNamed otherMember, alike]
  exact (isNamed member).mp isIdentifier

/--
The header names the block by the token `naming`, and `shown` is the first token
of the header that is spelled alike.
-/
structure NamesAt
    (model : SourceModel)
    (block : Block)
    (naming shown : Placed) :
    Prop where
  /-- What the block is called is told by its header. -/
  classified :
    ∃ first,
      (model.headerCode block).head? = some first ∧
        classifyHeader model.language.profile first (model.headerCode block) =
          (block.kind, block.keyword, block.name)
  isKind : block.kind = .type ∨ block.kind = .method
  isNaming :
    namingToken? model.language.profile (model.headerCode block) = some naming
  names : NamesBlock model.language.profile (model.headerCode block) naming
  isName : naming.text = block.name
  isShown :
    (model.headerCode block).find? (·.reads block.name) = some shown
  inHeader : shown ∈ model.headerCode block
  isAlike : shown.text = block.name
  isIdentifier : shown.kind = .identifier
  notBehind : shown.index ≤ naming.index

/-- Between braces the header of a block with a name holds both tokens. -/
theorem exists_namesAt_of_build
    {source : SourceFile}
    {model : SourceModel}
    (built : build source = .ok model)
    (isBraces : model.language.profile.blockStyle = .braces)
    {block : Block}
    (member : block ∈ model.blocks)
    (isNamed : block.name ≠ "") :
    ∃ naming shown, model.NamesAt block naming shown := by
  obtain ⟨first, starts, isClassified⟩ :=
    headerCode_classifies built isBraces member isNamed
  obtain ⟨isKind, naming, isNaming, isName⟩ :=
    exists_namingToken? isClassified isNamed
  have names := namesBlock_of_namingToken? isNaming
  obtain ⟨shown, isShown, inHeader, reads, notBehind⟩ :=
    (model.headerCode_inOrder block).exists_find? (·.reads block.name) names.mem
      (by simpa [Placed.reads, Placed.text] using isName)
  have isAlike : shown.text = block.name := by
    simpa [Placed.reads, Placed.text] using reads
  have isIdentifier : shown.kind = .identifier :=
    isIdentifier_of_alike built names.mem inHeader
      (isAlike.trans isName.symm) names.isIdentifier
  exact
    ⟨naming, shown,
      { classified := ⟨first, starts, isClassified⟩
        isKind, isNaming, names, isName, isShown, inHeader, isAlike,
        isIdentifier, notBehind }⟩

/-- The two tokens stand at one place if no earlier one is spelled alike. -/
theorem NamesAt.start_eq_iff
    {source : SourceFile}
    {model : SourceModel}
    {block : Block}
    {naming shown : Placed}
    (namesAt : model.NamesAt block naming shown)
    (built : build source = .ok model) :
    shown.token.start = naming.token.start ↔
      ∀ earlier ∈ model.headerCode block,
        earlier.text = block.name → naming.index ≤ earlier.index := by
  obtain ⟨_, _, _, read, _⟩ := exists_forest_of_build built
  have foundNaming := (token_of_mem_headerCode namesAt.names.mem).1
  have foundShown := (token_of_mem_headerCode namesAt.inHeader).1
  constructor
  · intro samePlace earlier isThere spelledAlike
    have sameIndex :=
      tokenize_index_of_start read foundShown foundNaming samePlace
    obtain ⟨found, isFound, _, _, isFirst⟩ :=
      (model.headerCode_inOrder block).exists_find? (·.reads block.name) isThere
        (by simpa [Placed.reads, Placed.text] using spelledAlike)
    rw [namesAt.isShown, Option.some.injEq] at isFound
    rwa [← sameIndex, isFound]
  · intro isFirst
    have sameIndex : shown.index = naming.index :=
      Nat.le_antisymm namesAt.notBehind
        (isFirst shown namesAt.inHeader namesAt.isAlike)
    rw [sameIndex, foundNaming, Option.some.injEq] at foundShown
    rw [foundShown]

/-- Only a visibility between the two tokens is told for one of them alone. -/
theorem NamesAt.exists_between
    {model : SourceModel}
    {block : Block}
    {naming shown : Placed}
    (namesAt : model.NamesAt block naming shown)
    (different :
      visibilityBefore model.language.profile (model.headerCode block) shown ≠
        visibilityBefore model.language.profile (model.headerCode block)
          naming) :
    (∀ earlier ∈ model.headerCode block,
        earlier.index < shown.index →
        model.language.profile.stated? earlier = none) ∧
      ∃ keyword ∈ model.headerCode block,
        (model.language.profile.stated? keyword).isSome = true ∧
          shown.index < keyword.index ∧ keyword.index < naming.index := by
  obtain ⟨unstated, keyword, isThere, isStated, notBefore, isBefore⟩ :=
    exists_between_of_visibilityBefore_ne (model.headerCode_inOrder block)
      namesAt.notBehind (namesAt.isAlike.trans namesAt.isName.symm) different
  refine ⟨unstated, keyword, isThere, isStated, ?_, isBefore⟩
  refine Nat.lt_of_le_of_ne notBefore fun sameIndex => ?_
  -- The first of the two is an identifier, and those state nothing.
  have foundShown := (token_of_mem_headerCode namesAt.inHeader).1
  have foundKeyword := (token_of_mem_headerCode isThere).1
  rw [← sameIndex, foundShown, Option.some.injEq] at foundKeyword
  have isKeyword : keyword.kind = .identifier := by
    rw [Placed.kind, ← foundKeyword]
    exact namesAt.isIdentifier
  simp [Profile.stated?, isKeyword] at isStated

/-- For a block with a name the first token that is spelled alike is declared. -/
theorem exists_declares_iff
    {source : SourceFile}
    {model : SourceModel}
    (built : build source = .ok model)
    (isBraces : model.language.profile.blockStyle = .braces)
    {block : Block}
    {naming shown : Placed}
    (member : block ∈ model.blocks)
    (isNamed : block.name ≠ "")
    (namesAt : model.NamesAt block naming shown) :
    ∃ (row : Statement) (kind : DeclarationKind),
      row.parent = block.parent ∧
        ∀ declaration,
          declaration ∈ model.declarations ∧
              declaration.statement = block.statement ↔
            declaration =
              row.declaring shown kind
                (visibilityBefore model.language.profile
                  (model.headerCode block) shown) := by
  obtain ⟨forest, spelled, readFrom⟩ := readFrom_of_build built
  obtain ⟨index, foundBlock⟩ := Array.getElem?_of_mem member
  obtain ⟨_, row, foundRow, _, isOwn, sameParent, _⟩ :=
    readFrom.consistent.own index block foundBlock
  obtain ⟨kind, declares⟩ :=
    bracedDeclaration?_of_shown
      model.language
      (row.parent.bind fun index => model.outline.blocks[index]?)
      row
      isNamed namesAt.isKind namesAt.isShown
  have isBlock :
      (row.block.bind fun index => model.outline.blocks[index]?) =
        some block := by
    rw [isOwn]
    exact foundBlock
  refine ⟨row, kind, sameParent, fun declaration => ?_⟩
  rw [mem_declarations_iff built isBraces foundRow]
  simp only [rowDeclaration?, isBlock, declares, Option.some.injEq]
  exact eq_comm

/--
The declaration of a block with a name: the only one of its statement, at the
first token of the header that is spelled like the one that names the block.
-/
structure DeclaresBlock
    (model : SourceModel)
    (block : Block)
    (naming shown : Placed)
    (declaration : Declaration) :
    Prop where
  namesAt : model.NamesAt block naming shown
  member : declaration ∈ model.declarations
  statement : declaration.statement = block.statement
  only :
    ∀ other ∈ model.declarations,
      other.statement = block.statement → other = declaration
  body : declaration.block = block.parent
  name : declaration.name = block.name
  place : declaration.place = shown.token.start
  visibility :
    declaration.visibility =
      visibilityBefore model.language.profile (model.headerCode block) shown
  /-- Only an earlier token that is spelled alike takes the place of the name. -/
  agrees :
    declaration.place = naming.token.start ↔
      ∀ earlier ∈ model.headerCode block,
        earlier.text = block.name → naming.index ≤ earlier.index
  /-- Only a visibility between the two tokens goes unseen. -/
  sees :
    declaration.visibility ≠
        visibilityBefore model.language.profile (model.headerCode block)
          naming →
      (∀ earlier ∈ model.headerCode block,
          earlier.index < shown.index →
          model.language.profile.stated? earlier = none) ∧
        ∃ keyword ∈ model.headerCode block,
          (model.language.profile.stated? keyword).isSome = true ∧
            shown.index < keyword.index ∧ keyword.index < naming.index

/--
Between braces every block with a name is declared once, at the first token of its
header that is spelled like the one that names it.
-/
theorem exists_declaresBlock_of_build
    {source : SourceFile}
    {model : SourceModel}
    (built : build source = .ok model)
    (isBraces : model.language.profile.blockStyle = .braces) :
    ∀ block ∈ model.blocks,
      block.name ≠ "" →
      ∃ naming shown declaration,
        model.DeclaresBlock block naming shown declaration := by
  intro block member isNamed
  obtain ⟨naming, shown, namesAt⟩ :=
    exists_namesAt_of_build built isBraces member isNamed
  obtain ⟨row, kind, isBody, declares⟩ :=
    exists_declares_iff built isBraces member isNamed namesAt
  obtain ⟨isDeclared, isStatement⟩ := (declares _).mpr rfl
  exact
    ⟨naming, shown, _,
      { namesAt
        member := isDeclared
        statement := isStatement
        only := fun other isThere same => (declares other).mp ⟨isThere, same⟩
        body := isBody
        name := namesAt.isAlike
        place := rfl
        visibility := rfl
        agrees := namesAt.start_eq_iff built
        sees := namesAt.exists_between }⟩

/-- A type behind an annotation of its name, with its visibility between the two. -/
def annotatedSample : SourceFile where
  path := "Foo.java"
  text := "@Foo public class Foo \x7b \x7d\n"
  language := .java

/-- A source is read into a model of a kind if the model is found to be of it. -/
theorem exists_model_of_any
    {source : SourceFile}
    {test : SourceModel → Bool}
    (found : (build source).toOption.any test = true) :
    ∃ model, build source = .ok model ∧ test model = true := by
  cases built : build source with
  | error fault =>
      simp [built, Except.toOption] at found
  | ok model =>
      exact ⟨model, rfl, by simpa [built, Except.toOption] using found⟩

/-- The type of the sample is declared, between braces as it is. -/
theorem annotatedSample_declaresBlock :
    ∃ model,
      build annotatedSample = .ok model ∧
        model.language.profile.blockStyle = .braces ∧
        ∃ block ∈ model.blocks,
          block.name ≠ "" ∧
            ∃ naming shown declaration,
              model.DeclaresBlock block naming shown declaration := by
  obtain ⟨model, built, isRead⟩ :
      ∃ model,
        build annotatedSample = .ok model ∧
          (model.language.profile.blockStyle == .braces &&
              model.blocks.any (·.name != "")) =
            true :=
    exists_model_of_any (by decide +kernel)
  rw [Bool.and_eq_true, beq_iff_eq, Array.any_eq_true'] at isRead
  obtain ⟨isBraces, block, member, isNamed⟩ := isRead
  have hasName : block.name ≠ "" := by
    simpa using isNamed
  exact
    ⟨model, built, isBraces, block, member, hasName,
      exists_declaresBlock_of_build built isBraces block member hasName⟩

/-- The sample is declared at the annotation, and its visibility goes unseen. -/
theorem annotatedSample_declaredApart :
    ∃ model,
      build annotatedSample = .ok model ∧
        ∃ block ∈ model.blocks,
          block.kind = .type ∧
            ∃ naming,
              namingToken? model.language.profile (model.headerCode block) =
                  some naming ∧
                ∃ declaration ∈ model.declarations,
                  declaration.statement = block.statement ∧
                    declaration.place ≠ naming.token.start ∧
                    declaration.visibility ≠
                      visibilityBefore model.language.profile
                        (model.headerCode block) naming := by
  obtain ⟨model, built, isApart⟩ :
      ∃ model,
        build annotatedSample = .ok model ∧
          (model.blocks.any fun block =>
            block.kind == .type &&
              (namingToken? model.language.profile
                  (model.headerCode block)).any fun naming =>
                model.declarations.any fun declaration =>
                  declaration.statement == block.statement &&
                    declaration.place != naming.token.start &&
                    declaration.visibility !=
                      visibilityBefore model.language.profile
                        (model.headerCode block) naming) =
            true :=
    exists_model_of_any (by decide +kernel)
  simp only [Array.any_eq_true', Bool.and_eq_true, beq_iff_eq,
    Option.any_eq_true, List.any_eq_true, bne_iff_ne, and_assoc] at isApart
  exact ⟨model, built, isApart⟩

end SourceModel

end HouseStyle
