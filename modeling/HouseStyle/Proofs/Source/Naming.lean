import HouseStyle.Proofs.Source.Lookup
import HouseStyle.Proofs.Token.LineBreaks
import HouseStyle.Proofs.Token.Place
import Mathlib

namespace HouseStyle

/-!
# What names and keywords are spelled with

The name of a block or a declaration is the text of a token, and the keyword of a
block is a word of the language. So a keyword holds no line break, and a name
holds one only where a string stands for a name. Faults name no more than keywords
either.
-/

/-- The text stands on one line, or it is that of a string among the tokens. -/
def BreaksAsString
    (tokens : Array Token)
    (text : String) :
    Prop :=
  IsOneLine text ∨ ∃ token ∈ tokens, token.kind = .string ∧ token.text = text

section Breaks

variable
  {language : Language}
  {text : String}
  {tokens : Array Token}
  (read : language.profile.tokenize text = .ok tokens)
  {token : Token}
  (member : token ∈ tokens)
  (isShown : token.isCode = true ∨ language.profile.blockStyle = .indent)

include read member isShown

/-- Code stands on one line unless it is a string, and by indentation all tokens do. -/
theorem isOneLine_or_isString :
    IsOneLine token.text ∨ token.kind = .string := by
  have closers :
      language.profile.blockStyle = .indent →
      language.profile.blockComments = [] := by
    cases language <;> decide
  rcases Profile.tokenize_oneLine read token member with
    oneLine | isString | ⟨isComment, hasClosers⟩
  · exact .inl oneLine
  · exact .inr isString
  · rcases isShown with isCode | isIndent
    · simp [Token.isCode, isComment] at isCode
    · exact (hasClosers (closers isIndent)).elim

/-- Code holds line breaks only in strings, and so do all tokens by indentation. -/
theorem breaksAsString_of_mem :
    BreaksAsString tokens token.text :=
  (isOneLine_or_isString read member isShown).imp_right
    fun isString => ⟨token, member, isString, rfl⟩

end Breaks

/-! ## Keywords -/

/-- The words by which languages open blocks hold no line break. -/
theorem isOneLine_of_control
    {language : Language}
    {keyword : String}
    (isControl : (language.profile.control? keyword).isSome = true) :
    IsOneLine keyword := by
  have areWords :
      ∀ pair ∈ language.profile.controlKeywords, IsOneLine pair.1 := by
    cases language <;> decide
  obtain ⟨kind, isKind⟩ := Option.isSome_iff_exists.mp isControl
  obtain ⟨before, behind, same, _⟩ := List.lookup_eq_some_iff.mp isKind
  exact areWords (keyword, kind) (by simp [same])

/-- A block that starts with a token may be called by that keyword. -/
def Profile.MayCall
    (profile : Profile)
    (first : Placed)
    (keyword : String) :
    Prop :=
  keyword ∈ "" :: "else if" :: profile.classKeywords ∨
    first.kind = .keyword ∧ keyword = first.text

/-- A header calls its block by one of these keywords. -/
theorem classifyHeader_calls
    {profile : Profile}
    {first : Placed}
    {header : List Placed}
    {kind : BlockKind}
    {keyword name : String}
    (classified :
      classifyHeader profile first header = (kind, keyword, name)) :
    profile.MayCall first keyword := by
  unfold classifyHeader at classified
  split at classified
  · next found =>
      cases classified
      exact .inl (by simp [(classKeyword?_between found).1.2])
  · split at classified
    · cases classified
      exact .inl (by simp)
    · cases classified
      by_cases isKeyword : first.kind = .keyword
      · exact .inr ⟨isKeyword, by simp [isKeyword]⟩
      · exact .inl (by simp [isKeyword])

/-- A block that is opened while reading on is called by one of these keywords. -/
theorem readOn_calls
    (profile : Profile)
    (start current : Placed)
    (header : List Placed)
    (depth bound : Nat)
    (tokens : List Placed)
    (bounded : tokens.length ≤ bound) :
    ∀ head ∈
      (readOn profile start current header depth bound tokens bounded).head?,
      profile.MayCall start head.keyword := by
  fun_induction readOn profile start current header depth bound tokens bounded
  case case1 | case2 | case4 | case5 =>
    simp [Opening.head?]
  case case3 classified _ =>
    intro head isHead
    cases isHead
    exact classifyHeader_calls classified
  case case6 inductionHypothesis =>
    exact inductionHypothesis

/-- However a block opens, it is called by one of these keywords. -/
theorem readOpening_calls
    {profile : Profile}
    {first : Placed}
    {rest : List Placed}
    {opening : Opening rest.length}
    (read : readOpening profile first rest = .ok opening) :
    ∀ head ∈ opening.head?, profile.MayCall first head.keyword := by
  unfold readOpening at read
  split at read
  · next isControl =>
      have mayCall :
          profile.MayCall first (readKeyword first rest).value.1 := by
        rcases readKeyword_shown first rest with isFirst | isElseIf
        · exact .inr ⟨isControl.1, isFirst⟩
        · exact .inl (by simp [isElseIf])
      unfold readControl at read
      dsimp only at read
      split at read
      · cases read
      · split at read
        · cases read
        · split at read
          · cases read
          · split at read <;>
              (cases read
               intro head isHead
               cases isHead
               exact mayCall)
  · split at read
    · cases read
      intro head isHead
      cases isHead
      exact .inl (by simp)
    · dsimp only at read
      cases read
      exact readOn_calls profile first first [first] _ _ rest (Nat.le_refl _)

/-! ## Names of declarations -/

theorem mem_of_mem_tokensBetween
    {tokens : Array Token}
    {first stop : Nat}
    {placed : Placed}
    (member : placed ∈ tokensBetween tokens first stop) :
    placed.token ∈ tokens :=
  Array.mem_of_getElem? (mem_placeTokens.mp (of_mem_tokensBetween member).1)

/-- The name is that of a token of the file, and of code unless by indentation. -/
def SpelledBy
    (profile : Profile)
    (tokens : Array Token)
    (name : String) :
    Prop :=
  ∃ token ∈ tokens,
    token.text = name ∧ (token.isCode = true ∨ profile.blockStyle = .indent)

/-- The text of code between two indices is spelled by it. -/
theorem spelledBy_of_mem_codeBetween
    {profile : Profile}
    {tokens : Array Token}
    {first stop : Nat}
    {placed : Placed}
    (member : placed ∈ codeBetween tokens first stop) :
    SpelledBy profile tokens placed.text := by
  obtain ⟨isThere, isCode⟩ := List.mem_filter.mp member
  exact ⟨placed.token, mem_of_mem_tokensBetween isThere, rfl, .inl isCode⟩

/-- The head of a declaration is part of its statement. -/
theorem declarationHead_subset
    (depth : Int)
    (reversed tokens : List Placed) :
    (declarationHead depth reversed tokens).1 ⊆ reversed.reverse ++ tokens := by
  fun_induction declarationHead depth reversed tokens with
  | case1 reversed => simp
  | case2 _ _ _ _ _ inductionHypothesis => simpa using inductionHypothesis
  | case3 _ _ _ _ _ _ inductionHypothesis => simpa using inductionHypothesis
  | case4 => simp
  | case5 _ _ _ _ _ _ _ inductionHypothesis => simpa using inductionHypothesis

/-- What stands behind modifiers is the end of what is given. -/
theorem readModifiers_suffix
    (profile : Profile)
    (visibility : Visibility)
    (bound : Bool)
    (tokens : List Placed) :
    (readModifiers profile visibility bound tokens).rest <:+ tokens := by
  fun_induction readModifiers profile visibility bound tokens with
  | case1 => exact List.suffix_rfl
  | case2 _ _ _ rest _ _ inductionHypothesis =>
      exact
        (inductionHypothesis.trans (dropMarkerName_suffix rest)).trans
          (List.suffix_cons _ rest)
  | case3 => exact List.suffix_rfl
  | case4 _ _ _ rest _ _ _ _ inductionHypothesis =>
      exact inductionHypothesis.trans (List.suffix_cons _ rest)
  | case5 _ _ _ rest _ _ _ _ inductionHypothesis =>
      exact inductionHypothesis.trans (List.suffix_cons _ rest)
  | case6 _ _ _ rest _ _ _ _ _ inductionHypothesis =>
      exact inductionHypothesis.trans (List.suffix_cons _ rest)
  | case7 => exact List.suffix_rfl

/-- What is declared behind its type is an identifier among the tokens. -/
theorem typedName?_identifies
    {profile : Profile}
    {first name : Placed}
    {tokens : List Placed}
    (found : typedName? profile first tokens = some name) :
    name ∈ tokens ∧ name.kind = .identifier := by
  unfold typedName? at found
  split at found
  · next last before others reversed =>
      simp only at found
      split at found
      · next isTyped =>
          cases found
          rw [← List.mem_reverse, reversed]
          simp only [Bool.and_eq_true, beq_iff_eq] at isTyped
          exact ⟨List.mem_cons_self, isTyped.1.2⟩
      · cases found
  · cases found

/-- The declared name is an identifier among the tokens that declare it. -/
theorem declaredName?_identifies
    {profile : Profile}
    {inType bound : Bool}
    {terminator : String}
    {tokens : List Placed}
    {name : Placed}
    (found : declaredName? profile inType bound terminator tokens = some name) :
    name ∈ tokens ∧ name.kind = .identifier := by
  unfold declaredName? at found
  split at found
  · cases found
  · next first rest =>
      have isFirst
          {condition : Prop}
          [Decidable condition]
          (identifies : condition → first.kind = .identifier)
          (found : (if condition then some first else none) = some name) :
          name ∈ first :: rest ∧ name.kind = .identifier := by
        split at found
        · next holds =>
            cases found
            exact ⟨List.mem_cons_self, identifies holds⟩
        · cases found
      dsimp only at found
      split at found
      · exact isFirst (by simp) found
      · split at found
        · exact isFirst (by simp +contextual) found
        · next second others =>
            split at found
            · next isAnnotated =>
                cases found
                simp only [Bool.and_eq_true, beq_iff_eq] at isAnnotated
                exact ⟨List.mem_cons_self, isAnnotated.1⟩
            · split at found
              · next signed isSigned =>
                  cases found
                  split at isSigned
                  · exact
                      ⟨signatureFrom?_mem isSigned,
                        (signatureFrom?_before isSigned).1⟩
                  · cases isSigned
              · split at found
                · cases found
                · split at found
                  · exact isFirst (by simp) found
                  · exact typedName?_identifies found

/-- A declaration is in the body of its row, and named by one of the row's code. -/
structure Declaration.MadeBy
    (declaration : Declaration)
    (row : Statement)
    (name : Placed) :
    Prop where
  statement : declaration.statement = row.index
  block : declaration.block = row.parent
  isName : declaration.name = name.text
  place : declaration.place = name.token.start

/-- What a row declares under a name is made by the row. -/
theorem Statement.declaring_madeBy
    (row : Statement)
    (name : Placed)
    (kind : DeclarationKind)
    (visibility : Visibility) :
    (row.declaring name kind visibility).MadeBy row name :=
  ⟨rfl, rfl, rfl, rfl⟩

/-- A statement that is no block declares under an identifier of its code. -/
theorem simpleDeclaration?_madeBy
    {profile : Profile}
    {tokens : Array Token}
    {parent : Option Block}
    {row : Statement}
    {declaration : Declaration}
    (found :
      simpleDeclaration? profile tokens parent row = some declaration) :
    ∃ name ∈ codeBetween tokens row.first (row.last + 1),
      name.kind = .identifier ∧ declaration.MadeBy row name := by
  unfold simpleDeclaration? at found
  obtain ⟨name, isName, rfl⟩ := Option.map_eq_some_iff.mp found
  obtain ⟨isThere, isIdentifier⟩ := declaredName?_identifies isName
  have inHead :=
    (readModifiers_suffix profile .unspecified false _).subset isThere
  exact
    ⟨name, declarationHead_subset 0 [] _ inHead, isIdentifier,
      row.declaring_madeBy name _ _⟩

/-- A simple statement declares a name that is spelled by its code. -/
theorem simpleDeclaration?_name
    {profile : Profile}
    {tokens : Array Token}
    {parent : Option Block}
    {statement : Statement}
    {declaration : Declaration}
    (found :
      simpleDeclaration? profile tokens parent statement = some declaration) :
    SpelledBy profile tokens declaration.name := by
  obtain ⟨name, isCode, _, made⟩ := simpleDeclaration?_madeBy found
  rw [made.isName]
  exact spelledBy_of_mem_codeBetween isCode

/-- A block between braces declares under a token of its header. -/
theorem bracedDeclaration?_madeBy
    {profile : Profile}
    {tokens : Array Token}
    {parent : Option Block}
    {row : Statement}
    {block : Block}
    {declaration : Declaration}
    (found :
      bracedDeclaration? profile tokens parent row block = some declaration) :
    block.name ≠ "" ∧
      ∃ name ∈ codeBetween tokens block.first block.headerEnd,
        declaration.MadeBy row name := by
  unfold bracedDeclaration? at found
  split at found
  · cases found
  · next isNamed =>
      obtain ⟨name, isName, isDeclared⟩ := Option.bind_eq_some_iff.mp found
      have inHeader : name ∈ codeBetween tokens block.first block.headerEnd := by
        rw [Option.orElse_eq_orElse, Option.orElse_eq_or,
          Option.or_eq_some_iff] at isName
        rcases isName with isFound | ⟨_, isLast⟩
        · exact List.mem_of_find?_eq_some isFound
        · exact List.mem_of_getLast? isLast
      refine ⟨isNamed, name, inHeader, ?_⟩
      dsimp only at isDeclared
      split at isDeclared
      · cases isDeclared
        exact row.declaring_madeBy name _ _
      · cases isDeclared
        exact row.declaring_madeBy name _ _
      · cases isDeclared

/-- A block between braces declares a name that is spelled by its header. -/
theorem bracedDeclaration?_name
    {profile : Profile}
    {tokens : Array Token}
    {parent : Option Block}
    {statement : Statement}
    {block : Block}
    {declaration : Declaration}
    (found :
      bracedDeclaration? profile tokens parent statement block =
        some declaration) :
    SpelledBy profile tokens declaration.name := by
  obtain ⟨_, name, inHeader, made⟩ := bracedDeclaration?_madeBy found
  rw [made.isName]
  exact spelledBy_of_mem_codeBetween inHeader

/-- The name behind a keyword is one of the tokens. -/
theorem definedName_mem
    {keyword : String}
    {tokens : List Placed}
    {name : Placed}
    (found : definedName keyword tokens = some name) :
    name ∈ tokens := by
  fun_induction definedName keyword tokens with
  | case1 => cases found
  | case2 => exact List.mem_cons_of_mem _ (List.mem_of_head? found)
  | case3 _ _ _ inductionHypothesis =>
      exact List.mem_cons_of_mem _ (inductionHypothesis found)

/-- By indentation, a definition declares the token behind its keyword. -/
theorem suiteDeclaration?_madeBy
    {profile : Profile}
    {tokens : Array Token}
    {parent : Option Block}
    {row : Statement}
    {block : Block}
    {declaration : Declaration}
    (found :
      suiteDeclaration? profile tokens parent row block = some declaration) :
    ∃ name ∈ tokensBetween tokens block.first (block.headerEnd + 1),
      declaration.MadeBy row name := by
  unfold suiteDeclaration? at found
  split at found
  · cases found
  · split at found
    · cases found
    · obtain ⟨name, isName, rfl⟩ := Option.map_eq_some_iff.mp found
      exact ⟨name, definedName_mem isName, row.declaring_madeBy name _ _⟩

/-- By indentation, a definition declares a name that a token spells. -/
theorem suiteDeclaration?_name
    {profile : Profile}
    (isIndent : profile.blockStyle = .indent)
    {tokens : Array Token}
    {parent : Option Block}
    {statement : Statement}
    {block : Block}
    {declaration : Declaration}
    (found :
      suiteDeclaration? profile tokens parent statement block =
        some declaration) :
    SpelledBy profile tokens declaration.name := by
  obtain ⟨name, isThere, made⟩ := suiteDeclaration?_madeBy found
  rw [made.isName]
  exact ⟨name.token, mem_of_mem_tokensBetween isThere, rfl, .inr isIndent⟩

/-- A name that is bound is code. -/
theorem boundName?_mem
    {tokens : Array Token}
    {statement : Statement}
    {name : Placed}
    (found : boundName? tokens statement = some name) :
    name ∈ codeBetween tokens statement.first (statement.last + 1) := by
  unfold boundName? at found
  split at found
  · next same =>
      split at found
      · cases found
        rw [same]
        exact List.mem_cons_self
      · cases found
  · cases found

/-- By indentation, the names of declarations are spelled by tokens. -/
theorem suiteDeclarationsFrom_names
    {profile : Profile}
    (isIndent : profile.blockStyle = .indent)
    {tokens : Array Token}
    {outline : Outline}
    {bound : List (Option Nat × String)}
    {reversed : List Declaration}
    {statements : List Statement}
    (before : ∀ declaration ∈ reversed, SpelledBy profile tokens declaration.name) :
    ∀ declaration ∈
      suiteDeclarationsFrom profile tokens outline bound reversed statements,
      SpelledBy profile tokens declaration.name := by
  fun_induction suiteDeclarationsFrom profile tokens outline bound reversed
    statements with
  | case1 => simpa using before
  | case2 _ _ _ _ _ _ _ found inductionHypothesis =>
      refine inductionHypothesis fun declaration member => ?_
      rcases List.mem_append.mp member with isFound | wasThere
      · exact suiteDeclaration?_name isIndent (Option.mem_toList.mp isFound)
      · exact before declaration wasThere
  | case3 _ _ _ _ _ _ inductionHypothesis => exact inductionHypothesis before
  | case4 _ _ _ _ _ _ _ _ _ inductionHypothesis =>
      exact inductionHypothesis before
  | case5 _ _ _ _ _ _ name isBound _ _ _ inductionHypothesis =>
      refine inductionHypothesis (List.forall_mem_cons.mpr ⟨?_, before⟩)
      exact spelledBy_of_mem_codeBetween (boundName?_mem isBound)

/-- The names of all declarations are spelled by tokens of the file. -/
theorem declarationsOf_names
    (profile : Profile)
    (tokens : Array Token)
    (outline : Outline) :
    ∀ declaration ∈ declarationsOf profile tokens outline,
      SpelledBy profile tokens declaration.name := by
  intro declaration member
  rw [declarationsOf, sortDeclarations, List.mem_mergeSort] at member
  split at member
  · obtain ⟨statement, _, found⟩ := List.mem_filterMap.mp member
    dsimp only at found
    split at found
    · exact bracedDeclaration?_name found
    · exact simpleDeclaration?_name found
  · next isIndent =>
      exact suiteDeclarationsFrom_names isIndent (by simp) declaration member

/-! ## Names of blocks -/

/-- Between braces, the words that may call a block hold no line break. -/
theorem Profile.MayCall.isOneLine
    {language : Language}
    {text : String}
    {tokens : Array Token}
    (read : language.profile.tokenize text = .ok tokens)
    {first : Placed}
    (isThere : first.token ∈ tokens)
    {keyword : String}
    (mayCall : language.profile.MayCall first keyword) :
    IsOneLine keyword := by
  have areWords :
      ∀ word ∈ "" :: "else if" :: language.profile.classKeywords,
        IsOneLine word := by
    cases language <;> decide
  rcases mayCall with isWord | ⟨isKeyword, rfl⟩
  · exact areWords keyword isWord
  · have isKeyword : first.token.kind = .keyword := isKeyword
    refine (Profile.tokenize_oneLine read first.token isThere).resolve_right ?_
    simp [Profile.MaySpan, isKeyword]

/-- A header line is called by a keyword, and its name is one of its tokens. -/
theorem suiteHeader?_spelled
    {profile : Profile}
    {line : LogicalLine}
    {header : SuiteHeader}
    (isHeader : suiteHeader? profile line = some header) :
    (suiteKind? profile header.keyword.text).isSome = true ∧
      (header.name = "" ∨ ∃ placed ∈ line.tokens, placed.text = header.name) := by
  unfold suiteHeader? at isHeader
  split at isHeader
  · cases isHeader
  · next keyword rest same =>
      obtain ⟨kind, isKind, isHeader⟩ := Option.bind_eq_some_iff.mp isHeader
      obtain ⟨_, _, isHeader⟩ := Option.bind_eq_some_iff.mp isHeader
      dsimp only at isHeader
      split at isHeader
      · cases isHeader
      · cases isHeader
        refine ⟨by rw [isKind]; rfl, ?_⟩
        dsimp only
        split
        · cases behind : rest.head? with
          | none => exact .inl rfl
          | some name =>
              refine .inr ⟨name, (headerTokens_suffix line).subset ?_, rfl⟩
              rw [same]
              exact List.mem_cons_of_mem _ (List.mem_of_head? behind)
        · exact .inl rfl

/-- By indentation, the words that head a suite hold no line break. -/
theorem isOneLine_of_suiteKind
    {language : Language}
    {keyword : String}
    (heads : (suiteKind? language.profile keyword).isSome = true) :
    IsOneLine keyword := by
  rw [suiteKind?, Option.orElse_eq_orElse, Option.orElse_eq_or,
    Option.isSome_or, Bool.or_eq_true] at heads
  rcases heads with defines | isControl
  · have areWords :
        ∀ pair ∈ definitionKeywords, IsOneLine pair.1 := by
      decide
    obtain ⟨kind, isKind⟩ := Option.isSome_iff_exists.mp defines
    obtain ⟨before, behind, same, _⟩ := List.lookup_eq_some_iff.mp isKind
    exact areWords (keyword, kind) (by simp [same])
  · exact isOneLine_of_control isControl

namespace SourceModel

/-- The line breaks in what a model shows as its code are those of strings. -/
structure BreaksOnlyInStrings (model : SourceModel) : Prop where
  keyword : ∀ block ∈ model.blocks, IsOneLine block.keyword
  block : ∀ block ∈ model.blocks, BreaksAsString model.tokens block.name
  declaration :
    ∀ declaration ∈ model.declarations,
      BreaksAsString model.tokens declaration.name
  code :
    ∀ token ∈ model.tokens,
      token.isCode = true → BreaksAsString model.tokens token.text

/-- The blocks of a forest are called by words and named by tokens of the file. -/
theorem block_breaksAsString
    {language : Language}
    {text : String}
    {lines : Array Line}
    {tokens : Array Token}
    {forest : List Node}
    (read : language.profile.tokenize text = .ok tokens)
    (isForest : readForest language.profile lines tokens = .ok forest)
    {head : BlockHead}
    {body : List Node}
    {last : Placed}
    (member : .block head body last ∈ families forest) :
    IsOneLine head.keyword ∧ BreaksAsString tokens head.name := by
  have unnamed : BreaksAsString tokens "" :=
    .inl (by decide)
  unfold readForest at isForest
  split at isForest
  · obtain ⟨first, rest, opening, isEnd, opens, isHead⟩ :=
      readBraces_opened isForest head body last member
    have inFile {placed : Placed} (isThere : placed ∈ placeCode tokens) :
        placed.token ∈ tokens ∧ placed.token.isCode = true := by
      obtain ⟨inFile, isCode⟩ := List.mem_filter.mp isThere
      exact ⟨Array.mem_of_getElem? (mem_placeTokens.mp inFile), isCode⟩
    have isFirst := (inFile (isEnd.subset List.mem_cons_self)).1
    refine ⟨(readOpening_calls opens head isHead).isOneLine read isFirst, ?_⟩
    by_cases hasName : head.name = ""
    · rw [hasName]
      exact unnamed
    · obtain ⟨before, header, after, same, _, placed, inHeader, sameText⟩ :=
        readBraces_named isForest head body last member hasName
      have isPlaced : placed ∈ placeCode tokens := by
        simp [same, inHeader]
      obtain ⟨isThere, isCode⟩ := inFile isPlaced
      rw [← sameText]
      exact breaksAsString_of_mem read isThere (.inl isCode)
  · next isIndent =>
      obtain ⟨start, rest, line, after, header, isEnd, undecorated, isHeader, rfl⟩ :=
        readIndented_headed isForest head body last member
      obtain ⟨heads, isNamed⟩ := suiteHeader?_spelled isHeader
      refine ⟨isOneLine_of_suiteKind heads, ?_⟩
      simp only [SuiteHeader.blockHead]
      rcases isNamed with noName | ⟨placed, inLine, sameText⟩
      · rw [noName]
        exact unnamed
      · obtain ⟨decorators, same⟩ := undecorate_takes undecorated
        have inLines : placed ∈ tokensOf (start :: rest) := by
          simp [same, inLine]
        have isPlaced :=
          (logicalLines_keeps lines tokens).sublist.subset
            ((tokensOf_suffix isEnd).subset inLines)
        have isThere := Array.mem_of_getElem? (mem_placeTokens.mp isPlaced)
        rw [← sameText]
        exact breaksAsString_of_mem read isThere (.inr isIndent)

/-- No line break stands in the keywords and names of a model but in strings. -/
theorem breaksOnlyInStrings_of_build
    {source : SourceFile}
    {model : SourceModel}
    (built : build source = .ok model) :
    model.BreaksOnlyInStrings := by
  unfold build at built
  simp only at built
  split at built
  · cases built
  · next tokens read =>
      split at built
      · cases built
      · next forest isForest =>
          cases built
          have ofBlock {block : Block}
              (member :
                block ∈ (Outline.ofForest source.language.profile forest).blocks) :
              IsOneLine block.keyword ∧ BreaksAsString tokens block.name := by
            obtain ⟨index, found⟩ := Array.getElem?_of_mem member
            obtain ⟨head, body, last, inForest, shown, _⟩ :=
              Outline.blocks_ofForest found
            rw [shown.keyword, shown.name]
            exact block_breaksAsString read isForest inForest
          refine
            { keyword := fun block member => (ofBlock member).1
              block := fun block member => (ofBlock member).2
              declaration := fun declaration member => ?_
              code := fun token member isCode =>
                breaksAsString_of_mem read member (.inl isCode) }
          obtain ⟨token, isThere, sameText, isShown⟩ :=
            declarationsOf_names _ _ _ declaration member
          rw [← sameText]
          exact breaksAsString_of_mem read isThere isShown

end SourceModel

/-! ## Faults -/

/-- The wording of a cause holds no line break unless a keyword in it does. -/
theorem FaultCause.isOneLine_message
    {cause : FaultCause}
    (named :
      ∀ keyword, cause = .missingBody keyword → IsOneLine keyword) :
    IsOneLine cause.message := by
  cases cause with
  | missingBody keyword =>
      have quote : IsOneLine "'" := by
        decide
      have reason : IsOneLine "' has no body" := by
        decide
      simp [message, quote, reason, named keyword rfl]
  | unterminatedComment => decide
  | unterminatedString => decide
  | unmatchedBrace => decide
  | unclosedBlock => decide
  | unbalancedParenthesis => decide
  | unexpectedIndent => decide
  | inconsistentIndent => decide
  | strayDecorator => decide
  | missingSuite => decide

/-- A text is refused by the tokens only for one that is not terminated. -/
theorem Profile.tokensFrom_refuses
    {profile : Profile}
    {previous : Option Token}
    {position : Position}
    {found : Array Token}
    {text : List Char}
    {fault : Fault}
    (refused :
      profile.tokensFrom previous position found text = .error fault) :
    fault.cause = .unterminatedComment ∨ fault.cause = .unterminatedString := by
  fun_induction Profile.tokensFrom profile previous position found text with
  | case1 => cases refused
  | case2 =>
      rename_i inductionHypothesis
      exact inductionHypothesis refused
  | case3 _ _ _ _ _ _ _ cause isRefused =>
      cases refused
      exact (Profile.lexeme_refuses isRefused).imp id And.left
  | case4 =>
      rename_i inductionHypothesis
      exact inductionHypothesis refused

/-- Why a file is refused is told on one line. -/
theorem SourceModel.isOneLine_of_refused
    {source : SourceFile}
    {fault : Fault}
    (refused : build source = .error fault) :
    IsOneLine fault.cause.message := by
  refine FaultCause.isOneLine_message fun keyword isNamed => ?_
  unfold build at refused
  simp only at refused
  split at refused
  · next tokenFault unread =>
      cases refused
      rcases Profile.tokensFrom_refuses unread with isComment | isString
      · simp [isComment] at isNamed
      · simp [isString] at isNamed
  · split at refused
    · next forestFault untold =>
        cases refused
        obtain ⟨other, sameCause, isControl⟩ :=
          (readForest_arises untold).named keyword isNamed
        cases isNamed.symm.trans sameCause
        rcases isControl with isControl | rfl
        · exact isOneLine_of_control isControl
        · decide
    · cases refused

end HouseStyle
