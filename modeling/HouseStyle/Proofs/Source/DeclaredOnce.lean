import HouseStyle.Proofs.Source.NamingToken
import HouseStyle.Proofs.Source.OwnTokens

namespace HouseStyle

/-!
# Statements that declare

A statement declares at most once, under one of the tokens that are its own. No
token has two owners, so no two declarations share a place. By indentation a name
is bound again and again in a body, and the first statement that binds it is the
one that declares it.
-/

namespace SourceModel

namespace ReadFrom

variable
  {model : SourceModel}
  {forest : List Node}
  {spelled : List Placed}
  (readFrom : model.ReadFrom forest spelled)

include readFrom

/-- A row owns the tokens of the header that it shows. -/
theorem owns_of_block
    {index own : Nat}
    {row : Statement}
    {block : Block}
    (found : model.outline.statements[index]? = some row)
    (isBlock : model.blockOf? row = some block)
    (notBefore : block.first ≤ own)
    (notBehind : own ≤ block.headerEnd)
    (isOutside : block.delimited = false → own < block.headerEnd) :
    model.Owns row own := by
  obtain ⟨head, body, last, _, startsThere, _, shown⟩ :=
    readFrom.exists_headOf found isBlock
  refine
    { notBefore := ?_
      notBehind := by simpa [headerLast, isBlock] using notBehind
      isOutside := fun other isOther => ?_ }
  · rw [startsThere, ← shown.first]
    exact notBefore
  · rw [Option.mem_def, isBlock, Option.some.injEq] at isOther
    rw [← isOther]
    exact isOutside

end ReadFrom

/-- A row that is no block owns all of its tokens. -/
theorem owns_of_simple
    {model : SourceModel}
    {row : Statement}
    {own : Nat}
    (isSimple : model.blockOf? row = none)
    (notBefore : row.first ≤ own)
    (notBehind : own < row.last + 1) :
    model.Owns row own where
  notBefore := notBefore
  notBehind := by
    simpa [headerLast, isSimple] using Nat.le_of_lt_succ notBehind
  isOutside := by
    simp [isSimple]

/-- By indentation every body has delimiters. -/
theorem delimited_of_build
    {source : SourceFile}
    {model : SourceModel}
    (built : build source = .ok model)
    (isIndent : model.language.profile.blockStyle = .indent)
    {block : Block}
    (member : block ∈ model.blocks) :
    block.delimited = true := by
  obtain ⟨forest, spelled, readForest, _, readFrom⟩ :=
    exists_forest_of_build built
  obtain ⟨head, body, last, inForest, shown⟩ := readFrom.exists_head member
  rw [← language_of_build built, SourceModel.readForest, isIndent]
    at readForest
  obtain ⟨_, _, _, _, _, _, _, _, rfl⟩ :=
    readIndented_headed readForest head body last inForest
  exact shown.delimited

/-! ## By tokens of their own -/

/-- The declaration is a row's, under a token that is the row's own and no other's. -/
structure DeclaresAt
    (model : SourceModel)
    (declaration : Declaration)
    (row : Statement)
    (name : Placed) :
    Prop where
  made : declaration.MadeBy row name
  isToken : model.tokens[name.index]? = some name.token
  owns : model.Owns row name.index
  /-- No other row owns the token. -/
  alone :
    ∀ other ∈ model.statements, model.Owns other name.index → other = row
  isIdentifier :
    model.language.profile.blockStyle = .braces → name.kind = .identifier

/-- Between braces a row declares under an identifier of its own. -/
theorem exists_own_of_braces
    {source : SourceFile}
    {model : SourceModel}
    (built : build source = .ok model)
    (isBraces : model.language.profile.blockStyle = .braces)
    {row : Statement}
    {declaration : Declaration}
    (member : declaration ∈ model.declarations)
    (found : model.outline.statements[declaration.statement]? = some row) :
    ∃ name,
      declaration.MadeBy row name ∧
        model.tokens[name.index]? = some name.token ∧
        model.Owns row name.index ∧ name.kind = .identifier := by
  obtain ⟨forest, spelled, readFrom⟩ := readFrom_of_build built
  have declares :=
    (mem_declarations_iff built isBraces found).mp ⟨member, rfl⟩
  unfold rowDeclaration? at declares
  dsimp only at declares
  split at declares
  · next block isBlock =>
      have isMember : block ∈ model.blocks := by
        obtain ⟨index, _, foundBlock⟩ := Option.bind_eq_some_iff.mp isBlock
        exact Array.mem_of_getElem? foundBlock
      have isNamed := (bracedDeclaration?_madeBy declares).1
      obtain ⟨naming, shown, namesAt⟩ :=
        exists_namesAt_of_build built isBraces isMember isNamed
      obtain ⟨kind, isDeclared⟩ :=
        bracedDeclaration?_of_shown
          model.language _ row isNamed namesAt.isKind namesAt.isShown
      rw [declares, Option.some.injEq] at isDeclared
      obtain ⟨_, notBefore, isBefore⟩ := mem_codeBetween.mp namesAt.inHeader
      refine ⟨shown, ?_, (token_of_mem_headerCode namesAt.inHeader).1, ?_,
        namesAt.isIdentifier⟩
      · rw [isDeclared]
        exact row.declaring_madeBy shown _ _
      · exact
          readFrom.owns_of_block found isBlock notBefore
            (Nat.le_of_lt isBefore) fun _ => isBefore
  · next isSimple =>
      obtain ⟨name, isThere, isIdentifier, made⟩ :=
        simpleDeclaration?_madeBy declares
      obtain ⟨isCode, notBefore, notBehind⟩ := mem_codeBetween.mp isThere
      have isToken := mem_placeTokens.mp (List.mem_filter.mp isCode).1
      exact
        ⟨name, made, isToken, owns_of_simple isSimple notBefore notBehind,
          isIdentifier⟩

/-- By indentation a row declares under a token of its own. -/
theorem exists_own_of_indent
    {source : SourceFile}
    {model : SourceModel}
    (built : build source = .ok model)
    (isIndent : model.language.profile.blockStyle = .indent)
    {row : Statement}
    {declaration : Declaration}
    (member : declaration ∈ model.declarations)
    (found : model.outline.statements[declaration.statement]? = some row) :
    ∃ name,
      declaration.MadeBy row name ∧
        model.tokens[name.index]? = some name.token ∧
        model.Owns row name.index := by
  obtain ⟨forest, spelled, readFrom⟩ := readFrom_of_build built
  have declares :=
    (mem_declarations_iff_indent built isIndent found).mp ⟨member, rfl⟩
  unfold suiteRowDeclaration? at declares
  dsimp only at declares
  split at declares
  · next block isBlock =>
      have isMember : block ∈ model.blocks := by
        obtain ⟨index, _, foundBlock⟩ := Option.bind_eq_some_iff.mp isBlock
        exact Array.mem_of_getElem? foundBlock
      obtain ⟨name, isThere, made⟩ := suiteDeclaration?_madeBy declares
      obtain ⟨isPlaced, notBefore, notBehind⟩ := of_mem_tokensBetween isThere
      refine ⟨name, made, mem_placeTokens.mp isPlaced, ?_⟩
      -- The name may be what opens the body, which a delimited block owns.
      refine
        readFrom.owns_of_block found isBlock notBefore
          (Nat.le_of_lt_succ notBehind) fun isBare => ?_
      rw [delimited_of_build built isIndent isMember] at isBare
      cases isBare
  · next isSimple =>
      obtain ⟨name, isBound, isDeclared⟩ := Option.bind_eq_some_iff.mp declares
      split at isDeclared
      · cases isDeclared
      · cases isDeclared
        obtain ⟨isCode, notBefore, notBehind⟩ :=
          mem_codeBetween.mp (boundName?_mem isBound)
        have isToken := mem_placeTokens.mp (List.mem_filter.mp isCode).1
        exact
          ⟨name, row.declaring_madeBy name _ _, isToken,
            owns_of_simple isSimple notBefore notBehind⟩

/-- Every declaration is made under a token that is its row's own. -/
theorem exists_declaresAt_of_build
    {source : SourceFile}
    {model : SourceModel}
    (built : build source = .ok model)
    {declaration : Declaration}
    (member : declaration ∈ model.declarations) :
    ∃ row ∈ model.statements, ∃ name, model.DeclaresAt declaration row name := by
  obtain ⟨forest, spelled, readFrom⟩ := readFrom_of_build built
  obtain ⟨row, found⟩ := exists_row_of_declaration built member
  obtain ⟨name, made, isToken, owns, isIdentifier⟩ :
      ∃ name,
        declaration.MadeBy row name ∧
          model.tokens[name.index]? = some name.token ∧
          model.Owns row name.index ∧
          (model.language.profile.blockStyle = .braces →
            name.kind = .identifier) := by
    cases style : model.language.profile.blockStyle with
    | braces =>
        obtain ⟨name, made, isToken, owns, isIdentifier⟩ :=
          exists_own_of_braces built style member found
        exact ⟨name, made, isToken, owns, fun _ => isIdentifier⟩
    | indent =>
        obtain ⟨name, made, isToken, owns⟩ :=
          exists_own_of_indent built style member found
        exact ⟨name, made, isToken, owns, fun isBraces => by cases isBraces⟩
  refine ⟨row, Array.mem_of_getElem? found, name,
    { made, isToken, owns, isIdentifier, alone := fun other isRow ownsToo => ?_ }⟩
  obtain ⟨index, foundOther⟩ := Array.getElem?_of_mem isRow
  have sameIndex :=
    readFrom.index_eq_of_owns foundOther found ownsToo owns
  rw [sameIndex] at foundOther
  exact Option.some.inj (foundOther.symm.trans found)

/-- Declarations of different statements stand at different places. -/
theorem place_ne_of_statement_ne
    {source : SourceFile}
    {model : SourceModel}
    (built : build source = .ok model)
    {declaration other : Declaration}
    (member : declaration ∈ model.declarations)
    (otherMember : other ∈ model.declarations)
    (different : declaration.statement ≠ other.statement) :
    declaration.place ≠ other.place := by
  intro samePlace
  obtain ⟨_, _, _, read, _⟩ := exists_forest_of_build built
  obtain ⟨row, isRow, name, declares⟩ :=
    exists_declaresAt_of_build built member
  obtain ⟨otherRow, _, otherName, declaresOther⟩ :=
    exists_declaresAt_of_build built otherMember
  rw [declares.made.place, declaresOther.made.place] at samePlace
  have sameIndex :=
    tokenize_index_of_start read declares.isToken declaresOther.isToken
      samePlace
  have sameRow : row = otherRow :=
    declaresOther.alone row isRow (sameIndex ▸ declares.owns)
  rw [declares.made.statement, declaresOther.made.statement, sameRow]
    at different
  exact different rfl

/-! ## Names that are bound again -/

/-- The row is no block, and an assignment or an annotation of the name at its start. -/
def Binds
    (model : SourceModel)
    (row : Statement)
    (name : Placed) :
    Prop :=
  row.block = none ∧
    ∃ follower rest,
      codeBetween model.tokens row.first (row.last + 1) =
          name :: follower :: rest ∧
        name.kind = .identifier ∧ follower.text ∈ ["=", ":"]

/-- The declaration is that of a row that is no block. -/
def IsBinding
    (model : SourceModel)
    (declaration : Declaration) :
    Prop :=
  ∃ row ∈ model.statements,
    row.index = declaration.statement ∧ row.block = none

/-- A row that is no block binds the name that is found at its start. -/
theorem boundName?_eq_some_iff
    {model : SourceModel}
    {row : Statement}
    (isSimple : row.block = none)
    {name : Placed} :
    boundName? model.tokens row = some name ↔ model.Binds row name := by
  unfold boundName?
  constructor
  · intro found
    split at found
    · next target follower rest same =>
        split at found
        · next isBound =>
            cases found
            exact ⟨isSimple, follower, rest, same, isBound⟩
        · cases found
    · cases found
  · rintro ⟨_, follower, rest, same, isBound⟩
    rw [same]
    exact if_pos isBound

/-- The key of a binding is its body with the name. -/
theorem bindingKey?_of_binds
    {model : SourceModel}
    {row : Statement}
    {name : Placed}
    (binds : model.Binds row name) :
    bindingKey? model.tokens model.outline row =
      some (row.parent, name.text) := by
  have isSimple := binds.1
  simp [bindingKey?, isSimple, (boundName?_eq_some_iff isSimple).mpr binds]

/-- A row that binds a name declares it unless it is bound before. -/
theorem suiteRowDeclaration?_of_binds
    {model : SourceModel}
    {row : Statement}
    {name : Placed}
    (binds : model.Binds row name)
    (taken : List (Option Nat × String))
    {declaration : Declaration} :
    suiteRowDeclaration? model.language.profile model.tokens model.outline
          taken row =
        some declaration ↔
      (row.parent, name.text) ∉ taken ∧
        declaration =
          row.declaring
            name
            (bindingKind name.text
              (row.parent.bind fun index => model.outline.blocks[index]?))
            (nameVisibility model.language.profile name.text) := by
  have isSimple := binds.1
  have isBound := (boundName?_eq_some_iff isSimple).mpr binds
  simp only [suiteRowDeclaration?, isSimple, isBound, Option.bind_none,
    Option.bind_some]
  split
  · next isTaken =>
      simp [List.contains_iff_mem.mp isTaken]
  · next isFree =>
      have notThere : (row.parent, name.text) ∉ taken := by
        simpa using isFree
      simp [notThere, eq_comm]

/-- What is bound before an index is what an earlier row binds. -/
theorem mem_boundBefore_iff
    {model : SourceModel}
    {forest : List Node}
    {spelled : List Placed}
    (readFrom : model.ReadFrom forest spelled)
    {index : Nat}
    {key : Option Nat × String} :
    key ∈ model.boundBefore index ↔
      ∃ (other : Nat) (row : Statement) (name : Placed),
        other < index ∧
          model.outline.statements[other]? = some row ∧
          model.Binds row name ∧ (row.parent, name.text) = key := by
  rw [boundBefore, List.mem_filterMap]
  constructor
  · rintro ⟨row, isThere, isKey⟩
    obtain ⟨other, found⟩ := List.mem_iff_getElem?.mp isThere
    rw [List.getElem?_take] at found
    split at found
    · next isBefore =>
        rw [Array.getElem?_toList] at found
        unfold bindingKey? at isKey
        split at isKey
        · cases isKey
        · next noBlock =>
            obtain ⟨name, isBound, same⟩ := Option.map_eq_some_iff.mp isKey
            have isSimple : row.block = none := by
              cases isBlock : row.block with
              | none => rfl
              | some around =>
                  obtain ⟨block, foundBlock, _⟩ :=
                    readFrom.consistent.blockOf other around row found isBlock
                  simp [isBlock, foundBlock] at noBlock
            exact
              ⟨other, row, name, isBefore, found,
                (boundName?_eq_some_iff isSimple).mp isBound, same⟩
    · cases found
  · rintro ⟨other, row, name, isBefore, found, binds, same⟩
    refine ⟨row, ?_, same ▸ bindingKey?_of_binds binds⟩
    rw [List.mem_iff_getElem?]
    refine ⟨other, ?_⟩
    rw [List.getElem?_take, if_pos isBefore, Array.getElem?_toList, found]

/-- The declaration of a binding is that of the first row that binds the name. -/
theorem exists_first_of_isBinding
    {source : SourceFile}
    {model : SourceModel}
    (built : build source = .ok model)
    (isIndent : model.language.profile.blockStyle = .indent)
    {declaration : Declaration}
    (member : declaration ∈ model.declarations)
    (isBinding : model.IsBinding declaration) :
    ∃ row ∈ model.statements, ∃ name,
      model.Binds row name ∧
        declaration.MadeBy row name ∧
        ∀ other ∈ model.statements, ∀ again,
          model.Binds other again →
          other.parent = row.parent →
          again.text = name.text →
          row.index ≤ other.index := by
  obtain ⟨forest, spelled, readFrom⟩ := readFrom_of_build built
  obtain ⟨row, isRow, isIndex, isSimple⟩ := isBinding
  obtain ⟨index, found⟩ := Array.getElem?_of_mem isRow
  have ownIndex := readFrom.consistent.index index row found
  have isStatement : declaration.statement = index := by
    rw [← isIndex, ownIndex]
  have declares :=
    (mem_declarations_iff_indent built isIndent found).mp
      ⟨member, isStatement⟩
  obtain ⟨name, binds⟩ : ∃ name, model.Binds row name := by
    simp only [suiteRowDeclaration?, isSimple, Option.bind_none] at declares
    obtain ⟨name, isBound, _⟩ := Option.bind_eq_some_iff.mp declares
    exact ⟨name, (boundName?_eq_some_iff isSimple).mp isBound⟩
  obtain ⟨isFree, rfl⟩ := (suiteRowDeclaration?_of_binds binds _).mp declares
  refine
    ⟨row, isRow, name, binds, row.declaring_madeBy name _ _, ?_⟩
  intro other isOther again bindsAgain sameBody sameName
  obtain ⟨otherIndex, foundOther⟩ := Array.getElem?_of_mem isOther
  rw [ownIndex, readFrom.consistent.index otherIndex other foundOther]
  by_contra isEarlier
  refine isFree ((mem_boundBefore_iff readFrom).mpr ?_)
  exact
    ⟨otherIndex, other, again, by omega, foundOther, bindsAgain,
      by rw [sameBody, sameName]⟩

/-- Whatever a row binds is declared, by this row or an earlier one. -/
theorem exists_declaration_of_binds
    {source : SourceFile}
    {model : SourceModel}
    (built : build source = .ok model)
    (isIndent : model.language.profile.blockStyle = .indent)
    (index : Nat)
    {row : Statement}
    {name : Placed}
    (found : model.outline.statements[index]? = some row)
    (binds : model.Binds row name) :
    ∃ declaration ∈ model.declarations,
      model.IsBinding declaration ∧
        declaration.block = row.parent ∧
        declaration.name = name.text ∧ declaration.statement ≤ index := by
  obtain ⟨forest, spelled, readFrom⟩ := readFrom_of_build built
  -- From a row that binds the name again the induction goes back to an earlier one.
  induction index using Nat.strong_induction_on generalizing row name with
  | _ index inductionHypothesis =>
      by_cases isTaken : (row.parent, name.text) ∈ model.boundBefore index
      · obtain ⟨other, earlier, again, isBefore, foundEarlier, bindsAgain, same⟩ :=
          (mem_boundBefore_iff readFrom).mp isTaken
        obtain ⟨declaration, member, isBinding, isBody, isName, notBehind⟩ :=
          inductionHypothesis other isBefore foundEarlier bindsAgain
        rw [Prod.mk.injEq] at same
        exact
          ⟨declaration, member, isBinding, isBody.trans same.1,
            isName.trans same.2, by omega⟩
      · have declares :=
          (suiteRowDeclaration?_of_binds binds (model.boundBefore index)).mpr
            ⟨isTaken, rfl⟩
        obtain ⟨member, isStatement⟩ :=
          (mem_declarations_iff_indent built isIndent found).mpr declares
        exact
          ⟨_, member, ⟨row, Array.mem_of_getElem? found, rfl, binds.1⟩, rfl,
            rfl, Nat.le_of_eq isStatement⟩

/-! ## All declarations of a file -/

/--
Declarations stand at places of their own and are made by statements of their own,
under tokens that are no other statement's.
-/
structure DeclaresOnce (model : SourceModel) : Prop where
  /-- No two declarations share a place. -/
  inOrder :
    model.declarations.Pairwise fun earlier later =>
      earlier.place.before later.place = true
  /-- No two declarations share a statement. -/
  once :
    model.declarations.Pairwise fun earlier later =>
      earlier.statement ≠ later.statement
  own :
    ∀ declaration ∈ model.declarations,
      ∃ row ∈ model.statements, ∃ name,
        model.DeclaresAt declaration row name
  /-- By indentation a name is bound by one declaration in a body. -/
  bindsOnce :
    model.language.profile.blockStyle = .indent →
    model.declarations.Pairwise fun earlier later =>
      model.IsBinding earlier →
      model.IsBinding later →
      earlier.block = later.block →
      earlier.name ≠ later.name
  /-- The declaration is that of the first row of the body that binds the name. -/
  bindsFirst :
    model.language.profile.blockStyle = .indent →
    ∀ declaration ∈ model.declarations,
      model.IsBinding declaration →
      ∃ row ∈ model.statements, ∃ name,
        model.Binds row name ∧
          declaration.MadeBy row name ∧
          ∀ other ∈ model.statements, ∀ again,
            model.Binds other again →
            other.parent = row.parent →
            again.text = name.text →
            row.index ≤ other.index
  /-- Whatever is bound is declared, where it is bound or before. -/
  bindsAll :
    model.language.profile.blockStyle = .indent →
    ∀ row ∈ model.statements, ∀ name,
      model.Binds row name →
      ∃ declaration ∈ model.declarations,
        model.IsBinding declaration ∧
          declaration.block = row.parent ∧
          declaration.name = name.text ∧
          declaration.statement ≤ row.index

/-- No two declarations of a built model are made by the same statement. -/
theorem statements_pairwise_ne
    {source : SourceFile}
    {model : SourceModel}
    (built : build source = .ok model) :
    model.declarations.Pairwise fun earlier later =>
      earlier.statement ≠ later.statement := by
  obtain ⟨forest, spelled, readFrom⟩ := readFrom_of_build built
  obtain ⟨part, isPart, isPerm⟩ :=
    @exists_statements_sublist model.language.profile model.tokens
      model.outline
  have different := isPerm.nodup_iff.mpr (readFrom.nodup_index.sublist isPart)
  rw [← declarations_of_build built, List.Nodup, List.pairwise_map]
    at different
  exact different

/-- Two bindings of a name in a body are made by the same statement. -/
theorem statement_eq_of_bindings
    {source : SourceFile}
    {model : SourceModel}
    (built : build source = .ok model)
    (isIndent : model.language.profile.blockStyle = .indent)
    {earlier later : Declaration}
    (member : earlier ∈ model.declarations)
    (laterMember : later ∈ model.declarations)
    (isBinding : model.IsBinding earlier)
    (laterBinding : model.IsBinding later)
    (sameBody : earlier.block = later.block)
    (sameName : earlier.name = later.name) :
    earlier.statement = later.statement := by
  obtain ⟨row, isRow, name, binds, made, isFirst⟩ :=
    exists_first_of_isBinding built isIndent member isBinding
  obtain ⟨other, isOther, again, bindsAgain, madeAgain, isFirstToo⟩ :=
    exists_first_of_isBinding built isIndent laterMember laterBinding
  rw [made.block, madeAgain.block] at sameBody
  rw [made.isName, madeAgain.isName] at sameName
  rw [made.statement, madeAgain.statement]
  exact
    Nat.le_antisymm
      (isFirst other isOther again bindsAgain sameBody.symm sameName.symm)
      (isFirstToo row isRow name binds sameBody sameName)

/--
In every built model declarations stand at increasing places, each made by another
statement under a token of its own, and by indentation the first statement of a
body that binds a name declares it.
-/
theorem declaresOnce_of_build
    {source : SourceFile}
    {model : SourceModel}
    (built : build source = .ok model) :
    model.DeclaresOnce where
  inOrder := by
    have sorted :
        model.declarations.Pairwise fun earlier later =>
          later.place.before earlier.place = false := by
      rw [declarations_of_build built]
      exact sortDeclarations_inSourceOrder _
    refine
      List.Pairwise.imp_of_mem ?_ (sorted.and (statements_pairwise_ne built))
    rintro earlier later member laterMember ⟨notBehind, different⟩
    exact
      Position.before_of_ne
        (place_ne_of_statement_ne built member laterMember different) notBehind
  once := statements_pairwise_ne built
  own _ member := exists_declaresAt_of_build built member
  bindsOnce isIndent := by
    refine List.Pairwise.imp_of_mem ?_ (statements_pairwise_ne built)
    intro earlier later member laterMember different isBinding laterBinding
      sameBody sameName
    exact
      different
        (statement_eq_of_bindings built isIndent member laterMember isBinding
          laterBinding sameBody sameName)
  bindsFirst isIndent _ member isBinding :=
    exists_first_of_isBinding built isIndent member isBinding
  bindsAll isIndent row isRow name binds := by
    obtain ⟨forest, spelled, readFrom⟩ := readFrom_of_build built
    obtain ⟨index, found⟩ := Array.getElem?_of_mem isRow
    rw [readFrom.consistent.index index row found]
    exact exists_declaration_of_binds built isIndent index found binds

/-- A name that is bound twice in a file and once more in a function of the file. -/
def reboundSample : SourceFile where
  path := "rebound.py"
  text := "limit = 1\nlimit = 2\ndef lower():\n    limit = 3\n"
  language := .python

/-- The sample declares the name once in the file and once in the function. -/
theorem reboundSample_declaresOnce :
    ∃ model,
      build reboundSample = .ok model ∧
        model.declarations.map (fun found => (found.name, found.statement)) =
          [("limit", 0), ("lower", 2), ("limit", 3)] ∧
        model.DeclaresOnce := by
  obtain ⟨model, built, isRead⟩ :
      ∃ model,
        build reboundSample = .ok model ∧
          (model.declarations.map (fun found => (found.name, found.statement)) ==
              [("limit", 0), ("lower", 2), ("limit", 3)]) =
            true :=
    exists_model_of_any (by cbv)
  exact ⟨model, built, by simpa using isRead, declaresOnce_of_build built⟩

end SourceModel

end HouseStyle
