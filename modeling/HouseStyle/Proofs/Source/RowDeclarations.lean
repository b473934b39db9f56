import HouseStyle.Proofs.Source.Naming

namespace HouseStyle

/-!
# What rows declare

The declarations of a file are those of its rows, each of at most one row, in
source order. Between braces a row tells by itself what it declares. By indentation
it depends on the names that the rows before it bind.
-/

/-- Sorted declarations stand in source order. -/
theorem sortDeclarations_inSourceOrder (found : List Declaration) :
    (sortDeclarations found).Pairwise fun earlier later =>
      later.place.before earlier.place = false := by
  have inOrder :=
    @List.pairwise_mergeSort Declaration
      (fun left right => !right.place.before left.place)
      (by
        intro first second third
        simp only [Position.before, Bool.not_eq_true', Bool.or_eq_false_iff,
          Bool.and_eq_false_iff, decide_eq_false_iff_not, beq_eq_false_iff_ne]
        omega)
      (by
        intro left right
        simp only [Position.before, Bool.or_eq_true, Bool.not_eq_true',
          Bool.or_eq_false_iff, Bool.and_eq_false_iff,
          decide_eq_false_iff_not, beq_eq_false_iff_ne]
        omega)
      found
  exact inOrder.imp fun isBehind => by simpa using isBehind

/-! ## Between braces -/

/-- What is declared between braces is declared by a row. -/
def rowDeclaration?
    (profile : Profile)
    (tokens : Array Token)
    (outline : Outline)
    (row : Statement) :
    Option Declaration :=
  let parent := row.parent.bind fun index => outline.blocks[index]?
  match row.block.bind fun index => outline.blocks[index]? with
  | some block => bracedDeclaration? profile tokens parent row block
  | none => simpleDeclaration? profile tokens parent row

/-- A declaration between braces is that of one of the rows. -/
theorem mem_declarationsOf
    {profile : Profile}
    {tokens : Array Token}
    {outline : Outline}
    {declaration : Declaration}
    (isBraces : profile.blockStyle = .braces) :
    declaration ∈ declarationsOf profile tokens outline ↔
      ∃ row ∈ outline.statements,
        rowDeclaration? profile tokens outline row = some declaration := by
  rw [declarationsOf, sortDeclarations, List.mem_mergeSort, isBraces]
  simp only [bracedDeclarations, List.mem_filterMap, Array.mem_toList_iff]
  exact Iff.rfl

/-- A row declares nothing for another row. -/
theorem rowDeclaration?_statement
    {profile : Profile}
    {tokens : Array Token}
    {outline : Outline}
    {row : Statement}
    {declaration : Declaration}
    (found :
      rowDeclaration? profile tokens outline row = some declaration) :
    declaration.statement = row.index := by
  unfold rowDeclaration? at found
  dsimp only at found
  split at found
  · obtain ⟨_, _, _, made⟩ := bracedDeclaration?_madeBy found
    exact made.statement
  · obtain ⟨_, _, _, made⟩ := simpleDeclaration?_madeBy found
    exact made.statement

section Rows

variable {profile : Profile} {tokens : Array Token} {outline : Outline}

/-- Between braces the rows declare in their order, each at most once. -/
theorem statements_filterMap_sublist (rows : List Statement) :
    ((rows.filterMap (rowDeclaration? profile tokens outline)).map
        Declaration.statement).Sublist
      (rows.map Statement.index) := by
  induction rows with
  | nil =>
      exact .slnil
  | cons row rest inductionHypothesis =>
      rw [List.filterMap_cons, List.map_cons]
      split
      · exact inductionHypothesis.cons _
      · next declaration found =>
          rw [List.map_cons, rowDeclaration?_statement found]
          exact inductionHypothesis.cons_cons _

/-! ## By indentation -/

/-- The body that a row binds a name in, and the name, unless the row is a block. -/
def bindingKey?
    (tokens : Array Token)
    (outline : Outline)
    (row : Statement) :
    Option (Option Nat × String) :=
  match row.block.bind fun index => outline.blocks[index]? with
  | some _ => none
  | none => (boundName? tokens row).map fun name => (row.parent, name.text)

/-- What a row declares by indentation, where these names are bound already. -/
def suiteRowDeclaration?
    (profile : Profile)
    (tokens : Array Token)
    (outline : Outline)
    (taken : List (Option Nat × String))
    (row : Statement) :
    Option Declaration :=
  let parent := row.parent.bind fun index => outline.blocks[index]?
  match row.block.bind fun index => outline.blocks[index]? with
  | some block => suiteDeclaration? profile tokens parent row block
  | none =>
      (boundName? tokens row).bind fun name =>
        if taken.contains (row.parent, name.text) then
          none
        else
          some
            (row.declaring
              name
              (bindingKind name.text parent)
              (nameVisibility profile name.text))

/-- A row declares nothing for another row. -/
theorem suiteRowDeclaration?_statement
    {taken : List (Option Nat × String)}
    {row : Statement}
    {declaration : Declaration}
    (found :
      suiteRowDeclaration? profile tokens outline taken row =
        some declaration) :
    declaration.statement = row.index := by
  unfold suiteRowDeclaration? at found
  dsimp only at found
  split at found
  · obtain ⟨_, _, made⟩ := suiteDeclaration?_madeBy found
    exact made.statement
  · obtain ⟨name, _, isDeclared⟩ := Option.bind_eq_some_iff.mp found
    split at isDeclared
    · cases isDeclared
    · cases isDeclared
      rfl

/-- It does not matter how often or in which order names are bound. -/
theorem suiteRowDeclaration?_congr
    {taken others : List (Option Nat × String)}
    (same : ∀ key, key ∈ taken ↔ key ∈ others)
    (row : Statement) :
    suiteRowDeclaration? profile tokens outline taken row =
      suiteRowDeclaration? profile tokens outline others row := by
  have contains (key : Option Nat × String) :
      taken.contains key = others.contains key := by
    rw [Bool.eq_iff_iff, List.contains_iff_mem, List.contains_iff_mem, same]
  simp only [suiteRowDeclaration?, contains]

/-- What holds of an item and those before it, for the first item or a later one. -/
theorem exists_split_cons
    {Item : Type}
    {first : Item}
    {rest : List Item}
    {holds : List Item → Item → Prop} :
    (∃ before item after,
        first :: rest = before ++ item :: after ∧ holds before item) ↔
      holds [] first ∨
        ∃ before item after,
          rest = before ++ item :: after ∧ holds (first :: before) item := by
  constructor
  · rintro ⟨before, item, after, same, isHeld⟩
    cases before with
    | nil =>
        cases same
        exact .inl isHeld
    | cons other before =>
        cases same
        exact .inr ⟨before, item, after, rfl, isHeld⟩
  · rintro (isHeld | ⟨before, item, after, rfl, isHeld⟩)
    · exact ⟨[], first, rest, rfl, isHeld⟩
    · exact ⟨first :: before, item, after, rfl, isHeld⟩

/-- The declarations of rows by indentation, where these names are bound already. -/
def suiteDeclarations
    (profile : Profile)
    (tokens : Array Token)
    (outline : Outline)
    (taken : List (Option Nat × String)) :
    List Statement →
    List Declaration
  | [] => []
  | row :: rest =>
      (suiteRowDeclaration? profile tokens outline taken row).toList ++
        suiteDeclarations
          profile
          tokens
          outline
          ((bindingKey? tokens outline row).toList ++ taken)
          rest

/-- Reading the rows with the names that are bound so far comes to the same. -/
theorem suiteDeclarationsFrom_eq
    {bound taken : List (Option Nat × String)}
    (same : ∀ key, key ∈ bound ↔ key ∈ taken)
    (reversed : List Declaration)
    (rows : List Statement) :
    suiteDeclarationsFrom profile tokens outline bound reversed rows =
      reversed.reverse ++
        suiteDeclarations profile tokens outline taken rows := by
  fun_induction suiteDeclarationsFrom profile tokens outline bound reversed
    rows generalizing taken with
  | case1 =>
      simp [suiteDeclarations]
  | case2 _ _ row _ parent block isBlock found =>
      rename_i inductionHypothesis
      have noKey : bindingKey? tokens outline row = none := by
        simp [bindingKey?, isBlock]
      have isFound :
          suiteRowDeclaration? profile tokens outline taken row = found := by
        simp [suiteRowDeclaration?, isBlock, found, parent]
      rw [inductionHypothesis same, suiteDeclarations, noKey, isFound]
      cases found <;> simp
  | case3 _ _ row _ isSimple unbound =>
      rename_i inductionHypothesis
      have noKey : bindingKey? tokens outline row = none := by
        simp [bindingKey?, isSimple, unbound]
      have noneFound :
          suiteRowDeclaration? profile tokens outline taken row = none := by
        simp [suiteRowDeclaration?, isSimple, unbound]
      rw [inductionHypothesis same, suiteDeclarations, noKey, noneFound]
      simp
  | case4 bound _ row _ isSimple name isBound key isTaken =>
      rename_i inductionHypothesis
      have isKey :
          bindingKey? tokens outline row = some (row.parent, name.text) := by
        simp [bindingKey?, isSimple, isBound]
      have isThere : (row.parent, name.text) ∈ bound :=
        List.contains_iff_mem.mp isTaken
      have noneFound :
          suiteRowDeclaration? profile tokens outline taken row = none := by
        simp [suiteRowDeclaration?, isSimple, isBound, ← same, isThere]
      -- The name is noted a second time, which adds no member.
      have stillSame :
          ∀ key, key ∈ bound ↔ key ∈ (row.parent, name.text) :: taken := by
        intro key
        rw [List.mem_cons, ← same]
        exact ⟨.inr, fun isEither => isEither.elim (· ▸ isThere) id⟩
      rw [inductionHypothesis stillSame, suiteDeclarations, isKey, noneFound]
      rfl
  | case5 bound _ row _ parent isSimple name isBound key isFree declaration =>
      rename_i inductionHypothesis
      have isKey : bindingKey? tokens outline row = some key := by
        simp [bindingKey?, isSimple, isBound, key]
      have notThere : key ∉ taken := by
        rw [← same]
        simpa using isFree
      have isFound :
          suiteRowDeclaration? profile tokens outline taken row =
            some declaration := by
        simp only [suiteRowDeclaration?, isSimple, isBound, Option.bind_some]
        rw [if_neg (by simpa [key] using notThere)]
      have stillSame :
          ∀ other, other ∈ key :: bound ↔ other ∈ key :: taken := by
        intro other
        rw [List.mem_cons, List.mem_cons, same]
      rw [inductionHypothesis stillSame, suiteDeclarations, isKey, isFound]
      simp

/-- By indentation the rows declare in their order, each at most once. -/
theorem statements_suiteDeclarations_sublist
    (taken : List (Option Nat × String))
    (rows : List Statement) :
    ((suiteDeclarations profile tokens outline taken rows).map
        Declaration.statement).Sublist
      (rows.map Statement.index) := by
  induction rows generalizing taken with
  | nil =>
      exact .slnil
  | cons row rest inductionHypothesis =>
      rw [suiteDeclarations, List.map_append, List.map_cons]
      cases found :
          suiteRowDeclaration? profile tokens outline taken row with
      | none =>
          exact (inductionHypothesis _).cons _
      | some declaration =>
          have sameStatement := suiteRowDeclaration?_statement found
          simpa [sameStatement] using inductionHypothesis _

/--
By indentation every row declares what it does with the names bound that the rows
before it bind.
-/
theorem mem_suiteDeclarations
    {taken : List (Option Nat × String)}
    {rows : List Statement}
    {declaration : Declaration} :
    declaration ∈ suiteDeclarations profile tokens outline taken rows ↔
      ∃ before row after,
        rows = before ++ row :: after ∧
          suiteRowDeclaration? profile tokens outline
              (before.filterMap (bindingKey? tokens outline) ++ taken)
              row =
            some declaration := by
  induction rows generalizing taken with
  | nil =>
      simp [suiteDeclarations]
  | cons row rest inductionHypothesis =>
      rw [suiteDeclarations, List.mem_append, Option.mem_toList,
        inductionHypothesis, exists_split_cons]
      refine or_congr Iff.rfl ?_
      refine exists_congr fun before => exists_congr fun item =>
        exists_congr fun after => and_congr_right fun _ => ?_
      rw [suiteRowDeclaration?_congr]
      intro key
      cases isKey : bindingKey? tokens outline row <;>
        simp [isKey, or_left_comm]

/-- All declarations are those of different rows. -/
theorem exists_statements_sublist :
    ∃ part : List Nat,
      part.Sublist (outline.statements.toList.map Statement.index) ∧
        ((declarationsOf profile tokens outline).map
            Declaration.statement).Perm
          part := by
  refine ⟨_, ?_, (List.mergeSort_perm _ _).map Declaration.statement⟩
  split
  · exact statements_filterMap_sublist _
  · rw [suiteDeclarationsFrom_eq (fun _ => Iff.rfl)]
    exact statements_suiteDeclarations_sublist [] _

end Rows

/-! ## In a built model -/

namespace SourceModel

/-- No two rows of a model have the same index. -/
theorem ReadFrom.nodup_index
    {model : SourceModel}
    {forest : List Node}
    {spelled : List Placed}
    (readFrom : model.ReadFrom forest spelled) :
    (model.outline.statements.toList.map Statement.index).Nodup := by
  rw [List.Nodup, List.pairwise_map, List.pairwise_iff_getElem]
  intro index other inTable otherInTable isEarlier same
  rw [Array.length_toList] at inTable otherInTable
  rw [Array.getElem_toList, Array.getElem_toList,
    readFrom.consistent.index index _ (Array.getElem?_eq_getElem inTable),
    readFrom.consistent.index other _ (Array.getElem?_eq_getElem otherInTable)]
    at same
  omega

/-- A built model is written in the language of its source. -/
theorem language_of_build
    {source : SourceFile}
    {model : SourceModel}
    (built : build source = .ok model) :
    model.language = source.language := by
  unfold build at built
  simp only at built
  split at built
  · cases built
  · split at built <;> cases built
    rfl

/-- A built model declares what its tables and tokens declare. -/
theorem declarations_of_build
    {source : SourceFile}
    {model : SourceModel}
    (built : build source = .ok model) :
    model.declarations =
      declarationsOf model.language.profile model.tokens model.outline := by
  unfold build at built
  simp only at built
  split at built
  · cases built
  · split at built <;> cases built
    rfl

/-- What is declared between braces for a row is what the row declares. -/
theorem mem_declarations_iff
    {source : SourceFile}
    {model : SourceModel}
    (built : build source = .ok model)
    (isBraces : model.language.profile.blockStyle = .braces)
    {index : Nat}
    {row : Statement}
    (found : model.outline.statements[index]? = some row)
    {declaration : Declaration} :
    declaration ∈ model.declarations ∧ declaration.statement = index ↔
      rowDeclaration? model.language.profile model.tokens model.outline row =
        some declaration := by
  obtain ⟨forest, spelled, readFrom⟩ := readFrom_of_build built
  rw [declarations_of_build built, mem_declarationsOf isBraces]
  constructor
  · rintro ⟨⟨other, isRow, declares⟩, rfl⟩
    obtain ⟨otherIndex, foundOther⟩ := Array.getElem?_of_mem isRow
    have isIndex := readFrom.consistent.index _ _ foundOther
    rw [rowDeclaration?_statement declares, isIndex, foundOther,
      Option.some.injEq] at found
    rw [← found]
    exact declares
  · intro declares
    refine ⟨⟨row, Array.mem_of_getElem? found, declares⟩, ?_⟩
    rw [rowDeclaration?_statement declares,
      readFrom.consistent.index _ _ found]

/-- Every declaration is that of a row. -/
theorem exists_row_of_declaration
    {source : SourceFile}
    {model : SourceModel}
    (built : build source = .ok model)
    {declaration : Declaration}
    (member : declaration ∈ model.declarations) :
    ∃ row,
      model.outline.statements[declaration.statement]? = some row := by
  obtain ⟨forest, spelled, readFrom⟩ := readFrom_of_build built
  rw [declarations_of_build built] at member
  obtain ⟨part, isPart, isPerm⟩ := exists_statements_sublist
  have isListed :=
    isPart.subset (isPerm.mem_iff.mp (List.mem_map_of_mem member))
  obtain ⟨row, isRow, same⟩ := List.mem_map.mp isListed
  obtain ⟨index, found⟩ := Array.getElem?_of_mem (Array.mem_toList_iff.mp isRow)
  rw [readFrom.consistent.index index row found] at same
  exact ⟨row, same ▸ found⟩

/-- The bodies and names that the rows before an index bind. -/
def boundBefore
    (model : SourceModel)
    (index : Nat) :
    List (Option Nat × String) :=
  (model.outline.statements.toList.take index).filterMap
    (bindingKey? model.tokens model.outline)

/-- What is declared by indentation for a row is what the row declares. -/
theorem mem_declarations_iff_indent
    {source : SourceFile}
    {model : SourceModel}
    (built : build source = .ok model)
    (isIndent : model.language.profile.blockStyle = .indent)
    {index : Nat}
    {row : Statement}
    (found : model.outline.statements[index]? = some row)
    {declaration : Declaration} :
    declaration ∈ model.declarations ∧ declaration.statement = index ↔
      suiteRowDeclaration? model.language.profile model.tokens model.outline
          (model.boundBefore index) row =
        some declaration := by
  obtain ⟨forest, spelled, readFrom⟩ := readFrom_of_build built
  rw [declarations_of_build built, declarationsOf, sortDeclarations,
    List.mem_mergeSort, isIndent]
  dsimp only
  rw [suiteDeclarationsFrom_eq (fun _ => Iff.rfl), List.reverse_nil,
    List.nil_append, mem_suiteDeclarations]
  simp only [List.append_nil]
  constructor
  · -- Rows tell their own indices, so the rows before the split are known.
    rintro ⟨⟨before, other, after, same, declares⟩, rfl⟩
    have foundOther :
        model.outline.statements[before.length]? = some other := by
      rw [← Array.getElem?_toList, same]
      simp
    rw [suiteRowDeclaration?_statement declares,
      readFrom.consistent.index _ _ foundOther] at found ⊢
    rw [foundOther, Option.some.injEq] at found
    rw [← found, boundBefore, same, List.take_left]
    exact declares
  · intro declares
    rw [suiteRowDeclaration?_statement declares,
      readFrom.consistent.index _ _ found]
    refine ⟨⟨model.outline.statements.toList.take index, row,
      model.outline.statements.toList.drop (index + 1), ?_, declares⟩, rfl⟩
    obtain ⟨inTable, rfl⟩ := Array.getElem?_eq_some_iff.mp found
    rw [← Array.getElem_toList (by simpa using inTable),
      List.getElem_cons_drop, List.take_append_drop]

end SourceModel

end HouseStyle
