import HouseStyle.Proofs.Source.BraceSpelling
import HouseStyle.Proofs.Source.ForestOutline
import HouseStyle.Proofs.Source.IndentSpelling
import HouseStyle.Source.Model
import Mathlib

namespace HouseStyle

/-!
# Models show what they were read from

Whichever way the statements of a file are told apart, a model is the outline of
a forest that is spelled by the tokens of the file, with no more than remarks
left out. So every row of the two tables is a statement or a block that is
spelled by a part of these tokens.
-/

namespace SourceModel

/-- The model shows a forest that is spelled by these tokens of the file. -/
structure ReadFrom
    (model : SourceModel)
    (forest : List Node)
    (spelled : List Placed) :
    Prop where
  outline : model.outline = .ofForest model.language.profile forest
  keeps : KeepsCode spelled (placeTokens model.tokens)
  /-- Between braces no remarks are left. -/
  codeOnly :
    model.language.profile.blockStyle = .braces →
    spelled = placeCode model.tokens
  spells : SpellsAll model.language.profile.blockStyle forest spelled

/-- A forest is spelled by the tokens it was read from. -/
theorem readForest_spells
    {profile : Profile}
    {lines : Array Line}
    {tokens : Array Token}
    {forest : List Node}
    (read : readForest profile lines tokens = .ok forest) :
    ∃ spelled,
      KeepsCode spelled (placeTokens tokens) ∧
        (profile.blockStyle = .braces → spelled = placeCode tokens) ∧
        SpellsAll profile.blockStyle forest spelled := by
  unfold readForest at read
  split at read
  · next isBraces =>
      rw [isBraces]
      refine
        ⟨placeCode tokens, ⟨List.filter_sublist, ?_⟩, fun _ => rfl, ?_⟩
      · exact List.Sublist.refl _
      · exact readBraces_spells read
  · next isIndent =>
      rw [isIndent]
      exact
        ⟨tokensOf (logicalLines lines tokens),
          logicalLines_keeps lines tokens,
          nofun,
          readIndented_spells read⟩

/-- Every model that is built shows the forest that its tokens are read as. -/
theorem exists_forest_of_build
    {source : SourceFile}
    {model : SourceModel}
    (built : build source = .ok model) :
    ∃ forest spelled,
      readForest source.language.profile (splitLines source.text) model.tokens =
          .ok forest ∧
        source.language.profile.tokenize source.text = .ok model.tokens ∧
        model.ReadFrom forest spelled := by
  unfold build at built
  simp only at built
  split at built
  · cases built
  · next tokens tokenized =>
      split at built
      · cases built
      · next forest read =>
          cases built
          obtain ⟨spelled, keeps, codeOnly, spells⟩ :=
            readForest_spells read
          exact
            ⟨forest, spelled, read, tokenized, rfl, keeps, codeOnly, spells⟩

/-- Every model that is built shows a forest. -/
theorem readFrom_of_build
    {source : SourceFile}
    {model : SourceModel}
    (built : build source = .ok model) :
    ∃ forest spelled, model.ReadFrom forest spelled := by
  obtain ⟨forest, spelled, _, _, readFrom⟩ := exists_forest_of_build built
  exact ⟨forest, spelled, readFrom⟩

namespace ReadFrom

variable
  {model : SourceModel}
  {forest : List Node}
  {spelled : List Placed}
  (readFrom : model.ReadFrom forest spelled)

include readFrom

theorem ordered :
    InOrder spelled :=
  (placeTokens_inOrder model.tokens).of_sublist readFrom.keeps.sublist

theorem index_lt
    {placed : Placed}
    (member : placed ∈ spelled) :
    placed.index < model.tokens.size := by
  have found := mem_placeTokens.mp (readFrom.keeps.sublist.subset member)
  exact (Array.getElem?_eq_some_iff.mp found).1

theorem mem_of_isCode
    {index : Nat}
    {token : Token}
    (found : model.tokens[index]? = some token)
    (isCode : token.isCode = true) :
    ⟨index, token⟩ ∈ spelled := by
  refine readFrom.keeps.code.subset (List.mem_filter.mpr ⟨?_, isCode⟩)
  exact mem_placeTokens.mpr found

/-- The row at an index shows the statement at this index of all families. -/
theorem family
    {index : Nat}
    {row : Statement}
    (found : model.outline.statements[index]? = some row) :
    ∃ node,
      (families forest)[index]? = some node ∧
        Outline.ShowsRange row node := by
  rw [readFrom.outline, ← Array.getElem?_toList] at found
  exact exists_getElem?_of_forall₂ Outline.statements_ofForest found

/-- Every row of the statement table is a statement spelled by a part. -/
theorem statement
    {index : Nat}
    {row : Statement}
    (found : model.outline.statements[index]? = some row) :
    ∃ node these,
      Spells model.language.profile.blockStyle node these ∧
        these <:+: spelled ∧
        Outline.ShowsRange row node := by
  obtain ⟨node, foundNode, shown⟩ := readFrom.family found
  obtain ⟨these, spells, part⟩ :=
    readFrom.spells.part_of_mem_families (List.mem_of_getElem? foundNode)
  exact ⟨node, these, spells, part, shown⟩

theorem topLevel :
    model.outline.ShowsBody none forest := by
  rw [readFrom.outline]
  exact Outline.topLevel_ofForest

/-- Every row of the block table is a block spelled by a part. -/
theorem block
    {index : Nat}
    {block : Block}
    (found : model.outline.blocks[index]? = some block) :
    ∃ head body last these,
      Spells
          model.language.profile.blockStyle
          (.block head body last)
          these ∧
        these <:+: spelled ∧
        Outline.ShowsHead block head last ∧
        model.outline.ShowsBody (some index) body := by
  rw [readFrom.outline] at found ⊢
  obtain ⟨head, body, last, member, shown⟩ := Outline.blocks_ofForest found
  obtain ⟨these, spells, part⟩ := readFrom.spells.part_of_mem_families member
  exact ⟨head, body, last, these, spells, part, shown⟩

end ReadFrom

/-- A loop with a `while` clause, as the body of a condition without braces. -/
def loopSample : SourceFile where
  path := "Loop.java"
  text := "if(a)do\x7bb;\x7dwhile(c);"
  language := .java

/-- The sample is read as two blocks. -/
theorem loopSample_built :
    ∃ model,
      build loopSample = .ok model ∧ model.blocks.size = 2 := by
  have counted :
      (build loopSample).toOption.map (fun model => model.blocks.size) =
        some 2 := by
    decide +kernel
  cases built : build loopSample with
  | error fault =>
      simp [built, Except.toOption] at counted
  | ok model =>
      simp only [built, Except.toOption, Option.map_some] at counted
      exact ⟨model, rfl, Option.some.inj counted⟩

end SourceModel

end HouseStyle
