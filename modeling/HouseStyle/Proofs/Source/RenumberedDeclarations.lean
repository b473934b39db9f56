import HouseStyle.Proofs.Source.Renumbering
import HouseStyle.Source.Declaration
import Mathlib.Order.Monotone.Basic

namespace HouseStyle

/-!
# Outlines and declarations under other indices

The tables of a forest under other indices are the tables of the forest with
every index of a token replaced. The readers of declarations compare indices as
well: as long as the other indices are in the same order, they find the same
declarations.
-/

/-- A row with its tokens under other indices. -/
def Statement.renumber
    (places : Nat → Nat)
    (statement : Statement) :
    Statement :=
  { statement with
    first := places statement.first
    last := places statement.last }

/-- The row of a block with its tokens under other indices. -/
def Block.renumber
    (places : Nat → Nat)
    (block : Block) :
    Block :=
  { block with
    first := places block.first
    headerEnd := places block.headerEnd
    last := places block.last }

/-- Tables with their tokens under other indices. -/
def Outline.renumber
    (places : Nat → Nat)
    (outline : Outline) :
    Outline :=
  { outline with
    statements := outline.statements.map (Statement.renumber places)
    blocks := outline.blocks.map (Block.renumber places) }

section Tables

variable
  {profile : Profile}
  (places : Nat → Nat)

/-- Bodies list statements and not tokens. -/
theorem Outline.body_renumber
    (outline : Outline)
    (parent : Option Nat) :
    (outline.renumber places).body parent = outline.body parent := by
  cases parent with
  | none => rfl
  | some block =>
      simp only [body, renumber, Array.getElem?_map, Option.map_map]
      rfl

theorem Outline.addStatement_renumber
    (outline : Outline)
    (parent : Option Nat)
    (kind : StatementKind)
    (first last : Placed)
    (block : Option Nat) :
    (outline.renumber places).addStatement parent kind (first.renumber places)
        (last.renumber places) block =
      (outline.addStatement parent kind first last block).renumber places := by
  unfold addStatement
  rw [body_renumber]
  cases parent with
  | none =>
      simp only [renumber, Array.size_map, Array.map_push]
      rfl
  | some around =>
      simp only [renumber, Array.size_map, Array.map_push]
      congr 1
      refine Array.ext_getElem? fun index => ?_
      simp only [Array.getElem?_modify, Array.getElem?_map]
      split
      · cases outline.blocks[index]? <;> rfl
      · rfl

theorem Outline.addBlock_renumber
    (outline : Outline)
    (parent : Option Nat)
    (head : BlockHead)
    (last : Placed) :
    (outline.renumber places).addBlock parent (head.renumber places)
        (last.renumber places) =
      (outline.addBlock parent head last).renumber places := by
  have sameBlocks : (outline.renumber places).blocks.size = outline.blocks.size :=
    Array.size_map ..
  have sameStatements :
      (outline.renumber places).statements.size = outline.statements.size :=
    Array.size_map ..
  have added :=
    outline.addStatement_renumber places parent .block head.first last
      (some outline.blocks.size)
  unfold addBlock
  simp only [sameBlocks, sameStatements]
  rw [show (head.renumber places).first = head.first.renumber places from rfl,
    added]
  simp only [renumber, Array.map_push]
  rfl

mutual

theorem Node.layOut_renumber
    (parent : Option Nat)
    (outline : Outline)
    (node : Node) :
    (node.renumber places).layOut profile parent (outline.renumber places) =
      (node.layOut profile parent outline).renumber places := by
  cases node with
  | simple first last =>
      rw [Node.renumber, Node.layOut, Node.layOut]
      exact outline.addStatement_renumber places parent _ first last none
  | block head body last =>
      have sameBlocks :
          (outline.renumber places).blocks.size = outline.blocks.size :=
        Array.size_map ..
      rw [Node.renumber, Node.layOut, Node.layOut, Outline.addBlock_renumber,
        sameBlocks]
      exact layOutAll_renumber (some outline.blocks.size) _ body

theorem layOutAll_renumber
    (parent : Option Nat)
    (outline : Outline)
    (forest : List Node) :
    layOutAll profile parent (outline.renumber places)
        (renumberAll places forest) =
      (layOutAll profile parent outline forest).renumber places := by
  cases forest with
  | nil =>
      rw [renumberAll, layOutAll, layOutAll]
  | cons node rest =>
      rw [renumberAll, layOutAll, layOutAll, node.layOut_renumber]
      exact layOutAll_renumber parent _ rest

end

theorem Outline.ofForest_renumber
    (forest : List Node) :
    ofForest profile (renumberAll places forest) =
      (ofForest profile forest).renumber places := by
  have sameEmpty : empty.renumber places = empty := by simp [renumber, empty]
  unfold ofForest
  rw [← layOutAll_renumber, sameEmpty]

end Tables

/-! ## Declarations -/

section Readers

variable
  {profile : Profile}
  (places : Nat → Nat)

theorem declarationHead_renumber
    (depth : Int)
    (reversed tokens : List Placed) :
    declarationHead depth (reversed.map (Placed.renumber places))
        (tokens.map (Placed.renumber places)) =
      Prod.map (List.map (Placed.renumber places)) id
        (declarationHead depth reversed tokens) := by
  induction tokens generalizing depth reversed with
  | nil => simp [declarationHead]
  | cons placed rest inductionHypothesis =>
      have sameToken : (placed.renumber places).token = placed.token := rfl
      have sameText : (placed.renumber places).text = placed.text := rfl
      have goesOn (depth : Int) := inductionHypothesis depth (placed :: reversed)
      rw [List.map_cons] at goesOn
      rw [List.map_cons, declarationHead, declarationHead]
      simp only [sameToken, sameText, goesOn]
      split
      · rfl
      · split
        · rfl
        · split
          · simp
          · rfl

/-- What stands before a name, with its tokens under other indices. -/
def Modifiers.renumber
    (places : Nat → Nat)
    (modifiers : Modifiers) :
    Modifiers :=
  { modifiers with rest := modifiers.rest.map (Placed.renumber places) }

theorem readModifiers_renumber
    (visibility : Visibility)
    (bound : Bool)
    (tokens : List Placed) :
    readModifiers profile visibility bound (tokens.map (Placed.renumber places)) =
      (readModifiers profile visibility bound tokens).renumber places := by
  fun_induction readModifiers profile visibility bound tokens with
  | case1 visibility bound =>
      rw [List.map_nil, readModifiers]
      rfl
  | case2 visibility bound placed rest isMarker _ inductionHypothesis =>
      rw [List.map_cons, readModifiers]
      simpa [isMarker, dropMarkerName_renumber] using inductionHypothesis
  | case3 visibility bound placed rest noMarker noKeyword =>
      rw [List.map_cons, readModifiers]
      simp [noMarker, noKeyword, Modifiers.renumber]
  | case4 visibility bound placed rest noMarker isKeyword stated isStated
      inductionHypothesis =>
      rw [List.map_cons, readModifiers]
      simp [noMarker, isKeyword, isStated, inductionHypothesis]
  | case5 visibility bound placed rest noMarker isKeyword noStated isBinding
      inductionHypothesis =>
      rw [List.map_cons, readModifiers]
      rw [List.contains_iff_mem] at isBinding
      simp [noMarker, isKeyword, noStated, isBinding, inductionHypothesis]
  | case6 visibility bound placed rest noMarker isKeyword noStated noBinding
      isModifier inductionHypothesis =>
      rw [List.map_cons, readModifiers]
      rw [List.contains_iff_mem] at noBinding isModifier
      simp [noMarker, isKeyword, noStated, noBinding, isModifier, inductionHypothesis]
  | case7 visibility bound placed rest noMarker isKeyword noStated noBinding
      noModifier =>
      rw [List.map_cons, readModifiers]
      rw [List.contains_iff_mem] at noBinding noModifier
      simp [noMarker, isKeyword, noStated, noBinding, noModifier, Modifiers.renumber]

theorem typedName?_renumber
    (first : Placed)
    (tokens : List Placed) :
    typedName? profile (first.renumber places)
        (tokens.map (Placed.renumber places)) =
      (typedName? profile first tokens).map (Placed.renumber places) := by
  unfold typedName?
  rw [← List.map_reverse]
  match tokens.reverse with
  | [] => rfl
  | [_] => rfl
  | last :: before :: _ =>
      have sameKind (placed : Placed) :
          (placed.renumber places).kind = placed.kind := rfl
      have sameText (placed : Placed) :
          (placed.renumber places).text = placed.text := rfl
      simp only [List.map_cons, sameKind, sameText]
      split <;> rfl

theorem declaredName?_renumber
    (inType bound : Bool)
    (terminator : String)
    (tokens : List Placed) :
    declaredName? profile inType bound terminator
        (tokens.map (Placed.renumber places)) =
      (declaredName? profile inType bound terminator tokens).map
        (Placed.renumber places) := by
  have sameKind (placed : Placed) :
      (placed.renumber places).kind = placed.kind := rfl
  have sameReads (placed : Placed) (text : String) :
      (placed.renumber places).reads text = placed.reads text := rfl
  match tokens with
  | [] => rfl
  | [first] =>
      simp only [List.map_cons, List.map_nil, declaredName?, sameKind]
      split
      · split <;> rfl
      · split <;> rfl
  | first :: second :: rest =>
      have named :
          (if inType then
              signature? ((first :: second :: rest).map (Placed.renumber places))
            else
              none) =
            (if inType then signature? (first :: second :: rest) else none).map
              (Placed.renumber places) := by
        rw [signature?_renumber]
        split <;> rfl
      have typed :=
        @typedName?_renumber profile places first
          (first :: second :: rest)
      have dropped :
          (((second :: rest).map (Placed.renumber places)).dropLast.any
              fun placed => placed.reads "(" || placed.reads ".") =
            (second :: rest).dropLast.any
              fun placed => placed.reads "(" || placed.reads "." := by
        rw [← List.map_dropLast, List.any_map]
        rfl
      simp only [List.map_cons] at named typed dropped
      simp only [List.map_cons, declaredName?, sameKind, sameReads, named, typed,
        dropped]
      split
      · split <;> rfl
      · split
        · rfl
        · cases (if inType then signature? (first :: second :: rest) else none) with
          | some name => rfl
          | none =>
              simp only [Option.map_none]
              split
              · rfl
              · split
                · split <;> rfl
                · rfl

theorem callableKind_renumber
    (name : String)
    (parent : Option Block) :
    callableKind profile name (parent.map (Block.renumber places)) =
      callableKind profile name parent := by
  cases parent <;> rfl

theorem bindingKind_renumber
    (name : String)
    (parent : Option Block) :
    bindingKind name (parent.map (Block.renumber places)) =
      bindingKind name parent := by
  cases parent <;> rfl

/-- Which token is the last one shows under other indices as well. -/
theorem isLast_renumber
    {places : Nat → Nat}
    (injective : places.Injective)
    (tokens : List Placed)
    (name : Placed) :
    ((tokens.map (Placed.renumber places)).getLast?.map Placed.index ==
        some (name.renumber places).index) =
      (tokens.getLast?.map Placed.index == some name.index) := by
  rw [List.getLast?_map]
  cases tokens.getLast? with
  | none => rfl
  | some last =>
      rw [Bool.eq_iff_iff]
      simp [injective.eq_iff]

/-- What stands before a name shows under other indices in the same order. -/
theorem statedVisibility_renumber
    {places : Nat → Nat}
    (increasing : StrictMono places)
    (header : List Placed)
    (name : Placed) :
    statedVisibility profile (header.map (Placed.renumber places))
        (name.renumber places) =
      statedVisibility profile header name := by
  have before :
      (header.map (Placed.renumber places)).takeWhile
          (·.index < (name.renumber places).index) =
        (header.takeWhile (·.index < name.index)).map (Placed.renumber places) := by
    rw [List.takeWhile_map]
    simp [Function.comp_def, increasing.lt_iff_lt]
  unfold statedVisibility
  rw [before, List.findSome?_map]
  rfl

end Readers

/--
The code tokens of one file are those of another under indices in the same
order, in every range.
-/
structure Renumbers
    (places : Nat → Nat)
    (others tokens : Array Token) :
    Prop where
  increasing : StrictMono places
  before :
    ∀ first stop,
      codeBetween tokens (places first) (places stop) =
        (codeBetween others first stop).map (Placed.renumber places)
  through :
    ∀ first last,
      codeBetween tokens (places first) (places last + 1) =
        (codeBetween others first (last + 1)).map (Placed.renumber places)

namespace Renumbers

variable
  {profile : Profile}
  {places : Nat → Nat}
  {others tokens : Array Token}
  (renumbers : Renumbers places others tokens)

include renumbers

/-- A simple statement declares the same under other indices. -/
theorem simpleDeclaration?_eq
    (parent : Option Block)
    (statement : Statement) :
    simpleDeclaration? profile tokens (parent.map (Block.renumber places))
        (statement.renumber places) =
      simpleDeclaration? profile others parent statement := by
  have sameHead :=
    declarationHead_renumber places 0 []
      (codeBetween others statement.first (statement.last + 1))
  have sameBody :
      isTypeBody (parent.map (Block.renumber places)) = isTypeBody parent := by
    cases parent <;> rfl
  rw [List.map_nil] at sameHead
  simp only [simpleDeclaration?, Statement.renumber, renumbers.through, sameHead]
  obtain ⟨head, terminator⟩ :=
    declarationHead 0 [] (codeBetween others statement.first (statement.last + 1))
  simp only [Prod.map_apply, id_eq, readModifiers_renumber, Modifiers.renumber,
    declaredName?_renumber, Option.map_map, sameBody]
  refine congrArg₂ _ (funext fun name => ?_) rfl
  simp only [Function.comp_apply, isLast_renumber renumbers.increasing.injective,
    signature?_renumber, Option.isSome_map, callableKind_renumber,
    bindingKind_renumber, Placed.renumber_text]
  rfl

/-- A block declares the same under other indices. -/
theorem bracedDeclaration?_eq
    (parent : Option Block)
    (statement : Statement)
    (block : Block) :
    bracedDeclaration? profile tokens (parent.map (Block.renumber places))
        (statement.renumber places) (block.renumber places) =
      bracedDeclaration? profile others parent statement block := by
  have named :
      ((codeBetween others block.first block.headerEnd).map
              (Placed.renumber places)).find? (·.reads block.name) =
        ((codeBetween others block.first block.headerEnd).find?
          (·.reads block.name)).map (Placed.renumber places) := by
    rw [List.find?_map]
    rfl
  have chosen (first second : Option Placed) :
      (first.map (Placed.renumber places) <|>
          second.map (Placed.renumber places)) =
        (first <|> second).map (Placed.renumber places) := by
    cases first <;> rfl
  simp only [bracedDeclaration?, Block.renumber, renumbers.before, named,
    List.getLast?_map, chosen, Option.bind_map]
  split
  · rfl
  · refine congrArg _ (funext fun name => ?_)
    simp only [Function.comp_apply, statedVisibility_renumber renumbers.increasing,
      callableKind_renumber]
    rfl

/-- The tables of a file declare the same under other indices. -/
theorem bracedDeclarations_eq (outline : Outline) :
    bracedDeclarations profile tokens (outline.renumber places) =
      bracedDeclarations profile others outline := by
  have sameBlock (index : Option Nat) :
      (index.bind fun index => (outline.renumber places).blocks[index]?) =
        (index.bind fun index => outline.blocks[index]?).map
          (Block.renumber places) := by
    cases index with
    | none => rfl
    | some index => exact Array.getElem?_map ..
  have sameRows :
      (outline.renumber places).statements.toList =
        outline.statements.toList.map (Statement.renumber places) :=
    Array.toList_map ..
  unfold bracedDeclarations
  rw [sameRows, List.filterMap_map]
  refine congrArg (List.filterMap · _) (funext fun statement => ?_)
  have sameParent : (statement.renumber places).parent = statement.parent := rfl
  have sameOwn : (statement.renumber places).block = statement.block := rfl
  simp only [Function.comp_apply, sameParent, sameOwn, sameBlock]
  cases statement.block.bind fun index => outline.blocks[index]? with
  | none => exact renumbers.simpleDeclaration?_eq _ statement
  | some block => exact renumbers.bracedDeclaration?_eq _ statement block

end Renumbers

end HouseStyle
