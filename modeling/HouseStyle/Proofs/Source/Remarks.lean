import HouseStyle.Proofs.Source.Confinement
import HouseStyle.Proofs.Source.RenumberedDeclarations

namespace HouseStyle

/-!
# Remarks between braces

In a language with braces, remarks have no part in the structure of a file.
Reading the tokens of a file gives what reading its code tokens alone gives: the
same fault, or the same statements, blocks and declarations with every index of
a code token replaced by the index of this token among all tokens.
-/

/-- The indices of the code tokens of a file. -/
def codeIndices (tokens : Array Token) : List Nat :=
  (placeCode tokens).map Placed.index

/--
The index of a code token by its index among the code tokens; behind the last
code token, the numbers go on behind the tokens.
-/
def codePlace : List Token → Nat → Nat
  | [], index => index
  | token :: rest, index =>
      if token.isCode then
        match index with
        | 0 => 0
        | index + 1 => codePlace rest index + 1
      else
        codePlace rest index + 1

/-- Code tokens stand in order. -/
theorem strictMono_codePlace (tokens : List Token) :
    StrictMono (codePlace tokens) := by
  induction tokens with
  | nil => exact strictMono_id
  | cons token rest inductionHypothesis =>
      intro earlier later before
      unfold codePlace
      split
      · match earlier, later with
        | _, 0 => exact (Nat.not_lt_zero _ before).elim
        | 0, later + 1 => exact Nat.succ_pos _
        | earlier + 1, later + 1 =>
            exact
              Nat.succ_lt_succ
                (inductionHypothesis (Nat.lt_of_succ_lt_succ before))
      · exact Nat.succ_lt_succ (inductionHypothesis before)

/-- Remarks are left out before or after the numbering. -/
theorem filter_isCode_zipIdx
    (tokens : List Token)
    (start : Nat) :
    (tokens.zipIdx start).filter (·.1.isCode) =
      (tokens.filter Token.isCode).zipIdx.map
        (Prod.map id (codePlace tokens · + start)) := by
  induction tokens generalizing start with
  | nil => rfl
  | cons token rest inductionHypothesis =>
      have moves (index : Nat) :
          codePlace rest index + (start + 1) = codePlace rest index + 1 + start := by
        omega
      rw [List.zipIdx_cons, List.filter_cons, List.filter_cons,
        inductionHypothesis (start + 1)]
      cases isCode : token.isCode with
      | true =>
          simp [List.zipIdx_succ, codePlace, isCode, moves, Function.comp_def]
      | false => simp [codePlace, isCode, moves]

/-- Without remarks, all tokens are code tokens. -/
theorem placeCode_filter_isCode (tokens : Array Token) :
    placeCode (tokens.filter Token.isCode) =
      placeTokens (tokens.filter Token.isCode) := by
  refine List.filter_eq_self.mpr fun placed member => ?_
  have isThere := mem_placeTokens.mp member
  exact (Array.mem_filter.mp (Array.mem_of_getElem? isThere)).right

/-- The code tokens of a file are its tokens without remarks, numbered anew. -/
theorem placeCode_eq (tokens : Array Token) :
    placeCode tokens =
      (placeCode (tokens.filter Token.isCode)).map
        (Placed.renumber (codePlace tokens.toList)) := by
  have numbered := filter_isCode_zipIdx tokens.toList 0
  rw [placeCode_filter_isCode, placeCode, placeTokens, placeTokens,
    List.filter_map, Array.toList_filter]
  refine (congrArg _ numbered).trans ?_
  rw [List.map_map, List.map_map]
  rfl

/-- The indices of the code tokens are the places of their own numbers. -/
theorem codeIndices_eq (tokens : Array Token) :
    codeIndices tokens =
      (List.range (tokens.filter Token.isCode).size).map
        (codePlace tokens.toList) := by
  rw [codeIndices, placeCode_eq, placeCode_filter_isCode,
    ← map_index_placeTokens, List.map_map, List.map_map]
  rfl

/-- The code tokens of a file are looked up by their own numbers. -/
theorem placeCode_eq_of_looksUp
    {tokens : Array Token}
    {places : Nat → Nat}
    (looksUp :
      ∀ index (inRange : index < (codeIndices tokens).length),
        places index = (codeIndices tokens)[index]) :
    placeCode tokens =
      (placeCode (tokens.filter Token.isCode)).map (Placed.renumber places) := by
  refine (placeCode_eq tokens).trans ?_
  refine List.map_congr_left fun placed member => ?_
  rw [placeCode_filter_isCode] at member
  have isThere := mem_placeTokens.mp member
  have inRange := (Array.getElem?_eq_some_iff.mp isThere).choose
  have sameIndex : places placed.index = codePlace tokens.toList placed.index := by
    rw [looksUp placed.index (by simpa [codeIndices_eq] using inRange)]
    simp [codeIndices_eq]
  exact congrArg (Placed.mk · placed.token) sameIndex.symm

/-- The code tokens in a range are those without remarks, numbered anew. -/
theorem codeBetween_eq_map
    (tokens : Array Token)
    (first : Nat)
    {stop otherStop : Nat}
    (sameStop :
      ∀ index, codePlace tokens.toList index < stop ↔ index < otherStop) :
    codeBetween tokens (codePlace tokens.toList first) stop =
      (codeBetween (tokens.filter Token.isCode) first otherStop).map
        (Placed.renumber (codePlace tokens.toList)) := by
  have increasing := strictMono_codePlace tokens.toList
  have othersOrdered :
      InOrder
        ((codeBetween (tokens.filter Token.isCode) first otherStop).map
          (Placed.renumber (codePlace tokens.toList))) :=
    List.pairwise_map.mpr
      ((codeBetween_inOrder _ _ _).imp fun before => increasing before)
  refine (codeBetween_inOrder _ _ _).eq_of_mem_iff othersOrdered fun placed => ?_
  rw [mem_codeBetween, placeCode_eq, List.mem_map, List.mem_map]
  constructor
  · rintro ⟨⟨other, member, rfl⟩, notBefore, inTime⟩
    refine ⟨other, mem_codeBetween.mpr ⟨member, ?_, ?_⟩, rfl⟩
    · exact increasing.le_iff_le.mp notBefore
    · exact (sameStop other.index).mp inTime
  · rintro ⟨other, inRange, rfl⟩
    obtain ⟨member, notBefore, inTime⟩ := mem_codeBetween.mp inRange
    refine ⟨⟨other, member, rfl⟩, ?_, ?_⟩
    · exact increasing.le_iff_le.mpr notBefore
    · exact (sameStop other.index).mpr inTime

/-- The tokens of a file are its code tokens under other indices. -/
theorem renumbers_codePlace (tokens : Array Token) :
    Renumbers (codePlace tokens.toList) (tokens.filter Token.isCode) tokens where
  increasing := strictMono_codePlace tokens.toList
  before first stop :=
    codeBetween_eq_map tokens first fun _ =>
      (strictMono_codePlace tokens.toList).lt_iff_lt
  through first last :=
    codeBetween_eq_map tokens first fun _ => by
      rw [Nat.lt_succ_iff, Nat.lt_succ_iff]
      exact (strictMono_codePlace tokens.toList).le_iff_le

namespace SourceModel

/-- The tables and the declarations that the tokens of a file are read as. -/
def structureOf
    (profile : Profile)
    (lines : Array Line)
    (tokens : Array Token) :
    Except Fault (Outline × List Declaration) :=
  (readForest profile lines tokens).map fun forest =>
    let outline := Outline.ofForest profile forest
    (outline, declarationsOf profile tokens outline)

/-- A model shows the structure of the tokens that its text is taken apart into. -/
theorem build_eq (source : SourceFile) :
    build source =
      (source.language.profile.tokenize source.text >>= fun tokens =>
        (structureOf source.language.profile (splitLines source.text) tokens).map
          fun (outline, declarations) =>
            { path := source.path
              language := source.language
              lines := splitLines source.text
              tokens
              outline
              declarations }) := by
  unfold build structureOf
  dsimp only
  cases source.language.profile.tokenize source.text with
  | error fault => rfl
  | ok tokens =>
      rw [ok_bind]
      dsimp only
      cases readForest source.language.profile (splitLines source.text) tokens <;>
        rfl

/-- What the tokens of a file between braces are read as. -/
theorem structureOf_braces
    {profile : Profile}
    (isBraced : profile.blockStyle = .braces)
    (lines : Array Line)
    (tokens : Array Token) :
    structureOf profile lines tokens =
      (readBraces profile (placeCode tokens)).map fun forest =>
        (Outline.ofForest profile forest,
          sortDeclarations
            (bracedDeclarations profile tokens
              (Outline.ofForest profile forest))) := by
  simp only [structureOf, readForest, declarationsOf, isBraced]

/--
Reading a file between braces is reading its code tokens alone. Either both are
refused with the same fault, or both show the same statements, blocks and
declarations, with every index of a token looked up among the indices of the
code tokens.
-/
theorem structureOf_eq_withoutRemarks
    {profile : Profile}
    (isBraced : profile.blockStyle = .braces)
    (lines : Array Line)
    {tokens : Array Token}
    {places : Nat → Nat}
    (looksUp :
      ∀ index (inRange : index < (codeIndices tokens).length),
        places index = (codeIndices tokens)[index]) :
    structureOf profile lines tokens =
      (structureOf profile lines (tokens.filter Token.isCode)).map
        fun (outline, declarations) => (outline.renumber places, declarations) := by
  have looked :
      readBraces profile (placeCode tokens) =
        (readBraces profile (placeCode (tokens.filter Token.isCode))).map
          (renumberAll places) := by
    rw [placeCode_eq_of_looksUp looksUp, readBraces_renumber]
  have placed :
      readBraces profile (placeCode tokens) =
        (readBraces profile (placeCode (tokens.filter Token.isCode))).map
          (renumberAll (codePlace tokens.toList)) := by
    rw [placeCode_eq, readBraces_renumber]
  rw [structureOf_braces isBraced, structureOf_braces isBraced, looked]
  cases isRead : readBraces profile (placeCode (tokens.filter Token.isCode)) with
  | error fault => rfl
  | ok forest =>
      -- Only the total order of `codePlace` keeps the declarations.
      have sameForest :
          renumberAll places forest =
            renumberAll (codePlace tokens.toList) forest := by
        rw [placed, isRead] at looked
        exact (Except.ok.inj looked).symm
      have sameOutline :
          Outline.ofForest profile (renumberAll places forest) =
            (Outline.ofForest profile forest).renumber
              (codePlace tokens.toList) := by
        rw [sameForest, Outline.ofForest_renumber]
      have sameDeclarations :
          bracedDeclarations profile tokens
              (Outline.ofForest profile (renumberAll places forest)) =
            bracedDeclarations profile (tokens.filter Token.isCode)
              (Outline.ofForest profile forest) := by
        rw [sameOutline]
        exact (renumbers_codePlace tokens).bracedDeclarations_eq _
      simp only [Except.map, sameDeclarations]
      rw [Outline.ofForest_renumber]

/-- A class with remarks in its header, between its members and behind it. -/
def remarkedTokens : Array Token :=
  (Language.java.profile.tokenize
    "class A /* a */ \x7b\n  // size\n  int size;\n\x7d // end\n").toOption.getD #[]

/-- Without its remarks, the class shows the same declarations. -/
theorem structureOf_remarkedTokens :
    ∃ outline declarations,
      structureOf Language.java.profile #[] (remarkedTokens.filter Token.isCode) =
          .ok (outline, declarations) ∧
        declarations.map Declaration.name = ["A", "size"] ∧
          structureOf Language.java.profile #[] remarkedTokens =
            .ok
              (outline.renumber fun index =>
                  (codeIndices remarkedTokens).getD index 0,
                declarations) := by
  have looksUp :
      ∀ index (inRange : index < (codeIndices remarkedTokens).length),
        (codeIndices remarkedTokens).getD index 0 =
          (codeIndices remarkedTokens)[index] :=
    fun index inRange => by simp [List.getD_eq_getElem?_getD, inRange]
  have names :
      (structureOf Language.java.profile #[]
              (remarkedTokens.filter Token.isCode)).toOption.map
          (fun read => read.2.map Declaration.name) =
        some ["A", "size"] := by
    cbv
  have same :=
    @structureOf_eq_withoutRemarks Language.java.profile rfl #[] _ _ looksUp
  cases isRead :
    structureOf Language.java.profile #[]
      (remarkedTokens.filter Token.isCode) with
  | error fault =>
      rw [isRead] at names
      cases names
  | ok read =>
      obtain ⟨outline, declarations⟩ := read
      rw [isRead] at names same
      exact ⟨outline, declarations, rfl, Option.some.inj names, same⟩

end SourceModel

end HouseStyle
