import HouseStyle.Proofs.Source.Confinement
import HouseStyle.Proofs.Source.Surplus

namespace HouseStyle

/-!
# Where statements are read

Reading a file between braces comes to one statement after the other, and from a
statement to those of its body. What is found at such a place is found in the
file: a fault there refuses the file, and a block that is read there is a block
of the model.
-/

mutual

/--
`BodyComesTo profile tokens first rest`: reading the statements of a body at the
front of `tokens` comes to a statement that starts with `first`, before `rest`.
-/
inductive BodyComesTo (profile : Profile) :
    List Placed → Placed → List Placed → Prop where
  | semicolon
      {token first : Placed}
      {others rest : List Placed}
      (isSemicolon : token.is ";" = true)
      (behind : BodyComesTo profile others first rest) :
      BodyComesTo profile (token :: others) first rest
  | statement
      {token first : Placed}
      {others rest : List Placed}
      (noBrace : token.is "\x7d" = false)
      (noSemicolon : token.is ";" = false)
      (inside : StatementComesTo profile token others first rest) :
      BodyComesTo profile (token :: others) first rest
  | behind
      {token first : Placed}
      {others middle rest : List Placed}
      {node : Node}
      (noBrace : token.is "\x7d" = false)
      (noSemicolon : token.is ";" = false)
      (isRead : profile.statementOf token others = .ok (node, middle))
      (behind : BodyComesTo profile middle first rest) :
      BodyComesTo profile (token :: others) first rest

/--
`StatementComesTo profile token others first rest`: reading the statement that
starts with `token`, before `others`, comes to the one that starts with `first`.
-/
inductive StatementComesTo (profile : Profile) :
    Placed → List Placed → Placed → List Placed → Prop where
  | here
      {first : Placed}
      {rest : List Placed} :
      StatementComesTo profile first rest first rest
  | braced
      {token first : Placed}
      {head : BlockHead}
      {others after rest : List Placed}
      (starts : profile.startOf token others = .ok (.braced head after))
      (inside : BodyComesTo profile after first rest) :
      StatementComesTo profile token others first rest
  | bare
      {token first : Placed}
      {head : BlockHead}
      {others after rest : List Placed}
      (starts : profile.startOf token others = .ok (.bare head after))
      (noSemicolon : head.opener.is ";" = false)
      (inside : StatementComesTo profile head.opener after first rest) :
      StatementComesTo profile token others first rest

end

/-- The statement behind a block's head is the block. -/
theorem exists_block_of_closedOf
    {head : BlockHead}
    {body : List Node}
    {last : Placed}
    {tokens left : List Placed}
    {whole : Node}
    (closes : closedOf head body last tokens = .ok (whole, left)) :
    ∃ final, whole = .block head body final := by
  rw [closedOf_eq] at closes
  split at closes
  · obtain ⟨⟨final, beyond⟩, _, same⟩ := exists_of_map_eq_ok closes
    cases same
    exact ⟨final, rfl⟩
  · cases closes
    exact ⟨last, rfl⟩

section Places

variable {profile : Profile}

mutual

/-- A body is refused with the fault of a statement that it comes to. -/
theorem BodyComesTo.refused
    {fault : Fault} :
    {tokens : List Placed} →
    {first : Placed} →
    {rest : List Placed} →
    BodyComesTo profile tokens first rest →
    profile.statementOf first rest = .error fault →
    profile.bodyOf tokens = .error fault
  | _, _, _, .semicolon isSemicolon behind, refuses => by
      rw [Profile.bodyOf_of_semicolon isSemicolon]
      exact behind.refused refuses
  | _, _, _, .statement noBrace noSemicolon inside, refuses => by
      rw [Profile.bodyOf_of_statement noBrace noSemicolon,
        inside.refused refuses]
      rfl
  | _, _, _, .behind noBrace noSemicolon isRead others, refuses => by
      rw [Profile.bodyOf_of_statement noBrace noSemicolon, isRead, ok_bind]
      dsimp only
      rw [others.refused refuses]
      rfl

/-- A statement is refused with the fault of one that it comes to. -/
theorem StatementComesTo.refused
    {fault : Fault} :
    {token : Placed} →
    {others : List Placed} →
    {first : Placed} →
    {rest : List Placed} →
    StatementComesTo profile token others first rest →
    profile.statementOf first rest = .error fault →
    profile.statementOf token others = .error fault
  | _, _, _, _, .here, refuses => refuses
  | _, _, _, _, .braced starts inside, refuses => by
      rw [Profile.statementOf_eq, starts, ok_bind, Profile.endOf,
        inside.refused refuses]
      rfl
  | _, _, _, _, .bare starts noSemicolon inside, refuses => by
      rw [Profile.statementOf_eq, starts, ok_bind, Profile.endOf, noSemicolon,
        inside.refused refuses]
      rfl

end

mutual

/-- A statement that a body comes to stands in the body with what follows. -/
theorem BodyComesTo.suffix :
    {tokens : List Placed} →
    {first : Placed} →
    {rest : List Placed} →
    BodyComesTo profile tokens first rest →
    first :: rest <:+ tokens
  | _, _, _, .semicolon _ behind =>
      behind.suffix.trans (List.suffix_cons _ _)
  | _, _, _, .statement _ _ inside =>
      inside.suffix
  | _, _, _, .behind _ _ isRead others =>
      others.suffix.trans (statementOf_suffix isRead)

/-- A statement that another one comes to stands in it with what follows. -/
theorem StatementComesTo.suffix :
    {token : Placed} →
    {others : List Placed} →
    {first : Placed} →
    {rest : List Placed} →
    StatementComesTo profile token others first rest →
    first :: rest <:+ token :: others
  | _, _, _, _, .here =>
      List.suffix_rfl
  | _, _, _, _, .braced starts inside =>
      (inside.suffix.trans (List.suffix_cons _ _)).trans (left_suffix starts)
  | _, _, _, _, .bare starts _ inside =>
      inside.suffix.trans (left_suffix starts)

end

mutual

/-- A statement that a body comes to is one of its family. -/
theorem BodyComesTo.mem_families
    {node : Node}
    {after : List Placed} :
    {tokens left : List Placed} →
    {first : Placed} →
    {rest : List Placed} →
    {nodes : List Node} →
    BodyComesTo profile tokens first rest →
    profile.statementOf first rest = .ok (node, after) →
    profile.bodyOf tokens = .ok (nodes, left) →
    node ∈ families nodes
  | _, _, _, _, _, .semicolon isSemicolon behind, found, isRead => by
      rw [Profile.bodyOf_of_semicolon isSemicolon] at isRead
      exact behind.mem_families found isRead
  | _, _, _, _, _, .statement noBrace noSemicolon inside, found, isRead => by
      rw [Profile.bodyOf_of_statement noBrace noSemicolon] at isRead
      obtain ⟨⟨whole, middle⟩, isStatement, others⟩ := exists_of_bind_eq_ok isRead
      obtain ⟨⟨siblings, beyond⟩, _, same⟩ := exists_of_bind_eq_ok others
      cases same
      exact List.mem_append_left _ (inside.mem_family found isStatement)
  | _, _, _, _, _, .behind noBrace noSemicolon isStatement others, found, isRead => by
      rw [Profile.bodyOf_of_statement noBrace noSemicolon, isStatement, ok_bind]
        at isRead
      obtain ⟨⟨siblings, beyond⟩, isBody, same⟩ := exists_of_bind_eq_ok isRead
      cases same
      exact List.mem_append_right _ (others.mem_families found isBody)

/-- A statement that another one comes to is one of its family. -/
theorem StatementComesTo.mem_family
    {node : Node}
    {after : List Placed} :
    {token : Placed} →
    {others left : List Placed} →
    {first : Placed} →
    {rest : List Placed} →
    {whole : Node} →
    StatementComesTo profile token others first rest →
    profile.statementOf first rest = .ok (node, after) →
    profile.statementOf token others = .ok (whole, left) →
    node ∈ whole.family
  | _, _, _, _, _, _, .here, found, isRead => by
      cases found.symm.trans isRead
      exact node.mem_family
  | _, _, _, _, _, _, .braced starts inside, found, isRead => by
      rw [Profile.statementOf_eq, starts, ok_bind] at isRead
      obtain ⟨⟨body, beyond⟩, isBody, encloses⟩ := exists_of_bind_eq_ok isRead
      cases beyond with
      | nil => cases encloses
      | cons closing others =>
          obtain ⟨final, rfl⟩ := exists_block_of_closedOf encloses
          exact List.mem_cons_of_mem _ (inside.mem_families found isBody)
  | _, _, _, _, _, _, .bare starts noSemicolon inside, found, isRead => by
      rw [Profile.statementOf_eq, starts, ok_bind, Profile.endOf,
        noSemicolon] at isRead
      obtain ⟨⟨body, beyond⟩, isBody, closes⟩ := exists_of_bind_eq_ok isRead
      obtain ⟨final, rfl⟩ := exists_block_of_closedOf closes
      refine List.mem_cons_of_mem _ ?_
      exact List.mem_append_left _ (inside.mem_family found isBody)

end

end Places

namespace SourceModel

variable
  {source : SourceFile}
  {tokens : Array Token}
  {first : Placed}
  {rest : List Placed}
  (isBraced : source.language.profile.blockStyle = .braces)
  (read : source.language.profile.tokenize source.text = .ok tokens)
  (comesTo :
    BodyComesTo source.language.profile (placeCode tokens) first rest)

include isBraced read comesTo

/-- A file is refused with the fault of a statement that it comes to. -/
theorem build_refuses_of_comesTo
    {fault : Fault}
    (refuses : source.language.profile.statementOf first rest = .error fault) :
    build source = .error fault := by
  unfold build
  simp only [read, readForest, isBraced, readBraces_eq]
  rw [comesTo.refused refuses]
  rfl

/-- A block that a file comes to is a block of its model. -/
theorem exists_block_of_comesTo
    {model : SourceModel}
    {head : BlockHead}
    {body : List Node}
    {last : Placed}
    {after : List Placed}
    (built : build source = .ok model)
    (found :
      source.language.profile.statementOf first rest =
        .ok (.block head body last, after)) :
    ∃ block ∈ model.blocks, Outline.ShowsHead block head last := by
  obtain ⟨forest, spelled, isRead, same, readFrom⟩ := exists_forest_of_build built
  cases read.symm.trans same
  simp only [readForest, isBraced, readBraces_eq] at isRead
  obtain ⟨⟨nodes, left⟩, isBody, whole⟩ := exists_of_bind_eq_ok isRead
  cases left with
  | cons closing beyond => cases whole
  | nil =>
      cases whole
      exact readFrom.exists_block (comesTo.mem_families found isBody)

end SourceModel

end HouseStyle
