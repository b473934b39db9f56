import HouseStyle.Source.Brace

namespace HouseStyle

/-!
# Readings of statements between braces

`ReadsStatement` and `ReadsBody` list the ways in which a statement and a body
are read without a fault, each with all that was found out on the way. What a
successful run of the readers returns is read in one of these ways, so facts
about forests are proved by induction on the reading and not on the readers.
-/

mutual

/--
`ReadsStatement profile first rest node after`: the statement that starts with
`first` is `node`, and `after` is what it leaves of `rest`.
-/
inductive ReadsStatement (profile : Profile) :
    Placed → List Placed → Node → List Placed → Prop where
  | simple
      {first last : Placed}
      {rest after : List Placed}
      {bounded : after.length ≤ rest.length}
      (opening :
        readOpening profile first rest =
          .ok (.simple last after bounded)) :
      ReadsStatement profile first rest (.simple first last) after
  | braced
      {first closing : Placed}
      {head : BlockHead}
      {rest after beyond : List Placed}
      {nodes : List Node}
      {bounded : after.length ≤ rest.length}
      {closed : Reading Node beyond.length}
      (opening :
        readOpening profile first rest = .ok (.braced head after bounded))
      (body : ReadsBody profile after nodes (closing :: beyond))
      (closes : closeBlock head nodes closing beyond = .ok closed) :
      ReadsStatement profile first rest closed.value closed.rest
  | empty
      {first : Placed}
      {head : BlockHead}
      {rest after : List Placed}
      {shorter : after.length < rest.length}
      {closed : Reading Node after.length}
      (opening :
        readOpening profile first rest = .ok (.bare head after shorter))
      (semicolon : head.opener.is ";" = true)
      (closes :
        closeBlock
            head [.simple head.opener head.opener] head.opener after =
          .ok closed) :
      ReadsStatement profile first rest closed.value closed.rest
  | bare
      {first : Placed}
      {head : BlockHead}
      {rest after middle : List Placed}
      {node : Node}
      {shorter : after.length < rest.length}
      {closed : Reading Node middle.length}
      (opening :
        readOpening profile first rest = .ok (.bare head after shorter))
      (noSemicolon : head.opener.is ";" = false)
      (body : ReadsStatement profile head.opener after node middle)
      (closes : closeBlock head [node] node.last middle = .ok closed) :
      ReadsStatement profile first rest closed.value closed.rest

/--
`ReadsBody profile tokens nodes after`: the statements at the front of `tokens`
are `nodes`, and `after` starts with a closing brace or is empty.
-/
inductive ReadsBody (profile : Profile) :
    List Placed → List Node → List Placed → Prop where
  | atEnd :
      ReadsBody profile [] [] []
  | atBrace
      {brace : Placed}
      {rest : List Placed}
      (closes : brace.is "\x7d" = true) :
      ReadsBody profile (brace :: rest) [] (brace :: rest)
  | semicolon
      {token : Placed}
      {rest after : List Placed}
      {nodes : List Node}
      (isSemicolon : token.is ";" = true)
      (others : ReadsBody profile rest nodes after) :
      ReadsBody profile (token :: rest) nodes after
  | statement
      {token : Placed}
      {rest middle after : List Placed}
      {node : Node}
      {nodes : List Node}
      (noBrace : token.is "\x7d" = false)
      (noSemicolon : token.is ";" = false)
      (first : ReadsStatement profile token rest node middle)
      (others : ReadsBody profile middle nodes after) :
      ReadsBody profile (token :: rest) (node :: nodes) after

end

mutual

/-- What `readBody` returns is read as `ReadsBody` says. -/
theorem ReadsBody.of_readBody
    {profile : Profile}
    {reversed : List Node}
    {bound : Nat}
    {tokens : List Placed}
    {bounded : tokens.length ≤ bound}
    {reading : Reading (List Node) bound}
    (read : readBody profile reversed bound tokens bounded = .ok reading) :
    ∃ nodes,
      reading.value = reversed.reverse ++ nodes ∧
        ReadsBody profile tokens nodes reading.rest := by
  match tokens with
  | [] =>
      rw [readBody] at read
      cases read
      exact ⟨[], by simp, .atEnd⟩
  | token :: rest =>
      rw [readBody] at read
      cases brace : token.is "\x7d" with
      | true =>
          simp only [brace, ↓reduceIte, Except.ok.injEq] at read
          subst read
          exact ⟨[], by simp, .atBrace brace⟩
      | false =>
          cases semicolon : token.is ";" with
          | true =>
              simp only [brace, semicolon, ↓reduceIte,
                Bool.false_eq_true] at read
              obtain ⟨nodes, value, others⟩ :=
                ReadsBody.of_readBody read
              exact ⟨nodes, value, .semicolon semicolon others⟩
          | false =>
              simp only [brace, semicolon, ↓reduceIte,
                Bool.false_eq_true] at read
              split at read
              · cases read
              · next statement readFirst =>
                  have shorter := statement.bounded
                  have first := ReadsStatement.of_readStatement readFirst
                  obtain ⟨nodes, value, others⟩ :=
                    ReadsBody.of_readBody read
                  refine ⟨statement.value :: nodes, ?_, ?_⟩
                  · simpa using value
                  · exact .statement brace semicolon first others
  termination_by (tokens.length, 1)

/-- What `readStatement` returns is read as `ReadsStatement` says. -/
theorem ReadsStatement.of_readStatement
    {profile : Profile}
    {first : Placed}
    {rest : List Placed}
    {reading : Reading Node rest.length}
    (read : readStatement profile first rest = .ok reading) :
    ReadsStatement profile first rest reading.value reading.rest := by
  rw [readStatement] at read
  split at read
  · cases read
  · next last after bounded opening =>
      cases read
      exact .simple opening
  · next head after bounded opening =>
      split at read
      · cases read
      · next body readInside =>
          dsimp only at read
          split at read
          · cases read
          · next closing beyond same =>
              split at read
              · cases read
              · next closed closes =>
                  cases read
                  obtain ⟨nodes, value, inside⟩ :=
                    ReadsBody.of_readBody readInside
                  simp only [List.reverse_nil, List.nil_append] at value
                  rw [value] at closes
                  rw [same] at inside
                  -- The goal names the parts of `closed` only, so the rule is
                  -- applied to the block itself first.
                  have derived :=
                    ReadsStatement.braced opening inside closes
                  exact derived
  · next head after shorter opening =>
      cases semicolon : head.opener.is ";" with
      | true =>
          simp only [semicolon, ↓reduceIte] at read
          split at read
          · cases read
          · next closed closes =>
              cases read
              have derived :=
                ReadsStatement.empty opening semicolon closes
              exact derived
      | false =>
          simp only [semicolon, ↓reduceIte, Bool.false_eq_true] at read
          split at read
          · cases read
          · next body readInside =>
              split at read
              · cases read
              · next closed closes =>
                  cases read
                  have inside :=
                    ReadsStatement.of_readStatement readInside
                  have derived :=
                    ReadsStatement.bare opening semicolon inside closes
                  exact derived
  termination_by (rest.length + 1, 0)

end

end HouseStyle
