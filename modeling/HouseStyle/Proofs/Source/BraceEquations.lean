import HouseStyle.Proofs.Answer
import HouseStyle.Source.Brace

namespace HouseStyle

/-!
# The readers of statements between braces, without their bounds

Every reader carries a bound on what it leaves, by which the recursion ends. The
bound has no part in what is read, so here each reader answers with no more than
a value and the rest. In this form a statement and a body are read as the
equations below say, and two runs of the readers can be compared.
-/

/-- What was read, and what is left. -/
def Reading.parts
    {Value : Type}
    {bound : Nat}
    (reading : Reading Value bound) :
    Value × List Placed :=
  (reading.value, reading.rest)

/-- How a statement starts, without the bound on what follows. -/
inductive Start where
  | simple (last : Placed) (after : List Placed)
  | braced (head : BlockHead) (after : List Placed)
  | bare (head : BlockHead) (after : List Placed)

/-- How a statement starts. -/
def Opening.start {bound : Nat} : Opening bound → Start
  | .simple last after _ => .simple last after
  | .braced head after _ => .braced head after
  | .bare head after _ => .bare head after

/--
What follows `start` and the tokens in `header`: the end of a simple statement,
or the brace that opens a block.
-/
def Profile.onwards
    (profile : Profile)
    (start current : Placed)
    (header : List Placed)
    (depth : Nat) :
    List Placed →
    Start
  | [] => .simple current []
  | token :: rest =>
      if depth = 0 ∧ profile.newlineTerminates ∧
          lineEnds start current (token :: rest) then
        .simple current (token :: rest)
      else if depth = 0 ∧ token.token.isDelimiter "\x7b" ∧
          opensBlock current header.reverse then
        let (kind, keyword, name) := classifyHeader profile start header.reverse
        .braced
          { kind
            keyword
            name
            first := start
            opener := token
            delimited := true
            continues := false }
          rest
      else if depth = 0 ∧ token.token.isDelimiter "\x7d" then
        .simple current (token :: rest)
      else if depth = 0 ∧ token.token.isDelimiter ";" then
        .simple token rest
      else
        let inside :=
          if token.token.opensBracket then
            depth + 1
          else if token.token.closesBracket then
            depth - 1
          else
            depth
        profile.onwards start token (token :: header) inside rest

/-- The bracket that closes the last of `depth` open ones, and what follows. -/
def groupEnd
    (opener : Placed)
    (depth : Nat) :
    List Placed →
    Except Fault (Placed × List Placed)
  | [] =>
      .error
        { cause := .unbalancedParenthesis, line := opener.token.start.line }
  | token :: rest =>
      if token.token.opensBracket then
        groupEnd opener (depth + 1) rest
      else if token.token.closesBracket then
        if depth = 1 then
          .ok (token, rest)
        else
          groupEnd opener (depth - 1) rest
      else
        groupEnd opener depth rest

/-- Reading on in a statement leads to what follows its tokens. -/
theorem start_readOn
    (profile : Profile)
    (start current : Placed)
    (header : List Placed)
    (depth : Nat)
    {bound : Nat}
    (tokens : List Placed)
    (bounded : tokens.length ≤ bound) :
    (readOn profile start current header depth bound tokens bounded).start =
      profile.onwards start current header depth tokens := by
  induction tokens generalizing current header depth with
  | nil =>
      rw [readOn.eq_def]
      split <;> rfl
  | cons token rest inductionHypothesis =>
      rw [readOn.eq_def, Profile.onwards]
      dsimp only
      split
      · rfl
      · split
        · rfl
        · split
          · rfl
          · split
            · rfl
            · exact inductionHypothesis token (token :: header) _ _

/-- Skipping a group leads to the bracket that closes it. -/
theorem parts_skipGroup
    (opener : Placed)
    (depth : Nat)
    {bound : Nat}
    (tokens : List Placed)
    (bounded : tokens.length ≤ bound) :
    (skipGroup opener depth bound tokens bounded).map Reading.parts =
      groupEnd opener depth tokens := by
  induction tokens generalizing depth with
  | nil => rfl
  | cons token rest inductionHypothesis =>
      rw [skipGroup.eq_def, groupEnd]
      dsimp only
      split
      · exact inductionHypothesis _ _
      · split
        · split
          · rfl
          · exact inductionHypothesis _ _
        · exact inductionHypothesis _ _

/--
The keyword that a statement shows, the part that decides its role, and what
follows the keyword.
-/
def keywordOf
    (first : Placed) :
    List Placed →
    (String × String) × List Placed
  | [] => ((first.text, first.text), [])
  | second :: beyond =>
      if first.reads "else" && second.is "if" then
        (("else if", "if"), beyond)
      else if first.reads "for" && second.is "await" then
        ((first.text, first.text), beyond)
      else
        ((first.text, first.text), second :: beyond)

/-- Reading a keyword gives its texts and what follows it. -/
theorem parts_readKeyword
    (first : Placed)
    (rest : List Placed) :
    (readKeyword first rest).parts = keywordOf first rest := by
  cases rest with
  | nil => rfl
  | cons second beyond =>
      simp only [readKeyword, keywordOf]
      split
      · rfl
      · split <;> rfl

/-- What follows the condition of a control statement. -/
def Profile.conditionEnd
    (profile : Profile)
    (keyword : String)
    (tokens : List Placed) :
    Except Fault (List Placed) :=
  if profile.parenConditions then
    match tokens with
    | [] => .ok []
    | opener :: rest =>
        if opener.is "(" then
          (groupEnd opener 1 rest).map Prod.snd
        else
          .ok (opener :: rest)
  else if keyword = "else" then
    .ok tokens
  else
    .ok (seekBrace 0 tokens)

/-- The start of a control statement whose condition is followed by the tokens. -/
def Profile.controlStart
    (profile : Profile)
    (first : Placed)
    (keyword role : String) :
    List Placed →
    Except Fault Start
  | [] =>
      .error
        { cause := .missingBody keyword, line := first.token.start.line }
  | opener :: after =>
      let head : BlockHead :=
        { kind := (profile.control? role).getD .other
          keyword
          name := ""
          first
          opener
          delimited := opener.is "\x7b"
          continues := profile.continuationKeywords.contains first.text }
      if opener.is "\x7d" then
        .error
          { cause := .missingBody keyword, line := first.token.start.line }
      else if opener.is "\x7b" then
        .ok (.braced head after)
      else
        .ok (.bare head after)

/-- Skipping a condition leads to what follows it. -/
theorem rest_skipCondition
    (profile : Profile)
    (keyword : String)
    (tokens : List Placed) :
    (skipCondition profile keyword tokens).map Reading.rest =
      profile.conditionEnd keyword tokens := by
  unfold skipCondition Profile.conditionEnd
  split
  · cases tokens with
    | nil => rfl
    | cons opener rest =>
        dsimp only
        split
        · rw [← parts_skipGroup opener 1 rest (Nat.le_succ _)]
          cases skipGroup opener 1 _ rest (Nat.le_succ _) <;> rfl
        · rfl
  · split <;> rfl

/-- The start of a control statement that shows the keyword. -/
def Profile.controlOf
    (profile : Profile)
    (first : Placed)
    (shown : (String × String) × List Placed) :
    Except Fault Start :=
  profile.conditionEnd shown.1.1 shown.2 >>=
    profile.controlStart first shown.1.1 shown.1.2

/-- A control statement starts as the tokens behind its condition say. -/
theorem start_readControl
    (profile : Profile)
    (first : Placed)
    (rest : List Placed) :
    (readControl profile first rest).map Opening.start =
      profile.controlOf first (keywordOf first rest) := by
  rw [← parts_readKeyword]
  unfold Profile.controlOf Reading.parts
  rw [← rest_skipCondition]
  unfold readControl
  dsimp only
  cases skipCondition profile (readKeyword first rest).value.1
      (readKeyword first rest).rest with
  | error fault => rfl
  | ok condition =>
      dsimp only
      change _ = profile.controlStart first _ _ condition.rest
      split
      · next atEnd =>
          rw [atEnd]
          rfl
      · next opener after isThere =>
          refine Eq.trans ?_ (congrArg _ isThere.symm)
          rw [Profile.controlStart]
          split
          · rfl
          · split <;> rfl

namespace Profile

variable (profile : Profile)

/-- The start of the statement that starts with `first`. -/
def startOf
    (first : Placed)
    (rest : List Placed) :
    Except Fault Start :=
  (readOpening profile first rest).map Opening.start

/-- A body is read within as many tokens as there are. -/
theorem isWithin (tokens : List Placed) :
    tokens.length ≤ tokens.length :=
  Nat.le_refl _

/-- The statements up to the closing brace around them. -/
def bodyOf (tokens : List Placed) : Except Fault (List Node × List Placed) :=
  (readBody profile [] tokens.length tokens (isWithin tokens)).map
    Reading.parts

/-- The statement that starts with `first`. -/
def statementOf
    (first : Placed)
    (rest : List Placed) :
    Except Fault (Node × List Placed) :=
  (readStatement profile first rest).map Reading.parts

end Profile

/-- The end of the condition behind `keyword`, if one follows. -/
def loopConditionEnd
    (keyword : Placed) :
    List Placed →
    Except Fault (Placed × List Placed)
  | [] => .ok (keyword, [])
  | opener :: rest =>
      if opener.is "(" then
        groupEnd opener 1 rest
      else
        .ok (keyword, opener :: rest)

/-- A semicolon that may end a statement so far ended by `last`. -/
def endingAfter
    (last : Placed) :
    List Placed →
    Placed × List Placed
  | [] => (last, [])
  | ending :: rest =>
      if ending.is ";" then (ending, rest) else (last, ending :: rest)

/-- The end of the `while` clause behind a body that ends with `last`. -/
def loopEnd
    (last : Placed) :
    List Placed →
    Except Fault (Placed × List Placed)
  | [] => .ok (last, [])
  | keyword :: rest =>
      if keyword.is "while" then
        (loopConditionEnd keyword rest).map fun (last, beyond) =>
          endingAfter last beyond
      else
        .ok (last, keyword :: rest)

/-- Reading the clause behind a `do` block leads to its end. -/
theorem parts_readLoopTail
    (last : Placed)
    (tokens : List Placed) :
    (readLoopTail last tokens).map Reading.parts = loopEnd last tokens := by
  cases tokens with
  | nil => rfl
  | cons keyword rest =>
      have ending (last : Placed) (tokens : List Placed) :
          (readEnding last tokens).parts = endingAfter last tokens := by
        cases tokens with
        | nil => rfl
        | cons token beyond =>
            simp only [readEnding, endingAfter]
            split <;> rfl
      have condition :
          (readLoopCondition keyword rest).map Reading.parts =
            loopConditionEnd keyword rest := by
        cases rest with
        | nil => rfl
        | cons opener beyond =>
            simp only [readLoopCondition, loopConditionEnd]
            split
            · exact parts_skipGroup opener 1 beyond _
            · rfl
      simp only [readLoopTail, loopEnd]
      split
      · rw [← condition]
        cases readLoopCondition keyword rest with
        | error fault => rfl
        | ok found => exact congrArg Except.ok (ending found.value found.rest)
      · rfl

/-- The block whose body ends with `last`. -/
def closedOf
    (head : BlockHead)
    (body : List Node)
    (last : Placed)
    (tokens : List Placed) :
    Except Fault (Node × List Placed) :=
  (closeBlock head body last tokens).map Reading.parts

/-- Only a `do` block goes on behind its body. -/
theorem closedOf_eq
    (head : BlockHead)
    (body : List Node)
    (last : Placed)
    (tokens : List Placed) :
    closedOf head body last tokens =
      if head.keyword = "do" then
        (loopEnd last tokens).map fun (last, rest) =>
          (.block head body last, rest)
      else
        .ok (.block head body last, tokens) := by
  unfold closedOf closeBlock
  split
  · rw [← parts_readLoopTail]
    cases readLoopTail last tokens <;> rfl
  · rfl

@[simp] theorem closedOf_nil
    (head : BlockHead)
    (body : List Node)
    (last : Placed) :
    closedOf head body last [] = .ok (.block head body last, []) := by
  rw [closedOf_eq]
  split <;> rfl

/-- The block whose body is followed by the rest, if the rest closes it. -/
def enclosedOf
    (head : BlockHead)
    (body : List Node) :
    List Placed →
    Except Fault (Node × List Placed)
  | [] =>
      .error
        { cause := .unclosedBlock, line := head.first.token.start.line }
  | closing :: beyond => closedOf head body closing beyond

namespace Profile

/-- The statement that starts with `first` and goes on as its start says. -/
def endOf
    (profile : Profile)
    (first : Placed) :
    Start →
    Except Fault (Node × List Placed)
  | .simple last after => .ok (.simple first last, after)
  | .braced head after =>
      profile.bodyOf after >>= fun (body, rest) => enclosedOf head body rest
  | .bare head after =>
      if head.opener.is ";" then
        closedOf head [.simple head.opener head.opener] head.opener after
      else
        profile.statementOf head.opener after >>= fun (body, beyond) =>
          closedOf head [body] body.last beyond

variable {profile : Profile}

/-- A statement starts with a control keyword, with a brace or in another way. -/
theorem startOf_eq
    (first : Placed)
    (rest : List Placed) :
    profile.startOf first rest =
      if first.kind = .keyword ∧ (profile.control? first.text).isSome then
        profile.controlOf first (keywordOf first rest)
      else if first.is "\x7b" then
        .ok
          (.braced
            { kind := .other
              keyword := ""
              name := ""
              first
              opener := first
              delimited := true
              continues := false }
            rest)
      else
        .ok
          (profile.onwards first first [first]
            (if first.token.opensBracket then 1 else 0) rest) := by
  rw [startOf, readOpening]
  split
  · exact start_readControl profile first rest
  · split
    · rfl
    · exact congrArg Except.ok (start_readOn profile first first [first] _ rest _)

/-- Neither the bound nor the statements before have a part in reading a body. -/
theorem readBody_parts
    (reversed : List Node)
    {bound other : Nat}
    {tokens : List Placed}
    (bounded : tokens.length ≤ bound)
    (otherBounded : tokens.length ≤ other) :
    (readBody profile reversed bound tokens bounded).map Reading.parts =
      ((readBody profile [] other tokens otherBounded).map Reading.parts).map
        fun (nodes, rest) => (reversed.reverse ++ nodes, rest) := by
  match tokens with
  | [] =>
      rw [readBody, readBody]
      simp [Except.map, Reading.parts]
  | token :: rest =>
      rw [readBody, readBody]
      split
      · simp [Except.map, Reading.parts]
      · split
        · exact readBody_parts reversed _ _
        · cases readStatement profile token rest with
          | error fault => rfl
          | ok statement =>
              have shorter := statement.bounded
              simp only
              rw [readBody_parts (statement.value :: reversed) _ (Nat.le_refl _),
                readBody_parts [statement.value] _ (Nat.le_refl _)]
              cases readBody profile [] _ statement.rest (Nat.le_refl _) <;>
                simp [Except.map]
  termination_by tokens.length

/-- A body is read in the same way under every bound. -/
theorem readBody_eq_bodyOf
    {bound : Nat}
    {tokens : List Placed}
    (bounded : tokens.length ≤ bound) :
    (readBody profile [] bound tokens bounded).map Reading.parts =
      profile.bodyOf tokens := by
  rw [bodyOf, readBody_parts [] bounded (Nat.le_refl _)]
  cases readBody profile [] _ tokens (Nat.le_refl _) <;> rfl

@[simp] theorem bodyOf_nil : profile.bodyOf [] = .ok ([], []) := by
  rw [bodyOf, readBody]
  rfl

/-- What a body starts with is its closing brace, a semicolon or a statement. -/
theorem bodyOf_cons
    (token : Placed)
    (rest : List Placed) :
    profile.bodyOf (token :: rest) =
      if token.is "\x7d" then
        .ok ([], token :: rest)
      else if token.is ";" then
        profile.bodyOf rest
      else
        profile.statementOf token rest >>= fun (node, after) =>
          profile.bodyOf after >>= fun (nodes, beyond) =>
            .ok (node :: nodes, beyond) := by
  rw [bodyOf, readBody]
  split
  · rfl
  · split
    · exact readBody_eq_bodyOf _
    · unfold statementOf
      cases readStatement profile token rest with
      | error fault => rfl
      | ok statement =>
          simp only [Except.map, Reading.parts, ok_bind, bodyOf]
          have goesOn :=
            @readBody_parts profile [statement.value] _ _ _
              (Nat.le_trans statement.bounded (Nat.le_of_succ_le (Nat.le_refl _)))
              (Nat.le_refl statement.rest.length)
          refine goesOn.trans ?_
          cases readBody profile [] _ statement.rest (Nat.le_refl _) <;> rfl

/-- A semicolon between statements is none. -/
theorem bodyOf_of_semicolon
    {token : Placed}
    {rest : List Placed}
    (isSemicolon : token.is ";" = true) :
    profile.bodyOf (token :: rest) = profile.bodyOf rest := by
  have noBrace : token.is "\x7d" = false :=
    Placed.is_eq_false isSemicolon (by decide)
  rw [bodyOf_cons, noBrace, isSemicolon]
  rfl

/-- Another token than a closing brace or a semicolon starts a statement. -/
theorem bodyOf_of_statement
    {token : Placed}
    {rest : List Placed}
    (noBrace : token.is "\x7d" = false)
    (noSemicolon : token.is ";" = false) :
    profile.bodyOf (token :: rest) =
      (profile.statementOf token rest >>= fun (node, after) =>
        profile.bodyOf after >>= fun (nodes, beyond) =>
          .ok (node :: nodes, beyond)) := by
  rw [bodyOf_cons, noBrace, noSemicolon]
  rfl

/-- Behind the brace of a block there are no more tokens than before it. -/
theorem length_le_of_startOf_braced
    {first : Placed}
    {rest after : List Placed}
    {head : BlockHead}
    (starts : profile.startOf first rest = .ok (.braced head after)) :
    after.length ≤ rest.length := by
  rw [startOf] at starts
  cases reads : readOpening profile first rest with
  | error fault =>
      rw [reads] at starts
      cases starts
  | ok opening =>
      rw [reads] at starts
      cases opening with
      | simple | bare => cases starts
      | braced head' after' bounded =>
          cases starts
          exact bounded

/-- A body without braces starts behind the first token. -/
theorem length_lt_of_startOf_bare
    {first : Placed}
    {rest after : List Placed}
    {head : BlockHead}
    (starts : profile.startOf first rest = .ok (.bare head after)) :
    after.length < rest.length := by
  rw [startOf] at starts
  cases reads : readOpening profile first rest with
  | error fault =>
      rw [reads] at starts
      cases starts
  | ok opening =>
      rw [reads] at starts
      cases opening with
      | simple | braced => cases starts
      | bare head' after' shorter =>
          cases starts
          exact shorter

/-- A statement takes its first token at least. -/
theorem length_le_of_statementOf
    {first : Placed}
    {rest after : List Placed}
    {node : Node}
    (isRead : profile.statementOf first rest = .ok (node, after)) :
    after.length ≤ rest.length := by
  rw [statementOf] at isRead
  cases reads : readStatement profile first rest with
  | error fault =>
      rw [reads] at isRead
      cases isRead
  | ok statement =>
      rw [reads] at isRead
      cases isRead
      exact statement.bounded

/-- A statement ends where its start says, or with the body that follows. -/
theorem statementOf_eq
    (first : Placed)
    (rest : List Placed) :
    profile.statementOf first rest =
      (profile.startOf first rest >>= profile.endOf first) := by
  rw [statementOf, readStatement, startOf]
  cases readOpening profile first rest with
  | error fault => rfl
  | ok opening =>
      cases opening with
      | simple last after bounded => rfl
      | braced head after bounded =>
          have same :
              profile.endOf first (.braced head after) =
                (readBody profile [] _ after bounded).map Reading.parts >>=
                  fun (body, rest) => enclosedOf head body rest := by
            rw [readBody_eq_bodyOf]
            rfl
          refine Eq.trans ?_ same.symm
          simp only
          cases readBody profile [] _ after bounded with
          | error fault => rfl
          | ok body =>
              change _ = enclosedOf head body.value body.rest
              dsimp only
              split
              · next atEnd =>
                  rw [atEnd]
                  rfl
              · next closing beyond isThere =>
                  have closes :
                      enclosedOf head body.value body.rest =
                        closedOf head body.value closing beyond := by
                    rw [isThere, enclosedOf]
                  rw [closes, closedOf]
                  cases closeBlock head body.value closing beyond <;> rfl
      | bare head after shorter =>
          change _ = profile.endOf first (.bare head after)
          rw [endOf]
          dsimp only
          split
          · rw [closedOf]
            cases closeBlock head _ head.opener after <;> rfl
          · rw [statementOf]
            cases readStatement profile head.opener after with
            | error fault => rfl
            | ok body =>
                change _ = closedOf head [body.value] body.value.last body.rest
                rw [closedOf]
                dsimp only
                cases closeBlock head [body.value] body.value.last body.rest <;>
                  rfl

end Profile

/-- What a whole file comes to, with what is left behind its statements. -/
def wholeOf
    (nodes : List Node) :
    List Placed →
    Except Fault (List Node)
  | [] => .ok nodes
  | closing :: _ =>
      .error { cause := .unmatchedBrace, line := closing.token.start.line }

/-- A file between braces is a body with nothing left behind it. -/
theorem readBraces_eq
    (profile : Profile)
    (tokens : List Placed) :
    readBraces profile tokens =
      (profile.bodyOf tokens >>= fun (nodes, rest) => wholeOf nodes rest) := by
  rw [readBraces, Profile.bodyOf]
  cases readBody profile [] _ tokens (Nat.le_refl _) with
  | error fault => rfl
  | ok body =>
      change _ = wholeOf body.value body.rest
      dsimp only
      split
      · next atEnd => rw [atEnd, wholeOf]
      · next closing rest isThere => rw [isThere, wholeOf]

end HouseStyle
