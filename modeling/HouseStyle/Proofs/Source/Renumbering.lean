import HouseStyle.Proofs.Source.BraceEquations

namespace HouseStyle

/-!
# Readers do not look at indices

The readers of statements between braces look at the tokens that they are given
and at nothing else: the index of a token is handed on, and no decision depends on
it. So tokens under other indices are read as the same statements under these
indices, or refused with the same fault at the same line.
-/

/-- A token under another index. -/
def Placed.renumber
    (places : Nat → Nat)
    (placed : Placed) :
    Placed :=
  { placed with index := places placed.index }

namespace Placed

variable
  (places : Nat → Nat)
  (placed : Placed)

@[simp] theorem renumber_token :
    (placed.renumber places).token = placed.token := rfl

@[simp] theorem renumber_index :
    (placed.renumber places).index = places placed.index := rfl

@[simp] theorem renumber_text :
    (placed.renumber places).text = placed.text := rfl

@[simp] theorem renumber_kind :
    (placed.renumber places).kind = placed.kind := rfl

@[simp] theorem renumber_reads (text : String) :
    (placed.renumber places).reads text = placed.reads text := rfl

end Placed

/-- A head with its tokens under other indices. -/
def BlockHead.renumber
    (places : Nat → Nat)
    (head : BlockHead) :
    BlockHead :=
  { head with
    first := head.first.renumber places
    opener := head.opener.renumber places }

/-- The start of a statement with its tokens under other indices. -/
def Start.renumber (places : Nat → Nat) : Start → Start
  | .simple last after =>
      .simple (last.renumber places) (after.map (Placed.renumber places))
  | .braced head after =>
      .braced (head.renumber places) (after.map (Placed.renumber places))
  | .bare head after =>
      .bare (head.renumber places) (after.map (Placed.renumber places))

mutual

/-- A statement with its tokens under other indices. -/
def Node.renumber (places : Nat → Nat) : Node → Node
  | .simple first last =>
      .simple (first.renumber places) (last.renumber places)
  | .block head body last =>
      .block (head.renumber places) (renumberAll places body)
        (last.renumber places)

/-- Statements with their tokens under other indices. -/
def renumberAll (places : Nat → Nat) : List Node → List Node
  | [] => []
  | node :: rest => node.renumber places :: renumberAll places rest

end

theorem Node.last_renumber
    (places : Nat → Nat)
    (node : Node) :
    (node.renumber places).last = node.last.renumber places := by
  cases node <;> simp [Node.renumber, Node.last]

section Readers

variable
  {profile : Profile}
  (places : Nat → Nat)

/-! ## Headers -/

theorem holdsExpression_renumber
    (depth : Int)
    (tokens : List Placed) :
    holdsExpression depth (tokens.map (Placed.renumber places)) =
      holdsExpression depth tokens := by
  induction tokens generalizing depth with
  | nil => rfl
  | cons token rest inductionHypothesis =>
      simp [holdsExpression, inductionHypothesis]

theorem opensBlock_renumber
    (previous : Placed)
    (header : List Placed) :
    opensBlock (previous.renumber places) (header.map (Placed.renumber places)) =
      opensBlock previous header := by
  simp [opensBlock, expectsOperand, holdsExpression_renumber]

theorem classKeyword?_renumber
    (previous : Option Placed)
    (depth : Int)
    (tokens : List Placed) :
    classKeyword? profile (previous.map (Placed.renumber places)) depth
        (tokens.map (Placed.renumber places)) =
      (classKeyword? profile previous depth tokens).map
        fun (before, keyword, after) =>
          (before.map (Placed.renumber places), keyword.renumber places,
            after.map (Placed.renumber places)) := by
  induction tokens generalizing previous depth with
  | nil => rfl
  | cons token rest inductionHypothesis =>
      have goesOn (depth : Int) := inductionHypothesis (some token) depth
      simp only [Option.map_some] at goesOn
      simp only [List.map_cons, classKeyword?, Placed.renumber_token,
        Placed.renumber_kind, Placed.renumber_text, goesOn]
      split
      · rfl
      · split
        · rfl
        · split
          · simp
          · rfl

theorem dropQualifiers_renumber (tokens : List Placed) :
    dropQualifiers (tokens.map (Placed.renumber places)) =
      (dropQualifiers tokens).map (Placed.renumber places) := by
  fun_induction dropQualifiers tokens with
  | case1 dot name rest isDot inductionHypothesis =>
      simp [dropQualifiers, isDot, inductionHypothesis]
  | case2 dot name rest noDot => simp [dropQualifiers, noDot]
  | case3 tokens isShort =>
      match tokens with
      | [] => rfl
      | [_] => rfl
      | _ :: _ :: _ => exact (isShort _ _ _ rfl).elim

theorem dropArguments_renumber
    (depth : Int)
    (tokens : List Placed) :
    dropArguments depth (tokens.map (Placed.renumber places)) =
      (dropArguments depth tokens).map (Placed.renumber places) := by
  induction tokens generalizing depth with
  | nil => rfl
  | cons token rest inductionHypothesis =>
      simp only [List.map_cons, dropArguments, Placed.renumber_reads,
        inductionHypothesis]
      split
      · rfl
      · split
        · split <;> rfl
        · rfl

theorem dropMarkerName_renumber (tokens : List Placed) :
    dropMarkerName (tokens.map (Placed.renumber places)) =
      (dropMarkerName tokens).map (Placed.renumber places) := by
  unfold dropMarkerName
  rw [← List.map_drop, dropQualifiers_renumber]
  cases dropQualifiers (tokens.drop 1) with
  | nil => rfl
  | cons token rest =>
      cases isOpen : token.reads "(" with
      | false => simp [isOpen]
      | true => simpa [isOpen] using dropArguments_renumber places 0 (token :: rest)

theorem signatureFrom?_renumber
    (previous : Option Placed)
    (depth : Int)
    (tokens : List Placed) :
    signatureFrom? (previous.map (Placed.renumber places)) depth
        (tokens.map (Placed.renumber places)) =
      (signatureFrom? previous depth tokens).map (Placed.renumber places) := by
  match tokens with
  | [] => simp [signatureFrom?]
  | token :: rest =>
      have goesOn (depth : Int) := signatureFrom?_renumber (some token) depth rest
      have marker : (token.renumber places).reads "@" = token.reads "@" := rfl
      have delimiter (text : String) :
          (token.renumber places).token.isDelimiter text =
            token.token.isDelimiter text := rfl
      rw [Option.map_some] at goesOn
      rw [List.map_cons, signatureFrom?.eq_def, signatureFrom?.eq_def previous]
      by_cases isMarker : token.reads "@" = true ∧ depth = 0
      · have shorter := length_dropMarkerName_le rest
        have skips := signatureFrom?_renumber none depth (dropMarkerName rest)
        rw [Option.map_none] at skips
        simpa only [marker, isMarker, and_self, if_true, dropMarkerName_renumber]
          using skips
      · simp only [marker, isMarker, if_false, delimiter, goesOn]
        by_cases isOpen : token.token.isDelimiter "(" = true
        · simp only [isOpen, if_true]
          cases previous with
          | none => rfl
          | some name =>
              have kind : (name.renumber places).kind = name.kind := rfl
              simp only [Option.map_some, kind]
              split <;> rfl
        · simp only [isOpen, Bool.false_eq_true, if_false]
          exact (apply_ite (Option.map _) _ _ _).symm
  termination_by tokens.length

theorem signature?_renumber (tokens : List Placed) :
    signature? (tokens.map (Placed.renumber places)) =
      (signature? tokens).map (Placed.renumber places) :=
  signatureFrom?_renumber places none 0 tokens

theorem classifyHeader_renumber
    (first : Placed)
    (header : List Placed) :
    classifyHeader profile (first.renumber places)
        (header.map (Placed.renumber places)) =
      classifyHeader profile first header := by
  have classes := @classKeyword?_renumber profile places none 0 header
  rw [Option.map_none] at classes
  unfold classifyHeader
  rw [classes, signature?_renumber]
  cases classKeyword? profile none 0 header with
  | none => cases signature? header <;> rfl
  | some found =>
      obtain ⟨before, keyword, after⟩ := found
      simp only [Option.map_some, Placed.renumber_text]
      have names :
          ([after.map (Placed.renumber places),
              before.map (Placed.renumber places)].filterMap id).find?
                (·.kind = .identifier) =
            (([after, before].filterMap id).find? (·.kind = .identifier)).map
              (Placed.renumber places) := by
        cases before <;> cases after <;>
          simp [List.find?_cons] <;> grind
      rw [names, Option.map_map]
      rfl

/-! ## Statements up to their bodies -/

theorem lineEnds_renumber
    (start current : Placed)
    (tokens : List Placed) :
    lineEnds (start.renumber places) (current.renumber places)
        (tokens.map (Placed.renumber places)) =
      lineEnds start current tokens := by
  cases tokens <;> rfl

theorem onwards_renumber
    (start current : Placed)
    (header : List Placed)
    (depth : Nat)
    (tokens : List Placed) :
    profile.onwards (start.renumber places) (current.renumber places)
        (header.map (Placed.renumber places)) depth
        (tokens.map (Placed.renumber places)) =
      (profile.onwards start current header depth tokens).renumber places := by
  induction tokens generalizing current header depth with
  | nil => rfl
  | cons token rest inductionHypothesis =>
      have ends := lineEnds_renumber places start current (token :: rest)
      have opens :
          opensBlock (current.renumber places)
              (header.map (Placed.renumber places)).reverse =
            opensBlock current header.reverse := by
        rw [← List.map_reverse]
        exact opensBlock_renumber places current header.reverse
      have classified :
          classifyHeader profile (start.renumber places)
              (header.map (Placed.renumber places)).reverse =
            classifyHeader profile start header.reverse := by
        rw [← List.map_reverse]
        exact classifyHeader_renumber places start header.reverse
      have sameToken : (token.renumber places).token = token.token := rfl
      rw [List.map_cons] at ends ⊢
      rw [Profile.onwards, Profile.onwards]
      simp only [ends, opens, classified, sameToken]
      split
      · rfl
      · split
        · rfl
        · split
          · rfl
          · split
            · rfl
            · exact inductionHypothesis token (token :: header) _

theorem groupEnd_renumber
    (opener : Placed)
    (depth : Nat)
    (tokens : List Placed) :
    groupEnd (opener.renumber places) depth (tokens.map (Placed.renumber places)) =
      (groupEnd opener depth tokens).map
        (Prod.map (Placed.renumber places) (List.map (Placed.renumber places))) := by
  induction tokens generalizing depth with
  | nil => rfl
  | cons token rest inductionHypothesis =>
      have sameToken : (token.renumber places).token = token.token := rfl
      rw [List.map_cons, groupEnd, groupEnd]
      simp only [sameToken, inductionHypothesis]
      split
      · rfl
      · split
        · split <;> rfl
        · rfl

theorem seekBrace_renumber
    (depth : Int)
    (tokens : List Placed) :
    seekBrace depth (tokens.map (Placed.renumber places)) =
      (seekBrace depth tokens).map (Placed.renumber places) := by
  induction tokens generalizing depth with
  | nil => rfl
  | cons token rest inductionHypothesis =>
      have sameToken : (token.renumber places).token = token.token := rfl
      rw [List.map_cons, seekBrace, seekBrace]
      simp only [sameToken, inductionHypothesis]
      split
      · rfl
      · split
        · rfl
        · split <;> rfl

theorem conditionEnd_renumber
    (keyword : String)
    (tokens : List Placed) :
    profile.conditionEnd keyword (tokens.map (Placed.renumber places)) =
      (profile.conditionEnd keyword tokens).map
        (List.map (Placed.renumber places)) := by
  unfold Profile.conditionEnd
  split
  · cases tokens with
    | nil => rfl
    | cons opener rest =>
        have sameMark (text : String) :
            (opener.renumber places).is text = opener.is text := rfl
        simp only [List.map_cons, sameMark, groupEnd_renumber]
        split
        · cases groupEnd opener 1 rest <;> rfl
        · rfl
  · split
    · rfl
    · rw [seekBrace_renumber]
      rfl

theorem keywordOf_renumber
    (first : Placed)
    (rest : List Placed) :
    keywordOf (first.renumber places) (rest.map (Placed.renumber places)) =
      Prod.map id (List.map (Placed.renumber places)) (keywordOf first rest) := by
  cases rest with
  | nil => rfl
  | cons second beyond =>
      have sameFirst (text : String) :
          (first.renumber places).reads text = first.reads text := rfl
      have sameSecond (text : String) :
          (second.renumber places).is text = second.is text := rfl
      simp only [List.map_cons, keywordOf, sameFirst, sameSecond]
      split
      · rfl
      · split <;> rfl

theorem controlStart_renumber
    (first : Placed)
    (keyword role : String)
    (tokens : List Placed) :
    profile.controlStart (first.renumber places) keyword role
        (tokens.map (Placed.renumber places)) =
      (profile.controlStart first keyword role tokens).map
        (Start.renumber places) := by
  cases tokens with
  | nil => rfl
  | cons opener after =>
      have sameMark (text : String) :
          (opener.renumber places).is text = opener.is text := rfl
      simp only [List.map_cons, Profile.controlStart, sameMark]
      split
      · rfl
      · split <;> rfl

/-- A statement starts in the same way under other indices. -/
theorem startOf_renumber
    (first : Placed)
    (rest : List Placed) :
    profile.startOf (first.renumber places) (rest.map (Placed.renumber places)) =
      (profile.startOf first rest).map (Start.renumber places) := by
  have sameKind : (first.renumber places).kind = first.kind := rfl
  have sameText : (first.renumber places).text = first.text := rfl
  have sameToken : (first.renumber places).token = first.token := rfl
  have sameMark (text : String) :
      (first.renumber places).is text = first.is text := rfl
  rw [Profile.startOf_eq, Profile.startOf_eq]
  simp only [sameKind, sameText, sameToken, sameMark]
  split
  · rw [keywordOf_renumber]
    unfold Profile.controlOf
    simp only [Prod.map_fst, Prod.map_snd, id_eq, conditionEnd_renumber]
    cases profile.conditionEnd (keywordOf first rest).1.1
        (keywordOf first rest).2 with
    | error fault => rfl
    | ok condition => exact controlStart_renumber places first _ _ condition
  · split
    · rfl
    · exact congrArg Except.ok (onwards_renumber places first first [first] _ rest)

/-! ## Ends of blocks -/

/-- A statement and what follows it, with the tokens under other indices. -/
def renumberRead
    (places : Nat → Nat)
    (read : Node × List Placed) :
    Node × List Placed :=
  (read.1.renumber places, read.2.map (Placed.renumber places))

theorem loopConditionEnd_renumber
    (keyword : Placed)
    (tokens : List Placed) :
    loopConditionEnd (keyword.renumber places)
        (tokens.map (Placed.renumber places)) =
      (loopConditionEnd keyword tokens).map
        (Prod.map (Placed.renumber places) (List.map (Placed.renumber places))) := by
  cases tokens with
  | nil => rfl
  | cons opener rest =>
      have sameMark (text : String) :
          (opener.renumber places).is text = opener.is text := rfl
      simp only [List.map_cons, loopConditionEnd, sameMark, groupEnd_renumber]
      split <;> rfl

theorem endingAfter_renumber
    (last : Placed)
    (tokens : List Placed) :
    endingAfter (last.renumber places) (tokens.map (Placed.renumber places)) =
      Prod.map (Placed.renumber places) (List.map (Placed.renumber places))
        (endingAfter last tokens) := by
  cases tokens with
  | nil => rfl
  | cons ending rest =>
      have sameMark (text : String) :
          (ending.renumber places).is text = ending.is text := rfl
      simp only [List.map_cons, endingAfter, sameMark]
      split <;> rfl

theorem loopEnd_renumber
    (last : Placed)
    (tokens : List Placed) :
    loopEnd (last.renumber places) (tokens.map (Placed.renumber places)) =
      (loopEnd last tokens).map
        (Prod.map (Placed.renumber places) (List.map (Placed.renumber places))) := by
  cases tokens with
  | nil => rfl
  | cons keyword rest =>
      have sameMark (text : String) :
          (keyword.renumber places).is text = keyword.is text := rfl
      simp only [List.map_cons, loopEnd, sameMark, loopConditionEnd_renumber]
      split
      · cases loopConditionEnd keyword rest with
        | error fault => rfl
        | ok found => exact congrArg Except.ok (endingAfter_renumber places _ _)
      · rfl

theorem closedOf_renumber
    (head : BlockHead)
    (body : List Node)
    (last : Placed)
    (tokens : List Placed) :
    closedOf (head.renumber places) (renumberAll places body)
        (last.renumber places) (tokens.map (Placed.renumber places)) =
      (closedOf head body last tokens).map (renumberRead places) := by
  have sameKeyword : (head.renumber places).keyword = head.keyword := rfl
  rw [closedOf_eq, closedOf_eq]
  simp only [sameKeyword, loopEnd_renumber]
  split
  · cases loopEnd last tokens <;> rfl
  · rfl

theorem enclosedOf_renumber
    (head : BlockHead)
    (body : List Node)
    (tokens : List Placed) :
    enclosedOf (head.renumber places) (renumberAll places body)
        (tokens.map (Placed.renumber places)) =
      (enclosedOf head body tokens).map (renumberRead places) := by
  cases tokens with
  | nil => rfl
  | cons closing beyond => exact closedOf_renumber places head body closing beyond

/-! ## Statements and bodies -/

/-- Statements and what follows them, with the tokens under other indices. -/
def renumberBody
    (places : Nat → Nat)
    (read : List Node × List Placed) :
    List Node × List Placed :=
  (renumberAll places read.1, read.2.map (Placed.renumber places))

mutual

/-- The statements of a body are the same under other indices. -/
theorem bodyOf_renumber
    (tokens : List Placed) :
    profile.bodyOf (tokens.map (Placed.renumber places)) =
      (profile.bodyOf tokens).map (renumberBody places) := by
  match tokens with
  | [] =>
      rw [List.map_nil, Profile.bodyOf_nil]
      rfl
  | token :: rest =>
      have sameMark (text : String) :
          (token.renumber places).is text = token.is text := rfl
      rw [List.map_cons, Profile.bodyOf_cons, Profile.bodyOf_cons]
      simp only [sameMark]
      split
      · rfl
      · split
        · exact bodyOf_renumber rest
        · rw [statementOf_renumber token rest]
          cases isRead : profile.statementOf token rest with
          | error fault => rfl
          | ok statement =>
              obtain ⟨node, after⟩ := statement
              have shorter := Profile.length_le_of_statementOf isRead
              change
                (profile.bodyOf (after.map (Placed.renumber places)) >>= _) =
                  Except.map _ (profile.bodyOf after >>= _)
              rw [bodyOf_renumber after]
              cases profile.bodyOf after <;> rfl
  termination_by (tokens.length, 1)

/-- A statement is the same under other indices. -/
theorem statementOf_renumber
    (first : Placed)
    (rest : List Placed) :
    profile.statementOf (first.renumber places)
        (rest.map (Placed.renumber places)) =
      (profile.statementOf first rest).map (renumberRead places) := by
  rw [Profile.statementOf_eq, Profile.statementOf_eq, startOf_renumber]
  cases starts : profile.startOf first rest with
  | error fault => rfl
  | ok start =>
      cases start with
      | simple last after => rfl
      | braced head after =>
          have shorter := Profile.length_le_of_startOf_braced starts
          change
            (profile.bodyOf (after.map (Placed.renumber places)) >>= _) =
              Except.map _ (profile.bodyOf after >>= _)
          rw [bodyOf_renumber after]
          cases profile.bodyOf after with
          | error fault => rfl
          | ok body => exact enclosedOf_renumber places head body.1 body.2
      | bare head after =>
          have shorter := Profile.length_lt_of_startOf_bare starts
          have sameMark :
              (head.renumber places).opener.is ";" = head.opener.is ";" :=
            rfl
          change
            profile.endOf (first.renumber places)
                (.bare (head.renumber places)
                  (after.map (Placed.renumber places))) =
              (profile.endOf first (.bare head after)).map (renumberRead places)
          rw [Profile.endOf, Profile.endOf]
          simp only [sameMark]
          split
          · exact
              closedOf_renumber places head [.simple head.opener head.opener]
                head.opener after
          · change
              (profile.statementOf (head.opener.renumber places)
                (after.map (Placed.renumber places)) >>= _) = _
            rw [statementOf_renumber head.opener after]
            cases profile.statementOf head.opener after with
            | error fault => rfl
            | ok body =>
                have closes :=
                  closedOf_renumber places head [body.1] body.1.last body.2
                rw [← Node.last_renumber] at closes
                exact closes
  termination_by (rest.length + 1, 0)

end

/-- A file between braces is the same under other indices. -/
theorem readBraces_renumber
    (tokens : List Placed) :
    readBraces profile (tokens.map (Placed.renumber places)) =
      (readBraces profile tokens).map (renumberAll places) := by
  rw [readBraces_eq, readBraces_eq, bodyOf_renumber]
  cases profile.bodyOf tokens with
  | error fault => rfl
  | ok body =>
      obtain ⟨nodes, rest⟩ := body
      cases rest <;> rfl

end Readers

end HouseStyle
