import HouseStyle.Language.Profile
import HouseStyle.Source.Fault
import HouseStyle.Source.Signature

namespace HouseStyle

/-!
# Statements between braces

Splits the code tokens of a language with braces into a forest of statements. A
statement ends at a semicolon, at the closing brace around it or, where the
language says so, at the end of its line. A brace opens a block unless the
tokens before it make it part of an expression. A control keyword without a
brace takes the one statement that follows as its body.

Every reading takes at least the first token it is given, so the recursion ends
with the tokens.
-/

/-- Something read from the head of a list, with what is left of the list. -/
structure Reading (α : Type) (bound : Nat) where
  value : α
  rest : List Placed
  bounded : rest.length ≤ bound

/-- How a statement starts, as far as it can be read without its body. -/
inductive Opening (bound : Nat)
  /-- No block: `last` ends the statement. -/
  | simple
      (last : Placed)
      (after : List Placed)
      (bounded : after.length ≤ bound)
  /-- A block whose body starts behind the brace `head.opener`. -/
  | braced
      (head : BlockHead)
      (after : List Placed)
      (bounded : after.length ≤ bound)
  /-- A block whose body is the statement that starts with `head.opener`. -/
  | bare
      (head : BlockHead)
      (after : List Placed)
      (shorter : after.length < bound)

/-- Operators that assign. -/
def assignments : List String :=
  ["=", ":=", "+=", "-=", "*=", "/=", "%=", "&=", "|=", "^=", "<<=", ">>=",
    ">>>=", "**=", "//=", "??="]

/-- Operators after which a brace still opens a block. -/
def typeOperators : List String :=
  [">", "*", "?"]

/-- Keywords after which a brace starts an expression. -/
def expressionKeywords : List String :=
  ["return", "throw", "yield", "case", "in", "of", "new", "await", "typeof"]

/-- Delimiters that leave a statement open across a line break. -/
def continuingDelimiters : List String :=
  [",", "(", "["]

/-- Whether a brace directly after this token is part of an expression. -/
def expectsOperand (previous : Placed) : Bool :=
  match previous.kind with
  | .operator => !typeOperators.contains previous.text
  | .delimiter => continuingDelimiters.contains previous.text
  | .keyword => expressionKeywords.contains previous.text
  | _ => false

/--
Whether the tokens of a header hold, outside all brackets, an assignment or a
keyword that makes a following brace part of an expression.
-/
def holdsExpression (depth : Int) : List Placed → Bool
  | [] => false
  | token :: rest =>
      if token.token.opensBracket then
        holdsExpression (depth + 1) rest
      else if token.token.closesBracket then
        holdsExpression (depth - 1) rest
      else if depth = 0 ∧
          ((token.kind = .operator ∧ token.text ∈ assignments) ∨
            (token.kind = .keyword ∧ token.text ∈ expressionKeywords)) then
        true
      else
        holdsExpression depth rest

/-- Whether a brace after `previous` and the whole `header` opens a block. -/
def opensBlock
    (previous : Placed)
    (header : List Placed) :
    Bool :=
  !expectsOperand previous && !holdsExpression 0 header

/--
The first keyword of a type definition outside parentheses and brackets, with
the tokens before and after it.
-/
def classKeyword?
    (profile : Profile)
    (previous : Option Placed)
    (depth : Int) :
    List Placed →
    Option (Option Placed × Placed × Option Placed)
  | [] => none
  | token :: rest =>
      if token.token.isDelimiter "(" || token.token.isDelimiter "[" then
        classKeyword? profile (some token) (depth + 1) rest
      else if token.token.isDelimiter ")" || token.token.isDelimiter "]" then
        classKeyword? profile (some token) (depth - 1) rest
      else if depth = 0 ∧ token.kind = .keyword ∧
          token.text ∈ profile.classKeywords then
        some (previous, token, rest.head?)
      else
        classKeyword? profile (some token) depth rest

/-- The role, keyword and name that a header gives the block it opens. -/
def classifyHeader
    (profile : Profile)
    (first : Placed)
    (header : List Placed) :
    BlockKind × String × String :=
  match classKeyword? profile none 0 header with
  | some (before, keyword, after) =>
      let named :=
        [after, before].filterMap id |>.find? (·.kind = .identifier)
      (.type, keyword.text, (named.map Placed.text).getD "")
  | none =>
      match signature? header with
      | some name => (.method, "", name.text)
      | none =>
          (.other, if first.kind = .keyword then first.text else "", "")

/-- Whether a line break between two tokens ends the statement. -/
def lineEnds (start current : Placed) : List Placed → Bool
  | [] => false
  | following :: _ =>
      !start.reads "@" &&
        following.token.start.line != current.token.stop.line &&
        !(current.kind == .operator &&
          !(["++", "--"].contains current.text)) &&
        !(current.kind == .delimiter &&
          continuingDelimiters.contains current.text) &&
        !(following.kind == .operator &&
          !(["++", "--", "!"].contains following.text)) &&
        !following.reads "\x7b"

/--
Read on in a statement that started with `start`. `header` holds its tokens so
far in reverse, `current` is the last of them, and `depth` counts the brackets
still open.
-/
def readOn
    (profile : Profile)
    (start current : Placed)
    (header : List Placed)
    (depth : Nat)
    (bound : Nat)
    (tokens : List Placed)
    (bounded : tokens.length ≤ bound) :
    Opening bound :=
  if depth = 0 ∧ profile.newlineTerminates ∧ lineEnds start current tokens then
    .simple current tokens bounded
  else
    match tokens with
    | [] => .simple current [] (Nat.zero_le _)
    | token :: rest =>
        have restBounded : rest.length ≤ bound := Nat.le_of_succ_le bounded
        let inside :=
          if token.token.opensBracket then
            depth + 1
          else if token.token.closesBracket then
            depth - 1
          else
            depth
        if depth = 0 ∧ token.token.isDelimiter "\x7b" ∧
            opensBlock current header.reverse then
          let (kind, keyword, name) :=
            classifyHeader profile start header.reverse
          .braced
            { kind
              keyword
              name
              first := start
              opener := token
              delimited := true
              continues := false }
            rest
            restBounded
        else if depth = 0 ∧ token.token.isDelimiter "\x7d" then
          .simple current (token :: rest) bounded
        else if depth = 0 ∧ token.token.isDelimiter ";" then
          .simple token rest restBounded
        else
          readOn
            profile start token (token :: header) inside bound rest restBounded
  termination_by structural tokens

/-- Skip a bracketed group of which `depth` brackets are open. -/
def skipGroup
    (opener : Placed)
    (depth : Nat)
    (bound : Nat)
    (tokens : List Placed)
    (bounded : tokens.length ≤ bound) :
    Except Fault (Reading Placed bound) :=
  match tokens with
  | [] =>
      .error
        { cause := .unbalancedParenthesis
          line := opener.token.start.line }
  | token :: rest =>
      have restBounded : rest.length ≤ bound := Nat.le_of_succ_le bounded
      if token.token.opensBracket then
        skipGroup opener (depth + 1) bound rest restBounded
      else if token.token.closesBracket then
        if depth = 1 then
          .ok { value := token, rest, bounded := restBounded }
        else
          skipGroup opener (depth - 1) bound rest restBounded
      else
        skipGroup opener depth bound rest restBounded
  termination_by structural tokens

/-- Drop tokens up to the first brace outside all brackets. -/
def seekBrace (depth : Int) : List Placed → List Placed
  | [] => []
  | token :: rest =>
      if depth = 0 ∧ token.token.isDelimiter "\x7b" then
        token :: rest
      else if token.token.opensBracket then
        seekBrace (depth + 1) rest
      else if token.token.closesBracket then
        seekBrace (depth - 1) rest
      else
        seekBrace depth rest

theorem length_seekBrace_le
    (depth : Int)
    (tokens : List Placed) :
    (seekBrace depth tokens).length ≤ tokens.length := by
  fun_induction seekBrace depth tokens <;> simp_all <;> omega

/-- Skip the condition of a control statement. -/
def skipCondition
    (profile : Profile)
    (keyword : String)
    (tokens : List Placed) :
    Except Fault (Reading Unit tokens.length) :=
  if profile.parenConditions then
    match tokens with
    | [] => .ok { value := (), rest := [], bounded := Nat.le_refl _ }
    | opener :: rest =>
        if opener.is "(" then
          match skipGroup opener 1 (rest.length + 1) rest (Nat.le_succ _) with
          | .error fault => .error fault
          | .ok group =>
              .ok { value := (), rest := group.rest, bounded := group.bounded }
        else
          .ok { value := (), rest := opener :: rest, bounded := Nat.le_refl _ }
  else if keyword = "else" then
    .ok { value := (), rest := tokens, bounded := Nat.le_refl _ }
  else
    .ok
      { value := ()
        rest := seekBrace 0 tokens
        bounded := length_seekBrace_le 0 tokens }

/--
The keyword of a control statement as it is shown, and the part of it that
decides the block's role: `else if` is one keyword with the role of `if`.
-/
def readKeyword
    (first : Placed)
    (rest : List Placed) :
    Reading (String × String) rest.length :=
  match rest with
  | [] =>
      { value := (first.text, first.text)
        rest := []
        bounded := Nat.le_refl _ }
  | second :: beyond =>
      if first.reads "else" && second.is "if" then
        { value := ("else if", "if")
          rest := beyond
          bounded := Nat.le_succ _ }
      else if first.reads "for" && second.is "await" then
        { value := (first.text, first.text)
          rest := beyond
          bounded := Nat.le_succ _ }
      else
        { value := (first.text, first.text)
          rest := second :: beyond
          bounded := Nat.le_refl _ }

/-- Read a control statement up to its body. -/
def readControl
    (profile : Profile)
    (first : Placed)
    (rest : List Placed) :
    Except Fault (Opening rest.length) :=
  let reading := readKeyword first rest
  let (keyword, role) := reading.value
  let missing : Fault :=
    { cause := .missingBody keyword, line := first.token.start.line }
  match skipCondition profile keyword reading.rest with
  | .error fault => .error fault
  | .ok condition =>
      have bounded : condition.rest.length ≤ rest.length :=
        Nat.le_trans condition.bounded reading.bounded
      match same : condition.rest with
      | [] => .error missing
      | opener :: after =>
          have shorter : after.length < rest.length := by
            simp only [same, List.length_cons] at bounded
            omega
          let head : BlockHead :=
            { kind := (profile.control? role).getD .other
              keyword
              name := ""
              first
              opener
              delimited := opener.is "\x7b"
              continues := profile.continuationKeywords.contains first.text }
          if opener.is "\x7d" then
            .error missing
          else if head.delimited then
            .ok (.braced head after (Nat.le_of_lt shorter))
          else
            .ok (.bare head after shorter)

/-- Read a statement up to the body it may have. -/
def readOpening
    (profile : Profile)
    (first : Placed)
    (rest : List Placed) :
    Except Fault (Opening rest.length) :=
  if first.kind = .keyword ∧ (profile.control? first.text).isSome then
    readControl profile first rest
  else if first.is "\x7b" then
    .ok
      (.braced
        { kind := .other
          keyword := ""
          name := ""
          first
          opener := first
          delimited := true
          continues := false }
        rest
        (Nat.le_refl _))
  else
    let depth := if first.token.opensBracket then 1 else 0
    .ok (readOn profile first first [first] depth _ rest (Nat.le_refl _))

/-- The parenthesised condition behind `keyword`, if one follows: its end. -/
def readLoopCondition
    (keyword : Placed)
    (tokens : List Placed) :
    Except Fault (Reading Placed tokens.length) :=
  match tokens with
  | [] => .ok { value := keyword, rest := [], bounded := Nat.le_refl _ }
  | opener :: rest =>
      if opener.is "(" then
        skipGroup opener 1 _ rest (Nat.le_succ _)
      else
        .ok
          { value := keyword
            rest := opener :: rest
            bounded := Nat.le_refl _ }

/-- A semicolon that may end a statement so far ended by `last`. -/
def readEnding
    (last : Placed)
    (tokens : List Placed) :
    Reading Placed tokens.length :=
  match tokens with
  | [] => { value := last, rest := [], bounded := Nat.le_refl _ }
  | ending :: rest =>
      if ending.is ";" then
        { value := ending, rest, bounded := Nat.le_succ _ }
      else
        { value := last, rest := ending :: rest, bounded := Nat.le_refl _ }

/-- The `while` clause behind the body of a `do` block: its last token. -/
def readLoopTail
    (last : Placed)
    (tokens : List Placed) :
    Except Fault (Reading Placed tokens.length) :=
  match tokens with
  | [] => .ok { value := last, rest := [], bounded := Nat.le_refl _ }
  | keyword :: rest =>
      if keyword.is "while" then
        match readLoopCondition keyword rest with
        | .error fault => .error fault
        | .ok condition =>
            let ending := readEnding condition.value condition.rest
            .ok
              { ending with
                bounded :=
                  Nat.le_succ_of_le
                    (Nat.le_trans ending.bounded condition.bounded) }
      else
        .ok { value := last, rest := keyword :: rest, bounded := Nat.le_refl _ }

/-- End a block whose body ends with `last`. -/
def closeBlock
    (head : BlockHead)
    (body : List Node)
    (last : Placed)
    (tokens : List Placed) :
    Except Fault (Reading Node tokens.length) :=
  if head.keyword = "do" then
    match readLoopTail last tokens with
    | .error fault => .error fault
    | .ok tail => .ok { tail with value := .block head body tail.value }
  else
    .ok
      { value := .block head body last
        rest := tokens
        bounded := Nat.le_refl _ }

mutual

/--
The statements up to the closing brace around them or the end of the file,
after those in `reversed`.
-/
def readBody
    (profile : Profile)
    (reversed : List Node)
    (bound : Nat)
    (tokens : List Placed)
    (bounded : tokens.length ≤ bound) :
    Except Fault (Reading (List Node) bound) :=
  match tokens with
  | [] =>
      .ok { value := reversed.reverse, rest := [], bounded := Nat.zero_le _ }
  | token :: rest =>
      if token.is "\x7d" then
        .ok { value := reversed.reverse, rest := token :: rest, bounded }
      else if token.is ";" then
        readBody profile reversed bound rest (Nat.le_of_succ_le bounded)
      else
        match readStatement profile token rest with
        | .error fault => .error fault
        | .ok statement =>
            have shorter := statement.bounded
            readBody
              profile
              (statement.value :: reversed)
              bound
              statement.rest
              (Nat.le_trans shorter (Nat.le_of_succ_le bounded))
  termination_by 2 * tokens.length
  decreasing_by
    all_goals
      simp only [List.length_cons]
      omega

/-- The statement that starts with `first`. -/
def readStatement
    (profile : Profile)
    (first : Placed)
    (rest : List Placed) :
    Except Fault (Reading Node rest.length) :=
  match readOpening profile first rest with
  | .error fault => .error fault
  | .ok (.simple last after bounded) =>
      .ok { value := .simple first last, rest := after, bounded }
  | .ok (.braced head after bounded) =>
      match readBody profile [] rest.length after bounded with
      | .error fault => .error fault
      | .ok body =>
          have bodyBounded := body.bounded
          match same : body.rest with
          | [] =>
              .error
                { cause := .unclosedBlock
                  line := head.first.token.start.line }
          | closing :: beyond =>
              match closeBlock head body.value closing beyond with
              | .error fault => .error fault
              | .ok closed =>
                  have closedBounded := closed.bounded
                  .ok
                    { closed with
                      bounded := by
                        simp only [same, List.length_cons] at bodyBounded
                        omega }
  | .ok (.bare head after shorter) =>
      if head.opener.is ";" then
        match
          closeBlock head [.simple head.opener head.opener] head.opener after
        with
        | .error fault => .error fault
        | .ok closed =>
            .ok
              { closed with
                bounded := Nat.le_trans closed.bounded (Nat.le_of_lt shorter) }
      else
        match readStatement profile head.opener after with
        | .error fault => .error fault
        | .ok body =>
            match closeBlock head [body.value] body.value.last body.rest with
            | .error fault => .error fault
            | .ok closed =>
                .ok
                  { closed with
                    bounded :=
                      Nat.le_trans closed.bounded
                        (Nat.le_trans body.bounded (Nat.le_of_lt shorter)) }
  termination_by 2 * rest.length + 1
  decreasing_by
    all_goals omega

end

/-- The statements of a file in a language with braces. -/
def readBraces
    (profile : Profile)
    (tokens : List Placed) :
    Except Fault (List Node) :=
  match readBody profile [] _ tokens (Nat.le_refl _) with
  | .error fault => .error fault
  | .ok body =>
      match body.rest with
      | [] => .ok body.value
      | closing :: _ =>
          .error
            { cause := .unmatchedBrace, line := closing.token.start.line }

end HouseStyle
