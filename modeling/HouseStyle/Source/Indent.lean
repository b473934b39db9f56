import HouseStyle.Language.Profile
import HouseStyle.Source.Fault
import HouseStyle.Source.LogicalLine

namespace HouseStyle

/-!
# Statements by indentation

Reads logical lines into a forest of statements. A line that starts with a
definition or control keyword and holds a colon outside all brackets is a
header: what follows the colon on the line, or the deeper lines below it, are
its body. All other lines are split at their semicolons.
-/

/-- The keywords that define a name, and the role of their blocks. -/
def definitionKeywords : List (String × BlockKind) :=
  [("def", .method), ("class", .type)]

/-- The role of the block that a header keyword opens. -/
def suiteKind?
    (profile : Profile)
    (keyword : String) :
    Option BlockKind :=
  definitionKeywords.lookup keyword <|> profile.control? keyword

/-- The code tokens from the first token on, after an `async` in front. -/
def headerTokens (line : LogicalLine) : List Placed :=
  if line.first.reads "async" && !line.others.isEmpty then
    line.others.dropWhile (!·.token.isCode)
  else
    line.tokens

/-- The first colon outside all brackets, and the tokens behind it. -/
def splitAtColon (depth : Int) :
    List Placed →
    Option (Placed × List Placed)
  | [] => none
  | placed :: rest =>
      if placed.token.opensBracket then
        splitAtColon (depth + 1) rest
      else if placed.token.closesBracket then
        splitAtColon (depth - 1) rest
      else if depth = 0 ∧ placed.kind = .operator ∧ placed.reads ":" then
        some (placed, rest)
      else
        splitAtColon depth rest

/-- The parts of a header line. -/
structure SuiteHeader where
  kind : BlockKind
  keyword : Placed
  name : String
  colon : Placed
  /-- The tokens of the line behind the colon. -/
  inside : List Placed
  deriving Repr

/--
Read a line as a header. A keyword that is also an ordinary name counts only
when the colon ends the line.
-/
def suiteHeader?
    (profile : Profile)
    (line : LogicalLine) :
    Option SuiteHeader :=
  match headerTokens line with
  | [] => none
  | keyword :: rest => do
      let kind ← suiteKind? profile keyword.text
      let (colon, inside) ← splitAtColon 0 (keyword :: rest)
      if keyword.kind = .identifier ∧ inside ≠ [] then
        none
      else
        let name :=
          if (definitionKeywords.lookup keyword.text).isSome then
            (rest.head?.map Placed.text).getD ""
          else
            ""
        some { kind, keyword, name, colon, inside }

/--
Split tokens into simple statements at the semicolons outside all brackets.
`pending` holds the open statement in reverse; one that a semicolon ends keeps
the semicolon, and a semicolon alone is no statement.
-/
def splitSimple
    (depth : Int)
    (pending : List Placed)
    (found : List Node) :
    List Placed →
    List Node
  | [] =>
      let code := pending.reverse.filter (·.token.isCode)
      match code.head?, code.getLast? with
      | some first, some last => (Node.simple first last :: found).reverse
      | _, _ => found.reverse
  | placed :: rest =>
      if placed.token.opensBracket then
        splitSimple (depth + 1) (placed :: pending) found rest
      else if placed.token.closesBracket then
        splitSimple (depth - 1) (placed :: pending) found rest
      else if depth = 0 ∧ placed.token.isDelimiter ";" then
        match pending.getLast? with
        | none => splitSimple depth [] found rest
        | some first =>
            splitSimple depth [] (Node.simple first placed :: found) rest
      else
        splitSimple depth (placed :: pending) found rest

/-- The simple statements among tokens. -/
def simpleStatements (tokens : List Placed) : List Node :=
  splitSimple 0 [] [] tokens

/--
Look over the decorator lines that start with `line`: the line they decorate,
which stands at the indent of the first one, and the lines after it.
-/
def undecorate
    (start line : LogicalLine)
    (rest : List LogicalLine) :
    Except Fault (LogicalLine × List LogicalLine) :=
  if line.first.reads "@" then
    match rest with
    | [] =>
        .error
          { cause := .strayDecorator, line := start.first.token.start.line }
    | next :: beyond =>
        if next.indent = start.indent then
          undecorate start next beyond
        else
          .error
            { cause := .strayDecorator, line := start.first.token.start.line }
  else
    .ok (line, rest)
  termination_by structural rest

/-- Looking over decorators never lengthens the list. -/
theorem length_of_undecorate
    {start line decorated : LogicalLine}
    {rest after : List LogicalLine}
    (same : undecorate start line rest = .ok (decorated, after)) :
    after.length ≤ rest.length := by
  fun_induction undecorate start line rest with
  | case1 => simp at same
  | case2 line next beyond _ _ inductionHypothesis =>
      exact Nat.le_succ_of_le (inductionHypothesis same)
  | case3 => simp at same
  | case4 =>
      simp only [Except.ok.injEq, Prod.mk.injEq] at same
      simp [same.2]

/-- What a line, or the lines of a suite, contribute to a body. -/
structure SuiteReading (bound : Nat) where
  /-- The statements of the body so far, in reverse. -/
  reversed : List Node
  /-- The last token of the last line read. -/
  last : Placed
  rest : List LogicalLine
  bounded : rest.length ≤ bound

mutual

/--
Read the lines of one suite. `line` is the next of them, and `reversed` holds
the statements before it.
-/
def readSuite
    (profile : Profile)
    (indent : Nat)
    (reversed : List Node)
    (bound : Nat)
    (line : LogicalLine)
    (rest : List LogicalLine)
    (bounded : rest.length ≤ bound) :
    Except Fault (SuiteReading bound) :=
  match readLine profile line reversed rest with
  | .error fault => .error fault
  | .ok reading =>
      have readingBounded := Nat.le_trans reading.bounded bounded
      match same : reading.rest with
      | [] =>
          .ok
            { reversed := reading.reversed
              last := reading.last
              rest := []
              bounded := Nat.zero_le _ }
      | next :: beyond =>
          have nextBounded : (next :: beyond).length ≤ bound :=
            same ▸ readingBounded
          have shorter : beyond.length < rest.length := by
            have readingShorter := reading.bounded
            simp only [same, List.length_cons] at readingShorter
            omega
          if next.indent < indent then
            .ok
              { reversed := reading.reversed
                last := reading.last
                rest := next :: beyond
                bounded := nextBounded }
          else if indent < next.indent then
            .error
              { cause := .inconsistentIndent
                line := next.first.token.start.line }
          else
            readSuite
              profile
              indent
              reading.reversed
              bound
              next
              beyond
              (Nat.le_of_succ_le nextBounded)
  termination_by 2 * rest.length + 1

/-- Read one line with the decorators before it and the suite below it. -/
def readLine
    (profile : Profile)
    (start : LogicalLine)
    (reversed : List Node)
    (rest : List LogicalLine) :
    Except Fault (SuiteReading rest.length) :=
  match sameLine : undecorate start start rest with
  | .error fault => .error fault
  | .ok (line, after) =>
      have afterBounded : after.length ≤ rest.length :=
        length_of_undecorate sameLine
      match suiteHeader? profile line with
      | none =>
          if start.first.reads "@" then
            .error
              { cause := .strayDecorator
                line := start.first.token.start.line }
          else
            .ok
              { reversed := (simpleStatements line.tokens).reverse ++ reversed
                last := line.last
                rest := after
                bounded := afterBounded }
      | some header =>
          let head : BlockHead :=
            { kind := header.kind
              keyword := header.keyword.text
              name := header.name
              first := start.first
              opener := header.colon
              delimited := true
              continues :=
                profile.continuationKeywords.contains header.keyword.text }
          if header.inside ≠ [] then
            .ok
              { reversed :=
                  .block head (simpleStatements header.inside) line.last ::
                    reversed
                last := line.last
                rest := after
                bounded := afterBounded }
          else
            let missing : Fault :=
              { cause := .missingSuite
                line := header.keyword.token.start.line }
            match after with
            | [] => .error missing
            | next :: beyond =>
                have nextBounded : beyond.length + 1 ≤ rest.length :=
                  afterBounded
                if next.indent ≤ line.indent then
                  .error missing
                else
                  match
                    readSuite
                      profile next.indent [] beyond.length next beyond
                      (Nat.le_refl _)
                  with
                  | .error fault => .error fault
                  | .ok suite =>
                      .ok
                        { reversed :=
                            .block head suite.reversed.reverse suite.last ::
                              reversed
                          last := suite.last
                          rest := suite.rest
                          bounded := by
                            have suiteBounded := suite.bounded
                            omega }
  termination_by 2 * rest.length

end

/-- The statements of a file in a language with indentation. -/
def readIndented
    (profile : Profile)
    (lines : List LogicalLine) :
    Except Fault (List Node) :=
  match lines with
  | [] => .ok []
  | line :: rest =>
      if line.indent = 0 then
        match readSuite profile 0 [] _ line rest (Nat.le_refl _) with
        | .error fault => .error fault
        | .ok suite => .ok suite.reversed.reverse
      else
        .error
          { cause := .unexpectedIndent, line := line.first.token.start.line }

end HouseStyle
