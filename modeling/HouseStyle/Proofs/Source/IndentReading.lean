import HouseStyle.Source.Indent

namespace HouseStyle

/-!
# Readings of statements by indentation

`ReadsLine` and `ReadsSuite` list the ways in which a logical line and a suite
are read without a fault. What a successful run of the readers returns is read
in one of these ways. The readers collect statements in reverse, while a
reading has them in order.
-/

/-- What is known of the block that a header line opens. -/
def SuiteHeader.blockHead
    (profile : Profile)
    (start : LogicalLine)
    (header : SuiteHeader) :
    BlockHead where
  kind := header.kind
  keyword := header.keyword.text
  name := header.name
  first := start.first
  opener := header.colon
  delimited := true
  continues := profile.continuationKeywords.contains header.keyword.text

mutual

/--
`ReadsLine profile start rest nodes last after`: the line `start`, with the
lines it decorates and the suite below it, holds the statements `nodes`, ends
with the token `last`, and leaves the lines `after`.
-/
inductive ReadsLine (profile : Profile) :
    LogicalLine → List LogicalLine → List Node → Placed →
      List LogicalLine → Prop where
  | simple
      {start line : LogicalLine}
      {rest after : List LogicalLine}
      (undecorated : undecorate start start rest = .ok (line, after))
      (noHeader : suiteHeader? profile line = none)
      (noMark : start.first.reads "@" = false) :
      ReadsLine
        profile start rest (simpleStatements line.tokens) line.last after
  | inline
      {start line : LogicalLine}
      {header : SuiteHeader}
      {rest after : List LogicalLine}
      (undecorated : undecorate start start rest = .ok (line, after))
      (isHeader : suiteHeader? profile line = some header)
      (goesOn : header.inside ≠ []) :
      ReadsLine
        profile start rest
        [.block
          (header.blockHead profile start)
          (simpleStatements header.inside)
          line.last]
        line.last after
  | suite
      {start line next : LogicalLine}
      {header : SuiteHeader}
      {rest beyond after : List LogicalLine}
      {nodes : List Node}
      {last : Placed}
      (undecorated : undecorate start start rest = .ok (line, next :: beyond))
      (isHeader : suiteHeader? profile line = some header)
      (ends : header.inside = [])
      (deeper : line.indent < next.indent)
      (body : ReadsSuite profile next.indent next beyond nodes last after) :
      ReadsLine
        profile start rest
        [.block (header.blockHead profile start) nodes last]
        last after

/--
`ReadsSuite profile indent line rest nodes last after`: the lines from `line`
on, as far as they stand at `indent` or deeper, hold the statements `nodes` and
end with the token `last`.
-/
inductive ReadsSuite (profile : Profile) :
    Nat → LogicalLine → List LogicalLine → List Node → Placed →
      List LogicalLine → Prop where
  | atEnd
      {indent : Nat}
      {line : LogicalLine}
      {rest : List LogicalLine}
      {nodes : List Node}
      {last : Placed}
      (read : ReadsLine profile line rest nodes last []) :
      ReadsSuite profile indent line rest nodes last []
  | dedent
      {indent : Nat}
      {line next : LogicalLine}
      {rest beyond : List LogicalLine}
      {nodes : List Node}
      {last : Placed}
      (read : ReadsLine profile line rest nodes last (next :: beyond))
      (shallower : next.indent < indent) :
      ReadsSuite profile indent line rest nodes last (next :: beyond)
  | next
      {indent : Nat}
      {line next : LogicalLine}
      {rest beyond after : List LogicalLine}
      {nodes more : List Node}
      {last final : Placed}
      (read : ReadsLine profile line rest nodes last (next :: beyond))
      (level : next.indent = indent)
      (others : ReadsSuite profile indent next beyond more final after) :
      ReadsSuite profile indent line rest (nodes ++ more) final after

end

mutual

/-- What `readSuite` returns is read as `ReadsSuite` says. -/
theorem ReadsSuite.of_readSuite
    {profile : Profile}
    {indent bound : Nat}
    {reversed : List Node}
    {line : LogicalLine}
    {rest : List LogicalLine}
    {bounded : rest.length ≤ bound}
    {reading : SuiteReading bound}
    (read :
      readSuite profile indent reversed bound line rest bounded =
        .ok reading) :
    ∃ nodes,
      reading.reversed = nodes.reverse ++ reversed ∧
        ReadsSuite
          profile indent line rest nodes reading.last reading.rest := by
  rw [readSuite] at read
  split at read
  · cases read
  · next lineReading readFirst =>
      obtain ⟨nodes, value, first⟩ := ReadsLine.of_readLine readFirst
      dsimp only at read
      split at read
      · next same =>
          cases read
          rw [same] at first
          exact ⟨nodes, value, .atEnd first⟩
      · next next beyond same =>
          rw [same] at first
          have shorter : beyond.length < rest.length := by
            have bounded := lineReading.bounded
            simp only [same, List.length_cons] at bounded
            omega
          split at read
          · next shallower =>
              cases read
              exact ⟨nodes, value, .dedent first shallower⟩
          · next notShallower =>
              split at read
              · cases read
              · next notDeeper =>
                  obtain ⟨more, moreValue, others⟩ :=
                    ReadsSuite.of_readSuite read
                  refine ⟨nodes ++ more, ?_, .next first (by omega) others⟩
                  rw [moreValue, value]
                  simp
  termination_by (rest.length, 1)

/-- What `readLine` returns is read as `ReadsLine` says. -/
theorem ReadsLine.of_readLine
    {profile : Profile}
    {start : LogicalLine}
    {reversed : List Node}
    {rest : List LogicalLine}
    {reading : SuiteReading rest.length}
    (read : readLine profile start reversed rest = .ok reading) :
    ∃ nodes,
      reading.reversed = nodes.reverse ++ reversed ∧
        ReadsLine profile start rest nodes reading.last reading.rest := by
  rw [readLine] at read
  split at read
  · cases read
  · next line after undecorated =>
      dsimp only at read
      split at read
      · next noHeader =>
          split at read
          · cases read
          · next noMark =>
              cases read
              exact
                ⟨simpleStatements line.tokens, rfl,
                  .simple undecorated noHeader (by simpa using noMark)⟩
      · next header isHeader =>
          split at read
          · next goesOn =>
              cases read
              exact ⟨_, rfl, .inline undecorated isHeader goesOn⟩
          · next ends =>
              split at read
              · cases read
              · next next beyond _ _ =>
                  have shorter : beyond.length < rest.length :=
                    length_of_undecorate undecorated
                  split at read
                  · cases read
                  · next deeper =>
                      split at read
                      · cases read
                      · next suite readInside =>
                          cases read
                          obtain ⟨nodes, value, body⟩ :=
                            ReadsSuite.of_readSuite readInside
                          rw [List.append_nil] at value
                          rw [value, List.reverse_reverse]
                          exact
                            ⟨_, rfl,
                              .suite undecorated isHeader
                                (by simpa using ends)
                                (by omega) body⟩
  termination_by (rest.length, 0)

end

end HouseStyle
