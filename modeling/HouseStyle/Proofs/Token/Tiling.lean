import HouseStyle.Proofs.Text.Offset
import HouseStyle.Proofs.Token.Fitting
import HouseStyle.Token.Lexer
import Mathlib.Data.List.TakeWhile

namespace HouseStyle

/-!
# Tokens tile their text

The tokens of a text stand one after the other, at increasing offsets, each
spelled by the characters it stands at, and between them there are only gaps.
The place of a token is that of its first and last offset, and the physical
lines of the text show its first character there.
-/

/-- White space, and backslashes that stand directly before a line break. -/
inductive IsGap : List Char → Prop where
  | nil : IsGap []
  | separator
      {character : Char}
      {rest : List Char}
      (separates : isSeparator character = true)
      (isGap : IsGap rest) :
      IsGap (character :: rest)
  | lineFeed
      {rest : List Char}
      (isGap : IsGap rest) :
      IsGap ('\\' :: '\n' :: rest)
  | carriageReturn
      {rest : List Char}
      (isGap : IsGap rest) :
      IsGap ('\\' :: '\r' :: '\n' :: rest)

/-- Two gaps side by side are one. -/
theorem IsGap.append
    {front back : List Char}
    (isGap : IsGap front)
    (isGapToo : IsGap back) :
    IsGap (front ++ back) := by
  induction isGap with
  | nil =>
      exact isGapToo
  | separator separates _ inductionHypothesis =>
      exact .separator separates inductionHypothesis
  | lineFeed _ inductionHypothesis =>
      exact .lineFeed inductionHypothesis
  | carriageReturn _ inductionHypothesis =>
      exact .carriageReturn inductionHypothesis

/-- The gap at the head of a text is all of the gap there. -/
theorem gapLength_spec
    (count : Nat)
    (text : List Char) :
    ∃ gap,
      gapLength count text = count + gap ∧
        gap ≤ text.length ∧
        IsGap (text.take gap) ∧
        (gap = 0 → ∀ first ∈ text.head?, isSeparator first = false) := by
  fun_induction gapLength count text with
  | case1 count rest inductionHypothesis =>
      obtain ⟨gap, measured, inText, isGap, _⟩ := inductionHypothesis
      refine ⟨gap + 2, by omega, by simpa using inText, ?_, by simp⟩
      exact .lineFeed isGap
  | case2 count rest inductionHypothesis =>
      obtain ⟨gap, measured, inText, isGap, _⟩ := inductionHypothesis
      refine ⟨gap + 3, by omega, by simpa using inText, ?_, by simp⟩
      exact .carriageReturn isGap
  | case3 count character rest _ _ separates inductionHypothesis =>
      obtain ⟨gap, measured, inText, isGap, _⟩ := inductionHypothesis
      refine ⟨gap + 1, by omega, by simpa using inText, ?_, by simp⟩
      exact .separator separates isGap
  | case4 count character rest _ _ noSeparator =>
      refine ⟨0, rfl, Nat.zero_le _, .nil, ?_⟩
      intro _ first isFirst
      cases isFirst
      simpa using noSeparator
  | case5 count =>
      exact ⟨0, rfl, Nat.le_refl _, .nil, by simp⟩

/-- The characters from one offset up to another. -/
def slice
    (text : List Char)
    (start stop : Nat) :
    List Char :=
  (text.drop start).take (stop - start)

theorem slice_append_right
    (passed text : List Char)
    (count : Nat) :
    slice (passed ++ text) passed.length (passed.length + count) =
      text.take count := by
  simp [slice]

theorem slice_append_drop
    (text : List Char)
    {start middle : Nat}
    (inOrder : start ≤ middle) :
    slice text start middle ++ text.drop middle = text.drop start := by
  have behind : text.drop middle = (text.drop start).drop (middle - start) := by
    rw [List.drop_drop, Nat.add_sub_cancel' inOrder]
  rw [slice, behind, List.take_append_drop]

/-- Two slices side by side are one. -/
theorem slice_append_slice
    (text : List Char)
    {start middle stop : Nat}
    (inOrder : start ≤ middle)
    (inOrderToo : middle ≤ stop) :
    slice text start middle ++ slice text middle stop =
      slice text start stop := by
  have behind : text.drop middle = (text.drop start).drop (middle - start) := by
    rw [List.drop_drop, Nat.add_sub_cancel' inOrder]
  have whole : stop - start = middle - start + (stop - middle) := by
    omega
  rw [slice, slice, slice, behind, whole, List.take_add]

/-- The token stands at these offsets of the text. -/
structure Token.Occupies
    (token : Token)
    (text : List Char)
    (start stop : Nat) :
    Prop where
  nonempty : start < stop
  inText : stop ≤ text.length
  /-- Only carriage returns behind a comment are no part of its text. -/
  spelled :
    ∃ returns,
      slice text start stop = token.text.toList ++ returns ∧
        (∀ character ∈ returns, character = '\r') ∧
        (token.kind ≠ .comment → returns = [])
  visible : ∀ first ∈ text[start]?, isSeparator first = false
  startsAt : token.start = .ofOffset text start
  stopsAt : token.stop = .ofOffset text (stop - 1)

/-- From an offset on the text is made up of the tokens and gaps. -/
inductive Tiles (text : List Char) : Nat → List Token → Prop where
  | gap
      {offset : Nat}
      (isGap : IsGap (text.drop offset)) :
      Tiles text offset []
  | token
      {offset start stop : Nat}
      {token : Token}
      {tokens : List Token}
      (notBefore : offset ≤ start)
      (isGap : IsGap (slice text offset start))
      (occupies : token.Occupies text start stop)
      (tiles : Tiles text stop tokens) :
      Tiles text offset (token :: tokens)

/-- A gap before tokens belongs to what they are found in. -/
theorem Tiles.gap_before
    {text : List Char}
    {offset middle : Nat}
    {tokens : List Token}
    (notAfter : offset ≤ middle)
    (isGap : IsGap (slice text offset middle))
    (tiles : Tiles text middle tokens) :
    Tiles text offset tokens := by
  cases tiles with
  | gap isGapToo =>
      refine .gap ?_
      rw [← slice_append_drop text notAfter]
      exact isGap.append isGapToo
  | token notBefore isGapToo occupies tiles =>
      refine .token (Nat.le_trans notAfter notBefore) ?_ occupies tiles
      rw [← slice_append_slice text notAfter notBefore]
      exact isGap.append isGapToo

/-- Going on from the place behind a text leads behind the longer one. -/
theorem Position.advance_behind
    (passed text : List Char) :
    (behind passed).advance text = behind (passed ++ text) := by
  rw [← advance_origin, ← advance_append, advance_origin]

/-- The text of a comment and the carriage returns that are cut off it. -/
theorem append_returns
    (characters : List Char) :
    ∃ returns,
      characters =
          (characters.reverse.dropWhile (· == '\r')).reverse ++ returns ∧
        ∀ character ∈ returns, character = '\r' := by
  refine ⟨(characters.reverse.takeWhile (· == '\r')).reverse, ?_, ?_⟩
  · rw [← List.reverse_append, List.takeWhile_append_dropWhile,
      List.reverse_reverse]
  · intro character member
    have isReturn := List.mem_takeWhile_imp (List.mem_reverse.mp member)
    simpa using isReturn

/-- A token that is spelled at the head of what is left stands there. -/
theorem Token.spelled_occupies
    {passed characters : List Char}
    {first : Char}
    (isFirst : characters.head? = some first)
    (visible : isSeparator first = false)
    (rest : List Char)
    (kind : TokenKind) :
    (Token.spelled kind characters (.behind passed)).Occupies
      (passed ++ (characters ++ rest))
      passed.length
      (passed.length + characters.length) where
  nonempty :=
    Nat.lt_add_of_pos_right (List.length_pos_of_mem (List.mem_of_head? isFirst))
  inText := by
    simp
  spelled := by
    rw [slice_append_right, List.take_left]
    by_cases isComment : kind = .comment
    · obtain ⟨returns, whole, areReturns⟩ := append_returns characters
      refine ⟨returns, ?_, areReturns, ?_⟩
      · simpa [Token.spelled, isComment] using whole
      · simp [Token.spelled, isComment]
    · exact ⟨[], by simp [Token.spelled, isComment], by simp, fun _ => rfl⟩
  visible := by
    intro character isThere
    have same : character = first := by
      rw [List.getElem?_append_right (Nat.le_refl _), Nat.sub_self,
        ← List.head?_eq_getElem?, List.head?_append, isFirst] at isThere
      simpa using isThere.symm
    rw [same, visible]
  startsAt := by
    simp [Token.spelled, Position.ofOffset]
  stopsAt := by
    have upToLast :
        (passed ++ (characters ++ rest)).take
            (passed.length + characters.length - 1) =
          passed ++ characters.dropLast := by
      have hasLength : 0 < characters.length :=
        List.length_pos_of_mem (List.mem_of_head? isFirst)
      rw [Nat.add_sub_assoc hasLength, List.take_length_add_append,
        List.take_append_of_le_length (Nat.sub_le _ 1),
        List.dropLast_eq_take]
    rw [Position.ofOffset, upToLast]
    exact Position.advance_behind passed characters.dropLast

/-- What is left of a whole text behind what was passed, and where it starts. -/
structure IsLeft
    (whole passed text : List Char)
    (position : Position) :
    Prop where
  same : whole = passed ++ text
  place : position = .behind passed

section Left

variable
  {whole passed rest : List Char}
  {first : Char}
  {position : Position}
  (isLeft : IsLeft whole passed (first :: rest) position)

include isLeft

/-- Behind some more characters there is less left. -/
theorem IsLeft.behind (count : Nat) :
    IsLeft whole
      (passed ++ first :: rest.take count)
      (rest.drop count)
      (position.advance (first :: rest.take count)) where
  same := by
    simpa using isLeft.same
  place := by
    rw [isLeft.place, Position.advance_behind]

/-- A gap that is skipped belongs to what is tiled behind it. -/
theorem Tiles.of_gap
    {gap : Nat}
    {tokens : List Token}
    (isLength : gapLength 0 (first :: rest) = gap)
    (hasGap : 0 < gap)
    (tiles : Tiles whole (passed ++ first :: rest.take (gap - 1)).length tokens) :
    Tiles whole passed.length tokens := by
  obtain ⟨length, measured, inText, isGap, _⟩ :=
    gapLength_spec 0 (first :: rest)
  obtain rfl : gap = length := by
    rw [← isLength, measured, Nat.zero_add]
  rw [← List.take_cons hasGap, List.length_append,
    List.length_take_of_le inText] at tiles
  refine tiles.gap_before (Nat.le_add_right _ gap) ?_
  rw [isLeft.same, slice_append_right]
  exact isGap

/-- A token that is spelled where no gap is tiles the text with those behind it. -/
theorem Tiles.of_spelled
    {count : Nat}
    {tokens : List Token}
    (kind : TokenKind)
    (noGap : gapLength 0 (first :: rest) = 0)
    (tiles : Tiles whole (passed ++ first :: rest.take count).length tokens) :
    Tiles whole passed.length
      (Token.spelled kind (first :: rest.take count) position :: tokens) := by
  obtain ⟨length, gapMeasured, _, _, visible⟩ :=
    gapLength_spec 0 (first :: rest)
  have isVisible : isSeparator first = false :=
    visible (by omega) first rfl
  have occupies :
      (Token.spelled kind (first :: rest.take count) position).Occupies
        whole
        passed.length
        (passed.length + (first :: rest.take count).length) := by
    rw [isLeft.place, (isLeft.behind count).same, List.append_assoc]
    exact Token.spelled_occupies rfl isVisible _ kind
  rw [List.length_append] at tiles
  refine .token (Nat.le_refl _) ?_ occupies tiles
  simpa [slice] using IsGap.nil

end Left

/--
The tokens that are read from somewhere in a text tile the text from there on.
-/
theorem Profile.tokensFrom_tiles
    {profile : Profile}
    {whole passed text : List Char}
    {previous : Option Token}
    {position : Position}
    {found tokens : Array Token}
    (isLeft : IsLeft whole passed text position)
    (read :
      profile.tokensFrom previous position found text = .ok tokens) :
    ∃ more,
      tokens.toList = found.toList ++ more ∧
        Tiles whole passed.length more := by
  fun_induction Profile.tokensFrom profile previous position found text
    generalizing passed with
  | case1 =>
      cases read
      refine ⟨[], by simp, .gap ?_⟩
      rw [isLeft.same, List.append_nil, List.drop_length]
      exact .nil
  | case2 previous position found first rest gap hasGap =>
      rename_i inductionHypothesis
      obtain ⟨more, same, tiles⟩ :=
        inductionHypothesis (isLeft.behind (gap - 1)) read
      exact ⟨more, same, .of_gap isLeft rfl hasGap tiles⟩
  | case3 =>
      cases read
  | case4 previous position found first rest gap noGap lexeme measured
      characters token =>
      rename_i inductionHypothesis
      obtain ⟨more, same, tiles⟩ :=
        inductionHypothesis (isLeft.behind (lexeme.length - 1)) read
      exact
        ⟨token :: more, by simp [same],
          .of_spelled isLeft lexeme.kind (Nat.eq_zero_of_not_pos noGap) tiles⟩

/-- The lines of a text show the token where it says that it is. -/
structure Token.LiesIn
    (token : Token)
    (lines : Array Line) :
    Prop where
  fromFirst : 1 ≤ token.start.line
  inOrder : token.start.line ≤ token.stop.line
  toLast : token.stop.line ≤ lines.size
  /-- Its line has its first character at its column. -/
  first :
    ∃ line character,
      lines[token.start.line - 1]? = some line ∧
        line.number = token.start.line ∧
        line.text.toList[token.start.column - 1]? = some character ∧
        token.text.toList.head? = some character

/-- The first character of a token is the one at its first offset. -/
theorem Token.Occupies.exists_first
    {token : Token}
    {text : List Char}
    {start stop : Nat}
    (occupies : token.Occupies text start stop) :
    ∃ first,
      text[start]? = some first ∧
        isSeparator first = false ∧
        token.text.toList.head? = some first := by
  have inText : start < text.length :=
    Nat.lt_of_lt_of_le occupies.nonempty occupies.inText
  have isThere := List.getElem?_eq_getElem inText
  have isVisible := occupies.visible _ isThere
  refine ⟨text[start], isThere, isVisible, ?_⟩
  obtain ⟨returns, whole, areReturns, _⟩ := occupies.spelled
  -- Were the text empty, the token would start with a carriage return.
  have isFirst : (slice text start stop).head? = some text[start] := by
    have hasLength : stop - start ≠ 0 :=
      Nat.sub_ne_zero_of_lt occupies.nonempty
    rw [slice, List.head?_take, if_neg hasLength, List.head?_drop, isThere]
  rw [whole, List.head?_append] at isFirst
  cases shown : token.text.toList.head? with
  | some character =>
      rw [shown] at isFirst
      exact isFirst
  | none =>
      rw [shown, Option.none_or] at isFirst
      have isReturn := areReturns _ (List.mem_of_head? isFirst)
      rw [isReturn] at isVisible
      cases isVisible

/-- The lines of a text show every token that stands in it. -/
theorem Token.Occupies.liesIn
    {token : Token}
    {text : String}
    {start stop : Nat}
    (occupies : token.Occupies text.toList start stop) :
    token.LiesIn (splitLines text) := by
  obtain ⟨first, isThere, isVisible, shown⟩ := occupies.exists_first
  have noBreak : first ≠ '\n' := by
    rintro rfl
    cases isVisible
  have noReturn : first ≠ '\r' := by
    rintro rfl
    cases isVisible
  obtain ⟨line, foundLine, numbered, holds⟩ :=
    splitLines_character isThere noBreak noReturn
  have hasLength := occupies.nonempty
  have inText := occupies.inText
  refine ⟨?_, ?_, ?_, line, first, ?_, ?_, ?_, shown⟩
  · rw [occupies.startsAt]
    exact Nat.le_add_left 1 _
  · rw [occupies.startsAt, occupies.stopsAt]
    exact Position.line_ofOffset_mono (by omega)
  · rw [occupies.stopsAt]
    exact line_le_size_splitLines (by omega)
  · rw [occupies.startsAt]
    exact foundLine
  · rw [occupies.startsAt]
    exact numbered
  · rw [occupies.startsAt]
    exact holds

/-- Each token of a tiling occupies some offsets. -/
theorem Tiles.exists_occupies
    {text : List Char}
    {offset : Nat}
    {tokens : List Token}
    {token : Token}
    (tiles : Tiles text offset tokens)
    (member : token ∈ tokens) :
    ∃ start stop, token.Occupies text start stop := by
  induction tiles with
  | gap =>
      simp at member
  | @token _ start stop _ _ _ _ occupies _ inductionHypothesis =>
      rcases List.mem_cons.mp member with isFirst | inRest
      · subst isFirst
        exact ⟨start, stop, occupies⟩
      · exact inductionHypothesis inRest

/-- The tokens of a text tile it. -/
theorem tiles_of_tokenize
    {language : Language}
    {text : String}
    {tokens : Array Token}
    (read : language.profile.tokenize text = .ok tokens) :
    Tiles text.toList 0 tokens.toList := by
  have tiled :
      ∃ more,
        tokens.toList = [] ++ more ∧
          Tiles text.toList ([] : List Char).length more :=
    Profile.tokensFrom_tiles ⟨rfl, rfl⟩ read
  obtain ⟨more, same, tiles⟩ := tiled
  rw [List.nil_append] at same
  rw [same]
  exact tiles

/--
The tokens of a text tile it, and each of them lies in the lines of the text.
-/
theorem tokenize_tiles
    {language : Language}
    {text : String}
    {tokens : Array Token}
    (read : tokenize language text = .ok tokens) :
    Tiles text.toList 0 tokens.toList ∧
      ∀ token ∈ tokens, token.LiesIn (splitLines text) := by
  have tiles : Tiles text.toList 0 tokens.toList := tiles_of_tokenize read
  refine ⟨tiles, ?_⟩
  intro token member
  obtain ⟨start, stop, occupies⟩ :=
    tiles.exists_occupies (Array.mem_toList_iff.mpr member)
  exact occupies.liesIn

/-- A remark between two names, behind a line break that a backslash hides. -/
theorem tokenize_tiles_remark :
    ∃ tokens,
      tokenize .java "a \\\n// b\r\nc" = .ok tokens ∧
        tokens.size = 3 ∧
        Tiles "a \\\n// b\r\nc".toList 0 tokens.toList ∧
        ∀ token ∈ tokens, token.LiesIn (splitLines "a \\\n// b\r\nc") := by
  have counted :
      (tokenize .java "a \\\n// b\r\nc").toOption.map Array.size =
        some 3 := by
    decide +kernel
  cases read : tokenize .java "a \\\n// b\r\nc" with
  | error fault =>
      simp [read, Except.toOption] at counted
  | ok tokens =>
      simp only [read, Except.toOption, Option.map_some] at counted
      exact ⟨tokens, rfl, Option.some.inj counted, tokenize_tiles read⟩

end HouseStyle
