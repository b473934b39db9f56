import HouseStyle.Proofs.Text.OneLine
import HouseStyle.Proofs.Token.Fitting
import HouseStyle.Proofs.Token.Punctuation
import Mathlib

namespace HouseStyle

/-!
# Line breaks in tokens

Names, numbers, operators and regular expressions end where their line ends, at
the latest. So a token that holds a line break is a string or a comment, and
where only the end of a line closes a comment it is a string.
-/

/-- The number of characters up to the end of the line at the head. -/
def lineReach (text : List Char) : Nat :=
  runLength (· != '\n') text

theorem lineReach_cons
    {first : Char}
    (noBreak : first ≠ '\n')
    (rest : List Char) :
    lineReach (first :: rest) = lineReach rest + 1 := by
  simp [lineReach, runLength, noBreak]

/-- What ends on its line holds no line break. -/
theorem not_mem_take_of_le_lineReach
    {text : List Char}
    {length : Nat}
    (onLine : length ≤ lineReach text) :
    '\n' ∉ text.take length := by
  intro isBreak
  have inLine :
      text.take length <+: text.takeWhile (· != '\n') :=
    List.prefix_of_prefix_length_le
      (List.take_prefix length text)
      (List.takeWhile_prefix _)
      ((List.length_take_le length text).trans onLine)
  have isOther := List.mem_takeWhile_imp (inLine.subset isBreak)
  simp at isOther

/-- A run of characters among which there is no line break ends on its line. -/
theorem runLength_le_lineReach
    {accepted : Char → Bool}
    (refuses : accepted '\n' = false)
    (text : List Char) :
    runLength accepted text ≤ lineReach text := by
  induction text with
  | nil =>
      exact Nat.le_refl 0
  | cons first rest inductionHypothesis =>
      by_cases isAccepted : accepted first = true
      · have noBreak : first ≠ '\n' := by
          rintro rfl
          simp [refuses] at isAccepted
        rw [lineReach_cons noBreak]
        simpa [runLength, isAccepted] using inductionHypothesis
      · simp [runLength, isAccepted]

/-- What follows a piece of a line up to the end of the line ends on it, too. -/
theorem add_le_lineReach
    {text : List Char}
    {front back : Nat}
    (frontOnLine : front ≤ lineReach text)
    (backOnLine : back ≤ lineReach (text.drop front)) :
    front + back ≤ lineReach text := by
  induction front generalizing text with
  | zero =>
      simpa using backOnLine
  | succ front inductionHypothesis =>
      cases text with
      | nil => simp [lineReach, runLength] at frontOnLine
      | cons first rest =>
          have noBreak : first ≠ '\n' := by
            rintro rfl
            simp [lineReach, runLength] at frontOnLine
          rw [lineReach_cons noBreak] at frontOnLine ⊢
          have ofRest :=
            inductionHypothesis (Nat.le_of_succ_le_succ frontOnLine) backOnLine
          omega

/-! ## Numbers -/

/-- A based literal ends on its line. -/
theorem basedLength?_onLine
    {marks text : List Char}
    {accepted : Char → Bool}
    {length : Nat}
    (marksOnLine : '\n' ∉ marks)
    (refuses : accepted '\n' = false)
    (found : basedLength? marks accepted text = some length) :
    length ≤ lineReach text := by
  unfold basedLength? at found
  split at found
  · next mark rest =>
      have digitsOnLine := runLength_le_lineReach refuses rest
      simp only at found
      split at found
      · next isBased =>
          cases found
          have noBreak : mark ≠ '\n' := by
            rintro rfl
            exact marksOnLine (by simpa using isBased.1)
          rw [lineReach_cons (by decide), lineReach_cons noBreak]
          omega
      · cases found
  · cases found

/-- A line break is no digit. -/
theorem not_isGroupedDigit_break : isGroupedDigit '\n' = false := by
  decide

/-- The digits of a decimal literal end on their line. -/
theorem decimalLength?_onLine
    {text : List Char}
    {length : Nat}
    (found : decimalLength? text = some length) :
    length ≤ lineReach text := by
  have digitsOnLine := runLength_le_lineReach not_isGroupedDigit_break
  have noBreak {digit : Char} (isDigit : isDecimalDigit digit = true) :
      digit ≠ '\n' := by
    rintro rfl
    revert isDigit
    decide
  unfold decimalLength? at found
  split at found
  · next digit rest =>
      split at found
      · next isDigit =>
          cases found
          rw [lineReach_cons (by decide), lineReach_cons (noBreak isDigit)]
          have ofRest := digitsOnLine rest
          omega
      · cases found
  · next first rest _ =>
      split at found
      · next isDigit =>
          have wholeOnLine : 1 + runLength isGroupedDigit rest ≤
              lineReach (first :: rest) := by
            rw [lineReach_cons (noBreak isDigit)]
            have ofRest := digitsOnLine rest
            omega
          simp only at found
          split at found
          · next fraction behind =>
              cases found
              rw [Nat.add_sub_cancel_left] at behind
              have behindWhole :
                  (first :: rest).drop (1 + runLength isGroupedDigit rest) =
                    '.' :: fraction := by
                rw [Nat.add_comm, List.drop_succ_cons, behind]
              rw [Nat.add_assoc]
              refine add_le_lineReach wholeOnLine ?_
              rw [behindWhole, lineReach_cons (by decide)]
              have ofFraction := digitsOnLine fraction
              omega
          · cases found
            exact wholeOnLine
      · cases found
  · cases found

/-- An exponent ends on its line. -/
theorem exponentLength_onLine (text : List Char) :
    exponentLength text ≤ lineReach text := by
  have digitsOnLine :=
    runLength_le_lineReach (show isDecimalDigit '\n' = false by decide)
  unfold exponentLength
  split
  · next mark rest =>
      split
      · next isMark =>
          have noBreak : mark ≠ '\n' := by
            rcases isMark with rfl | rfl <;> decide
          have signed
              {sign : Nat}
              (signOnLine : sign ≤ lineReach rest) :
              (if 0 < runLength isDecimalDigit (rest.drop sign) then
                1 + sign + runLength isDecimalDigit (rest.drop sign)
              else
                0) ≤ lineReach (mark :: rest) := by
            have onLine :=
              add_le_lineReach signOnLine (digitsOnLine (rest.drop sign))
            rw [lineReach_cons noBreak]
            split <;> omega
          refine signed ?_
          split
          · rw [lineReach_cons (by decide)]
            omega
          · rw [lineReach_cons (by decide)]
            omega
          · exact Nat.zero_le _
      · exact Nat.zero_le _
  · exact Nat.zero_le _

/-- A number ends on its line. -/
theorem numberLength?_onLine
    {text : List Char}
    {length : Nat}
    (found : numberLength? text = some length) :
    length ≤ lineReach text := by
  obtain ⟨digits, foundDigits, rfl⟩ := Option.map_eq_some_iff.mp found
  have digitsOnLine : digits ≤ lineReach text := by
    simp only [digitsLength?, Option.orElse_eq_orElse, Option.orElse_eq_or,
      Option.or_eq_some_iff, Option.map_eq_some_iff] at foundDigits
    rcases foundDigits with
      isHex | ⟨_, isBinary | ⟨_, isOctal | ⟨_, mantissa, isDecimal, rfl⟩⟩⟩
    · exact basedLength?_onLine (by decide) (by decide) isHex
    · exact basedLength?_onLine (by decide) (by decide) isBinary
    · exact basedLength?_onLine (by decide) (by decide) isOctal
    · exact
        add_le_lineReach
          (decimalLength?_onLine isDecimal)
          (exponentLength_onLine _)
  exact add_le_lineReach digitsOnLine (runLength_le_lineReach (by decide) _)

/-! ## Words, operators and regular expressions -/

/-- A name ends on its line. -/
theorem NameShape.length?_onLine
    {shape : NameShape}
    {text : List Char}
    {length : Nat}
    (found : shape.length? text = some length) :
    length ≤ lineReach text := by
  obtain ⟨sigil, dollar⟩ := shape
  have noStart :
      NameShape.starts { sigil, dollar } '\n' = false := by
    cases dollar <;> rfl
  have noPart :
      NameShape.continues { sigil, dollar } '\n' = false := by
    cases dollar <;> rfl
  have noBreak
      {first : Char}
      (starts : NameShape.starts { sigil, dollar } first = true) :
      first ≠ '\n' := by
    rintro rfl
    rw [noStart] at starts
    cases starts
  have restOnLine := runLength_le_lineReach noPart
  unfold NameShape.length? at found
  split at found
  · cases found
  · next first rest =>
      split at found
      · next isSigil =>
          split at found
          · next second beyond =>
              split at found
              · next starts =>
                  cases found
                  rw [isSigil.2, lineReach_cons (by decide),
                    lineReach_cons (noBreak starts)]
                  have ofRest := restOnLine beyond
                  omega
              · cases found
          · cases found
      · split at found
        · next starts =>
            cases found
            rw [lineReach_cons (noBreak starts)]
            have ofRest := restOnLine rest
            omega
        · cases found

/-- Operators hold no line break. -/
theorem isOneLine_of_mem_operators :
    ∀ operator ∈ operators, IsOneLine operator := by
  decide

/-- What starts with a text without a line break has it on its first line. -/
theorem length_le_lineReach_of_startsWith
    {text : List Char}
    {opening : String}
    (oneLine : IsOneLine opening)
    (starts : startsWith text opening = true) :
    opening.length ≤ lineReach text := by
  obtain ⟨rest, rfl⟩ := List.isPrefixOf_iff_prefix.mp starts
  have isRun :
      (opening.toList ++ rest).takeWhile (· != '\n') =
        opening.toList ++ rest.takeWhile (· != '\n') := by
    refine List.takeWhile_append_of_pos fun character member => ?_
    have isOther : character ≠ '\n' := by
      rintro rfl
      exact oneLine member
    simpa using isOther
  rw [lineReach, runLength, isRun, List.length_append, String.length_toList]
  exact Nat.le_add_right _ _

/-- Punctuation ends on its line unless it is the line break. -/
theorem punctuation_onLine
    {first : Char}
    (noBreak : first ≠ '\n')
    (rest : List Char) :
    (punctuation (first :: rest)).length ≤ lineReach (first :: rest) := by
  have oneOnLine : 1 ≤ lineReach (first :: rest) := by
    rw [lineReach_cons noBreak]
    omega
  unfold punctuation
  split
  · exact oneOnLine
  · next same =>
      split
      · exact oneOnLine
      · split
        · next operator found =>
            exact
              length_le_lineReach_of_startsWith
                (isOneLine_of_mem_operators operator (List.mem_of_find?_eq_some found))
                (List.find?_some found)
        · exact oneOnLine

/-- The body of a regular expression is closed on its line. -/
theorem regexBodyLength_onLine
    {insideSet : Bool}
    {count length : Nat}
    {text : List Char}
    (found : regexBodyLength insideSet count text = some length) :
    length < count + lineReach text := by
  fun_induction regexBodyLength insideSet count text with
  | case1 => cases found
  | case2 => cases found
  | case3 _ _ _ _ noBreak inductionHypothesis =>
      have ofRest := inductionHypothesis found
      rw [lineReach_cons (by decide), lineReach_cons noBreak]
      omega
  | case4 => cases found
  | case5 _ _ _ _ ordinary inductionHypothesis =>
      have ofRest := inductionHypothesis found
      rw [lineReach_cons (not_or.mp ordinary).1]
      omega
  | case6 _ _ _ ordinary =>
      cases found
      rw [lineReach_cons (by decide)]
      omega
  | case7 _ _ _ _ _ ordinary _ _ inductionHypothesis =>
      have ofRest := inductionHypothesis found
      rw [lineReach_cons (not_or.mp ordinary).1]
      omega

/-- A regular expression ends on its line. -/
theorem regexLength?_onLine
    {text : List Char}
    {length : Nat}
    (found : regexLength? text = some length) :
    length ≤ lineReach text := by
  unfold regexLength? at found
  split at found
  · next first rest =>
      split at found
      · cases found
      · obtain ⟨body, foundBody, rfl⟩ := Option.map_eq_some_iff.mp found
        have bodyOnLine := regexBodyLength_onLine foundBody
        have closed : body + 1 ≤ lineReach (first :: rest) := by
          omega
        have flagsOnLine :=
          add_le_lineReach closed
            (runLength_le_lineReach (show isAsciiLetter '\n' = false by decide) _)
        dsimp only
        rw [lineReach_cons (by decide)]
        omega
  · cases found

/-! ## Tokens -/

/-- The kinds of tokens that may hold line breaks. -/
def Profile.MaySpan
    (profile : Profile)
    (kind : TokenKind) :
    Prop :=
  kind = .string ∨ kind = .comment ∧ profile.blockComments ≠ []

section Lexemes

variable
  {profile : Profile}
  {text : List Char}
  {lexeme : Lexeme}

/-- A comment ends on its line unless it has a closer of its own. -/
theorem Profile.comment?_onLine
    (found : profile.comment? text = some (.ok lexeme)) :
    profile.MaySpan lexeme.kind ∨ lexeme.length ≤ lineReach text := by
  unfold Profile.comment? at found
  split at found
  · cases found
    exact .inr (Nat.le_refl _)
  · obtain ⟨pair, foundPair, measured⟩ := Option.map_eq_some_iff.mp found
    have hasComments : profile.blockComments ≠ [] :=
      List.ne_nil_of_mem (List.mem_of_find?_eq_some foundPair)
    split at measured
    · cases measured
    · cases measured
      exact .inl (.inr ⟨rfl, hasComments⟩)

/-- A regular expression ends on its line wherever it is read. -/
theorem Profile.regex?_onLine
    {previous : Option Token}
    (found : profile.regex? previous text = some (.ok lexeme)) :
    lexeme.length ≤ lineReach text := by
  unfold Profile.regex? at found
  split at found
  · obtain ⟨length, foundLength, same⟩ := Option.map_eq_some_iff.mp found
    cases same
    exact regexLength?_onLine foundLength
  · cases found

/-- A string may hold line breaks. -/
theorem Profile.string?_maySpan
    (found : profile.string? text = some (.ok lexeme)) :
    profile.MaySpan lexeme.kind := by
  obtain ⟨opening, _, measured⟩ := Option.map_eq_some_iff.mp found
  split at measured
  · cases measured
  · cases measured
    exact .inl rfl

/-- A keyword or an identifier ends on its line. -/
theorem Profile.word?_onLine
    (found : profile.word? text = some (.ok lexeme)) :
    lexeme.length ≤ lineReach text := by
  obtain ⟨length, foundLength, measured⟩ := Option.map_eq_some_iff.mp found
  have onLine := NameShape.length?_onLine foundLength
  simp only at measured
  split at measured <;>
    · cases measured
      exact onLine

/-- A lexeme that may not hold line breaks ends on its line. -/
theorem Profile.lexeme_onLine
    {previous : Option Token}
    {first : Char}
    {rest : List Char}
    (noBreak : first ≠ '\n')
    (measured : profile.lexeme previous (first :: rest) = .ok lexeme) :
    profile.MaySpan lexeme.kind ∨ lexeme.length ≤ lineReach (first :: rest) := by
  unfold Profile.lexeme at measured
  rw [Option.getD_eq_iff] at measured
  rcases measured with claimed | ⟨_, isPunctuation⟩
  · simp only [Option.orElse_eq_orElse, Option.orElse_eq_or,
      Option.or_eq_some_iff] at claimed
    rcases claimed with
      isComment | ⟨_, isRegex | ⟨_, isString | ⟨_, isNumber | ⟨_, isWord⟩⟩⟩⟩
    · exact Profile.comment?_onLine isComment
    · exact .inr (Profile.regex?_onLine isRegex)
    · exact .inl (Profile.string?_maySpan isString)
    · obtain ⟨length, foundLength, same⟩ :=
        Option.map_eq_some_iff.mp isNumber
      cases same
      exact .inr (numberLength?_onLine foundLength)
    · exact .inr (Profile.word?_onLine isWord)
  · cases isPunctuation
    exact .inr (punctuation_onLine noBreak rest)

end Lexemes

/-- What a token shows is part of what it is spelled with. -/
theorem Token.text_spelled_subset
    (kind : TokenKind)
    (characters : List Char)
    (position : Position) :
    (Token.spelled kind characters position).text.toList ⊆ characters := by
  by_cases isComment : kind = .comment
  · obtain ⟨returns, whole, _⟩ := append_returns characters
    simp only [Token.spelled, isComment, ↓reduceIte, String.toList_ofList]
    intro character member
    rw [whole]
    exact List.mem_append_left returns member
  · simp [Token.spelled, isComment]

/-- A token stands on one line unless it is of a kind that may hold line breaks. -/
theorem Profile.tokenize_oneLine
    {profile : Profile}
    {text : String}
    {tokens : Array Token}
    (read : profile.tokenize text = .ok tokens) :
    ∀ token ∈ tokens, IsOneLine token.text ∨ profile.MaySpan token.kind := by
  refine Profile.tokensFrom_forall ?_ read (by simp)
  intro previous first rest lexeme position noGap measured
  obtain ⟨gap, sameGap, _, _, separates⟩ := gapLength_spec 0 (first :: rest)
  have noBreak : first ≠ '\n' := by
    rintro rfl
    have visible := separates (by omega) '\n' rfl
    cases visible
  rcases Profile.lexeme_onLine noBreak measured with maySpan | onLine
  · exact .inr maySpan
  · refine .inl fun isBreak => ?_
    have inSpelling := Token.text_spelled_subset _ _ _ isBreak
    rw [lineReach_cons noBreak] at onLine
    rcases List.mem_cons.mp inSpelling with isFirst | inRest
    · exact noBreak isFirst.symm
    · exact not_mem_take_of_le_lineReach (Nat.sub_le_of_le_add onLine) inRest

end HouseStyle
