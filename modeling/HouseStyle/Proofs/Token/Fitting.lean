import HouseStyle.Language.Catalogue
import HouseStyle.Token.Lexeme

namespace HouseStyle

/-!
# Lexemes fit their texts

Whichever class a lexeme belongs to, it takes at least one character and never
more than there are. So the reading of tokens gets on with every lexeme, and no
token reaches beyond the end of the text.
-/

/-- A length between one and the length of the text. -/
def Fits
    (text : List Char)
    (length : Nat) :
    Prop :=
  0 < length ∧ length ≤ text.length

theorem runLength_le
    (accepted : Char → Bool)
    (text : List Char) :
    runLength accepted text ≤ text.length :=
  (List.takeWhile_prefix accepted).length_le

theorem add_runLength_le
    {text : List Char}
    {measured : Nat}
    (inText : measured ≤ text.length)
    (accepted : Char → Bool) :
    measured + runLength accepted (text.drop measured) ≤ text.length := by
  have runFits := runLength_le accepted (text.drop measured)
  rw [List.length_drop] at runFits
  omega

theorem length_le_of_startsWith
    {text : List Char}
    {opening : String}
    (starts : startsWith text opening = true) :
    opening.length ≤ text.length := by
  have isPrefix := (List.isPrefixOf_iff_prefix.mp starts).length_le
  rwa [String.length_toList] at isPrefix

/-- A closer is found behind the counted characters and inside the text. -/
theorem lengthThrough_bounds
    {closer text : List Char}
    {count length : Nat}
    (found : lengthThrough closer count text = some length) :
    count + closer.length ≤ length ∧ length ≤ count + text.length := by
  induction text generalizing count with
  | nil =>
      simp [lengthThrough] at found
  | cons first rest inductionHypothesis =>
      rw [lengthThrough] at found
      split at found
      · next isPrefix =>
          have closerFits :=
            (List.isPrefixOf_iff_prefix.mp isPrefix).length_le
          cases found
          omega
      · have bounds := inductionHypothesis found
        rw [List.length_cons]
        omega

/-- The body of a regular expression ends before a slash of the text. -/
theorem regexBodyLength_bounds
    {insideSet : Bool}
    {count length : Nat}
    {text : List Char}
    (found : regexBodyLength insideSet count text = some length) :
    count ≤ length ∧ length < count + text.length := by
  fun_induction regexBodyLength insideSet count text with
  | case1 => cases found
  | case2 => cases found
  | case3 _ _ _ _ _ inductionHypothesis =>
      have bounds := inductionHypothesis found
      simp only [List.length_cons]
      omega
  | case4 => cases found
  | case5 _ _ _ _ _ inductionHypothesis =>
      have bounds := inductionHypothesis found
      simp only [List.length_cons]
      omega
  | case6 =>
      cases found
      simp
  | case7 _ _ _ _ _ _ _ _ inductionHypothesis =>
      have bounds := inductionHypothesis found
      simp only [List.length_cons]
      omega

/-- A regular expression fits. -/
theorem regexLength?_fits
    {text : List Char}
    {length : Nat}
    (found : regexLength? text = some length) :
    Fits text length := by
  unfold regexLength? at found
  split at found
  · next first rest =>
      split at found
      · cases found
      · obtain ⟨body, foundBody, rfl⟩ := Option.map_eq_some_iff.mp found
        obtain ⟨_, bodyFits⟩ := regexBodyLength_bounds foundBody
        have slashFits : body + 1 ≤ (first :: rest).length := by
          omega
        have flagsFit := add_runLength_le slashFits isAsciiLetter
        dsimp only
        rw [Fits, List.length_cons]
        omega
  · cases found

/-- The body of a string is closed inside the text. -/
theorem stringBodyLength_bounds
    {opening : StringOpening}
    {count length : Nat}
    {text : List Char}
    (found : stringBodyLength opening count text = some length) :
    count + opening.quote.length ≤ length ∧ length ≤ count + text.length := by
  fun_induction stringBodyLength opening count text with
  | case1 => cases found
  | case2 => cases found
  | case3 _ _ _ _ _ inductionHypothesis =>
      have bounds := inductionHypothesis found
      simp only [List.length_cons]
      omega
  | case4 _ _ _ _ isPrefix =>
      have quoteFits := (List.isPrefixOf_iff_prefix.mp isPrefix).length_le
      cases found
      omega
  | case5 => cases found
  | case6 _ _ _ _ _ _ inductionHypothesis =>
      have bounds := inductionHypothesis found
      simp only [List.length_cons]
      omega

/-- The quote of a string opening is one of the profile, at the head. -/
theorem Profile.stringOpening?_fits
    {profile : Profile}
    {text : List Char}
    {opening : StringOpening}
    (found : profile.stringOpening? text = some opening) :
    (∃ quote ∈ profile.stringQuotes, opening.quote = quote.toList) ∧
      opening.marks.length + opening.quote.length ≤ text.length := by
  unfold Profile.stringOpening? at found
  obtain ⟨quote, foundQuote, rfl⟩ := Option.map_eq_some_iff.mp found
  have isQuote := List.mem_of_find?_eq_some foundQuote
  have starts := length_le_of_startsWith (List.find?_some foundQuote)
  have marksFit :
      ((text.take 2).takeWhile
        profile.stringPrefixes.toList.contains).length ≤ text.length :=
    Nat.le_trans
      (List.takeWhile_prefix _).length_le
      (List.take_prefix 2 text).length_le
  refine ⟨⟨quote, isQuote, rfl⟩, ?_⟩
  rw [List.length_drop] at starts
  simp only [String.length_toList]
  omega

/-- A string fits if its quote is not empty. -/
theorem Profile.stringLength_fits
    {profile : Profile}
    (hasQuotes : ∀ quote ∈ profile.stringQuotes, 0 < quote.length)
    {text : List Char}
    {opening : StringOpening}
    {length : Nat}
    (opens : profile.stringOpening? text = some opening)
    (found : opening.length? text = some length) :
    Fits text length := by
  obtain ⟨⟨quote, isQuote, quoteIs⟩, openingFits⟩ :=
    Profile.stringOpening?_fits opens
  have quoteHas : 0 < opening.quote.length := by
    rw [quoteIs, String.length_toList]
    exact hasQuotes quote isQuote
  have bounds := stringBodyLength_bounds found
  rw [List.length_drop] at bounds
  exact ⟨by omega, by omega⟩

/-- The digits of a based literal fit. -/
theorem basedLength?_fits
    {marks text : List Char}
    {accepted : Char → Bool}
    {length : Nat}
    (found : basedLength? marks accepted text = some length) :
    Fits text length := by
  unfold basedLength? at found
  split at found
  · next rest =>
      have digitsFit := runLength_le accepted rest
      simp only at found
      split at found
      · cases found
        rw [Fits]
        simp only [List.length_cons]
        omega
      · cases found
  · cases found

/-- The digits of a decimal literal fit. -/
theorem decimalLength?_fits
    {text : List Char}
    {length : Nat}
    (found : decimalLength? text = some length) :
    Fits text length := by
  unfold decimalLength? at found
  split at found
  · next digit rest =>
      have digitsFit := runLength_le isGroupedDigit rest
      split at found
      · cases found
        rw [Fits]
        simp only [List.length_cons]
        omega
      · cases found
  · next first rest _ =>
      have wholeFits := runLength_le isGroupedDigit rest
      split at found
      · simp only at found
        split at found
        · next fraction behind =>
            have fractionFits := runLength_le isGroupedDigit fraction
            have shorter := congrArg List.length behind
            rw [List.length_drop, List.length_cons] at shorter
            cases found
            rw [Fits, List.length_cons]
            omega
        · cases found
          rw [Fits, List.length_cons]
          omega
      · cases found
  · cases found

/-- An exponent is no longer than the text. -/
theorem exponentLength_le
    (text : List Char) :
    exponentLength text ≤ text.length := by
  unfold exponentLength
  split
  · next mark rest =>
      have digitsFit (sign : Nat) :
          (if 0 < runLength isDecimalDigit (rest.drop sign) then
            1 + sign + runLength isDecimalDigit (rest.drop sign)
          else
            0) ≤ (mark :: rest).length := by
        have runFits := runLength_le isDecimalDigit (rest.drop sign)
        rw [List.length_drop] at runFits
        rw [List.length_cons]
        split <;> omega
      split
      · exact digitsFit _
      · exact Nat.zero_le _
  · exact Nat.le_refl _

/-- The digits of a number fit. -/
theorem digitsLength?_fits
    {text : List Char}
    {length : Nat}
    (found : digitsLength? text = some length) :
    Fits text length := by
  simp only [digitsLength?, Option.orElse_eq_orElse, Option.orElse_eq_or,
    Option.or_eq_some_iff, Option.map_eq_some_iff] at found
  rcases found with
    isHex | ⟨_, isBinary | ⟨_, isOctal | ⟨_, mantissa, isDecimal, rfl⟩⟩⟩
  · exact basedLength?_fits isHex
  · exact basedLength?_fits isBinary
  · exact basedLength?_fits isOctal
  · obtain ⟨hasDigits, mantissaFits⟩ := decimalLength?_fits isDecimal
    have exponentFits := exponentLength_le (text.drop mantissa)
    rw [List.length_drop] at exponentFits
    exact ⟨by omega, by omega⟩

/-- A number fits. -/
theorem numberLength?_fits
    {text : List Char}
    {length : Nat}
    (found : numberLength? text = some length) :
    Fits text length := by
  obtain ⟨digits, foundDigits, rfl⟩ := Option.map_eq_some_iff.mp found
  obtain ⟨hasDigits, digitsFit⟩ := digitsLength?_fits foundDigits
  exact
    ⟨Nat.lt_of_lt_of_le hasDigits (Nat.le_add_right _ _),
      add_runLength_le digitsFit isAsciiLetter⟩

/-- A name fits. -/
theorem NameShape.length?_fits
    {shape : NameShape}
    {text : List Char}
    {length : Nat}
    (found : shape.length? text = some length) :
    Fits text length := by
  unfold NameShape.length? at found
  split at found
  · cases found
  · next first rest =>
      split at found
      · split at found
        · next second beyond =>
            have runFits := runLength_le shape.continues beyond
            split at found
            · cases found
              rw [Fits]
              simp only [List.length_cons]
              omega
            · cases found
        · cases found
      · have runFits := runLength_le shape.continues rest
        split at found
        · cases found
          rw [Fits, List.length_cons]
          omega
        · cases found

/-- Punctuation fits, as long as there is a character. -/
theorem punctuation_fits
    {text : List Char}
    (nonempty : text ≠ []) :
    Fits text (punctuation text).length := by
  obtain ⟨first, rest, rfl⟩ := List.exists_cons_of_ne_nil nonempty
  have oneFits : Fits (first :: rest) 1 :=
    ⟨Nat.one_pos, Nat.succ_le_succ (Nat.zero_le _)⟩
  rw [punctuation]
  split
  · exact oneFits
  · split
    · next operator found =>
        have hasLength : ∀ operator ∈ operators, 0 < operator.length := by
          decide
        exact
          ⟨hasLength operator (List.mem_of_find?_eq_some found),
            length_le_of_startsWith (List.find?_some found)⟩
    · exact oneFits

/-- What the measuring of lexemes relies on in a profile. -/
structure Profile.OpensVisibly (profile : Profile) : Prop where
  quotes : ∀ quote ∈ profile.stringQuotes, 0 < quote.length
  blockComments : ∀ pair ∈ profile.blockComments, 0 < pair.1.length

/-- No language opens a string or a block comment with nothing. -/
theorem opensVisibly (language : Language) :
    language.profile.OpensVisibly := by
  cases language <;> exact ⟨by decide, by decide⟩

section Profile

variable
  {profile : Profile}
  {text : List Char}
  {lexeme : Lexeme}

/-- A comment fits, as long as the text does not start with a line feed. -/
theorem Profile.comment?_fits
    (opens : profile.OpensVisibly)
    (noBreak : text.head? ≠ some '\n')
    (nonempty : text ≠ [])
    (found : profile.comment? text = some (.ok lexeme)) :
    Fits text lexeme.length := by
  unfold Profile.comment? at found
  split at found
  · cases found
    obtain ⟨first, rest, rfl⟩ := List.exists_cons_of_ne_nil nonempty
    have isInside : (first != '\n') = true := by
      simpa using noBreak
    refine ⟨?_, runLength_le _ _⟩
    simp [runLength, isInside]
  · obtain ⟨pair, foundPair, measured⟩ := Option.map_eq_some_iff.mp found
    have opener :=
      opens.blockComments pair (List.mem_of_find?_eq_some foundPair)
    have openerFits : pair.1.length ≤ text.length :=
      length_le_of_startsWith (List.find?_some foundPair :)
    split at measured
    · cases measured
    · next length foundLength =>
        cases measured
        obtain ⟨behind, inText⟩ := lengthThrough_bounds foundLength
        rw [List.length_drop] at inText
        refine ⟨?_, ?_⟩
        · show 0 < length
          omega
        · show length ≤ text.length
          omega

/-- A regular expression fits wherever it is read. -/
theorem Profile.regex?_fits
    {previous : Option Token}
    (found : profile.regex? previous text = some (.ok lexeme)) :
    Fits text lexeme.length := by
  unfold Profile.regex? at found
  split at found
  · obtain ⟨length, foundLength, same⟩ := Option.map_eq_some_iff.mp found
    cases same
    exact regexLength?_fits foundLength
  · cases found

/-- A string fits. -/
theorem Profile.string?_fits
    (opens : profile.OpensVisibly)
    (found : profile.string? text = some (.ok lexeme)) :
    Fits text lexeme.length := by
  obtain ⟨opening, foundOpening, measured⟩ := Option.map_eq_some_iff.mp found
  split at measured
  · cases measured
  · next length foundLength =>
      cases measured
      exact Profile.stringLength_fits opens.quotes foundOpening foundLength

/-- A keyword or an identifier fits. -/
theorem Profile.word?_fits
    (found : profile.word? text = some (.ok lexeme)) :
    Fits text lexeme.length := by
  obtain ⟨length, foundLength, measured⟩ := Option.map_eq_some_iff.mp found
  have lengthFits := NameShape.length?_fits foundLength
  simp only at measured
  split at measured <;>
    · cases measured
      exact lengthFits

/-- Every lexeme of a text that does not start with a line feed fits. -/
theorem Profile.lexeme_fits
    (opens : profile.OpensVisibly)
    {previous : Option Token}
    (noBreak : text.head? ≠ some '\n')
    (nonempty : text ≠ [])
    (measured : profile.lexeme previous text = .ok lexeme) :
    Fits text lexeme.length := by
  unfold Profile.lexeme at measured
  rw [Option.getD_eq_iff] at measured
  rcases measured with claimed | ⟨_, isPunctuation⟩
  · simp only [Option.orElse_eq_orElse, Option.orElse_eq_or,
      Option.or_eq_some_iff] at claimed
    rcases claimed with
      isComment | ⟨_, isRegex | ⟨_, isString | ⟨_, isNumber | ⟨_, isWord⟩⟩⟩⟩
    · exact Profile.comment?_fits opens noBreak nonempty isComment
    · exact Profile.regex?_fits isRegex
    · exact Profile.string?_fits opens isString
    · obtain ⟨length, foundLength, same⟩ :=
        Option.map_eq_some_iff.mp isNumber
      cases same
      exact numberLength?_fits foundLength
    · exact Profile.word?_fits isWord
  · cases isPunctuation
    exact punctuation_fits nonempty

end Profile

end HouseStyle
