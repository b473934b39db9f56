import HouseStyle.Number.Numeral
import Mathlib.Tactic.IntervalCases

namespace HouseStyle

/-!
# Numerals of digits

What the readers of numerals make of a text that is made of digits, with or
without letters behind them. The script of a digit does not matter. An integer
that is converted comes to the number nearest to it, and so does one that is
read as a decimal.
-/

/-! ## Digits of any script -/

/-- The digits of a script count up to nine. -/
theorem digitValue?_lt
    {character : Char}
    {value : Nat}
    (isDigit : digitValue? character = some value) :
    value < 10 := by
  unfold digitValue? at isDigit
  simp only at isDigit
  split at isDigit
  · split at isDigit
    · cases isDigit
      omega
    · cases isDigit
  · obtain ⟨run, found, rfl⟩ := Option.map_eq_some_iff.mp isDigit
    have inRun := List.find?_some found
    simp only [Bool.and_eq_true, decide_eq_true_eq] at inRun
    omega

/-- A letter is no decimal digit of any script. -/
theorem digitValue?_of_letter
    {character : Char}
    (isLetter : isAsciiLetter character = true) :
    digitValue? character = none := by
  have isAscii :
      character.toNat < 0x80 ∧
        ¬ (0x30 ≤ character.toNat ∧ character.toNat ≤ 0x39) := by
    simp only [isAsciiLetter, Bool.or_eq_true, Bool.and_eq_true,
      decide_eq_true_eq, Char.le_def, UInt32.le_iff_toNat_le] at isLetter
    have code : character.val.toNat = character.toNat := rfl
    simp only [code] at isLetter
    simp at isLetter
    omega
  rw [digitValue?, if_pos isAscii.1, if_neg isAscii.2]

/-- The digit of a value is the ASCII one. -/
theorem digitValue?_ofNat :
    ∀ value < 10,
      digitValue? (Char.ofNat ('0'.toNat + value)) = some value ∧
        isAsciiLetter (Char.ofNat ('0'.toNat + value)) = false := by
  decide

/-- Apart from letters, the digits of a base are decimal digits. -/
theorem baseDigit?_of_noLetter
    {character : Char}
    (noLetter : isAsciiLetter character = false)
    (base : Nat) :
    baseDigit? base character = (digitValue? character).filter (· < base) := by
  have noLower : ¬ ('a' ≤ character ∧ character ≤ 'f') := by
    rintro ⟨fromFirst, toLast⟩
    have inAlphabet : character ≤ 'z' := Char.le_trans toLast (by decide)
    simp [isAsciiLetter, fromFirst, inAlphabet] at noLetter
  have noUpper : ¬ ('A' ≤ character ∧ character ≤ 'F') := by
    rintro ⟨fromFirst, toLast⟩
    have inAlphabet : character ≤ 'Z' := Char.le_trans toLast (by decide)
    simp [isAsciiLetter, fromFirst, inAlphabet] at noLetter
  simp only [baseDigit?, noLower, noUpper, ↓reduceIte]

/-- A decimal digit is no letter. -/
theorem isAsciiLetter_of_digitValue?
    {character : Char}
    {value : Nat}
    (isDigit : digitValue? character = some value) :
    isAsciiLetter character = false := by
  by_contra isLetter
  rw [digitValue?_of_letter (by simpa using isLetter)] at isDigit
  cases isDigit

/-- A digit and its ASCII form count the same. -/
theorem digitValue?_asciiDigit (character : Char) :
    digitValue? (asciiDigit character) = digitValue? character := by
  cases isDigit : digitValue? character with
  | none =>
      simp only [asciiDigit, isDigit]
  | some value =>
      simp only [asciiDigit, isDigit]
      exact (digitValue?_ofNat value (digitValue?_lt isDigit)).1

/-- So they do in every base. -/
theorem baseDigit?_asciiDigit
    (base : Nat)
    (character : Char) :
    baseDigit? base (asciiDigit character) = baseDigit? base character := by
  cases isDigit : digitValue? character with
  | none =>
      simp only [asciiDigit, isDigit]
  | some value =>
      have sameValue := digitValue?_asciiDigit character
      have noLetter : isAsciiLetter (asciiDigit character) = false := by
        simp only [asciiDigit, isDigit]
        exact (digitValue?_ofNat value (digitValue?_lt isDigit)).2
      rw [baseDigit?_of_noLetter noLetter, sameValue,
        baseDigit?_of_noLetter (isAsciiLetter_of_digitValue? isDigit)]

/-- A digit of a base is a letter or a decimal digit. -/
theorem isAsciiLetter_or_isDecimalDigit
    {base : Nat}
    {character : Char}
    (isDigit : (baseDigit? base character).isSome = true) :
    isAsciiLetter character = true ∨ isDecimalDigit character = true := by
  by_cases isLetter : isAsciiLetter character = true
  · exact .inl isLetter
  · rw [baseDigit?_of_noLetter (by simpa using isLetter)] at isDigit
    refine .inr ?_
    cases isThere : digitValue? character with
    | none =>
        rw [isThere] at isDigit
        cases isDigit
    | some value =>
        simp [isDecimalDigit, isThere]

/-- White space is no decimal digit. -/
theorem digitValue?_of_isBlank
    {character : Char}
    (isWhite : isBlank character = true) :
    digitValue? character = none := by
  unfold isBlank at isWhite
  unfold digitValue?
  generalize character.toNat = code at isWhite ⊢
  simp only [Bool.or_eq_true, Bool.and_eq_true, decide_eq_true_eq,
    beq_iff_eq] at isWhite
  -- The table of white space is a few short runs of codes.
  rcases isWhite with
    (((((((((run | run) | rfl) | rfl) | rfl) | run) | rfl) | rfl) | rfl) | rfl) | rfl
  · rw [if_pos (by omega), if_neg (by omega)]
  · rw [if_pos (by omega), if_neg (by omega)]
  · decide
  · decide
  · decide
  · obtain ⟨fromFirst, toLast⟩ := run
    interval_cases code <;> decide
  · decide
  · decide
  · decide
  · decide
  · decide

/-- White space is no letter. -/
theorem isAsciiLetter_of_isBlank
    {character : Char}
    (isWhite : isBlank character = true) :
    isAsciiLetter character = false := by
  by_contra isLetter
  simp only [isAsciiLetter, Bool.not_eq_false, Bool.or_eq_true,
    Bool.and_eq_true, decide_eq_true_eq, Char.le_def,
    UInt32.le_iff_toNat_le] at isLetter
  have code : character.val.toNat = character.toNat := rfl
  simp only [code] at isLetter
  simp only [isBlank, Bool.or_eq_true, Bool.and_eq_true, decide_eq_true_eq,
    beq_iff_eq] at isWhite
  simp at isLetter
  omega

/-- Neither letters nor decimal digits are white space. -/
theorem isBlank_of_letter_or_digit
    {character : Char}
    (isShown :
      isAsciiLetter character = true ∨ isDecimalDigit character = true) :
    isBlank character = false := by
  by_contra isWhite
  have isWhite : isBlank character = true := by
    simpa using isWhite
  rcases isShown with isLetter | isDigit
  · rw [isAsciiLetter_of_isBlank isWhite] at isLetter
    cases isLetter
  · rw [isDecimalDigit, digitValue?_of_isBlank isWhite] at isDigit
    cases isDigit

/-! ## Runs of digits -/

/-- Only digits of a base. -/
def AreDigits
    (base : Nat)
    (digits : List Char) :
    Prop :=
  ∀ character ∈ digits, (baseDigit? base character).isSome = true

instance
    (base : Nat)
    (digits : List Char) :
    Decidable (AreDigits base digits) :=
  decidable_of_iff
    (digits.all (fun character => (baseDigit? base character).isSome) = true)
    List.all_eq_true

/-- The number that digits of a base make. -/
def numberOfDigits
    (base : Nat)
    (digits : List Char) :
    Nat :=
  natOfDigits base (digits.filterMap (baseDigit? base))

/-- A run of digits goes on with a digit and ends before anything else. -/
theorem digitsOn_cons
    (base : Nat)
    {first : Char}
    (noUnderscore : first ≠ '_')
    (reversed : List Nat)
    (rest : List Char) :
    digitsOn base reversed (first :: rest) =
      match baseDigit? base first with
      | some digit => digitsOn base (digit :: reversed) rest
      | none => (reversed.reverse, first :: rest) := by
  refine digitsOn.eq_2 base reversed first rest ?_
  intro _ _ isUnderscore
  exact (noUnderscore isUnderscore).elim

/-- An underscore is no digit. -/
theorem ne_underscore_of_digit
    {base : Nat}
    {character : Char}
    (isDigit : (baseDigit? base character).isSome = true) :
    character ≠ '_' := by
  rintro rfl
  rcases isAsciiLetter_or_isDecimalDigit isDigit with isLetter | isDecimal
  · revert isLetter
    decide
  · revert isDecimal
    decide

/-- What a run of digits ends before. -/
def EndsDigits
    (base : Nat)
    (rest : List Char) :
    Prop :=
  ∀ first ∈ rest.head?, first ≠ '_' ∧ baseDigit? base first = none

section Runs

variable
  {base : Nat}
  {digits : List Char}
  (areDigits : AreDigits base digits)

include areDigits

theorem mapM_baseDigit? :
    digits.mapM (baseDigit? base) =
      some (digits.filterMap (baseDigit? base)) := by
  induction digits with
  | nil =>
      rfl
  | cons first rest inductionHypothesis =>
      obtain ⟨value, isDigit⟩ :=
        Option.isSome_iff_exists.mp (areDigits first List.mem_cons_self)
      have others : AreDigits base rest := fun character member =>
        areDigits character (List.mem_cons_of_mem _ member)
      simp [isDigit, inductionHypothesis others]

/-- Digits are read as the number that they make. -/
theorem readInBase?_of_digits
    (hasDigit : digits ≠ []) :
    readInBase? base digits = some (numberOfDigits base digits) := by
  rw [readInBase?, mapM_baseDigit? areDigits,
    List.isEmpty_eq_false_iff.mpr hasDigit]
  rfl

/-- A run of digits goes as far as there are digits. -/
theorem digitsOn_append
    {rest : List Char}
    (ends : EndsDigits base rest)
    (reversed : List Nat) :
    digitsOn base reversed (digits ++ rest) =
      (reversed.reverse ++ digits.filterMap (baseDigit? base), rest) := by
  induction digits generalizing reversed with
  | nil =>
      cases rest with
      | nil =>
          simp [digitsOn]
      | cons first more =>
          obtain ⟨noUnderscore, noDigit⟩ := ends first rfl
          simp [digitsOn_cons base noUnderscore, noDigit]
  | cons first digits inductionHypothesis =>
      have isDigit := areDigits first List.mem_cons_self
      have others : AreDigits base digits := fun character member =>
        areDigits character (List.mem_cons_of_mem _ member)
      obtain ⟨value, isValue⟩ := Option.isSome_iff_exists.mp isDigit
      rw [List.cons_append,
        digitsOn_cons base (ne_underscore_of_digit isDigit), isValue]
      simp [inductionHypothesis others, isValue]

/-- All digits at the head are taken. -/
theorem takeDigits_append
    (hasDigit : digits ≠ [])
    {rest : List Char}
    (ends : EndsDigits base rest) :
    takeDigits base (digits ++ rest) =
      (digits.filterMap (baseDigit? base), rest) := by
  obtain ⟨first, more, rfl⟩ := List.exists_cons_of_ne_nil hasDigit
  have noUnderscore :=
    ne_underscore_of_digit (areDigits first List.mem_cons_self)
  have started := digitsOn_append areDigits ends []
  unfold takeDigits
  split
  · next same =>
      exact (noUnderscore (List.cons.inj same).1).elim
  · simpa using started

end Runs

/-- A character that is no digit keeps a text from being read as digits. -/
theorem readInBase?_eq_none
    {base : Nat}
    {character : Char}
    {text : List Char}
    (member : character ∈ text)
    (noDigit : baseDigit? base character = none) :
    readInBase? base text = none := by
  have noValues : text.mapM (baseDigit? base) = none := by
    induction text with
    | nil =>
        cases member
    | cons first rest inductionHypothesis =>
        rcases List.mem_cons.mp member with rfl | inRest
        · simp [noDigit]
        · cases isDigit : baseDigit? base first <;>
            simp [isDigit, inductionHypothesis inRest]
  rw [readInBase?, noValues]
  simp

/-- The script of digits does not matter. -/
theorem readInBase?_map_asciiDigit
    (base : Nat)
    (text : List Char) :
    readInBase? base (text.map asciiDigit) = readInBase? base text := by
  have sameValues :
      (text.map asciiDigit).mapM (baseDigit? base) =
        text.mapM (baseDigit? base) := by
    induction text with
    | nil =>
        rfl
    | cons first rest inductionHypothesis =>
        simp [baseDigit?_asciiDigit, inductionHypothesis]
  rw [readInBase?, readInBase?, sameValues, List.isEmpty_map]

/-! ## Integers -/

open readSourceInteger? in
/-- Nor does it in a decimal integer. -/
theorem readDecimalDigits_map_asciiDigit
    (text : List Char) :
    readDecimalDigits (text.map asciiDigit) = readDecimalDigits text := by
  have sameStart :
      (text.map asciiDigit).head?.bind digitValue? =
        text.head?.bind digitValue? := by
    cases text with
    | nil =>
        rfl
    | cons first rest =>
        exact digitValue?_asciiDigit first
  simp only [readDecimalDigits, List.length_map, readInBase?_map_asciiDigit,
    sameStart]

/-- The letters that mark a base. -/
def baseLetters : List Char :=
  ['x', 'X', 'b', 'B', 'o', 'O']

open readSourceInteger? in
/-- Without the letter of a base an integer is a decimal one. -/
theorem readSourceInteger?_of_unmarked
    {text : List Char}
    (unmarked : ∀ character ∈ text, asciiDigit character ∉ baseLetters) :
    readSourceInteger? text = readDecimalDigits text := by
  rw [readSourceInteger?]
  split
  · next mark rest same =>
      have noLetter : mark ∉ baseLetters := by
        have member : mark ∈ text.map asciiDigit := by
          rw [same]
          simp
        obtain ⟨character, isThere, rfl⟩ := List.mem_map.mp member
        exact unmarked character isThere
      simp only [baseLetters, List.mem_cons, List.not_mem_nil, or_false,
        not_or] at noLetter
      rw [if_neg (by tauto), if_neg (by tauto), if_neg (by tauto), ← same,
        readDecimalDigits_map_asciiDigit]
  · rw [readDecimalDigits_map_asciiDigit]

/-! ## Decimals -/

/-- In bases up to ten all digits are decimal digits. -/
theorem isDecimalDigit_of_baseDigit?
    {base : Nat}
    (upToTen : base ≤ 10)
    {character : Char}
    (isDigit : (baseDigit? base character).isSome = true) :
    isDecimalDigit character = true := by
  rcases isAsciiLetter_or_isDecimalDigit isDigit with isLetter | isDecimal
  · unfold baseDigit? at isDigit
    simp only at isDigit
    split at isDigit
    · simp at isDigit
      omega
    · split at isDigit
      · simp at isDigit
        omega
      · rw [digitValue?_of_letter isLetter] at isDigit
        cases isDigit
  · exact isDecimal

/-- A numeral with no white space in it is not trimmed. -/
theorem trimNumeral_eq_self
    {text : List Char}
    (noBlank : ∀ character ∈ text, isBlank character = false) :
    trimNumeral text = text := by
  have noneDropped :
      ∀ part : List Char,
        (∀ character ∈ part, isBlank character = false) →
        part.dropWhile surroundsNumeral = part := by
    intro part noBlank
    cases part with
    | nil =>
        rfl
    | cons first rest =>
        have stays : surroundsNumeral first = false := by
          rw [surroundsNumeral, noBlank first List.mem_cons_self]
          rfl
        rw [List.dropWhile_cons, stays]
        rfl
  rw [trimNumeral, noneDropped text noBlank, noneDropped, List.reverse_reverse]
  intro character member
  exact noBlank character (List.mem_reverse.mp member)

section Decimals

variable
  {digits : List Char}
  (areDigits : AreDigits 10 digits)
  (hasDigit : digits ≠ [])

include areDigits hasDigit

/-- Digits start with no sign. -/
theorem takeSign_of_digits (rest : List Char) :
    takeSign (digits ++ rest) = (false, digits ++ rest) := by
  obtain ⟨first, more, rfl⟩ := List.exists_cons_of_ne_nil hasDigit
  have isDigit :=
    isDecimalDigit_of_baseDigit? (Nat.le_refl 10)
      (areDigits first List.mem_cons_self)
  rw [List.cons_append]
  unfold takeSign
  split
  · next same =>
      rw [(List.cons.inj same).1] at isDigit
      exact absurd isDigit (by decide)
  · next same =>
      rw [(List.cons.inj same).1] at isDigit
      exact absurd isDigit (by decide)
  · rfl

/-- Digits start none of the words that decimals may be. -/
theorem ne_word_of_digits
    (rest : List Char)
    (word : String)
    (starts : word.toList.head?.any isAsciiLetter = true) :
    String.ofList ((digits ++ rest).map Char.toLower) ≠ word := by
  obtain ⟨first, more, rfl⟩ := List.exists_cons_of_ne_nil hasDigit
  have isDigit :=
    isDecimalDigit_of_baseDigit? (Nat.le_refl 10)
      (areDigits first List.mem_cons_self)
  obtain ⟨value, isValue⟩ := Option.isSome_iff_exists.mp isDigit
  have noLetter := isAsciiLetter_of_digitValue? isValue
  have stays : first.toLower = first := by
    unfold Char.toLower
    split
    · next isUpper =>
        have isLetter : isAsciiLetter first = true := by
          simp only [isAsciiLetter, Bool.or_eq_true, Bool.and_eq_true,
            decide_eq_true_eq]
          exact .inr isUpper
        rw [noLetter] at isLetter
        cases isLetter
    · rfl
  intro same
  rw [← same, String.toList_ofList, List.cons_append, List.map_cons,
    List.head?_cons, stays] at starts
  simp [noLetter] at starts

/-- Digits are read as the whole part of a decimal. -/
theorem readMagnitude?_of_digits
    {rest : List Char}
    (ends : EndsDigits 10 rest)
    (noPoint : rest.head? ≠ some '.') :
    readMagnitude? false (digits ++ rest) =
      (readExponent? rest).map
        (Binary64.ofDecimal false (numberOfDigits 10 digits)) := by
  have hasValue : (digits.filterMap (baseDigit? 10)).isEmpty = false := by
    obtain ⟨first, more, rfl⟩ := List.exists_cons_of_ne_nil hasDigit
    obtain ⟨value, isValue⟩ :=
      Option.isSome_iff_exists.mp (areDigits first List.mem_cons_self)
    simp [isValue]
  unfold readMagnitude?
  simp only [ne_word_of_digits areDigits hasDigit rest "inf" (by decide),
    ne_word_of_digits areDigits hasDigit rest "infinity" (by decide),
    ne_word_of_digits areDigits hasDigit rest "nan" (by decide),
    or_self, ↓reduceIte, takeDigits_append areDigits hasDigit ends, hasValue]
  split
  · exact (noPoint rfl).elim
  · simp [numberOfDigits]

end Decimals

/-- Characters that a numeral with letters in it may have. -/
def AreShown (text : List Char) : Prop :=
  ∀ character ∈ text,
    isAsciiLetter character = true ∨ isDecimalDigit character = true

/-- Digits are characters of numerals. -/
theorem AreDigits.areShown
    {base : Nat}
    {digits : List Char}
    (areDigits : AreDigits base digits) :
    AreShown digits := fun character member =>
  isAsciiLetter_or_isDecimalDigit (areDigits character member)

/-- Digits are read as a decimal without an exponent. -/
theorem readDecimal?_of_digits
    {digits : List Char}
    (areDigits : AreDigits 10 digits)
    (hasDigit : digits ≠ []) :
    readDecimal? (String.ofList digits) =
      some (Binary64.ofDecimal false (numberOfDigits 10 digits) 0) := by
  have untrimmed : trimNumeral digits = digits :=
    trimNumeral_eq_self fun character member =>
      isBlank_of_letter_or_digit (areDigits.areShown character member)
  have unsigned := takeSign_of_digits areDigits hasDigit []
  have ends : EndsDigits 10 [] := by
    simp [EndsDigits]
  have read := readMagnitude?_of_digits areDigits hasDigit ends (by simp)
  rw [List.append_nil] at unsigned read
  simp only [readDecimal?, String.toList_ofList, untrimmed, unsigned, read,
    readExponent?, Option.map_some]

/-- A letter that starts no exponent keeps a text from being read as a decimal. -/
theorem readDecimal?_eq_none
    {digits more : List Char}
    (areDigits : AreDigits 10 digits)
    (hasDigit : digits ≠ [])
    {letter : Char}
    (isLetter : isAsciiLetter letter = true)
    (noExponent : letter ≠ 'e' ∧ letter ≠ 'E')
    (areShown : AreShown more) :
    readDecimal? (String.ofList (digits ++ letter :: more)) = none := by
  have untrimmed :
      trimNumeral (digits ++ letter :: more) = digits ++ letter :: more := by
    refine trimNumeral_eq_self fun character member => ?_
    refine isBlank_of_letter_or_digit ?_
    rcases List.mem_append.mp member with isDigit | behind
    · exact areDigits.areShown character isDigit
    · rcases List.mem_cons.mp behind with rfl | isMore
      · exact .inl isLetter
      · exact areShown character isMore
  have ends : EndsDigits 10 (letter :: more) := by
    rintro first ⟨⟩
    refine ⟨?_, ?_⟩
    · rintro rfl
      exact absurd isLetter (by decide)
    · by_contra isDigit
      have isDecimal :=
        isDecimalDigit_of_baseDigit? (Nat.le_refl 10)
          (Option.isSome_iff_ne_none.mpr isDigit)
      rw [isDecimalDigit, digitValue?_of_letter isLetter] at isDecimal
      cases isDecimal
  have noPoint : (letter :: more).head? ≠ some '.' := by
    rintro ⟨⟩
    exact absurd isLetter (by decide)
  simp only [readDecimal?, String.toList_ofList, untrimmed,
    takeSign_of_digits areDigits hasDigit (letter :: more),
    readMagnitude?_of_digits areDigits hasDigit ends noPoint, readExponent?,
    noExponent, or_self, ↓reduceIte, Option.map_none]

/-! ## Conversion -/

namespace Binary64

/-- A large enough exponent makes a number infinite. -/
theorem normalize_of_large
    {mantissa : Nat}
    (nonzero : mantissa ≠ 0)
    {exponent : Int}
    (isLarge : greatestExponent < exponent) :
    normalize false mantissa exponent = .infinite false := by
  unfold normalize
  by_cases isFull : mantissa = Nat.pow 2 53
  · have larger : greatestExponent < exponent + 1 := by
      omega
    simp [isFull, larger]
  · simp [isFull, nonzero, isLarge]

/-- A quotient of at least one is not rounded to zero. -/
theorem roundDivide_ne_zero
    {numerator denominator : Nat}
    (positive : 0 < denominator)
    (notLess : denominator ≤ numerator) :
    roundDivide numerator denominator ≠ 0 := by
  have quotient : 0 < numerator / denominator :=
    Nat.div_pos notLess positive
  unfold roundDivide
  simp only
  split <;> omega

/-- An integer scaled down to its leading bits. -/
theorem roundDivide_scaleFraction_ne_zero
    {value shift : Nat}
    (positive : value ≠ 0)
    (notMore : shift ≤ value.log2) :
    let (top, bottom) := scaleFraction value 1 (shift : Int)
    roundDivide top bottom ≠ 0 := by
  have isPower : 1 * Nat.pow 2 shift = 2 ^ shift := Nat.one_mul _
  show roundDivide value (1 * Nat.pow 2 shift) ≠ 0
  rw [isPower]
  refine roundDivide_ne_zero (Nat.two_pow_pos shift) ?_
  exact
    Nat.le_trans
      (Nat.pow_le_pow_right Nat.two_pos notMore)
      (Nat.log2_self_le positive)

/-- Integers of more than 1025 bits are too large. -/
theorem ofFraction_of_large
    {value : Nat}
    (isLarge : 1024 < value.log2) :
    ofFraction false value 1 = .infinite false := by
  have positive : value ≠ 0 := by
    rintro rfl
    exact absurd isLarge (by decide)
  obtain ⟨shift, isShift⟩ : ∃ shift, value.log2 = shift + 53 :=
    ⟨value.log2 - 53, by omega⟩
  have isLow :
      max ((value.log2 : Int) - (Nat.log2 1 : Int) - 53) leastExponent =
        (shift : Int) := by
    have noDenominator : Nat.log2 1 = 0 := by
      decide
    rw [isShift, noDenominator, leastExponent]
    omega
  have infinite (exponent : Nat)
      (notLess : shift ≤ exponent)
      (notMore : exponent ≤ value.log2) :
      (let (top, bottom) := scaleFraction value 1 (exponent : Int)
      normalize false (roundDivide top bottom) exponent) =
        .infinite false := by
    refine
      normalize_of_large
        (roundDivide_scaleFraction_ne_zero positive notMore) ?_
    rw [greatestExponent]
    omega
  unfold ofFraction
  rw [if_neg positive]
  dsimp only
  rw [isLow]
  split
  · exact infinite (shift + 1) (by omega) (by omega)
  · exact infinite shift (by omega) (by omega)

/-- An integer read as a decimal is the number nearest to it. -/
theorem ofDecimal_zero (value : Nat) :
    ofDecimal false value 0 = ofFraction false value 1 := by
  by_cases isZero : value = 0
  · subst isZero
    rfl
  · unfold ofDecimal
    simp only [isZero, false_or, Int.zero_add]
    rw [if_neg (by omega)]
    split
    · next isLarge =>
        rw [ofFraction_of_large (by omega)]
    · simp

end Binary64

end HouseStyle
