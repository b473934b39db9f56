import HouseStyle.Proofs.Answer
import HouseStyle.Proofs.Number.Numeral
import HouseStyle.Proofs.Token.Punctuation
import HouseStyle.Rule.MagicLiteral
import Mathlib.Data.List.DropRight

namespace HouseStyle

/-!
# The value of an integer literal

A literal is read as it stands, and if that fails, without the letters that may
end a number. Among these letters are two digits of base sixteen, so a suffix
takes trailing digits with it there. In all other cases a suffix changes nothing.
-/

namespace MagicLiteral

/-- The number that an integer is converted to; too large ones saturate. -/
def nearest (value : Nat) : Binary64 :=
  .ofFraction false value 1

/-- An integer is converted unless its number is infinite. -/
theorem numberOfNat_eq (value : Nat) :
    numberOfNat value =
      match nearest value with
      | .infinite _ => .error .numberTooLarge
      | number => .ok number := by
  have converted :
      Binary64.ofInt? value =
        match nearest value with
        | .infinite _ => none
        | number => some number := by
    have notNegative : decide ((value : Int) < 0) = false := by
      simp
    have isNearest :
        Binary64.ofFraction
            (decide ((value : Int) < 0)) (value : Int).natAbs 1 =
          nearest value := by
      rw [notNegative, Int.natAbs_natCast, nearest]
    cases found : nearest value <;>
      simp only [Binary64.ofInt?, isNearest, found]
  cases found : nearest value <;>
    simp only [numberOfNat, converted, found]

/-! ## Literals -/

/-- The bases that source code writes integers in. -/
inductive IntegerBase
  | decimal
  | hexadecimal
  | binary
  | octal
  deriving Repr, DecidableEq

namespace IntegerBase

/-- How many digits a base has. -/
def radix : IntegerBase → Nat
  | .decimal => 10
  | .hexadecimal => 16
  | .binary => 2
  | .octal => 8

/-- What may name a base before the digits. -/
def marks : IntegerBase → List (List Char)
  | .decimal => [[]]
  | .hexadecimal => [['0', 'x'], ['0', 'X']]
  | .binary => [['0', 'b'], ['0', 'B']]
  | .octal => [['0', 'o'], ['0', 'O']]

/-- A decimal integer of too many digits is read as a decimal number. -/
def IsLong
    (base : IntegerBase)
    (digits : List Char) :
    Prop :=
  base = .decimal ∧ greatestDigitCount < digits.length

instance
    (base : IntegerBase)
    (digits : List Char) :
    Decidable (base.IsLong digits) :=
  inferInstanceAs (Decidable (_ ∧ _))

/-- What digits behind the mark of a base are converted to. -/
def convert
    (base : IntegerBase)
    (digits : List Char) :
    Except RuleFault Binary64 :=
  let value := numberOfDigits base.radix digits
  if base.IsLong digits then .ok (nearest value) else numberOfNat value

/-- The value of digits behind the mark of a base, if there are any. -/
def valueOf
    (base : IntegerBase)
    (digits : List Char) :
    Except RuleFault (Option Binary64) :=
  if digits = [] then .ok none else (base.convert digits).map some

/-- Decimal integers have no leading zero unless they are zero. -/
def Allows
    (base : IntegerBase)
    (digits : List Char) :
    Prop :=
  base = .decimal →
    numberOfDigits 10 digits = 0 ∨ digits.head?.bind digitValue? ≠ some 0

end IntegerBase

instance
    (base : IntegerBase)
    (digits : List Char) :
    Decidable (base.Allows digits) :=
  inferInstanceAs (Decidable (_ → _))

/-- The letters that may end an integer. -/
def integerSuffixes : List Char :=
  ['l', 'L', 'u', 'U']

/-- The digits among underscores. -/
def withoutUnderscores (written : List Char) : List Char :=
  written.filter (· != '_')

/-- An integer as source code writes it. -/
structure IntegerLiteral where
  base : IntegerBase
  mark : List Char
  /-- The digits, with underscores among them. -/
  written : List Char
  suffix : List Char
  isMark : mark ∈ base.marks
  areDigits : AreDigits base.radix (withoutUnderscores written)
  hasDigit : withoutUnderscores written ≠ []
  allowed : base.Allows (withoutUnderscores written)
  areSuffixes : ∀ letter ∈ suffix, letter ∈ integerSuffixes

namespace IntegerLiteral

variable (literal : IntegerLiteral)

/-- The characters of the literal. -/
def text : String :=
  String.ofList (literal.mark ++ (literal.written ++ literal.suffix))

/-- The digits of the literal. -/
def digits : List Char :=
  withoutUnderscores literal.written

/-- The integer that the literal denotes. -/
def value : Nat :=
  numberOfDigits literal.base.radix literal.digits

/-- The same literal without its suffix. -/
def unsuffixed : IntegerLiteral :=
  { literal with
    suffix := []
    areSuffixes := by simp }

/-- The digits that are not taken for a suffix. -/
def readDigits : List Char :=
  if literal.suffix = [] then
    literal.digits
  else
    literal.digits.rdropWhile suffixLetters.contains

/-- No digit in front of a suffix is taken for a part of it. -/
def KeepsDigits : Prop :=
  literal.suffix = [] ∨
    ∀ last ∈ literal.digits.getLast?, suffixLetters.contains last = false

/-- The literal is small enough for a number, or long enough for an infinite one. -/
def Converts : Prop :=
  (∀ negative, nearest literal.value ≠ .infinite negative) ∨
    literal.base.IsLong literal.digits

end IntegerLiteral

/-! ## One spelling -/

/-- Letters that end integers are digits of no base. -/
theorem baseDigit?_of_suffix
    (base : Nat) :
    ∀ letter ∈ integerSuffixes, baseDigit? base letter = none := by
  have noDigit :
      ∀ letter ∈ integerSuffixes,
        ¬ ('a' ≤ letter ∧ letter ≤ 'f') ∧
          ¬ ('A' ≤ letter ∧ letter ≤ 'F') ∧
          digitValue? letter = none := by
    apply forall_of_tested
    decide
  intro letter member
  obtain ⟨noLower, noUpper, noDecimal⟩ := noDigit letter member
  simp only [baseDigit?, noLower, noUpper, noDecimal, ↓reduceIte,
    Option.filter_none]

/-- Decimal digits and suffixes name no base. -/
theorem unmarked_of_digits
    {digits suffix : List Char}
    (areDigits : AreDigits 10 digits)
    (areSuffixes : ∀ letter ∈ suffix, letter ∈ integerSuffixes) :
    ∀ character ∈ digits ++ suffix, asciiDigit character ∉ baseLetters := by
  have areLetters : ∀ letter ∈ baseLetters, isAsciiLetter letter = true := by
    apply forall_of_tested
    decide
  intro character member isBase
  rcases List.mem_append.mp member with isDigit | isSuffix
  · have isDecimal :=
      isDecimalDigit_of_baseDigit? (Nat.le_refl 10)
        (areDigits character isDigit)
    obtain ⟨value, isValue⟩ := Option.isSome_iff_exists.mp isDecimal
    have noLetter :
        isAsciiLetter (asciiDigit character) = false :=
      isAsciiLetter_of_digitValue?
        ((digitValue?_asciiDigit character).trans isValue)
    rw [areLetters _ isBase] at noLetter
    cases noLetter
  · have noBase :
        ∀ letter ∈ integerSuffixes, asciiDigit letter ∉ baseLetters := by
      apply forall_of_tested
      decide
    exact noBase character (areSuffixes character isSuffix) isBase

/-- Behind its mark an integer is read in the base that the mark names. -/
theorem readSourceInteger?_of_marked
    {base : IntegerBase}
    (marked : base ≠ .decimal)
    {mark : List Char}
    (isMark : mark ∈ base.marks)
    (rest : List Char) :
    readSourceInteger? (mark ++ rest) = readInBase? base.radix rest := by
  have noDigits :
      asciiDigit '0' = '0' ∧ asciiDigit 'x' = 'x' ∧ asciiDigit 'X' = 'X' ∧
        asciiDigit 'b' = 'b' ∧ asciiDigit 'B' = 'B' ∧
        asciiDigit 'o' = 'o' ∧ asciiDigit 'O' = 'O' := by
    decide
  cases base with
  | decimal =>
      exact (marked rfl).elim
  | hexadecimal | binary | octal =>
      simp only [IntegerBase.marks, List.mem_cons, List.not_mem_nil,
        or_false] at isMark
      rcases isMark with rfl | rfl <;>
        simp [readSourceInteger?, noDigits, readInBase?_map_asciiDigit,
          IntegerBase.radix]

/-- A mark keeps a text from being read as a decimal. -/
theorem readDecimal?_of_marked
    {base : IntegerBase}
    (marked : base ≠ .decimal)
    {mark : List Char}
    (isMark : mark ∈ base.marks)
    {rest : List Char}
    (areShown : AreShown rest) :
    readDecimal? (String.ofList (mark ++ rest)) = none := by
  have isZero : AreDigits 10 ['0'] := by
    intro character member
    rw [List.mem_singleton.mp member]
    decide
  cases base with
  | decimal =>
      exact (marked rfl).elim
  | hexadecimal | binary | octal =>
      simp only [IntegerBase.marks, List.mem_cons, List.not_mem_nil,
        or_false] at isMark
      rcases isMark with rfl | rfl <;>
        exact
          readDecimal?_eq_none isZero (by decide) (by decide) (by decide)
            areShown

/-- A mark alone is no number. -/
theorem plainNumber?_of_mark
    {base : IntegerBase}
    (marked : base ≠ .decimal)
    {mark : List Char}
    (isMark : mark ∈ base.marks) :
    plainNumber? mark = none := by
  have noDigits := readSourceInteger?_of_marked marked isMark []
  have noneShown : AreShown [] := by
    simp [AreShown]
  have noDecimal := readDecimal?_of_marked marked isMark noneShown
  rw [List.append_nil] at noDigits noDecimal
  rw [plainNumber?, noDigits, noDecimal]
  rfl

section Spelling

variable
  {base : IntegerBase}
  {mark digits : List Char}
  (isMark : mark ∈ base.marks)
  (areDigits : AreDigits base.radix digits)

include isMark areDigits

open readSourceInteger? in
/-- Digits behind the mark of their base are converted. -/
theorem plainNumber?_of_digits
    (hasDigit : digits ≠ [])
    (allowed : base.Allows digits) :
    plainNumber? (mark ++ digits) = some (base.convert digits) := by
  by_cases isDecimal : base = .decimal
  · subst isDecimal
    have noMark : mark = [] := List.mem_singleton.mp isMark
    have isRead : readSourceInteger? digits = readDecimalDigits digits := by
      refine readSourceInteger?_of_unmarked ?_
      have noSuffix : ∀ letter ∈ ([] : List Char), letter ∈ integerSuffixes := by
        simp
      intro character member
      exact
        unmarked_of_digits areDigits noSuffix character
          (List.mem_append_left _ member)
    rw [noMark, List.nil_append, plainNumber?, isRead, readDecimalDigits]
    by_cases isLong : greatestDigitCount < digits.length
    · have isLongToo : IntegerBase.decimal.IsLong digits := ⟨rfl, isLong⟩
      rw [if_pos isLong, readDecimal?_of_digits areDigits hasDigit,
        Binary64.ofDecimal_zero, IntegerBase.convert, if_pos isLongToo]
      rfl
    · have notLong : ¬ IntegerBase.decimal.IsLong digits := by
        rintro ⟨_, isLonger⟩
        exact isLong isLonger
      have passes :
          (numberOfDigits 10 digits == 0 ||
            digits.head?.bind digitValue? != some 0) = true := by
        simpa using allowed rfl
      have isValue :
          readInBase? 10 digits = some (numberOfDigits 10 digits) :=
        readInBase?_of_digits areDigits hasDigit
      rw [if_neg isLong, isValue, Option.filter_some, if_pos passes,
        IntegerBase.convert, if_neg notLong]
      rfl
  · have notLong : ¬ base.IsLong digits := by
      rintro ⟨isBase, _⟩
      exact isDecimal isBase
    rw [plainNumber?, readSourceInteger?_of_marked isDecimal isMark,
      readInBase?_of_digits areDigits hasDigit, IntegerBase.convert,
      if_neg notLong]

open readSourceInteger? in
/-- With a suffix there is no reading of digits. -/
theorem plainNumber?_of_suffixed
    (hasDigit : digits ≠ [])
    {suffix : List Char}
    (areSuffixes : ∀ letter ∈ suffix, letter ∈ integerSuffixes)
    (hasSuffix : suffix ≠ []) :
    plainNumber? (mark ++ (digits ++ suffix)) = none := by
  obtain ⟨letter, more, rfl⟩ := List.exists_cons_of_ne_nil hasSuffix
  have isSuffix := areSuffixes letter List.mem_cons_self
  have suffixShown : ∀ letter ∈ integerSuffixes, isAsciiLetter letter = true := by
    apply forall_of_tested
    decide
  have noExponents :
      ∀ letter ∈ integerSuffixes, letter ≠ 'e' ∧ letter ≠ 'E' := by
    apply forall_of_tested
    decide
  have isThere : letter ∈ digits ++ letter :: more := by
    simp
  have noDigits (radix : Nat) :
      readInBase? radix (digits ++ letter :: more) = none :=
    readInBase?_eq_none isThere (baseDigit?_of_suffix radix letter isSuffix)
  have moreShown : AreShown more := fun character member =>
    .inl
      (suffixShown character
        (areSuffixes character (List.mem_cons_of_mem _ member)))
  by_cases isDecimal : base = .decimal
  · subst isDecimal
    have noMark : mark = [] := List.mem_singleton.mp isMark
    have isRead :=
      readSourceInteger?_of_unmarked (unmarked_of_digits areDigits areSuffixes)
    have unread :
        readDecimalDigits (digits ++ letter :: more) = none := by
      rw [readDecimalDigits, noDigits]
      split <;> rfl
    rw [noMark, List.nil_append, plainNumber?, isRead, unread,
      readDecimal?_eq_none areDigits hasDigit (suffixShown letter isSuffix)
        (noExponents letter isSuffix) moreShown]
    rfl
  · have areShown : AreShown (digits ++ letter :: more) := by
      intro character member
      rcases List.mem_append.mp member with isDigit | isLetter
      · exact areDigits.areShown character isDigit
      · exact .inl (suffixShown character (areSuffixes character isLetter))
    rw [plainNumber?, readSourceInteger?_of_marked isDecimal isMark, noDigits,
      readDecimal?_of_marked isDecimal isMark areShown]
    rfl

end Spelling

/-- Marks do not end with a letter that may end a number. -/
theorem rdropWhile_mark
    {base : IntegerBase}
    {mark : List Char}
    (isMark : mark ∈ base.marks) :
    mark.rdropWhile suffixLetters.contains = mark := by
  have stays :
      ∀ mark ∈ base.marks, mark.rdropWhile suffixLetters.contains = mark := by
    cases base <;> decide
  exact stays mark isMark

/-- A suffix is dropped, with the digits before it that might belong to it. -/
theorem withoutSuffix_append
    {base : IntegerBase}
    {mark suffix : List Char}
    (isMark : mark ∈ base.marks)
    (areSuffixes : ∀ letter ∈ suffix, letter ∈ integerSuffixes)
    (digits : List Char) :
    withoutSuffix (mark ++ (digits ++ suffix)) =
      mark ++ digits.rdropWhile suffixLetters.contains := by
  have suffixesListed :
      ∀ letter ∈ integerSuffixes, suffixLetters.contains letter = true := by
    apply forall_of_tested
    decide
  have areDropped : ∀ letter ∈ suffix.reverse, suffixLetters.contains letter := by
    intro letter member
    exact suffixesListed letter (areSuffixes letter (List.mem_reverse.mp member))
  have markStays :
      mark.reverse.dropWhile suffixLetters.contains = mark.reverse := by
    rw [← List.reverse_inj, List.reverse_reverse]
    exact rdropWhile_mark isMark
  rw [withoutSuffix, List.reverse_append, List.reverse_append,
    List.append_assoc, List.dropWhile_append_of_pos areDropped,
    List.dropWhile_append, markStays]
  split
  · next noneLeft =>
      rw [List.rdropWhile, List.isEmpty_iff.mp noneLeft]
      simp
  · rw [List.rdropWhile, List.reverse_append, List.reverse_reverse]

/-- Only digits of base sixteen are taken for a suffix. -/
theorem rdropWhile_digits
    {base : Nat}
    (upToTen : base ≤ 10)
    {digits : List Char}
    (areDigits : AreDigits base digits) :
    digits.rdropWhile suffixLetters.contains = digits := by
  have areLetters : ∀ letter ∈ suffixLetters, isAsciiLetter letter = true := by
    apply forall_of_tested
    decide
  rw [List.rdropWhile_eq_self_iff]
  intro hasDigit isSuffix
  have isDecimal :=
    isDecimalDigit_of_baseDigit? upToTen
      (areDigits _ (List.getLast_mem hasDigit))
  rw [isDecimalDigit,
    digitValue?_of_letter
      (areLetters _ (List.contains_iff_mem.mp isSuffix))] at isDecimal
  cases isDecimal

namespace IntegerLiteral

variable (literal : IntegerLiteral)

/-- Underscores stand among the digits only. -/
theorem withoutUnderscores_text :
    literal.text.toList.filter (· != '_') =
      literal.mark ++ (literal.digits ++ literal.suffix) := by
  have markStays : ∀ mark ∈ literal.base.marks, mark.filter (· != '_') = mark := by
    cases literal.base <;> decide
  have suffixStays : literal.suffix.filter (· != '_') = literal.suffix := by
    have noUnderscore : ∀ letter ∈ integerSuffixes, (letter != '_') = true := by
      apply forall_of_tested
      decide
    rw [List.filter_eq_self]
    intro letter member
    exact noUnderscore letter (literal.areSuffixes letter member)
  rw [text, String.toList_ofList, List.filter_append, List.filter_append,
    markStays literal.mark literal.isMark, suffixStays]
  rfl

/-- The digits that are read are the first ones. -/
theorem readDigits_prefix : literal.readDigits <+: literal.digits := by
  unfold readDigits
  split
  · exact List.prefix_rfl
  · exact List.rdropWhile_prefix _ _

/-- Unless a suffix takes some of them, all digits are read. -/
theorem readDigits_of_keeps
    (keeps : literal.KeepsDigits) :
    literal.readDigits = literal.digits := by
  unfold readDigits
  split
  · rfl
  · next hasSuffix =>
      rw [List.rdropWhile_eq_self_iff]
      intro hasDigit
      have noSuffix :=
        keeps.resolve_left hasSuffix _ (List.getLast?_eq_getLast_of_ne_nil hasDigit)
      rw [noSuffix]
      exact Bool.false_ne_true

/-- Outside of base sixteen all digits are read. -/
theorem readDigits_of_radix
    (upToTen : literal.base.radix ≤ 10) :
    literal.readDigits = literal.digits := by
  unfold readDigits
  split
  · rfl
  · exact rdropWhile_digits upToTen literal.areDigits

/-- What is found in the text is the value of the digits that are read. -/
theorem numberValue_text :
    numberValue literal.text = literal.base.valueOf literal.readDigits := by
  have isMark := literal.isMark
  have hasDigit : literal.digits ≠ [] := literal.hasDigit
  have areDigits : AreDigits literal.base.radix literal.digits :=
    literal.areDigits
  have isPlain :
      plainNumber? (literal.mark ++ literal.digits) =
        some (literal.base.convert literal.digits) :=
    plainNumber?_of_digits isMark areDigits hasDigit literal.allowed
  unfold numberValue
  simp only [withoutUnderscores_text]
  by_cases noSuffix : literal.suffix = []
  · have allRead : literal.readDigits = literal.digits :=
      literal.readDigits_of_keeps (.inl noSuffix)
    rw [noSuffix, List.append_nil, isPlain, Option.some_or, allRead,
      IntegerBase.valueOf, if_neg hasDigit]
  · have someRead :
        literal.readDigits =
          literal.digits.rdropWhile suffixLetters.contains := by
      rw [readDigits, if_neg noSuffix]
    rw [plainNumber?_of_suffixed isMark areDigits hasDigit
        literal.areSuffixes noSuffix,
      Option.none_or, withoutSuffix_append isMark literal.areSuffixes,
      ← someRead, IntegerBase.valueOf]
    by_cases isDecimal : literal.base = .decimal
    · have allRead : literal.readDigits = literal.digits := by
        refine literal.readDigits_of_radix ?_
        rw [isDecimal]
        decide
      rw [allRead, if_neg hasDigit, isPlain]
    · by_cases noneLeft : literal.readDigits = []
      · rw [noneLeft, List.append_nil, plainNumber?_of_mark isDecimal isMark,
          if_pos rfl]
      · have areDigitsToo :
            AreDigits literal.base.radix literal.readDigits :=
          fun character member =>
            areDigits character (literal.readDigits_prefix.subset member)
        have allowed : literal.base.Allows literal.readDigits :=
          fun isBase => (isDecimal isBase).elim
        rw [plainNumber?_of_digits isMark areDigitsToo noneLeft allowed,
          if_neg noneLeft]

/-- Where all digits are read and make no infinite number, it is the nearest one. -/
theorem numberValue_of_converts
    (keeps : literal.KeepsDigits)
    (converts : literal.Converts) :
    numberValue literal.text = .ok (some (nearest literal.value)) := by
  have hasDigit : literal.digits ≠ [] := literal.hasDigit
  rw [numberValue_text, literal.readDigits_of_keeps keeps,
    IntegerBase.valueOf, if_neg hasDigit, IntegerBase.convert]
  split
  · rfl
  · next notLong =>
      have isFinite := converts.resolve_right notLong
      rw [numberOfNat_eq]
      split
      · next negative isInfinite =>
          exact (isFinite negative isInfinite).elim
      · rfl

/-- Where all digits are read and make an infinite number, the literal is refused. -/
theorem numberValue_of_not_converts
    (keeps : literal.KeepsDigits)
    (notConverts : ¬ literal.Converts) :
    numberValue literal.text = .error .numberTooLarge := by
  have hasDigit : literal.digits ≠ [] := literal.hasDigit
  rw [numberValue_text, literal.readDigits_of_keeps keeps,
    IntegerBase.valueOf, if_neg hasDigit, IntegerBase.convert]
  split
  · next isLong =>
      exact (notConverts (.inr isLong)).elim
  · rw [numberOfNat_eq]
    split
    · rfl
    · next isFinite =>
        exact (notConverts (.inl isFinite)).elim

/-- Where all digits are read, a suffix changes nothing. -/
theorem numberValue_unsuffixed
    (keeps : literal.KeepsDigits) :
    numberValue literal.text = numberValue literal.unsuffixed.text := by
  have allRead : literal.unsuffixed.readDigits = literal.digits := rfl
  rw [numberValue_text, numberValue_text, allRead,
    literal.readDigits_of_keeps keeps]
  rfl

/-- Where all digits are read, there is a value unless the literal is refused. -/
theorem numberValue_ne_none
    (keeps : literal.KeepsDigits) :
    numberValue literal.text ≠ .ok none := by
  by_cases converts : literal.Converts
  · rw [literal.numberValue_of_converts keeps converts]
    simp
  · rw [literal.numberValue_of_not_converts keeps converts]
    simp

/-- What the text of an integer literal is taken for. -/
structure IsValued : Prop where
  /-- Digits that may belong to a suffix are taken for it, and none may be left. -/
  value :
    numberValue literal.text = literal.base.valueOf literal.readDigits
  /-- Only in base sixteen are there digits that may belong to a suffix. -/
  keeps : literal.base ≠ .hexadecimal → literal.readDigits = literal.digits
  /-- Otherwise the value is the integer, as the number nearest to it. -/
  converted :
    literal.KeepsDigits →
      literal.Converts →
      numberValue literal.text = .ok (some (nearest literal.value))
  /-- Only integers that are too large and not too long are refused. -/
  refused :
    literal.KeepsDigits →
      ¬ literal.Converts →
      numberValue literal.text = .error .numberTooLarge
  /-- The same literal without its suffix stands for the same. -/
  unsuffixed :
    literal.KeepsDigits →
      ∀ token other : Token,
        token.kind ≠ .string → token.text = literal.text →
        other.kind ≠ .string → other.text = literal.unsuffixed.text →
        ∀ negated, literalValue token negated = literalValue other negated

/--
An integer literal has the value of the digits that are read of it. These are
all of them, unless a suffix follows a digit that might belong to it.
-/
theorem isValued : literal.IsValued where
  value := literal.numberValue_text
  keeps notHexadecimal := by
    refine literal.readDigits_of_radix ?_
    revert notHexadecimal
    cases literal.base <;> simp [IntegerBase.radix]
  converted := literal.numberValue_of_converts
  refused := literal.numberValue_of_not_converts
  unsuffixed keeps token other noString spelled noStringToo spelledToo negated := by
    have hasValue := literal.numberValue_ne_none keeps
    have same := literal.numberValue_unsuffixed keeps
    rw [literalValue, literalValue, if_neg noString, if_neg noStringToo,
      spelled, spelledToo, ← same]
    cases isRead : numberValue literal.text with
    | error fault => rfl
    | ok found =>
        cases found with
        | none => exact (hasValue isRead).elim
        | some value => rfl

/-- A thousand, with digits in groups and a suffix. -/
def groupedSample : IntegerLiteral where
  base := .decimal
  mark := []
  written := ['1', '_', '0', '0', '0']
  suffix := ['U', 'L']
  isMark := by decide
  areDigits := by decide
  hasDigit := by decide
  allowed := by decide
  areSuffixes := by simp [integerSuffixes]

/-- A suffix that takes no digit leaves a thousand a thousand. -/
theorem isValued_groupedSample :
    groupedSample.text = "1_000UL" ∧
      groupedSample.value = 1000 ∧
      numberValue "1_000UL" = .ok (some (nearest 1000)) ∧
      groupedSample.IsValued := by
  have keeps : groupedSample.KeepsDigits := by
    refine .inr ?_
    rintro last ⟨⟩
    decide
  have converts : groupedSample.Converts := by
    refine .inl fun negative => ?_
    decide +revert +kernel
  exact
    ⟨by decide, by decide, groupedSample.isValued.converted keeps converts,
      groupedSample.isValued⟩

/-- Thirty-one in base sixteen, as a long integer. -/
def trailingSample : IntegerLiteral where
  base := .hexadecimal
  mark := ['0', 'x']
  written := ['1', 'F']
  suffix := ['L']
  isMark := by decide
  areDigits := by decide
  hasDigit := by decide
  allowed := by decide
  areSuffixes := by simp [integerSuffixes]

/-- Two hundred and fifty-five in base sixteen, as a long integer. -/
def swallowedSample : IntegerLiteral where
  base := .hexadecimal
  mark := ['0', 'x']
  written := ['F', 'F']
  suffix := ['L']
  isMark := by decide
  areDigits := by decide
  hasDigit := by decide
  allowed := by decide
  areSuffixes := by simp [integerSuffixes]

/-- An integer of four hundred digits. -/
def largeSample : IntegerLiteral where
  base := .decimal
  mark := []
  written := List.replicate 400 '9'
  suffix := []
  isMark := by decide
  areDigits := by decide +kernel
  hasDigit := by decide +kernel
  allowed := by decide +kernel
  areSuffixes := by simp [integerSuffixes]

/--
Digits before a suffix are taken for a part of it: one of two leaves another
value, both leave none. Without the suffix both literals have their value, and
an integer of four hundred digits is refused.
-/
theorem numberValue_of_trailingDigits :
    (trailingSample.text = "0x1FL" ∧ trailingSample.value = 31 ∧
      numberValue "0x1FL" = .ok (some (nearest 1)) ∧
      numberValue "0x1F" = .ok (some (nearest 31))) ∧
    (swallowedSample.text = "0xFFL" ∧ swallowedSample.value = 255 ∧
      numberValue "0xFFL" = .ok none ∧
      numberValue "0xFF" = .ok (some (nearest 255))) ∧
    numberValue largeSample.text = .error .numberTooLarge := by
  have notConverts : ¬ largeSample.Converts := by
    have isInfinite : nearest largeSample.value = .infinite false := by
      decide +kernel
    rintro (isFinite | isLong)
    · exact isFinite false isInfinite
    · exact absurd isLong (by decide +kernel)
  refine ⟨⟨by decide, by decide, ?_, ?_⟩, ⟨by decide, by decide, ?_, ?_⟩, ?_⟩
  · exact eq_ok_of_toOption_eq_some (by decide +kernel)
  · exact eq_ok_of_toOption_eq_some (by decide +kernel)
  · exact eq_ok_of_toOption_eq_some (by decide +kernel)
  · exact eq_ok_of_toOption_eq_some (by decide +kernel)
  · exact largeSample.numberValue_of_not_converts (.inl rfl) notConverts

end IntegerLiteral

end MagicLiteral

end HouseStyle
