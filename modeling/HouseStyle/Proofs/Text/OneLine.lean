import HouseStyle.Text.Quoted
import Mathlib

namespace HouseStyle

/-!
# Texts on one line

A text stands on one line if there is no line feed in it. Numbers do, and so does
whatever is shown between quotes, for a line feed between quotes is escaped. Texts
that are joined by line feeds can be told apart again if each stands on one line.
-/

/-- There is no line feed in the text. -/
def IsOneLine (text : String) : Prop :=
  '\n' ∉ text.toList

instance (text : String) : Decidable (IsOneLine text) :=
  inferInstanceAs (Decidable ('\n' ∉ text.toList))

@[simp] theorem isOneLine_append
    {front back : String} :
    IsOneLine (front ++ back) ↔ IsOneLine front ∧ IsOneLine back := by
  simp [IsOneLine, not_or]

/-- A natural number is written on one line. -/
@[simp] theorem isOneLine_nat (number : Nat) :
    IsOneLine number.repr := by
  intro isBreak
  rw [Nat.toList_repr] at isBreak
  have isDigit := Nat.isDigit_of_mem_toDigits (by decide) (by decide) isBreak
  cases isDigit

/-- An integer is written on one line. -/
@[simp] theorem isOneLine_int (number : Int) :
    IsOneLine number.repr := by
  have sign : IsOneLine "-" := by
    decide
  rw [Int.repr_eq_if]
  split <;> simp [sign]

/-! ## Between quotes -/

/-- The digits of a number to any base are no line feeds. -/
theorem not_mem_toDigits
    {base : Nat}
    (isBase : 1 < base)
    (number : Nat) :
    '\n' ∉ Nat.toDigits base number := by
  induction number using Nat.strongRecOn with
  | ind number inductionHypothesis =>
      rw [Nat.toDigits_eq_if isBase]
      split
      · simp
      · next hasFront =>
          have isFront : number / base < number :=
            Nat.div_lt_self (by omega) isBase
          simpa using inductionHypothesis _ isFront

/-- Hexadecimal digits are no line feeds. -/
theorem not_mem_hexDigits (width code : Nat) :
    '\n' ∉ hexDigits width code := by
  have digits := not_mem_toDigits (show 1 < 16 by decide) code
  simp [hexDigits, digits]

/-- Whatever the character, it is shown between quotes without a line feed. -/
theorem not_mem_quoteCharacter
    {quote : Char}
    (isQuote : quote ≠ '\n')
    (character : Char) :
    '\n' ∉ quoteCharacter quote character := by
  have digits := not_mem_hexDigits
  unfold quoteCharacter
  simp only
  repeat' split
  · next isEscaped =>
      rcases isEscaped with rfl | rfl
      · simpa using isQuote.symm
      · decide
  · decide
  · decide
  · decide
  · next isOther _ _ _ => simpa using Ne.symm isOther
  · simpa using digits 2 character.toNat
  · simpa using digits 4 character.toNat
  · simpa using digits 8 character.toNat

/-- What stands between quotes stands on one line. -/
@[simp] theorem isOneLine_quoted (text : String) :
    IsOneLine (quoted text) := by
  have isQuote : quoteAround text.toList ≠ '\n' := by
    unfold quoteAround
    split <;> decide
  have inside (character : Char) := not_mem_quoteCharacter isQuote character
  simp [IsOneLine, quoted, isQuote.symm, inside]

/-! ## The lines of a text -/

/-- What the line feeds of a text separate; a text without characters has no lines. -/
def linesOf (text : String) : List String :=
  if text = "" then [] else (text.toList.splitOn '\n').map String.ofList

/-- Line feeds separate one part more than there are line feeds. -/
theorem length_splitOn (characters : List Char) :
    (characters.splitOn '\n').length = characters.count '\n' + 1 := by
  induction characters with
  | nil => rfl
  | cons first rest inductionHypothesis =>
      rw [List.splitOn_cons_eq_if_modifyHead, List.count_cons]
      split
      · rw [List.length_cons, inductionHypothesis]
      · rw [List.length_modifyHead, inductionHypothesis]

section Joined

variable {lines : List String}

/-- Texts that are joined by line feeds hold one line feed less than texts, or more. -/
theorem count_intercalate
    (nonempty : lines ≠ []) :
    ("\n".intercalate lines).toList.count '\n' + 1 =
      (lines.map fun line => line.toList.count '\n' + 1).sum := by
  induction lines with
  | nil => exact (nonempty rfl).elim
  | cons line rest inductionHypothesis =>
      cases rest with
      | nil => simp
      | cons next others =>
          have ofRest := inductionHypothesis (List.cons_ne_nil next others)
          rw [String.toList_intercalate] at ofRest ⊢
          have separator : "\n".toList.count '\n' = 1 := by
            decide
          rw [List.map_cons, List.map_cons, List.intercalate_cons_cons,
            List.count_append, List.count_append, separator, List.map_cons,
            List.sum_cons, ← ofRest, ← List.map_cons]
          omega

variable (written : ∀ line ∈ lines, line ≠ "")

include written

/-- Joined texts that are written out are written out. -/
theorem intercalate_ne_empty
    (nonempty : lines ≠ []) :
    "\n".intercalate lines ≠ "" := by
  intro isEmpty
  have noCharacters := congrArg String.toList isEmpty
  rw [String.toList_intercalate] at noCharacters
  cases lines with
  | nil => exact nonempty rfl
  | cons line rest =>
      have ofFirst := written line List.mem_cons_self
      cases rest with
      | nil => simp_all
      | cons next others =>
          rw [List.map_cons, List.map_cons, List.intercalate_cons_cons] at noCharacters
          simp at noCharacters

/-- Texts that are joined by line feeds have the lines that each of them has. -/
theorem length_linesOf_intercalate :
    (linesOf ("\n".intercalate lines)).length =
      (lines.map fun line => line.toList.count '\n' + 1).sum := by
  by_cases nonempty : lines = []
  · subst nonempty
    rfl
  · rw [linesOf, if_neg (intercalate_ne_empty written nonempty), List.length_map,
      length_splitOn, count_intercalate nonempty]

/-- Texts on one line that are joined by line feeds are the lines of the whole. -/
theorem linesOf_intercalate
    (oneLine : ∀ line ∈ lines, IsOneLine line) :
    linesOf ("\n".intercalate lines) = lines := by
  by_cases nonempty : lines = []
  · subst nonempty
    rfl
  · have areApart :
        (['\n'].intercalate (lines.map String.toList)).splitOn '\n' =
          lines.map String.toList := by
      refine List.splitOn_intercalate '\n' ?_ (by simpa using nonempty)
      intro characters member
      obtain ⟨line, isLine, rfl⟩ := List.mem_map.mp member
      exact oneLine line isLine
    rw [linesOf, if_neg (intercalate_ne_empty written nonempty),
      String.toList_intercalate]
    have separator : "\n".toList = ['\n'] := rfl
    rw [separator, areApart, List.map_map]
    simp

end Joined

end HouseStyle
