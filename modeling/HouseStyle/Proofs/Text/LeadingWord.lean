import HouseStyle.Pattern.Reading
import HouseStyle.Proofs.Pattern.Backtracking
import HouseStyle.Proofs.Text.Words
import Mathlib

namespace HouseStyle

/-!
# The word that a name starts with

The words of a name can be told by their first characters, or searched for with a
pattern that takes as much as it can and gives back what was too much. Both find the
same first word.
-/

/-! ## A word as a pattern -/

/-- A capital as a pattern. -/
def capitalLetter : Pattern :=
  .set .exact false [.range 65 90]

/-- A small letter as a pattern. -/
def smallLetterSet : Pattern :=
  .set .exact false [.range 97 122]

/-- A decimal digit as a pattern. -/
def digitSet : Pattern :=
  .set .exact false [.ofKind .digit false false]

/-- A word of small letters, a capital in front of it or not. -/
def smallWordPattern : Pattern :=
  .sequence
    [.repeated .greedy 0 (some 1) capitalLetter,
      .repeated .greedy 1 none smallLetterSet]

/-- Capitals that no small letter follows. -/
def capitalWordPattern : Pattern :=
  .sequence
    [.repeated .greedy 1 none capitalLetter,
      .look none true (.sequence [smallLetterSet])]

/-- A word as a pattern. -/
def wordPattern : Pattern :=
  .choice
    [smallWordPattern,
      capitalWordPattern,
      .sequence [.repeated .greedy 1 none digitSet]]

/-- A word as it is spelled as a pattern. -/
def wordSpelling : String :=
  "[A-Z]?[a-z]+|[A-Z]+(?![a-z])|\\d+"

/-- The spelling is read as the pattern. -/
theorem read_wordSpelling : Pattern.read wordSpelling = .ok wordPattern := by
  cbv

/-! ## Sets of characters -/

section Matching

variable
  {text : Array Char}
  {remembered : List Nat}
  {state : MatchState}

/-- A range of characters takes those between its ends. -/
theorem ends_range
    {accepted : Char → Bool}
    {low high : Nat}
    (isRange :
      ∀ {character},
        accepted character = true ↔ low ≤ character.toNat ∧ character.toNat ≤ high)
    (state : MatchState) :
    (Pattern.set .exact false [.range low high]).ends text remembered state =
      characterEnds text accepted state := by
  have same :
      (fun character =>
        [SetMember.range low high].any (·.accepts .exact character) != false) =
        accepted := by
    funext character
    rw [Bool.eq_iff_iff, isRange]
    simp [SetMember.accepts, CaseRule.variants]
  simp only [Pattern.ends, same]

theorem ends_capitalLetter (state : MatchState) :
    capitalLetter.ends text remembered state = characterEnds text isCapital state :=
  ends_range isCapital_iff state

theorem ends_smallLetterSet (state : MatchState) :
    smallLetterSet.ends text remembered state =
      characterEnds text isSmallLetter state :=
  ends_range isSmallLetter_iff state

theorem ends_digitSet (state : MatchState) :
    digitSet.ends text remembered state = characterEnds text isDecimalDigit state := by
  have same :
      (fun character =>
        [SetMember.ofKind .digit false false].any (·.accepts .exact character) != false) =
        isDecimalDigit := by
    funext character
    simp [SetMember.accepts, CharacterKind.holds]
  simp only [digitSet, Pattern.ends, same]

/-! ## The words of each kind -/

/-- A greedy repetition gives back its last character first. -/
theorem findSome?_reverse_range_succ
    {Value : Type}
    (count : Nat)
    (read : Nat → Option Value) :
    (List.range (count + 1)).reverse.findSome? read =
      (read count).or ((List.range count).reverse.findSome? read) := by
  rw [List.range_succ, List.reverse_append, List.reverse_singleton,
    List.singleton_append, List.findSome?_cons]
  cases read count <;> rfl

/-- A repetition that nothing follows ends behind the run of its characters. -/
theorem head?_ends_run
    {accepted : Char → Bool}
    {part : Pattern}
    (isSet :
      ∀ state, part.ends text remembered state = characterEnds text accepted state)
    (state : MatchState) :
    ((Pattern.sequence [.repeated .greedy 1 none part]).ends
        text remembered state).head? =
      (runAt? accepted (state.rest text)).map fun run => state.onward run.length := by
  rw [← findSome?_some, findSome?_ends_singleton, findSome?_ends_some isSet]
  unfold runAt?
  cases (state.rest text).takeWhile accepted with
  | nil =>
      rfl
  | cons first others =>
      rw [List.length_cons, findSome?_reverse_range_succ]
      rfl

/-- If small letters follow a capital, it is taken; else it is given back. -/
theorem head?_ends_smallWordPattern :
    (smallWordPattern.ends text remembered state).head? =
      (smallWord? (state.rest text)).map fun word => state.onward word.length := by
  have letters (state : MatchState) :
      ((Pattern.sequence [.repeated .greedy 1 none smallLetterSet]).ends
          text remembered state).findSome? some =
        (runAt? isSmallLetter (state.rest text)).map fun run =>
          state.onward run.length := by
    rw [findSome?_some, head?_ends_run ends_smallLetterSet]
  unfold smallWordPattern
  rw [← findSome?_some, findSome?_ends_sequence,
    findSome?_ends_optional ends_capitalLetter]
  simp only [letters]
  by_cases startsCapital : ∃ first ∈ (state.rest text).head?, isCapital first = true
  · obtain ⟨first, isFirst, isLetter⟩ := startsCapital
    obtain ⟨behind, isRest⟩ := List.head?_eq_some_iff.mp isFirst
    have notSmall : ∀ letter ∈ (first :: behind).head?, isSmallLetter letter = false := by
      simpa using isSmallLetter_of_isCapital isLetter
    rw [characterEnds_of_accepted isRest isLetter, isRest, runAt?_of_refused notSmall,
      smallWord?_of_isCapital isLetter]
    simp [isRest, Function.comp_def, Nat.add_comm 1]
  · have notCapital : ∀ first ∈ (state.rest text).head?, isCapital first = false := by
      simpa using startsCapital
    rw [characterEnds_of_refused notCapital, smallWord?_of_not_isCapital notCapital]
    rfl

/-- If a small letter follows the capitals, the last of them is given back. -/
theorem head?_ends_capitalWordPattern :
    (capitalWordPattern.ends text remembered state).head? =
      (capitalWord? (state.rest text)).map fun word => state.onward word.length := by
  have notFollowed (state : MatchState) :
      ((Pattern.sequence [.look none true (.sequence [smallLetterSet])]).ends
          text remembered state).findSome? some =
        if (state.rest text).head?.any isSmallLetter then none else some state := by
    rw [findSome?_ends_singleton, findSome?_ends_notFollowed ends_smallLetterSet]
  unfold capitalWordPattern
  rw [← findSome?_some, findSome?_ends_sequence,
    findSome?_ends_some ends_capitalLetter]
  simp only [notFollowed, MatchState.rest_onward]
  by_cases startsCapital : ∃ first ∈ (state.rest text).head?, isCapital first = true
  · obtain ⟨first, isFirst, isLetter⟩ := startsCapital
    obtain ⟨others, isRest⟩ := List.head?_eq_some_iff.mp isFirst
    obtain ⟨run, behind, isSplit, isRun⟩ := exists_isRun isLetter others
    obtain ⟨start, last, isWhole⟩ :=
      (List.eq_nil_or_concat run).resolve_left isRun.isNonempty
    rw [List.concat_eq_append] at isWhole
    subst isWhole
    rw [isRest, isSplit, isRun.takeWhile_eq, List.length_append, List.length_singleton,
      findSome?_reverse_range_succ]
    have behindRun : (start ++ [last] ++ behind).drop (start.length + 1) = behind :=
      List.drop_left' (by simp)
    rw [behindRun]
    by_cases smallNext : ∃ next ∈ behind.head?, isSmallLetter next = true
    · obtain ⟨next, isNext, isSmall⟩ := smallNext
      obtain ⟨further, rfl⟩ := List.head?_eq_some_iff.mp isNext
      have found := capitalWord?_of_small_behind isRun isSmall
      have lastLetter : isSmallLetter last = false :=
        isSmallLetter_of_isCapital (isRun.areAccepted last (by simp))
      rw [List.append_assoc, List.singleton_append, found]
      cases start with
      | nil =>
          simp [isSmall]
      | cons second middle =>
          -- In front of the last capital the run is given back no further.
          have atLast :
              (second :: middle ++ last :: next :: further).drop (middle.length + 1) =
                last :: next :: further :=
            List.drop_left' rfl
          rw [List.length_cons, findSome?_reverse_range_succ, atLast]
          simp [isSmall, lastLetter]
    · have notSmall : ∀ next ∈ behind.head?, isSmallLetter next = false := by
        simpa using smallNext
      have goesOn : behind.head?.any isSmallLetter = false := by
        cases behind with
        | nil =>
            rfl
        | cons next further =>
            exact notSmall next rfl
      rw [capitalWord?_of_isRun isRun notSmall, goesOn]
      simp
  · have notCapital : ∀ first ∈ (state.rest text).head?, isCapital first = false := by
      simpa using startsCapital
    rw [takeWhile_of_refused notCapital, capitalWord?_of_not_isCapital notCapital]
    rfl

/-- The preferred end of a word is where the word at the head ends. -/
theorem head?_ends_wordPattern :
    (wordPattern.ends text remembered state).head? =
      (wordAt? (state.rest text)).map fun word => state.onward word.length := by
  have digits :
      ((Pattern.sequence [.repeated .greedy 1 none digitSet]).ends
          text remembered state).head? =
        (digitWord? (state.rest text)).map fun word => state.onward word.length :=
    head?_ends_run ends_digitSet state
  unfold wordPattern wordAt?
  rw [← findSome?_some, findSome?_ends_choice, findSome?_ends_choice,
    findSome?_ends_choice, findSome?_some, findSome?_some, findSome?_some,
    head?_ends_smallWordPattern, head?_ends_capitalWordPattern, digits]
  simp [Pattern.ends, choiceEnds, Option.map_or]

end Matching

/-! ## The search for a word -/

/-- The first word is the word at the head of what is left, for the first place with one. -/
theorem firstWord?_eq_findSome? (text : List Char) :
    firstWord? text =
      (List.range (text.length + 1)).findSome? fun index =>
        wordAt? (text.drop index) := by
  induction text with
  | nil =>
      rfl
  | cons first rest inductionHypothesis =>
      rw [firstWord?, inductionHypothesis, List.length_cons,
        List.range_succ_eq_map (n := rest.length + 1), List.findSome?_cons,
        List.findSome?_map, List.drop_zero]
      cases wordAt? (first :: rest) <;> rfl

/-- The first word is the first match of a word. -/
theorem firstMatch?_wordPattern (text : List Char) :
    wordPattern.firstMatch? text = firstWord? text := by
  unfold Pattern.firstMatch?
  rw [firstWord?_eq_findSome?]
  apply congrArg (fun read => (List.range (text.length + 1)).findSome? read)
  funext index
  rw [head?_ends_wordPattern, Option.map_map]
  cases found : wordAt? (text.drop index) with
  | none =>
      simp [MatchState.rest, found]
  | some word =>
      have isTaken := List.prefix_iff_eq_take.mp (wordAt?_eq_some_iff.mp found).isPrefix
      simp [MatchState.rest, MatchState.onward, found, ← isTaken]

/-! ## The leading word -/

/--
The leading word of a name is the only first word behind its marks, in small letters,
and the search for a word as a pattern finds the same.
-/
theorem exists_isFirstWord_leadingWord (name : String) :
    ∃ letters,
      leadingWord name = String.ofList (letters.map Char.toLower) ∧
        (∀ word,
          IsFirstWord (name.toList.dropWhile isNameMark) word ↔ word = letters) ∧
        ∃ pattern,
          Pattern.read wordSpelling = .ok pattern ∧
            (pattern.firstMatch? (name.toList.dropWhile isNameMark)).getD [] =
              letters := by
  refine ⟨_, leadingWord_eq name, ?_, wordPattern, read_wordSpelling, ?_⟩
  · intro word
    rw [isFirstWord_iff]
    exact eq_comm
  · rw [firstMatch?_wordPattern]

end HouseStyle
