import HouseStyle.Text.Word
import Mathlib.Data.List.TakeWhile

namespace HouseStyle

/-!
# Words by their first character

Which word a text starts with is told by its first character. Digits and small letters
make a run of their own. A capital takes the small letters behind it; without any it
starts a run of capitals, the last of which belongs to the next word if a small letter
follows.
-/

/-! ## Letters and digits -/

theorem isCapital_iff {character : Char} :
    isCapital character = true ↔
      65 ≤ character.toNat ∧ character.toNat ≤ 90 := by
  unfold isCapital
  rw [Bool.and_eq_true, decide_eq_true_iff, decide_eq_true_iff]
  rfl

theorem isSmallLetter_iff {character : Char} :
    isSmallLetter character = true ↔
      97 ≤ character.toNat ∧ character.toNat ≤ 122 := by
  unfold isSmallLetter
  rw [Bool.and_eq_true, decide_eq_true_iff, decide_eq_true_iff]
  rfl

/-- No capital is a small letter. -/
theorem isSmallLetter_of_isCapital
    {character : Char}
    (isLetter : isCapital character = true) :
    isSmallLetter character = false := by
  rw [isCapital_iff] at isLetter
  rw [Bool.eq_false_iff, ne_eq, isSmallLetter_iff]
  omega

/-- No small letter is a capital. -/
theorem isCapital_of_isSmallLetter
    {character : Char}
    (isLetter : isSmallLetter character = true) :
    isCapital character = false := by
  rw [Bool.eq_false_iff]
  intro isBoth
  rw [isSmallLetter_of_isCapital isBoth] at isLetter
  cases isLetter

/-- No digit is a letter. -/
theorem isAsciiLetter_of_isDecimalDigit
    {character : Char}
    (isDigit : isDecimalDigit character = true) :
    isCapital character = false ∧ isSmallLetter character = false := by
  have notInLetters :
      ¬(57 < character.toNat ∧ character.toNat < 128) := by
    intro isBetween
    have notSmallest :
        ¬(0x30 ≤ character.toNat ∧ character.toNat ≤ 0x39) := by
      omega
    unfold isDecimalDigit digitValue? at isDigit
    rw [if_pos isBetween.2, if_neg notSmallest] at isDigit
    cases isDigit
  rw [Bool.eq_false_iff, Bool.eq_false_iff, ne_eq, ne_eq, isCapital_iff,
    isSmallLetter_iff]
  omega

/-! ## Runs -/

/-- A run of characters of one kind that goes on as far as it can. -/
structure IsRun
    (accepted : Char → Bool)
    (run behind : List Char) :
    Prop where
  isNonempty : run ≠ []
  areAccepted : ∀ character ∈ run, accepted character = true
  isMaximal : ∀ next ∈ behind.head?, accepted next = false

/-- The run at the head of a text. -/
def runAt?
    (accepted : Char → Bool)
    (text : List Char) :
    Option (List Char) :=
  match text.takeWhile accepted with
  | [] => none
  | run => some run

section Runs

variable {accepted : Char → Bool}

/-- A character that is refused starts no run. -/
theorem takeWhile_of_refused
    {text : List Char}
    (isRefused : ∀ first ∈ text.head?, accepted first = false) :
    text.takeWhile accepted = [] := by
  cases text with
  | nil =>
      rfl
  | cons first rest =>
      apply List.takeWhile_cons_of_neg
      simp [isRefused first rfl]

theorem runAt?_of_refused
    {text : List Char}
    (isRefused : ∀ first ∈ text.head?, accepted first = false) :
    runAt? accepted text = none := by
  unfold runAt?
  rw [takeWhile_of_refused isRefused]

/-- A character that is accepted starts a run. -/
theorem exists_isRun
    {first : Char}
    (isAccepted : accepted first = true)
    (rest : List Char) :
    ∃ run behind, first :: rest = run ++ behind ∧ IsRun accepted run behind := by
  refine
    ⟨(first :: rest).takeWhile accepted, (first :: rest).dropWhile accepted,
      List.takeWhile_append_dropWhile.symm, ?_, ?_, ?_⟩
  · rw [List.takeWhile_cons_of_pos isAccepted]
    exact List.cons_ne_nil _ _
  · exact fun _ => List.mem_takeWhile_imp
  · intro next isNext
    have isStop := List.head?_dropWhile_not accepted (first :: rest)
    rw [Option.mem_def.mp isNext] at isStop
    exact isStop

namespace IsRun

variable
  {run behind : List Char}
  (isRun : IsRun accepted run behind)

include isRun

theorem takeWhile_eq : (run ++ behind).takeWhile accepted = run := by
  rw [List.takeWhile_append_of_pos isRun.areAccepted,
    takeWhile_of_refused isRun.isMaximal, List.append_nil]

theorem runAt?_eq : runAt? accepted (run ++ behind) = some run := by
  have taken := isRun.takeWhile_eq
  obtain ⟨first, rest, rfl⟩ := List.exists_cons_of_ne_nil isRun.isNonempty
  unfold runAt?
  rw [taken]

theorem exists_first :
    ∃ first rest, run = first :: rest ∧ accepted first = true := by
  obtain ⟨first, rest, rfl⟩ := List.exists_cons_of_ne_nil isRun.isNonempty
  exact ⟨first, rest, rfl, isRun.areAccepted first List.mem_cons_self⟩

/-- Behind the first character of a run stands another of the run, or what follows it. -/
theorem refused_second
    {other : Char → Bool}
    (apart : ∀ {character}, accepted character = true → other character = false)
    {first : Char}
    {rest : List Char}
    (isSplit : run = first :: rest)
    (notBehind : rest = [] → ∀ next ∈ behind.head?, other next = false) :
    ∀ next ∈ (rest ++ behind).head?, other next = false := by
  subst isSplit
  cases rest with
  | nil =>
      exact notBehind rfl
  | cons second others =>
      intro next isNext
      obtain rfl := Option.some.inj isNext
      apply apart
      exact isRun.areAccepted second (by simp)

end IsRun

end Runs

/-! ## The kinds of words -/

/-- With a capital in front, the small letters behind it count. -/
theorem smallWord?_of_isCapital
    {first : Char}
    (isLetter : isCapital first = true)
    (rest : List Char) :
    smallWord? (first :: rest) = (runAt? isSmallLetter rest).map (first :: ·) := by
  unfold smallWord? runAt?
  simp only [isLetter, ↓reduceIte]
  cases rest.takeWhile isSmallLetter <;> rfl

/-- With no capital in front, a word of small letters is a run of them. -/
theorem smallWord?_of_not_isCapital
    {text : List Char}
    (notCapital : ∀ first ∈ text.head?, isCapital first = false) :
    smallWord? text = runAt? isSmallLetter text := by
  cases text with
  | nil =>
      rfl
  | cons first rest =>
      unfold smallWord? runAt?
      simp only [notCapital first rfl, Bool.false_eq_true, ↓reduceIte]
      cases (first :: rest).takeWhile isSmallLetter <;> rfl

theorem capitalWord?_of_not_isCapital
    {text : List Char}
    (notCapital : ∀ first ∈ text.head?, isCapital first = false) :
    capitalWord? text = none := by
  unfold capitalWord?
  rw [takeWhile_of_refused notCapital]
  cases text with
  | nil =>
      rfl
  | cons first rest =>
      simp

/-- Capitals that no small letter follows are a word. -/
theorem capitalWord?_of_isRun
    {run behind : List Char}
    (isRun : IsRun isCapital run behind)
    (notSmall : ∀ next ∈ behind.head?, isSmallLetter next = false) :
    capitalWord? (run ++ behind) = some run := by
  unfold capitalWord?
  simp only [isRun.takeWhile_eq, List.drop_left]
  cases behind with
  | nil =>
      simp [isRun.isNonempty]
  | cons next others =>
      simp [notSmall next rfl, isRun.isNonempty]

/-- Of capitals that a small letter follows, the last one is no part of the word. -/
theorem capitalWord?_of_small_behind
    {run behind : List Char}
    {last next : Char}
    (isRun : IsRun isCapital (run ++ [last]) (next :: behind))
    (isSmall : isSmallLetter next = true) :
    capitalWord? (run ++ last :: next :: behind) =
      if run.isEmpty then none else some run := by
  have sameText : run ++ last :: next :: behind = run ++ [last] ++ next :: behind := by
    simp
  unfold capitalWord?
  rw [sameText]
  simp only [isRun.takeWhile_eq, List.drop_left, isSmall, ↓reduceIte,
    List.dropLast_concat]

/-! ## The word at the head -/

/-- Whether a word can start with a character. -/
def startsWord (character : Char) : Bool :=
  isAsciiLetter character || isDecimalDigit character

theorem startsWord_iff {character : Char} :
    startsWord character = true ↔
      isCapital character = true ∨
        isSmallLetter character = true ∨ isDecimalDigit character = true := by
  have isLetter :
      isAsciiLetter character = (isSmallLetter character || isCapital character) := rfl
  unfold startsWord
  rw [isLetter, Bool.or_eq_true, Bool.or_eq_true, or_assoc, or_left_comm]

/-- The word that a text starts with. -/
inductive HasWord : List Char → List Char → Prop
  | digits
      {run behind : List Char}
      (isRun : IsRun isDecimalDigit run behind) :
      HasWord (run ++ behind) run
  | small
      {run behind : List Char}
      (isRun : IsRun isSmallLetter run behind) :
      HasWord (run ++ behind) run
  | capitalized
      {first : Char}
      {run behind : List Char}
      (isLetter : isCapital first = true)
      (isRun : IsRun isSmallLetter run behind) :
      HasWord (first :: (run ++ behind)) (first :: run)
  | capitals
      {run behind : List Char}
      (isRun : IsRun isCapital run behind)
      (notSmall : ∀ next ∈ behind.head?, isSmallLetter next = false) :
      HasWord (run ++ behind) run
  /-- The last capital of the run starts the next word. -/
  | acronym
      {run behind : List Char}
      {last next : Char}
      (isNonempty : run ≠ [])
      (isRun : IsRun isCapital (run ++ [last]) (next :: behind))
      (isSmall : isSmallLetter next = true) :
      HasWord (run ++ last :: next :: behind) run

/-- The word at the head is found. -/
theorem HasWord.wordAt?_eq
    {text word : List Char}
    (hasWord : HasWord text word) :
    wordAt? text = some word := by
  unfold wordAt?
  cases hasWord with
  | @digits _ behind isRun =>
      have found : digitWord? (word ++ behind) = some word := isRun.runAt?_eq
      obtain ⟨first, rest, rfl, isDigit⟩ := isRun.exists_first
      obtain ⟨notCapital, notSmall⟩ := isAsciiLetter_of_isDecimalDigit isDigit
      rw [smallWord?_of_not_isCapital (by simpa using notCapital),
        runAt?_of_refused (by simpa using notSmall),
        capitalWord?_of_not_isCapital (by simpa using notCapital), found]
      rfl
  | small isRun =>
      have found := isRun.runAt?_eq
      obtain ⟨first, rest, rfl, isSmall⟩ := isRun.exists_first
      have notCapital := isCapital_of_isSmallLetter isSmall
      rw [smallWord?_of_not_isCapital (by simpa using notCapital), found]
      rfl
  | capitalized isLetter isRun =>
      rw [smallWord?_of_isCapital isLetter, isRun.runAt?_eq]
      rfl
  | capitals isRun notSmall =>
      have found := capitalWord?_of_isRun isRun notSmall
      obtain ⟨first, rest, rfl, isLetter⟩ := isRun.exists_first
      have noneBehind :=
        isRun.refused_second isSmallLetter_of_isCapital rfl fun _ => notSmall
      rw [found, List.cons_append, smallWord?_of_isCapital isLetter,
        runAt?_of_refused noneBehind]
      rfl
  | @acronym _ behind last next isNonempty isRun isSmall =>
      have found := capitalWord?_of_small_behind isRun isSmall
      obtain ⟨first, rest, rfl⟩ := List.exists_cons_of_ne_nil isNonempty
      have isLetter : isCapital first = true :=
        isRun.areAccepted first (by simp)
      -- The last capital at the latest keeps the small letter from the first one.
      have noneBehind :
          ∀ second ∈ (rest ++ [last] ++ next :: behind).head?,
            isSmallLetter second = false :=
        isRun.refused_second isSmallLetter_of_isCapital rfl (by simp)
      rw [List.append_assoc, List.singleton_append] at noneBehind
      rw [found, List.cons_append, smallWord?_of_isCapital isLetter,
        runAt?_of_refused noneBehind]
      rfl

/-- Where a word can start, there is one. -/
theorem exists_hasWord
    {first : Char}
    (starts : startsWord first = true)
    (rest : List Char) :
    ∃ word, HasWord (first :: rest) word := by
  rcases startsWord_iff.mp starts with isLetter | isSmall | isDigit
  · by_cases smallBehind : ∃ second ∈ rest.head?, isSmallLetter second = true
    · obtain ⟨second, isSecond, isSmall⟩ := smallBehind
      obtain ⟨others, rfl⟩ := List.head?_eq_some_iff.mp isSecond
      obtain ⟨run, behind, isSplit, isRun⟩ := exists_isRun isSmall others
      rw [isSplit]
      exact ⟨first :: run, .capitalized isLetter isRun⟩
    · obtain ⟨run, behind, isSplit, isRun⟩ := exists_isRun isLetter rest
      by_cases smallNext : ∃ next ∈ behind.head?, isSmallLetter next = true
      · obtain ⟨next, isNext, isSmall⟩ := smallNext
        obtain ⟨others, rfl⟩ := List.head?_eq_some_iff.mp isNext
        rcases List.eq_nil_or_concat run with rfl | ⟨start, last, rfl⟩
        · exact absurd rfl isRun.isNonempty
        · have sameText : start ++ [last] ++ next :: others =
              start ++ last :: next :: others := by
            simp
          rw [List.concat_eq_append] at isSplit isRun
          rw [isSplit, sameText]
          refine ⟨start, .acronym ?_ isRun isSmall⟩
          -- A single capital would have the small letter right behind it.
          rintro rfl
          obtain ⟨-, rfl⟩ := List.cons.inj isSplit
          exact smallBehind ⟨next, rfl, isSmall⟩
      · rw [isSplit]
        refine ⟨run, .capitals isRun ?_⟩
        intro next isNext
        rw [Bool.eq_false_iff]
        exact fun isSmall => smallNext ⟨next, isNext, isSmall⟩
  · obtain ⟨run, behind, isSplit, isRun⟩ := exists_isRun isSmall rest
    rw [isSplit]
    exact ⟨run, .small isRun⟩
  · obtain ⟨run, behind, isSplit, isRun⟩ := exists_isRun isDigit rest
    rw [isSplit]
    exact ⟨run, .digits isRun⟩

/-- Where no word can start, there is none. -/
theorem wordAt?_of_not_startsWord
    {first : Char}
    (notStart : startsWord first = false)
    (rest : List Char) :
    wordAt? (first :: rest) = none := by
  rw [Bool.eq_false_iff, ne_eq, startsWord_iff, not_or, not_or, Bool.not_eq_true,
    Bool.not_eq_true, Bool.not_eq_true] at notStart
  obtain ⟨notCapital, notSmall, notDigit⟩ := notStart
  have noDigits : digitWord? (first :: rest) = none :=
    runAt?_of_refused (by simpa using notDigit)
  unfold wordAt?
  rw [smallWord?_of_not_isCapital (by simpa using notCapital),
    runAt?_of_refused (by simpa using notSmall),
    capitalWord?_of_not_isCapital (by simpa using notCapital), noDigits]
  rfl

/-- The word that is found at the head is the one that the text starts with. -/
theorem wordAt?_eq_some_iff {text word : List Char} :
    wordAt? text = some word ↔ HasWord text word := by
  constructor
  · intro found
    cases text with
    | nil =>
        cases found
    | cons first rest =>
        by_cases starts : startsWord first = true
        · obtain ⟨other, hasWord⟩ := exists_hasWord starts rest
          obtain rfl := Option.some.inj (found.symm.trans hasWord.wordAt?_eq)
          exact hasWord
        · rw [Bool.not_eq_true] at starts
          rw [wordAt?_of_not_startsWord starts] at found
          cases found
  · exact HasWord.wordAt?_eq

theorem HasWord.isPrefix
    {text word : List Char}
    (hasWord : HasWord text word) :
    word <+: text := by
  cases hasWord with
  | digits | small | capitals | acronym =>
      exact List.prefix_append _ _
  | capitalized =>
      exact ⟨_, rfl⟩

/-- A word is made of characters with which a word can start. -/
theorem HasWord.startsWord_of_mem
    {text word : List Char}
    (hasWord : HasWord text word)
    {character : Char}
    (member : character ∈ word) :
    startsWord character = true := by
  rw [startsWord_iff]
  cases hasWord with
  | digits isRun =>
      exact .inr (.inr (isRun.areAccepted character member))
  | small isRun =>
      exact .inr (.inl (isRun.areAccepted character member))
  | capitalized isLetter isRun =>
      rcases List.mem_cons.mp member with rfl | inRun
      · exact .inl isLetter
      · exact .inr (.inl (isRun.areAccepted character inRun))
  | capitals isRun _ =>
      exact .inl (isRun.areAccepted character member)
  | acronym _ isRun _ =>
      exact .inl (isRun.areAccepted character (List.mem_append_left _ member))

/-! ## The first word -/

/-- The first word of a text, or nothing if no word starts in it. -/
inductive IsFirstWord : List Char → List Char → Prop
  | none
      {text : List Char}
      (noStart : ∀ character ∈ text, startsWord character = false) :
      IsFirstWord text []
  | behind
      {skipped rest word : List Char}
      (noStart : ∀ character ∈ skipped, startsWord character = false)
      (hasWord : HasWord rest word) :
      IsFirstWord (skipped ++ rest) word

/-- Characters with which no word can start are skipped. -/
theorem firstWord?_append
    {skipped : List Char}
    (noStart : ∀ character ∈ skipped, startsWord character = false)
    (rest : List Char) :
    firstWord? (skipped ++ rest) = firstWord? rest := by
  induction skipped with
  | nil =>
      rfl
  | cons first others inductionHypothesis =>
      rw [List.forall_mem_cons] at noStart
      rw [List.cons_append, firstWord?, wordAt?_of_not_startsWord noStart.1,
        inductionHypothesis noStart.2]
      rfl

theorem HasWord.firstWord?_eq
    {text word : List Char}
    (hasWord : HasWord text word) :
    firstWord? text = some word := by
  have found := hasWord.wordAt?_eq
  cases text with
  | nil =>
      cases found
  | cons first rest =>
      rw [firstWord?, found]
      rfl

theorem IsFirstWord.firstWord?_eq
    {text word : List Char}
    (isFirst : IsFirstWord text word) :
    (firstWord? text).getD [] = word := by
  cases isFirst with
  | none noStart =>
      have noWord := firstWord?_append noStart []
      rw [List.append_nil] at noWord
      rw [noWord]
      rfl
  | behind noStart hasWord =>
      rw [firstWord?_append noStart, hasWord.firstWord?_eq]
      rfl

/-- Every text has a first word, or no word starts in it. -/
theorem exists_isFirstWord (text : List Char) :
    ∃ word, IsFirstWord text word := by
  induction text with
  | nil =>
      exact ⟨[], .none (by simp)⟩
  | cons first rest inductionHypothesis =>
      by_cases starts : startsWord first = true
      · obtain ⟨word, hasWord⟩ := exists_hasWord starts rest
        exact ⟨word, @IsFirstWord.behind [] _ _ (by simp) hasWord⟩
      · rw [Bool.not_eq_true] at starts
        obtain ⟨word, isFirst⟩ := inductionHypothesis
        refine ⟨word, ?_⟩
        cases isFirst with
        | none noStart =>
            exact .none (List.forall_mem_cons.mpr ⟨starts, noStart⟩)
        | @behind skipped _ _ noStart hasWord =>
            have noStarts :
                ∀ character ∈ first :: skipped, startsWord character = false :=
              List.forall_mem_cons.mpr ⟨starts, noStart⟩
            exact .behind noStarts hasWord

/-- The first word that is found is the first word. -/
theorem isFirstWord_iff {text word : List Char} :
    IsFirstWord text word ↔ (firstWord? text).getD [] = word := by
  constructor
  · exact IsFirstWord.firstWord?_eq
  · intro found
    obtain ⟨other, isFirst⟩ := exists_isFirstWord text
    rw [← found, isFirst.firstWord?_eq]
    exact isFirst

theorem IsFirstWord.startsWord_of_mem
    {text word : List Char}
    (isFirst : IsFirstWord text word)
    {character : Char}
    (member : character ∈ word) :
    startsWord character = true := by
  cases isFirst with
  | none =>
      cases member
  | behind _ hasWord =>
      exact hasWord.startsWord_of_mem member

/-! ## The leading word -/

/-- Whether a character may stand in front of the words of a name. -/
def isNameMark (character : Char) : Bool :=
  character == '_' || character == '#' || character == '$'

/-- The leading word is the first word behind the marks, in small letters. -/
theorem leadingWord_eq (name : String) :
    leadingWord name =
      String.ofList
        (((firstWord? (name.toList.dropWhile isNameMark)).getD []).map
          Char.toLower) := by
  have unmarked :
      (fun character => character == '_' || character == '#' || character == '$') =
        isNameMark := rfl
  unfold leadingWord
  simp only [unmarked]
  cases firstWord? (name.toList.dropWhile isNameMark) <;> rfl

end HouseStyle
