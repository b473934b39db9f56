import HouseStyle.Pattern.Matching
import Mathlib.Data.List.Basic

namespace HouseStyle

/-!
# Trying the ends of a match in turn

The ends of a match are listed, the preferred one first. So to look for the first end
from which the rest of a pattern can go on is to give up one choice after the other:
of parts in a row the last choice is given up first, and a greedy run of characters
gives back one character at a time.
-/

/-! ## What is listed twice -/

/-- What is dropped because it brings nothing is not missed. -/
theorem findSome?_filter_of_none
    {Item Value : Type}
    [BEq Item]
    [LawfulBEq Item]
    {read : Item → Option Value}
    {item : Item}
    (isNone : read item = none)
    (items : List Item) :
    (items.filter fun other => !other == item).findSome? read =
      items.findSome? read := by
  induction items with
  | nil =>
      rfl
  | cons first rest inductionHypothesis =>
      by_cases isItem : first = item
      · subst isItem
        simp [isNone, inductionHypothesis]
      · simp [isItem, List.findSome?_cons, inductionHypothesis]

/-- What is listed a second time brings nothing new. -/
theorem findSome?_eraseDups
    {Item Value : Type}
    [BEq Item]
    [LawfulBEq Item]
    (read : Item → Option Value) :
    ∀ items : List Item, items.eraseDups.findSome? read = items.findSome? read
  | [] => by simp
  | first :: rest => by
      have isShorter :
          (rest.filter fun other => !other == first).length < (first :: rest).length :=
        Nat.lt_succ_of_le (List.length_filter_le _ rest)
      rw [List.eraseDups_cons, List.findSome?_cons, List.findSome?_cons]
      cases isRead : read first with
      | some value =>
          rfl
      | none =>
          have others :=
            findSome?_eraseDups read (rest.filter fun other => !other == first)
          rw [others, findSome?_filter_of_none isRead]
  termination_by items => items.length
  decreasing_by exact isShorter

/-- To look for something in lists, one behind the other, is to look in each in turn. -/
theorem findSome?_flatMap
    {Item Part Value : Type}
    (parts : Item → List Part)
    (read : Part → Option Value)
    (items : List Item) :
    (items.flatMap parts).findSome? read =
      items.findSome? fun item => (parts item).findSome? read := by
  induction items with
  | nil =>
      rfl
  | cons first rest inductionHypothesis =>
      rw [List.flatMap_cons, List.findSome?_append, inductionHypothesis,
        List.findSome?_cons]
      cases (parts first).findSome? read <;> rfl

/-- The end that is listed first is the one to go on from if nothing follows. -/
theorem findSome?_some
    {Item : Type}
    (items : List Item) :
    items.findSome? some = items.head? := by
  cases items <;> rfl

theorem isSome_head?
    {Item : Type}
    (items : List Item) :
    items.head?.isSome = !items.isEmpty := by
  cases items <;> rfl

/-! ## Parts in a row, and choices -/

section Laws

variable
  {Value : Type}
  (text : Array Char)
  (remembered : List Nat)
  (state : MatchState)
  (goOn : MatchState → Option Value)

/-- One more step is tried from each state in turn. -/
theorem findSome?_stepAll
    (step : MatchState → List MatchState)
    (states : List MatchState) :
    (stepAll step states).findSome? goOn =
      states.findSome? fun state => (step state).findSome? goOn := by
  unfold stepAll
  rw [findSome?_eraseDups, findSome?_flatMap]

/-- Parts in a row are tried from each state in turn. -/
theorem findSome?_sequenceEnds
    (states : List MatchState)
    (parts : List Pattern) :
    (sequenceEnds text remembered states parts).findSome? goOn =
      states.findSome? fun state =>
        (sequenceEnds text remembered [state] parts).findSome? goOn := by
  -- Both sides are taken apart: for all states, and for the ends of each of them.
  induction parts generalizing states with
  | nil =>
      simp [sequenceEnds]
  | cons part rest inductionHypothesis =>
      simp only [sequenceEnds]
      rw [inductionHypothesis, findSome?_stepAll]
      apply congrArg (fun read => states.findSome? read)
      funext state
      rw [inductionHypothesis, findSome?_stepAll]
      simp

/-- The parts behind a part are tried behind each of its ends in turn. -/
theorem findSome?_ends_sequence
    (part : Pattern)
    (rest : List Pattern) :
    ((Pattern.sequence (part :: rest)).ends text remembered state).findSome? goOn =
      (part.ends text remembered state).findSome? fun reached =>
        ((Pattern.sequence rest).ends text remembered reached).findSome? goOn := by
  simp only [Pattern.ends, sequenceEnds]
  rw [findSome?_sequenceEnds, findSome?_stepAll]
  simp

theorem findSome?_ends_singleton (part : Pattern) :
    ((Pattern.sequence [part]).ends text remembered state).findSome? goOn =
      (part.ends text remembered state).findSome? goOn := by
  rw [findSome?_ends_sequence]
  simp [Pattern.ends, sequenceEnds]

/-- An option is tried only if the one in front of it has failed. -/
theorem findSome?_ends_choice
    (option : Pattern)
    (rest : List Pattern) :
    ((Pattern.choice (option :: rest)).ends text remembered state).findSome? goOn =
      ((option.ends text remembered state).findSome? goOn).or
        (((Pattern.choice rest).ends text remembered state).findSome? goOn) := by
  simp only [Pattern.ends, choiceEnds]
  rw [findSome?_eraseDups, List.findSome?_append]

/-- What must not follow is tried without going on. -/
theorem ends_look_of_negated (part : Pattern) :
    (Pattern.look none true part).ends text remembered state =
      if (part.ends text remembered state).isEmpty then [state] else [] := by
  simp only [Pattern.ends, Option.map_none, Option.getD_none, Nat.zero_le,
    ↓reduceIte, Nat.sub_zero]
  cases part.ends text remembered state <;> rfl

end Laws

/-! ## Runs of characters -/

namespace MatchState

/-- What is left of a text. -/
def rest (text : Array Char) (state : MatchState) : List Char :=
  text.toList.drop state.index

/-- The state some characters further on. -/
def onward (state : MatchState) (count : Nat) : MatchState :=
  { state with index := state.index + count }

@[simp]
theorem onward_zero (state : MatchState) : state.onward 0 = state := rfl

@[simp]
theorem onward_onward (state : MatchState) (first second : Nat) :
    (state.onward first).onward second = state.onward (first + second) := by
  simp [onward, Nat.add_assoc]

@[simp]
theorem rest_onward (text : Array Char) (state : MatchState) (count : Nat) :
    (state.onward count).rest text = (state.rest text).drop count := by
  simp [rest, onward]

end MatchState

section Runs

variable
  {text : Array Char}
  {accepted : Char → Bool}
  {state : MatchState}

/-- A character that is accepted is taken. -/
theorem characterEnds_of_accepted
    {first : Char}
    {behind : List Char}
    (isRest : state.rest text = first :: behind)
    (isAccepted : accepted first = true) :
    characterEnds text accepted state = [state.onward 1] := by
  have isThere : text[state.index]? = some first := by
    rw [← Array.getElem?_toList, ← List.head?_drop]
    exact congrArg List.head? isRest
  unfold characterEnds
  rw [isThere]
  simp [isAccepted, MatchState.onward]

/-- Nothing is taken where no character is accepted. -/
theorem characterEnds_of_refused
    (isRefused : ∀ first ∈ (state.rest text).head?, accepted first = false) :
    characterEnds text accepted state = [] := by
  unfold characterEnds
  split
  · next character isThere =>
      rw [← Array.getElem?_toList, ← List.head?_drop] at isThere
      simp [isRefused character isThere]
  · rfl

/-- A character is taken or not. -/
theorem characterEnds_eq_nil_or
    (text : Array Char)
    (accepted : Char → Bool)
    (state : MatchState) :
    characterEnds text accepted state = [] ∨
      characterEnds text accepted state = [state.onward 1] := by
  unfold characterEnds
  split
  · split
    · exact .inr rfl
    · exact .inl rfl
  · exact .inl rfl

/-- From a state on, a repetition takes that many characters and no more. -/
inductive TakesRun
    (text : Array Char)
    (accepted : Char → Bool)
    (most : Option Nat) :
    Nat → MatchState → Nat → Prop
  | stop
      {count : Nat}
      {state : MatchState}
      (isEnd : most = some count ∨ characterEnds text accepted state = []) :
      TakesRun text accepted most count state 0
  | step
      {count length : Nat}
      {state : MatchState}
      (goesOn : most ≠ some count)
      (isTaken : characterEnds text accepted state = [state.onward 1])
      (further : TakesRun text accepted most (count + 1) (state.onward 1) length) :
      TakesRun text accepted most count state (length + 1)

/-- Without a bound, all characters up to the first one that is refused are taken. -/
theorem takesRun_takeWhile
    (text : Array Char)
    (accepted : Char → Bool)
    (count : Nat)
    (state : MatchState) :
    TakesRun text accepted none count state
      ((state.rest text).takeWhile accepted).length := by
  generalize isRest : state.rest text = characters
  induction characters generalizing count state with
  | nil =>
      refine .stop (.inr (characterEnds_of_refused ?_))
      simp [isRest]
  | cons first behind inductionHypothesis =>
      by_cases isAccepted : accepted first = true
      · rw [List.takeWhile_cons_of_pos isAccepted, List.length_cons]
        refine .step nofun (characterEnds_of_accepted isRest isAccepted) ?_
        apply inductionHypothesis
        rw [MatchState.rest_onward, isRest]
        rfl
      · rw [List.takeWhile_cons_of_neg isAccepted]
        refine .stop (.inr (characterEnds_of_refused ?_))
        simp [isRest, isAccepted]

/-- A state that is new is entered, and it comes behind all that lies further on. -/
theorem found_explore_succ
    {step : MatchState → List MatchState}
    {most : Option Nat}
    {before : Option Nat}
    (moved : before ≠ some state.index)
    {exploration : Exploration}
    (isNew : ∀ entry ∈ exploration.met, entry.1.index < state.index)
    (fuel count : Nat) :
    ∃ entered : Exploration,
      entered.found = exploration.found ∧
        (∀ entry ∈ entered.met, entry.1.index < state.index + 1) ∧
        (explore false step most (fuel + 1) count before exploration state).found =
          state ::
            ((if most = some count then [] else step state).foldl
              (explore false step most fuel (count + 1) (some state.index))
              entered).found := by
  have notStuck : (before == some state.index) = false := by simpa using moved
  have notMet (number : Nat) (isStuck : Bool) :
      (state, number, isStuck) ∉ exploration.met :=
    fun isMet => Nat.lt_irrefl _ (isNew _ isMet)
  refine
    ⟨{ exploration with
        met := (state, if most.isSome then count else 0, false) :: exploration.met },
      rfl, ?_, ?_⟩
  · intro entry isMet
    rcases List.mem_cons.mp isMet with rfl | isMet
    · exact Nat.lt_succ_self _
    · exact Nat.lt_succ_of_lt (isNew entry isMet)
  · simp [explore, notStuck, notMet]

/-- The states along a run are met in turn, and the last of them is preferred. -/
theorem found_explore
    {most : Option Nat}
    {count length : Nat}
    (takes : TakesRun text accepted most count state length)
    {fuel : Nat}
    (hasFuel : length < fuel)
    {before : Option Nat}
    (moved : before ≠ some state.index)
    {exploration : Exploration}
    (isNew : ∀ entry ∈ exploration.met, entry.1.index < state.index) :
    (explore false (characterEnds text accepted) most fuel count before exploration
        state).found =
      (List.range (length + 1)).map state.onward ++ exploration.found := by
  -- Along the run, what has been met lies in front of the state, which is new therefore.
  induction takes generalizing fuel before exploration with
  | stop isEnd =>
      obtain ⟨fuel, rfl⟩ := Nat.exists_eq_succ_of_ne_zero (Nat.ne_of_gt hasFuel)
      obtain ⟨entered, sameFound, _, isFound⟩ :=
        found_explore_succ moved isNew fuel _
      rw [isFound]
      rcases isEnd with isMost | isEnd
      · rw [if_pos isMost]
        simp [sameFound]
      · rw [isEnd, ite_self]
        simp [sameFound]
  | @step count length state goesOn isTaken _ inductionHypothesis =>
      obtain ⟨fuel, rfl⟩ := Nat.exists_eq_succ_of_ne_zero (Nat.ne_zero_of_lt hasFuel)
      obtain ⟨entered, sameFound, areMet, isFound⟩ :=
        found_explore_succ moved isNew fuel _
      have movedOn : some state.index ≠ some (state.onward 1).index := by
        simp [MatchState.onward]
      have further := inductionHypothesis (Nat.lt_of_succ_lt_succ hasFuel) movedOn areMet
      rw [isFound, if_neg goesOn, isTaken, List.foldl_cons, List.foldl_nil, further,
        sameFound, List.range_succ_eq_map (n := length + 1)]
      simp [Function.comp_def, Nat.add_comm 1]

/-- A greedy repetition gives back one character at a time. -/
theorem findSome?_exploreAll
    {Value : Type}
    {most : Option Nat}
    {length fuel : Nat}
    (takes : TakesRun text accepted most 0 state length)
    (hasFuel : length < fuel)
    (goOn : MatchState → Option Value) :
    (exploreAll false (characterEnds text accepted) most fuel [state]).findSome? goOn =
      (List.range (length + 1)).reverse.findSome? fun count =>
        goOn (state.onward count) := by
  have atStart : (none : Option Nat) ≠ some state.index := by simp
  have noneMet : ∀ entry ∈ ({} : Exploration).met, entry.1.index < state.index := by
    simp
  have isFound := found_explore takes hasFuel atStart noneMet
  rw [List.append_nil] at isFound
  unfold exploreAll
  simp only [List.foldl_cons, List.foldl_nil]
  rw [findSome?_eraseDups, isFound, ← List.map_reverse, List.findSome?_map]
  rfl

/-! ## Greedy repetitions of a set of characters -/

variable
  {Value : Type}
  {remembered : List Nat}
  {part : Pattern}
  (isSet :
    ∀ state, part.ends text remembered state = characterEnds text accepted state)
  (goOn : MatchState → Option Value)

include isSet

/-- One character, if it is there, or else none. -/
theorem findSome?_ends_optional (state : MatchState) :
    ((Pattern.repeated .greedy 0 (some 1) part).ends text remembered state).findSome?
        goOn =
      ((characterEnds text accepted state).findSome? goOn).or (goOn state) := by
  have sameStep : (fun state => part.ends text remembered state) =
      characterEnds text accepted := funext isSet
  simp only [Pattern.ends, repeatedEnds, sameStep, stepTimes]
  rcases characterEnds_eq_nil_or text accepted state with isNone | isTaken
  · have takes : TakesRun text accepted (some 1) 0 state 0 := .stop (.inr isNone)
    have tried := findSome?_exploreAll takes (Nat.succ_pos (text.size + 1)) goOn
    exact tried.trans (by simp [isNone])
  · have takes : TakesRun text accepted (some 1) 0 state 1 :=
      .step (by decide) isTaken (.stop (.inl rfl))
    have hasFuel : 1 < text.size + 2 := by omega
    have tried := findSome?_exploreAll takes hasFuel goOn
    rw [isTaken]
    refine tried.trans ?_
    simp only [List.range_succ, List.range_zero, List.nil_append, List.cons_append,
      List.reverse_cons, List.reverse_nil, List.findSome?_cons, List.findSome?_nil,
      MatchState.onward_zero]
    cases goOn (state.onward 1) <;> cases goOn state <;> rfl

/-- One character or more: as many as there are, and then one less at a time. -/
theorem findSome?_ends_some (state : MatchState) :
    ((Pattern.repeated .greedy 1 none part).ends text remembered state).findSome? goOn =
      (List.range ((state.rest text).takeWhile accepted).length).reverse.findSome?
        fun count => goOn (state.onward (count + 1)) := by
  have sameStep : (fun state => part.ends text remembered state) =
      characterEnds text accepted := funext isSet
  have firstStep :
      stepTimes (characterEnds text accepted) [state] 1 =
        (characterEnds text accepted state).eraseDups := by
    simp [stepTimes, stepAll]
  simp only [Pattern.ends, repeatedEnds, sameStep, firstStep]
  cases isRest : state.rest text with
  | nil =>
      rw [characterEnds_of_refused (by simp [isRest])]
      rfl
  | cons first behind =>
      by_cases isAccepted : accepted first = true
      · rw [characterEnds_of_accepted isRest isAccepted,
          List.takeWhile_cons_of_pos isAccepted]
        have takes := takesRun_takeWhile text accepted 0 (state.onward 1)
        rw [MatchState.rest_onward, isRest, List.drop_one, List.tail_cons] at takes
        have inText : (state.rest text).length ≤ text.size := by
          simp [MatchState.rest]
        have isShort : (behind.takeWhile accepted).length < text.size + 2 := by
          have isPart := (List.takeWhile_prefix accepted (l := behind)).length_le
          rw [isRest, List.length_cons] at inText
          omega
        refine (findSome?_exploreAll takes isShort goOn).trans ?_
        simp only [MatchState.onward_onward, List.length_cons, Nat.add_comm 1]
      · rw [characterEnds_of_refused (by simp [isRest, isAccepted]),
          List.takeWhile_cons_of_neg isAccepted]
        rfl

/-- Nothing goes on where a character follows that must not. -/
theorem findSome?_ends_notFollowed (state : MatchState) :
    ((Pattern.look none true (.sequence [part])).ends text remembered state).findSome?
        goOn =
      if (state.rest text).head?.any accepted then none else goOn state := by
  have follows :
      ((Pattern.sequence [part]).ends text remembered state).head? =
        (characterEnds text accepted state).head? := by
    rw [← findSome?_some, findSome?_ends_singleton, isSet, findSome?_some]
  have isFree :
      ((Pattern.sequence [part]).ends text remembered state).isEmpty =
        (characterEnds text accepted state).isEmpty := by
    rw [← Bool.not_inj_iff, ← isSome_head?, follows, isSome_head?]
  rw [ends_look_of_negated, isFree]
  cases isRest : state.rest text with
  | nil =>
      rw [characterEnds_of_refused (by simp [isRest])]
      simp
  | cons first behind =>
      by_cases isAccepted : accepted first = true
      · rw [characterEnds_of_accepted isRest isAccepted]
        simp [isAccepted]
      · rw [characterEnds_of_refused (by simp [isRest, isAccepted])]
        simp [isAccepted]

end Runs

/-! ## The first match -/

/-- The part of a text that a pattern matches first. -/
def Pattern.firstMatch?
    (pattern : Pattern)
    (text : List Char) :
    Option (List Char) :=
  (List.range (text.length + 1)).findSome? fun index =>
    (pattern.ends text.toArray pattern.references { index }).head?.map fun stop =>
      (text.drop index).take (stop.index - index)

/-- A pattern occurs in a text if it has a first match there. -/
theorem Pattern.isSome_firstMatch?
    (pattern : Pattern)
    (text : String) :
    (pattern.firstMatch? text.toList).isSome = pattern.occursIn text := by
  unfold Pattern.firstMatch? Pattern.occursIn
  rw [List.isSome_findSome?]
  simp [Option.isSome_map, isSome_head?]

end HouseStyle
