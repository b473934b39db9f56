import HouseStyle.Pattern.Basic

namespace HouseStyle

/-!
# Matching

A pattern is searched for anywhere in a text, so all that counts is where a
match can end when it starts at a given place, and what the groups that are
referred to have taken on the way. The possible ends are listed each once, the
preferred one first.
-/

/-- A place in a text, and the parts of the text that groups have taken. -/
structure MatchState where
  index : Nat
  /-- The number of a group, and where its text starts and ends; latest first. -/
  taken : List (Nat × Nat × Nat) := []
  deriving Repr, DecidableEq

/-- The start and the end of a group's text. -/
def MatchState.span?
    (state : MatchState)
    (number : Nat) :
    Option (Nat × Nat) :=
  state.taken.lookup number

/-- Remember the text of a group. -/
def MatchState.take
    (state : MatchState)
    (number start : Nat) :
    MatchState :=
  { state with
    taken :=
      (number, start, state.index) ::
        state.taken.filter fun (taken, _) => taken != number }

/-! ## Characters and places -/

/-- The state behind the next character, if it is accepted. -/
def characterEnds
    (text : Array Char)
    (accepted : Char → Bool)
    (state : MatchState) :
    List MatchState :=
  match text[state.index]? with
  | some character =>
      if accepted character then
        [{ state with index := state.index + 1 }]
      else
        []
  | none => []

/-- Whether a word character stands at an index. -/
def wordAt
    (text : Array Char)
    (ascii : Bool)
    (index : Nat) :
    Bool :=
  (text[index]?).any (CharacterKind.word.holds ascii)

/-- Whether an anchor holds at an index of a text; an empty text has no edges. -/
def Anchor.holds
    (anchor : Anchor)
    (text : Array Char)
    (index : Nat) :
    Bool :=
  match anchor with
  | .start => index == 0
  | .lineStart => index == 0 || text[index - 1]? == some '\n'
  | .lastEnd =>
      index == text.size ||
        (index + 1 == text.size && text[index]? == some '\n')
  | .lineEnd => index == text.size || text[index]? == some '\n'
  | .finish => index == text.size
  | .wordEdge ascii negated =>
      let before := 0 < index && wordAt text ascii (index - 1)
      !text.isEmpty && ((before != wordAt text ascii index) != negated)

/-- Whether a text goes on with characters that count as some given ones. -/
def continuesAs
    (text : Array Char)
    (rule : CaseRule)
    (wanted : List Char)
    (index : Nat) :
    Bool :=
  match wanted with
  | [] => true
  | character :: rest =>
      (text[index]?).any (fun found => agree character found) &&
        continuesAs text rule rest (index + 1)
where
  /-- Whether two characters are the same, or have the same small letter. -/
  agree (first second : Char) : Bool :=
    match rule with
    | .exact => first == second
    | .asciiAlike => first.toLower == second.toLower
    | .alike => smallLetter first == smallLetter second

/-! ## Repetitions -/

/-- All states reached from some states by one more step. -/
def stepAll
    (step : MatchState → List MatchState)
    (states : List MatchState) :
    List MatchState :=
  (states.flatMap step).eraseDups

/-- The states reached by exactly that many steps. -/
def stepTimes
    (step : MatchState → List MatchState)
    (states : List MatchState) :
    Nat →
    List MatchState
  | 0 => states
  | count + 1 =>
      let next := stepAll step states
      if next.isEmpty || next == states then
        next
      else
        stepTimes step next count

/-- What has been found on a search through the states of a repetition. -/
structure Exploration where
  /-- The states that were met, each with the number of steps to it. -/
  met : List (MatchState × Nat × Bool) := []
  /-- The states at which the repetition may stop, the preferred one last. -/
  found : List MatchState := []

/--
Explore what further steps reach. A step that takes nothing is the last one. A
reluctant repetition prefers to stop, a greedy one to go on.
-/
def explore
    (reluctant : Bool)
    (step : MatchState → List MatchState)
    (most : Option Nat)
    (fuel count : Nat)
    (before : Option Nat)
    (exploration : Exploration)
    (state : MatchState) :
    Exploration :=
  let isStuck := before == some state.index
  let entry := (state, if most.isSome then count else 0, isStuck)
  let stop (exploration : Exploration) :=
    { exploration with found := state :: exploration.found }
  match fuel with
  | 0 => stop exploration
  | fuel + 1 =>
      if exploration.met.contains entry then
        exploration
      else
        let entered := { exploration with met := entry :: exploration.met }
        let entered := if reluctant then stop entered else entered
        let further :=
          if isStuck || most == some count then [] else step state
        let explored :=
          further.foldl
            (explore reluctant step most fuel (count + 1) (some state.index))
            entered
        if reluctant then explored else stop explored

/-- The states that a repetition reaches behind its least number of steps. -/
def exploreAll
    (reluctant : Bool)
    (step : MatchState → List MatchState)
    (most : Option Nat)
    (fuel : Nat)
    (states : List MatchState) :
    List MatchState :=
  let exploration :=
    states.foldl (explore reluctant step most fuel 0 none) {}
  exploration.found.reverse.eraseDups

/-- The state reached by exactly that many first choices. -/
def stepFirst?
    (step : MatchState → List MatchState)
    (state : MatchState) :
    Nat →
    Option MatchState
  | 0 => some state
  | count + 1 =>
      match (step state).head? with
      | none => none
      | some next =>
          if next = state then some state else stepFirst? step next count

/-- The state reached by first choices as long as there are any. -/
def stepOn
    (step : MatchState → List MatchState)
    (state : MatchState) :
    Nat →
    MatchState
  | 0 => state
  | count + 1 =>
      match (step state).head? with
      | none => state
      | some next =>
          if next.index = state.index then next else stepOn step next count

/-- The states at which a repetition can end. -/
def repeatedEnds
    (eagerness : Eagerness)
    (step : MatchState → List MatchState)
    (least : Nat)
    (most : Option Nat)
    (size : Nat)
    (state : MatchState) :
    List MatchState :=
  let further := most.map (· - least)
  match eagerness with
  | .greedy =>
      exploreAll false step further (size + 2) (stepTimes step [state] least)
  | .reluctant =>
      exploreAll true step further (size + 2) (stepTimes step [state] least)
  | .possessive =>
      let ended :=
        (stepFirst? step state least).map fun reached =>
          stepOn step reached (min (further.getD (size + 1)) (size + 1))
      ended.toList

/-! ## Patterns -/

mutual

/-- The states at which a match that starts in a state can end. -/
def Pattern.ends
    (text : Array Char)
    (remembered : List Nat)
    (state : MatchState) :
    Pattern →
    List MatchState
  | .any lineFeeds =>
      characterEnds text (fun character => lineFeeds || character != '\n') state
  | .set rule negated members =>
      characterEnds
        text
        (fun character =>
          members.any (·.accepts rule character) != negated)
        state
  | .anchor place => if place.holds text state.index then [state] else []
  | .sequence parts => sequenceEnds text remembered [state] parts
  | .choice options => choiceEnds text remembered state options
  | .repeated eagerness least most part =>
      repeatedEnds
        eagerness
        (fun state => part.ends text remembered state)
        least
        most
        text.size
        state
  | .group none part => part.ends text remembered state
  | .group (some number) part =>
      let ends := part.ends text remembered state
      if remembered.contains number then
        ends.map (·.take number state.index)
      else
        ends
  | .atomic part => ((part.ends text remembered state).head?).toList
  | .look behind negated part =>
      let back := (behind.map (·.least)).getD 0
      let found :=
        if back ≤ state.index then
          (part.ends
            text remembered { state with index := state.index - back }).head?
        else
          none
      match found, negated with
      | none, true => [state]
      | some found, false => [{ found with index := state.index }]
      | _, _ => []
  | .reference rule number _ =>
      match state.span? number with
      | none => []
      | some (start, stop) =>
          let wanted := (text.toList.drop start).take (stop - start)
          if continuesAs text rule wanted state.index then
            [{ state with index := state.index + wanted.length }]
          else
            []
  | .conditional number present absent =>
      if (state.span? number).isSome then
        present.ends text remembered state
      else
        absent.ends text remembered state

/-- The ends of matches of all parts, one behind the other. -/
def sequenceEnds
    (text : Array Char)
    (remembered : List Nat)
    (states : List MatchState) :
    List Pattern →
    List MatchState
  | [] => states
  | part :: rest =>
      sequenceEnds
        text
        remembered
        (stepAll (fun state => part.ends text remembered state) states)
        rest

/-- The ends of matches of any of the options. -/
def choiceEnds
    (text : Array Char)
    (remembered : List Nat)
    (state : MatchState) :
    List Pattern →
    List MatchState
  | [] => []
  | option :: rest =>
      (option.ends text remembered state ++
        choiceEnds text remembered state rest).eraseDups

end

/-- Whether a pattern matches somewhere in a text. -/
def Pattern.occursIn
    (pattern : Pattern)
    (text : String) :
    Bool :=
  let characters := text.toList.toArray
  let remembered := pattern.references
  (List.range (characters.size + 1)).any fun index =>
    !(pattern.ends characters remembered { index }).isEmpty

end HouseStyle
