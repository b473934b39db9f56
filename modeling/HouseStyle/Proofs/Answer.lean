import Mathlib

namespace HouseStyle

/-!
# Answers that depend on other answers

A reader that asks others before it answers fails as soon as one of them does.
So when it has answered, each of them has.
-/

variable {Fault Found Value Item : Type}

theorem ok_bind (found : Found) (next : Found → Except Fault Value) :
    (Except.ok found >>= next) = next found := rfl

/-- A chain of two readings answers only if both do. -/
theorem exists_of_bind_eq_ok
    {answer : Except Fault Found}
    {next : Found → Except Fault Value}
    {value : Value}
    (all : (answer >>= next) = .ok value) :
    ∃ found, answer = .ok found ∧ next found = .ok value := by
  cases answer with
  | error fault => cases all
  | ok found => exact ⟨found, rfl, all⟩

/-- Two chains agree if they agree on what the first reading gives. -/
theorem bind_congr_of_ok
    {answer : Except Fault Found}
    {next other : Found → Except Fault Value}
    (agree : ∀ found, answer = .ok found → next found = other found) :
    (answer >>= next) = (answer >>= other) := by
  cases answer with
  | error fault => rfl
  | ok found => exact agree found rfl

/-- Readers that agree on the items of a list agree on the list. -/
theorem mapM_congr
    {read other : Item → Except Fault Value}
    {items : List Item}
    (agree : ∀ item ∈ items, read item = other item) :
    items.mapM read = items.mapM other := by
  induction items with
  | nil =>
      rfl
  | cons item rest inductionHypothesis =>
      obtain ⟨ofFirst, ofRest⟩ := List.forall_mem_cons.mp agree
      rw [List.mapM_cons, List.mapM_cons, ofFirst, inductionHypothesis ofRest]

/-- What is made of an answer needs the answer. -/
theorem exists_of_map_eq_ok
    {answer : Except Fault Found}
    {make : Found → Value}
    {value : Value}
    (all : answer.map make = .ok value) :
    ∃ found, answer = .ok found ∧ make found = value := by
  cases answer with
  | error fault => cases all
  | ok found => exact ⟨found, rfl, Except.ok.inj all⟩

/-- An answer that is there is the answer. -/
theorem eq_ok_of_toOption_eq_some
    {answer : Except Fault Value}
    {value : Value}
    (isThere : answer.toOption = some value) :
    answer = .ok value := by
  cases answer with
  | error fault => cases isThere
  | ok found => exact congrArg Except.ok (Option.some.inj isThere)

/-- Where a reader answers for all items of a list, it answers for each. -/
theorem forall₂_of_mapM_eq_ok
    {read : Item → Except Fault Value}
    {items : List Item}
    {values : List Value}
    (all : items.mapM read = .ok values) :
    List.Forall₂ (fun item value => read item = .ok value) items values := by
  induction items generalizing values with
  | nil =>
      cases all
      exact .nil
  | cons item rest inductionHypothesis =>
      rw [List.mapM_cons] at all
      obtain ⟨value, isFirst, all⟩ := exists_of_bind_eq_ok all
      obtain ⟨others, areOthers, all⟩ := exists_of_bind_eq_ok all
      cases all
      exact .cons isFirst (inductionHypothesis areOthers)

/-- Two lists that were read from one list are related item by item. -/
theorem forall₂_of_common
    {Left Right : Type}
    {ofLeft : Item → Left → Prop}
    {ofRight : Item → Right → Prop}
    {related : Left → Right → Prop}
    (relate :
      ∀ item left right,
        ofLeft item left → ofRight item right → related left right)
    {items : List Item}
    {lefts : List Left}
    {rights : List Right}
    (areLefts : List.Forall₂ ofLeft items lefts)
    (areRights : List.Forall₂ ofRight items rights) :
    List.Forall₂ related lefts rights := by
  induction areLefts generalizing rights with
  | nil =>
      cases areRights
      exact .nil
  | @cons item left _ _ isLeft _ inductionHypothesis =>
      cases areRights with
      | cons isRight others =>
          exact
            .cons (relate item left _ isLeft isRight)
              (inductionHypothesis others)

/-- Where a check passes all items of a list, it passes each. -/
theorem forall_of_forM_eq_ok
    {check : Item → Except Fault PUnit}
    {items : List Item}
    (all : items.forM check = .ok ()) :
    ∀ item ∈ items, check item = .ok () := by
  induction items with
  | nil =>
      exact List.forall_mem_nil _
  | cons item rest inductionHypothesis =>
      obtain ⟨_, isFirst, others⟩ := exists_of_bind_eq_ok all
      exact List.forall_mem_cons.mpr ⟨isFirst, inductionHypothesis others⟩

/-- What passes each item of a list passes them all. -/
theorem forM_eq_ok
    {check : Item → Except Fault PUnit}
    {items : List Item}
    (each : ∀ item ∈ items, check item = .ok ()) :
    items.forM check = .ok () := by
  induction items with
  | nil =>
      rfl
  | cons item rest inductionHypothesis =>
      obtain ⟨isFirst, ofRest⟩ := List.forall_mem_cons.mp each
      change (check item >>= fun _ => rest.forM check) = .ok ()
      rw [isFirst, ok_bind]
      exact inductionHypothesis ofRest

/-- Where a reader finds nothing for a list, it finds nothing for an item of it. -/
theorem exists_of_mapM_eq_none
    {read : Item → Option Value}
    {items : List Item}
    (isNone : items.mapM read = none) :
    ∃ item ∈ items, read item = none := by
  induction items with
  | nil =>
      cases isNone
  | cons item rest inductionHypothesis =>
      rw [List.mapM_cons] at isNone
      cases isFirst : read item with
      | none =>
          exact ⟨item, List.mem_cons_self .., isFirst⟩
      | some value =>
          rw [isFirst] at isNone
          have ofRest : rest.mapM read = none := by
            cases areOthers : rest.mapM read with
            | none => rfl
            | some others =>
                rw [areOthers] at isNone
                cases isNone
          obtain ⟨other, member, isOther⟩ := inductionHypothesis ofRest
          exact ⟨other, List.mem_cons_of_mem item member, isOther⟩

/-! ## Readers that always answer -/

/-- Where there is no answer, the fault is one of those expected. -/
def FailsOnly
    (expected : Fault → Prop)
    (answer : Except Fault Value) :
    Prop :=
  ∀ fault, answer = .error fault → expected fault

/-- There is an answer. -/
abbrev Answers (answer : Except Fault Value) : Prop :=
  FailsOnly (fun _ => False) answer

namespace FailsOnly

variable {expected : Fault → Prop}

theorem ok (value : Value) : FailsOnly expected (.ok value) := by
  intro fault isFault
  cases isFault

theorem error
    {fault : Fault}
    (isExpected : expected fault) :
    FailsOnly expected (.error fault : Except Fault Value) := by
  intro other isFault
  cases isFault
  exact isExpected

/-- An answer is there, or there is an expected fault. -/
theorem exists_or
    {answer : Except Fault Value}
    (failsOnly : FailsOnly expected answer) :
    (∃ value, answer = .ok value) ∨
      ∃ fault, answer = .error fault ∧ expected fault := by
  cases answer with
  | ok value => exact .inl ⟨value, rfl⟩
  | error fault => exact .inr ⟨fault, rfl, failsOnly fault rfl⟩

theorem mono
    {further : Fault → Prop}
    {answer : Except Fault Value}
    (failsOnly : FailsOnly expected answer)
    (areAmong : ∀ fault, expected fault → further fault) :
    FailsOnly further answer :=
  fun fault isFault => areAmong fault (failsOnly fault isFault)

theorem bind
    {answer : Except Fault Found}
    {next : Found → Except Fault Value}
    (first : FailsOnly expected answer)
    (second : ∀ found, answer = .ok found → FailsOnly expected (next found)) :
    FailsOnly expected (answer >>= next) := by
  cases answer with
  | ok found => exact second found rfl
  | error fault => exact error (first fault rfl)

theorem map
    {answer : Except Fault Found}
    (failsOnly : FailsOnly expected answer)
    (make : Found → Value) :
    FailsOnly expected (answer.map make) := by
  cases answer with
  | ok found => exact ok (make found)
  | error fault => exact error (failsOnly fault rfl)

/-- A reader of all items of a list fails as it does for each. -/
theorem mapM
    {read : Item → Except Fault Value}
    {items : List Item}
    (each : ∀ item ∈ items, FailsOnly expected (read item)) :
    FailsOnly expected (items.mapM read) := by
  induction items with
  | nil =>
      exact ok []
  | cons item rest inductionHypothesis =>
      obtain ⟨isFirst, others⟩ := List.forall_mem_cons.mp each
      rw [List.mapM_cons]
      exact
        isFirst.bind fun value _ =>
          (inductionHypothesis others).bind fun values _ => ok (value :: values)

/-- A check of all items of a list fails as it does for each. -/
theorem forM
    {check : Item → Except Fault PUnit}
    {items : List Item}
    (each : ∀ item ∈ items, FailsOnly expected (check item)) :
    FailsOnly expected (items.forM check) := by
  induction items with
  | nil =>
      exact ok PUnit.unit
  | cons item rest inductionHypothesis =>
      obtain ⟨isFirst, others⟩ := List.forall_mem_cons.mp each
      exact isFirst.bind fun _ _ => inductionHypothesis others

end FailsOnly

/-- What answers fails only with whatever fault. -/
theorem Answers.failsOnly
    {expected : Fault → Prop}
    {answer : Except Fault Value}
    (answers : Answers answer) :
    FailsOnly expected answer :=
  answers.mono fun _ isNone => isNone.elim

/-- What answers has an answer. -/
theorem Answers.exists_ok
    {answer : Except Fault Value}
    (answers : Answers answer) :
    ∃ value, answer = .ok value := by
  rcases answers.exists_or with isOk | ⟨_, _, isNone⟩
  · exact isOk
  · exact isNone.elim

/-! ## What comes of a reading -/

/-- What comes of a reading passes a test: a value the one, a fault the other. -/
def Yields
    (ofValue : Value → Prop)
    (ofFault : Fault → Prop) :
    Except Fault Value → Prop
  | .ok value => ofValue value
  | .error fault => ofFault fault

namespace Yields

variable
  {ofValue : Value → Prop}
  {ofFault : Fault → Prop}

/-- Whatever is read passes a test that all values pass. -/
theorem of_failsOnly
    {answer : Except Fault Value}
    (failsOnly : FailsOnly ofFault answer)
    (passes : ∀ value, answer = .ok value → ofValue value) :
    Yields ofValue ofFault answer := by
  cases answer with
  | ok value => exact passes value rfl
  | error fault => exact failsOnly fault rfl

theorem bind
    {ofFound : Found → Prop}
    {answer : Except Fault Found}
    {next : Found → Except Fault Value}
    (first : Yields ofFound ofFault answer)
    (second : ∀ found, ofFound found → Yields ofValue ofFault (next found)) :
    Yields ofValue ofFault (answer >>= next) := by
  cases answer with
  | ok found => exact second found first
  | error fault => exact first

theorem map
    {ofFound : Found → Prop}
    {answer : Except Fault Found}
    {make : Found → Value}
    (first : Yields ofFound ofFault answer)
    (passes : ∀ found, ofFound found → ofValue (make found)) :
    Yields ofValue ofFault (answer.map make) := by
  cases answer with
  | ok found => exact passes found first
  | error fault => exact first

theorem ite
    {condition : Prop}
    [Decidable condition]
    {positive negative : Except Fault Value}
    (ifSo : condition → Yields ofValue ofFault positive)
    (ifNot : ¬ condition → Yields ofValue ofFault negative) :
    Yields ofValue ofFault (if condition then positive else negative) := by
  split
  · next holds => exact ifSo holds
  · next holdsNot => exact ifNot holdsNot

theorem mono
    {further : Value → Prop}
    {answer : Except Fault Value}
    (yields : Yields ofValue ofFault answer)
    (areAmong : ∀ value, ofValue value → further value) :
    Yields further ofFault answer := by
  cases answer with
  | ok value => exact areAmong value yields
  | error fault => exact yields

/-- Of the items of a list comes what comes of each. -/
theorem mapM
    {read : Item → Except Fault Value}
    {items : List Item}
    (each : ∀ item ∈ items, Yields ofValue ofFault (read item)) :
    Yields (fun values => ∀ value ∈ values, ofValue value) ofFault
      (items.mapM read) := by
  induction items with
  | nil =>
      exact List.forall_mem_nil _
  | cons item rest inductionHypothesis =>
      obtain ⟨isFirst, others⟩ := List.forall_mem_cons.mp each
      rw [List.mapM_cons]
      refine isFirst.bind fun value passes => ?_
      refine (inductionHypothesis others).bind fun values pass => ?_
      exact List.forall_mem_cons.mpr ⟨passes, pass⟩

end Yields

/-! ## Related lists -/

/-- What is related to a list was found for one of its items. -/
theorem exists_of_forall₂_mem
    {related : Item → Value → Prop}
    {items : List Item}
    {values : List Value}
    (areRelated : List.Forall₂ related items values)
    {value : Value}
    (member : value ∈ values) :
    ∃ item, item ∈ items ∧ related item value := by
  induction areRelated with
  | nil =>
      cases member
  | @cons item first _ _ isFirst _ inductionHypothesis =>
      rcases List.mem_cons.mp member with rfl | inRest
      · exact ⟨item, List.mem_cons_self .., isFirst⟩
      · obtain ⟨other, isItem, isRelated⟩ := inductionHypothesis inRest
        exact ⟨other, List.mem_cons_of_mem _ isItem, isRelated⟩

/-- Reading more items gives more values. -/
theorem subset_of_mapM_eq_ok
    {read : Item → Except Fault Value}
    {items more : List Item}
    {values moreValues : List Value}
    (areValues : items.mapM read = .ok values)
    (areMore : more.mapM read = .ok moreValues)
    (isPart : items ⊆ more) :
    values ⊆ moreValues := by
  intro value member
  obtain ⟨item, isItem, isRead⟩ :=
    exists_of_forall₂_mem (forall₂_of_mapM_eq_ok areValues) member
  obtain ⟨other, isThere, alsoRead⟩ :=
    exists_of_forall₂_mem (forall₂_of_mapM_eq_ok areMore).flip (isPart isItem)
  obtain rfl := Except.ok.inj (isRead.symm.trans alsoRead)
  exact isThere

/-- Where something is found for each item, there is a list of what is found. -/
theorem exists_forall₂
    {related : Item → Value → Prop}
    {items : List Item}
    (each : ∀ item ∈ items, ∃ value, related item value) :
    ∃ values, List.Forall₂ related items values := by
  induction items with
  | nil =>
      exact ⟨[], .nil⟩
  | cons item rest inductionHypothesis =>
      obtain ⟨⟨value, isValue⟩, ofRest⟩ := List.forall_mem_cons.mp each
      obtain ⟨values, areValues⟩ := inductionHypothesis ofRest
      exact ⟨value :: values, .cons isValue areValues⟩

/-- What is related to a list with an item in it has a part for each of its parts. -/
theorem exists_parts_of_forall₂
    {related : Item → Value → Prop}
    {before after : List Item}
    {item : Item}
    {values : List Value}
    (areRelated : List.Forall₂ related (before ++ item :: after) values) :
    ∃ front value back,
      values = front ++ value :: back ∧
        related item value ∧ List.Forall₂ related after back := by
  induction before generalizing values with
  | nil =>
      cases areRelated with
      | @cons _ value _ back isRelated others =>
          exact ⟨[], value, back, rfl, isRelated, others⟩
  | cons first rest inductionHypothesis =>
      cases areRelated with
      | @cons _ head _ _ _ others =>
          obtain ⟨front, value, back, rfl, isRelated, behind⟩ :=
            inductionHypothesis others
          exact ⟨head :: front, value, back, rfl, isRelated, behind⟩

end HouseStyle
