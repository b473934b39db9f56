import HouseStyle.Document.Basic
import Mathlib.Data.List.Nodup
import Mathlib.Data.Rat.Lemmas

namespace HouseStyle

/-!
# Entries of mappings

A mapping is known by its keys in their order and by what is found under each
name. Putting a value changes what is found under one name, and adds a key only
if there is none of that name.

Two scalars name the same entry exactly if the same name can be read off them.
Numbers are named by their value, so that to name the same entry is an
equivalence.
-/

/-! ## What names an entry -/

/-- What a number names an entry by. -/
inductive Binary64.Name
  | exact (value : Rat)
  | infinite (negative : Bool)
  | undefined
  deriving DecidableEq

/-- What a moment names an entry by. -/
inductive Moment.Name
  | day (date : Day)
  | clock (date : Day) (clock : ClockTime)
  | instant (microseconds : Int)
  deriving DecidableEq

/-- What a scalar names an entry by. -/
inductive Scalar.Name
  | null
  | number (value : Binary64.Name)
  | text (value : String)
  | bytes (value : List UInt8)
  | moment (value : Moment.Name)
  deriving DecidableEq

namespace Binary64

/-- What a floating-point number names an entry by. -/
def name : Binary64 → Name
  | .finite negative mantissa exponent =>
      let (top, bottom) := signedFraction negative mantissa exponent
      .exact (mkRat top bottom)
  | .infinite negative => .infinite negative
  | .undefined => .undefined

/-- No finite number has the denominator zero. -/
theorem denominator_ne_zero
    (negative : Bool)
    (mantissa : Nat)
    (exponent : Int) :
    (signedFraction negative mantissa exponent).2 ≠ 0 := by
  cases exponent with
  | ofNat shift => exact Nat.one_ne_zero
  | negSucc shift => exact (Nat.two_pow_pos (shift + 1)).ne'

/-- Numbers that are equal, if only as the undefined value, have one name. -/
theorem equals_iff (left right : Binary64) :
    (left == right || left.equals right) = true ↔ left.name = right.name := by
  rw [Bool.or_eq_true, beq_iff_eq]
  cases left with
  | finite negative mantissa exponent =>
      cases right with
      | finite negative' mantissa' exponent' =>
          simp only [equals, name, Name.exact.injEq]
          rw [beq_iff_eq,
            Rat.mkRat_eq_iff (denominator_ne_zero negative mantissa exponent)
              (denominator_ne_zero negative' mantissa' exponent')]
          refine or_iff_right_of_imp ?_
          rintro ⟨⟩
          rfl
      | _ => simp [equals, name]
  | _ => cases right <;> simp [equals, name]

/-- A number that equals an integer is named by the integer. -/
theorem equalsInt_iff (number : Binary64) (value : Int) :
    number.equalsInt value = true ↔ number.name = .exact value := by
  cases number with
  | finite negative mantissa exponent =>
      simp only [equalsInt, name, beq_iff_eq, Name.exact.injEq]
      rw [← Rat.mkRat_one,
        Rat.mkRat_eq_iff (denominator_ne_zero negative mantissa exponent)
          Nat.one_ne_zero,
        Nat.cast_one, mul_one]
  | _ => simp [equalsInt, name]

end Binary64

namespace Moment

/-- What a moment names an entry by. -/
def name : Moment → Name
  | .day date => .day date
  | .time date clock none => .clock date clock
  | .time date clock (some ahead) =>
      .instant ((microsecondsOf date clock : Int) - ahead * 60000000)

/-- Moments that are the same have one name. -/
theorem same_iff (left right : Moment) :
    left.same right = true ↔ left.name = right.name := by
  rcases left with date | ⟨date, clock, _ | ahead⟩ <;>
    rcases right with date' | ⟨date', clock', _ | ahead'⟩ <;>
      simp [same, name]

end Moment

namespace Scalar

/-- What a scalar names an entry by. -/
def name : Scalar → Name
  | .null => .null
  | .bool value => .number (.exact (if value then 1 else 0 : Int))
  | .int value => .number (.exact value)
  | .float value => .number value.name
  | .text value => .text value
  | .bytes value => .bytes value
  | .moment value => .moment value.name

/-- Two scalars name the same entry if they have one name. -/
theorem same_iff (left right : Scalar) :
    left.same right = true ↔ left.name = right.name := by
  cases left with
  | float number =>
      cases right with
      | float other => simp [same, name, ← Binary64.equals_iff]
      | _ => simp [same, integer?, name, Binary64.equalsInt_iff]
  | moment value =>
      cases right with
      | moment other => simp [same, name, Moment.same_iff]
      | float number => simp [same, integer?, name]
      | _ => simp [same, integer?, name]
  | _ =>
      cases right with
      | float number =>
          simp [same, integer?, name, Binary64.equalsInt_iff, @eq_comm _ _ number.name]
      | _ => simp [same, integer?, name, -Int.cast_ite]

end Scalar

/-! ## What a mapping holds -/

namespace Entries

/-- The keys of a mapping in their order. -/
def keys (entries : Entries) : List Scalar :=
  entries.map Prod.fst

/-- The names of a mapping's entries in their order. -/
def names (entries : Entries) : List Scalar.Name :=
  entries.map fun entry => entry.1.name

variable
  {entries others : Entries}
  {key other : Scalar}
  {value : Document}

theorem names_eq_map_keys (entries : Entries) :
    entries.names = entries.keys.map Scalar.name := by
  rw [names, keys, List.map_map]
  rfl

@[simp]
theorem keys_nil : keys [] = [] := rfl

@[simp]
theorem keys_cons (entry : Scalar × Document) (entries : Entries) :
    keys (entry :: entries) = entry.1 :: keys entries := rfl

@[simp]
theorem names_nil : names [] = [] := rfl

@[simp]
theorem names_cons (entry : Scalar × Document) (entries : Entries) :
    names (entry :: entries) = entry.1.name :: names entries := rfl

@[simp]
theorem find?_nil (key : Scalar) : find? [] key = none := rfl

theorem find?_cons_of_ne
    (different : other.name ≠ key.name)
    (value : Document)
    (entries : Entries) :
    find? ((other, value) :: entries) key = entries.find? key := by
  have notSame : ¬ other.same key = true :=
    fun same => different ((other.same_iff key).mp same)
  simp [find?, notSame]

theorem find?_cons_of_eq
    (same : other.name = key.name)
    (value : Document)
    (entries : Entries) :
    find? ((other, value) :: entries) key = some value := by
  have isSame : other.same key = true := (other.same_iff key).mpr same
  simp [find?, isSame]

/-- Keys of one name find the same. -/
theorem find?_congr
    (same : key.name = other.name)
    (entries : Entries) :
    entries.find? key = entries.find? other := by
  induction entries with
  | nil =>
      rfl
  | cons entry rest inductionHypothesis =>
      obtain ⟨first, value⟩ := entry
      by_cases isFirst : first.name = key.name
      · rw [find?_cons_of_eq isFirst, find?_cons_of_eq (isFirst.trans same)]
      · rw [find?_cons_of_ne isFirst,
          find?_cons_of_ne fun isOther => isFirst (isOther.trans same.symm),
          inductionHypothesis]

/-- Nothing is found exactly under names that no entry has. -/
theorem find?_eq_none_iff :
    entries.find? key = none ↔ key.name ∉ entries.names := by
  induction entries with
  | nil =>
      simp
  | cons entry rest inductionHypothesis =>
      obtain ⟨first, value⟩ := entry
      by_cases isFirst : first.name = key.name
      · simp [find?_cons_of_eq isFirst, isFirst]
      · simp [find?_cons_of_ne isFirst, inductionHypothesis, Ne.symm isFirst]

/-- The name of an entry is among the names. -/
theorem name_mem_names (member : (key, value) ∈ entries) :
    key.name ∈ entries.names :=
  List.mem_map_of_mem (f := fun entry => entry.1.name) member

/-- An entry that is not preceded by one of its name is found. -/
theorem find?_of_mem
    (distinct : entries.names.Nodup)
    (member : (key, value) ∈ entries) :
    entries.find? key = some value := by
  induction entries with
  | nil =>
      cases member
  | cons entry rest inductionHypothesis =>
      obtain ⟨first, found⟩ := entry
      rw [names_cons] at distinct
      obtain ⟨isNew, restDistinct⟩ := List.nodup_cons.mp distinct
      rcases List.mem_cons.mp member with isFirst | inRest
      · cases isFirst
        exact find?_cons_of_eq rfl value rest
      · have different : first.name ≠ key.name :=
          fun same => isNew (same ▸ name_mem_names inRest)
        rw [find?_cons_of_ne different, inductionHypothesis restDistinct inRest]

/-- What is found is an entry. -/
theorem exists_mem_of_find?
    (isFound : entries.find? key = some value) :
    ∃ present, present.name = key.name ∧ (present, value) ∈ entries := by
  obtain ⟨⟨present, found⟩, isEntry, rfl⟩ := Option.map_eq_some_iff.mp isFound
  have same := List.find?_some isEntry
  exact
    ⟨present, (present.same_iff key).mp same, List.mem_of_find?_eq_some isEntry⟩

/-! ## Putting values -/

/-- What is put is found. -/
@[simp]
theorem find?_put_self
    (entries : Entries)
    (key : Scalar)
    (value : Document) :
    (entries.put key value).find? key = some value := by
  induction entries with
  | nil =>
      exact find?_cons_of_eq rfl value []
  | cons entry rest inductionHypothesis =>
      obtain ⟨first, old⟩ := entry
      rw [put]
      split
      · next same =>
          exact find?_cons_of_eq ((first.same_iff key).mp same) value rest
      · next notSame =>
          rw [find?_cons_of_ne fun same => notSame ((first.same_iff key).mpr same),
            inductionHypothesis]

/-- Under other names the same is found as before. -/
theorem find?_put_of_ne
    (different : key.name ≠ other.name)
    (entries : Entries)
    (value : Document) :
    (entries.put key value).find? other = entries.find? other := by
  induction entries with
  | nil =>
      exact find?_cons_of_ne different value []
  | cons entry rest inductionHypothesis =>
      obtain ⟨first, old⟩ := entry
      rw [put]
      split
      · next same =>
          have isFirst := (first.same_iff key).mp same
          rw [find?_cons_of_ne (isFirst ▸ different),
            find?_cons_of_ne (isFirst ▸ different)]
      · by_cases isOther : first.name = other.name
        · rw [find?_cons_of_eq isOther, find?_cons_of_eq isOther]
        · rw [find?_cons_of_ne isOther, find?_cons_of_ne isOther,
            inductionHypothesis]

/-- The keys stay as they are where there is one of the name. -/
theorem keys_put_of_mem
    (member : key.name ∈ entries.names)
    (value : Document) :
    (entries.put key value).keys = entries.keys := by
  induction entries with
  | nil =>
      cases member
  | cons entry rest inductionHypothesis =>
      obtain ⟨first, old⟩ := entry
      rw [put]
      split
      · rfl
      · next notSame =>
          rcases List.mem_cons.mp member with same | inRest
          · exact (notSame ((first.same_iff key).mpr same.symm)).elim
          · rw [keys_cons, keys_cons, inductionHypothesis inRest]

/-- The key is the last one where there was none of the name. -/
theorem put_of_not_mem
    (isNew : key.name ∉ entries.names)
    (value : Document) :
    entries.put key value = entries ++ [(key, value)] := by
  induction entries with
  | nil =>
      rfl
  | cons entry rest inductionHypothesis =>
      obtain ⟨first, old⟩ := entry
      rw [names_cons, List.mem_cons, not_or] at isNew
      rw [put, if_neg fun same => isNew.1 ((first.same_iff key).mp same).symm,
        inductionHypothesis isNew.2, List.cons_append]

/-- The names stay distinct. -/
theorem nodup_names_put
    (distinct : entries.names.Nodup)
    (key : Scalar)
    (value : Document) :
    (entries.put key value).names.Nodup := by
  by_cases member : key.name ∈ entries.names
  · rw [names_eq_map_keys, keys_put_of_mem member, ← names_eq_map_keys]
    exact distinct
  · rw [put_of_not_mem member]
    simp only [names, List.map_append, List.map_cons, List.map_nil]
    refine List.nodup_append'.mpr ⟨distinct, List.nodup_singleton _, ?_⟩
    exact List.disjoint_singleton.mpr member

/-- Mappings with distinct names are equal if their keys and values are. -/
theorem ext_find?
    (distinct : entries.names.Nodup)
    (sameKeys : entries.keys = others.keys)
    (sameValues : ∀ key ∈ entries.keys, entries.find? key = others.find? key) :
    entries = others := by
  induction entries generalizing others with
  | nil =>
      cases others with
      | nil => rfl
      | cons entry rest => cases sameKeys
  | cons entry rest inductionHypothesis =>
      cases others with
      | nil =>
          cases sameKeys
      | cons entry' rest' =>
          obtain ⟨first, value⟩ := entry
          obtain ⟨first', value'⟩ := entry'
          rw [names_cons] at distinct
          obtain ⟨isNew, restDistinct⟩ := List.nodup_cons.mp distinct
          obtain ⟨rfl, sameRest⟩ := List.cons.inj sameKeys
          have sameValue := sameValues first (List.mem_cons_self ..)
          rw [find?_cons_of_eq rfl, find?_cons_of_eq rfl] at sameValue
          obtain rfl := Option.some.inj sameValue
          refine congrArg _ (inductionHypothesis restDistinct sameRest ?_)
          intro key member
          have different : first.name ≠ key.name := by
            intro same
            refine isNew ?_
            rw [same, names_eq_map_keys]
            exact List.mem_map_of_mem member
          have found := sameValues key (List.mem_cons_of_mem _ member)
          rwa [find?_cons_of_ne different, find?_cons_of_ne different] at found

/-! ## Text keys -/

/-- What is put under a text is found under it. -/
@[simp]
theorem get?_put_self
    (entries : Entries)
    (key : String)
    (value : Document) :
    (entries.put (.text key) value).get? key = some value :=
  find?_put_self entries (.text key) value

theorem get?_put_of_ne
    {key other : String}
    (different : key ≠ other)
    (entries : Entries)
    (value : Document) :
    (entries.put (.text key) value).get? other = entries.get? other :=
  find?_put_of_ne (by simpa [Scalar.name] using different) entries value

end Entries

end HouseStyle
