import HouseStyle.Calendar.Moment
import HouseStyle.Number.Numeral

namespace HouseStyle

/-!
# Reading moments

A moment is written as a day, `2001-12-14`, or as a day and a time behind a `T`
or blanks, `2001-12-14 21:59:43.10 +1:30`. The time may have a fraction and end
in a `Z` or in the clock's lead over universal time. Numbers but the year, the
minutes and the seconds may have a single digit.
-/

/-- A number of a moment and what follows it. -/
abbrev NumberRead := Nat × List Char

/-- Read a number of at least and at most so many ASCII digits. -/
def readDigits?
    (least most : Nat)
    (text : List Char) :
    Option NumberRead :=
  let digits := (text.take most).takeWhile isAsciiDigit
  if least ≤ digits.length then
    some ((readInBase? 10 digits).getD 0, text.drop digits.length)
  else
    none

/-- Step over a character that has to stand at the head. -/
def dropMark? (mark : Char) : List Char → Option (List Char)
  | [] => none
  | character :: rest => if character = mark then some rest else none

/-- Read a mark and a number behind it. -/
def readMarked?
    (mark : Char)
    (least most : Nat)
    (text : List Char) :
    Option NumberRead :=
  (dropMark? mark text).bind (readDigits? least most)

/-- Read the microseconds that a fraction of a second states. -/
def readMicroseconds (text : List Char) : NumberRead :=
  match text with
  | '.' :: rest =>
      let digits := rest.takeWhile isAsciiDigit
      let places := digits.take 6 ++ List.replicate (6 - digits.length) '0'
      ((readInBase? 10 places).getD 0, rest.drop digits.length)
  | text => (0, text)

/-- Read hours and minutes, which may be left out, up to the end. -/
def readSpan? (text : List Char) : Option Int := do
  let (hours, rest) ← readDigits? 1 2 text
  match rest with
  | [] => some (hours * 60)
  | rest => do
      let (minutes, rest) ← readMarked? ':' 2 2 rest
      if rest.isEmpty then some (hours * 60 + minutes) else none

/-- Read the lead over universal time up to the end; there may be none. -/
def readLead? (text : List Char) : Option (Option Int) :=
  match text with
  | [] => some none
  | text =>
      match text.dropWhile fun c => c == ' ' || c == '\t' with
      | ['Z'] => some (some 0)
      | '+' :: rest => (readSpan? rest).map some
      | '-' :: rest => (readSpan? rest).map fun minutes => some (-minutes)
      | _ => none

/-- The numbers of a moment as they are written. -/
structure WrittenMoment where
  year : Nat
  month : Nat
  day : Nat
  /-- The time, if there is one, with the clock's lead over universal time. -/
  time : Option (ClockTime × Option Int)
  deriving Repr, DecidableEq

/-- Step over what stands between a day and its time. -/
def dropTimeMark? : List Char → Option (List Char)
  | 'T' :: rest => some rest
  | 't' :: rest => some rest
  | ' ' :: rest => some (rest.dropWhile fun c => c == ' ' || c == '\t')
  | '\t' :: rest => some (rest.dropWhile fun c => c == ' ' || c == '\t')
  | _ => none

/-- Read a time up to the end. -/
def readTime? (text : List Char) : Option (ClockTime × Option Int) := do
  let (hour, text) ← readDigits? 1 2 text
  let (minute, text) ← readMarked? ':' 2 2 text
  let (second, text) ← readMarked? ':' 2 2 text
  let (microsecond, text) := readMicroseconds text
  let lead ← readLead? text
  some ({ hour, minute, second, microsecond }, lead)

namespace WrittenMoment

/-- Read the numbers of a moment. -/
def ofText? (text : List Char) : Option WrittenMoment := do
  let (year, text) ← readDigits? 4 4 text
  let (month, text) ← readMarked? '-' 1 2 text
  let (day, text) ← readMarked? '-' 1 2 text
  match text with
  | [] => some { year, month, day, time := none }
  | text => do
      let text ← dropTimeMark? text
      let time ← readTime? text
      some { year, month, day, time := some time }

/-- The moment of written numbers; the lead over universal time goes first. -/
def moment (written : WrittenMoment) : Except CalendarFault Moment :=
  let day := Day.ofNumbers written.year written.month written.day
  match written.time with
  | none => day.map .day
  | some (clock, lead) => do
      let ahead ← lead.mapM checkedLead
      let day ← day
      let clock ← clock.checked
      pure (.time day clock ahead)

end WrittenMoment

/-- Whether a word is a moment; a day alone needs two digits for each number. -/
def isMomentWord (word : List Char) : Bool :=
  match WrittenMoment.ofText? word with
  | none => false
  | some written => written.time.isSome || word.length == 10

example :
    ((WrittenMoment.ofText? "2001-12-14t21:59:43.10-5".toList).map
      (·.moment.toOption.map Moment.text)) =
      some (some "2001-12-14 21:59:43.100000-05:00") := by
  decide +kernel

end HouseStyle
