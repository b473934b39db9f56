namespace HouseStyle

/-!
# Moments

Days of the calendar, and days with a time on the clock. A time may state how far
the clock is ahead of universal time. Every part is checked when a moment is
made, the largest part first.
-/

/-- A day of the calendar. -/
structure Day where
  year : Nat
  month : Nat
  day : Nat
  deriving Repr, DecidableEq

/-- A time on the clock. -/
structure ClockTime where
  hour : Nat
  minute : Nat
  second : Nat
  microsecond : Nat
  deriving Repr, DecidableEq

/-- A day, or a time on a day. -/
inductive Moment
  | day (day : Day)
  /-- `ahead` is the clock's lead over universal time in minutes. -/
  | time (day : Day) (clock : ClockTime) (ahead : Option Int)
  deriving Repr, DecidableEq

/-- Why numbers make no moment. -/
inductive CalendarFault
  | year (year : Nat)
  | month
  | day
  | hour
  | minute
  | second
  | ahead (minutes : Int)
  deriving Repr, DecidableEq

/-- A number of minutes as whole days and the seconds of the last one. -/
def daysAndSeconds (minutes : Int) : Int × Int :=
  (minutes.fdiv 1440, minutes.fmod 1440 * 60)

/-- A span of minutes as messages show it. -/
def shownSpan (minutes : Int) : String :=
  let (days, seconds) := daysAndSeconds minutes
  let parts :=
    (if days = 0 then [] else ["days=" ++ toString days]) ++
      (if seconds = 0 then [] else ["seconds=" ++ toString seconds])
  "datetime.timedelta(" ++
    (if parts.isEmpty then "0" else ", ".intercalate parts) ++ ")"

/-- The wording of a fault. -/
def CalendarFault.message : CalendarFault → String
  | .year number => "year " ++ toString number ++ " is out of range"
  | .month => "month must be in 1..12"
  | .day => "day is out of range for month"
  | .hour => "hour must be in 0..23"
  | .minute => "minute must be in 0..59"
  | .second => "second must be in 0..59"
  | .ahead minutes =>
      "offset must be a timedelta strictly between " ++
        "-timedelta(hours=24) and timedelta(hours=24), not " ++
        shownSpan minutes ++ "."

/-- Whether a year has a day in February more. -/
def isLeapYear (year : Nat) : Bool :=
  year % 4 == 0 && (year % 100 != 0 || year % 400 == 0)

/-- The number of days of a month. -/
def daysOfMonth (year month : Nat) : Nat :=
  if month = 2 then
    if isLeapYear year then 29 else 28
  else if month = 4 ∨ month = 6 ∨ month = 9 ∨ month = 11 then
    30
  else
    31

/-- The day of some numbers. -/
def Day.ofNumbers (year month day : Nat) : Except CalendarFault Day :=
  if year = 0 ∨ 9999 < year then
    .error (.year year)
  else if month = 0 ∨ 12 < month then
    .error .month
  else if day = 0 ∨ daysOfMonth year month < day then
    .error .day
  else
    .ok { year, month, day }

/-- A time whose parts do not exceed their ranges. -/
def ClockTime.checked (clock : ClockTime) : Except CalendarFault ClockTime :=
  if 23 < clock.hour then
    .error .hour
  else if 59 < clock.minute then
    .error .minute
  else if 59 < clock.second then
    .error .second
  else
    .ok clock

/-- A lead over universal time of less than a day. -/
def checkedLead (minutes : Int) : Except CalendarFault Int :=
  if minutes ≤ -1440 ∨ 1440 ≤ minutes then
    .error (.ahead minutes)
  else
    .ok minutes

/-- The number of days before a day, from the first day of the year 1 on. -/
def Day.ordinal (day : Day) : Nat :=
  let years := day.year - 1
  let months := (List.range (day.month - 1)).map fun index =>
    daysOfMonth day.year (index + 1)
  365 * years + years / 4 - years / 100 + years / 400 +
    months.foldr (· + ·) 0 + day.day

/-- The microseconds from the first day on by the clock itself. -/
def microsecondsOf (day : Day) (clock : ClockTime) : Nat :=
  ((day.ordinal * 24 + clock.hour) * 60 + clock.minute) * 60000000 +
    clock.second * 1000000 + clock.microsecond

namespace Moment

/-- Whether two moments are the same; clocks apart may show the same moment. -/
def same : Moment → Moment → Bool
  | .day left, .day right => left == right
  | .time date clock ahead, .time date' clock' ahead' =>
      match ahead, ahead' with
      | none, none => date == date' && clock == clock'
      | some ahead, some ahead' =>
          (microsecondsOf date clock : Int) - ahead * 60000000 ==
            microsecondsOf date' clock' - ahead' * 60000000
      | _, _ => false
  | _, _ => false

/-- Whether one of two moments is known to be the earlier one, or neither. -/
def comparable : Moment → Moment → Bool
  | .day _, .day _ => true
  | .time _ _ ahead, .time _ _ ahead' => ahead.isSome == ahead'.isSome
  | _, _ => false

/-- A number with zeros in front. -/
def padded (width number : Nat) : String :=
  let digits := toString number
  String.ofList (List.replicate (width - digits.length) '0') ++ digits

/-- A day as a text. -/
def dayText (day : Day) : String :=
  padded 4 day.year ++ "-" ++ padded 2 day.month ++ "-" ++ padded 2 day.day

/-- A lead over universal time as a text. -/
def leadText (minutes : Int) : String :=
  (if minutes < 0 then "-" else "+") ++
    padded 2 (minutes.natAbs / 60) ++ ":" ++ padded 2 (minutes.natAbs % 60)

/-- A moment as a text. -/
def text : Moment → String
  | .day date => dayText date
  | .time date clock ahead =>
      dayText date ++ " " ++ padded 2 clock.hour ++ ":" ++
        padded 2 clock.minute ++ ":" ++ padded 2 clock.second ++
        (if clock.microsecond = 0 then
          ""
        else
          "." ++ padded 6 clock.microsecond) ++
        ((ahead.map leadText).getD "")

/-- A lead over universal time as messages show it. -/
def shownLead (minutes : Int) : String :=
  if minutes = 0 then
    "datetime.timezone.utc"
  else
    "datetime.timezone(" ++ shownSpan minutes ++ ")"

/-- The parts of a time that messages show: trailing zeros are left out. -/
def shownParts (clock : ClockTime) : List Nat :=
  if clock.microsecond ≠ 0 then
    [clock.hour, clock.minute, clock.second, clock.microsecond]
  else if clock.second ≠ 0 then
    [clock.hour, clock.minute, clock.second]
  else
    [clock.hour, clock.minute]

/-- A moment as messages show it. -/
def shown : Moment → String
  | .day date =>
      "datetime.date(" ++
        ", ".intercalate ([date.year, date.month, date.day].map toString) ++ ")"
  | .time date clock ahead =>
      let numbers := [date.year, date.month, date.day] ++ shownParts clock
      let lead :=
        match ahead with
        | none => []
        | some minutes => ["tzinfo=" ++ shownLead minutes]
      "datetime.datetime(" ++
        ", ".intercalate (numbers.map toString ++ lead) ++ ")"

/-- The kind of a moment, as messages name it. -/
def typeName : Moment → String
  | .day _ => "date"
  | .time .. => "datetime"

end Moment

example : Day.ofNumbers 2100 2 29 = .error .day := rfl

example : (Day.ofNumbers 2000 2 29).toOption.isSome = true := rfl

example : shownSpan (-330) = "datetime.timedelta(days=-1, seconds=66600)" := by
  decide +kernel

end HouseStyle
