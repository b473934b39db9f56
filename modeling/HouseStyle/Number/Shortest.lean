import HouseStyle.Number.Binary64

namespace HouseStyle

/-!
# Shortest decimal text

A finite number is written with the fewest digits that read back as the same
number; of several such decimals the nearest one is taken. Numbers from 10^-4
up to 10^16 are written positionally with at least one place, all others with
an exponent of at least two digits.
-/

namespace Binary64

/-- The reals that round to a positive number, as a pair of fractions. -/
structure Interval where
  low : Nat × Nat
  high : Nat × Nat
  /-- Whether the two ends round to the number too. -/
  closed : Bool

/-- The reals that round to `mantissa * 2 ^ exponent`. -/
def interval
    (mantissa : Nat)
    (exponent : Int) :
    Interval :=
  let low :=
    if mantissa = Nat.pow 2 52 ∧ leastExponent < exponent then
      fraction (4 * mantissa - 1) (exponent - 2)
    else
      fraction (2 * mantissa - 1) (exponent - 1)
  { low
    high := fraction (2 * mantissa + 1) (exponent - 1)
    closed := mantissa % 2 == 0 }

/-- Whether a fraction lies in an interval. -/
def Interval.holds
    (bounds : Interval)
    (numerator denominator : Nat) :
    Bool :=
  let below := bounds.low.1 * denominator
  let value := numerator * bounds.low.2
  let above := bounds.high.1 * denominator
  let value' := numerator * bounds.high.2
  if bounds.closed then
    below ≤ value && value' ≤ above
  else
    below < value && value' < above

/-- `digits * 10 ^ power` as a fraction. -/
def decimalFraction
    (digits : Nat)
    (power : Int) :
    Nat × Nat :=
  match power with
  | .ofNat power => (digits * Nat.pow 10 power, 1)
  | .negSucc power => (digits, Nat.pow 10 (power + 1))

/-- The power of ten of a positive fraction's first digit. -/
def decimalExponent (numerator denominator : Nat) : Int :=
  let bits : Int := numerator.log2 - denominator.log2
  let guess := (bits * 30103) / 100000
  let (upper, upper') := decimalFraction 1 (guess + 1)
  let (lower, lower') := decimalFraction 1 guess
  if upper * denominator ≤ numerator * upper' then
    guess + 1
  else if numerator * lower' < lower * denominator then
    guess - 1
  else
    guess

/--
Of the two neighbours of a fraction on the grid of step `10 ^ power`, the
nearest one that lies in the interval.
-/
def nearestOnGrid?
    (bounds : Interval)
    (numerator denominator : Nat)
    (power : Int) :
    Option Nat :=
  let (step, step') := decimalFraction 1 power
  let top := numerator * step'
  let bottom := denominator * step
  let floor := top / bottom
  let twice := 2 * (top % bottom)
  let inside (digits : Nat) : Bool :=
    let (value, value') := decimalFraction digits power
    0 < digits && bounds.holds value value'
  let upFirst := bottom < twice || (twice == bottom && floor % 2 == 1)
  let order := if upFirst then [floor + 1, floor] else [floor, floor + 1]
  order.find? inside

/-- The shortest digits of a fraction and the power of ten of the last one. -/
def shortestFrom
    (bounds : Interval)
    (numerator denominator : Nat)
    (leading : Int) :
    Nat →
    Nat × Int
  | 0 => (0, 0)
  | remaining + 1 =>
      let places : Nat := 17 - remaining
      let power := leading + 1 - places
      match nearestOnGrid? bounds numerator denominator power with
      | some digits => (digits, power)
      | none => shortestFrom bounds numerator denominator leading remaining

/-- The shortest digits of `mantissa * 2 ^ exponent`. -/
def shortest
    (mantissa : Nat)
    (exponent : Int) :
    Nat × Int :=
  let (numerator, denominator) := fraction mantissa exponent
  let leading := decimalExponent numerator denominator
  shortestFrom (interval mantissa exponent) numerator denominator leading 17

/-- Digits with a point behind the first `whole` of them. -/
def positional
    (digits : List Char)
    (whole : Int) :
    String :=
  match whole with
  | .ofNat (count + 1) =>
      let padding := List.replicate (count + 1 - digits.length) '0'
      let front := digits.take (count + 1) ++ padding
      let back := digits.drop (count + 1)
      String.ofList (front ++ '.' :: (if back.isEmpty then ['0'] else back))
  | _ =>
      let padding := List.replicate (-whole).toNat '0'
      "0." ++ String.ofList (padding ++ digits)

/-- Digits with a point behind the first of them and an exponent. -/
def scientific
    (digits : List Char)
    (exponent : Int) :
    String :=
  let mantissa :=
    match digits with
    | [] => "0"
    | [digit] => digit.toString
    | digit :: rest => digit.toString ++ "." ++ String.ofList rest
  let sign := if exponent < 0 then "-" else "+"
  let size := toString exponent.natAbs
  let padded := if size.length < 2 then "0" ++ size else size
  mantissa ++ "e" ++ sign ++ padded

/-- Drop the zeros at the end of a digit string. -/
def dropTrailingZeros (digits : List Char) : List Char :=
  (digits.reverse.dropWhile (· == '0')).reverse

/-- The text of a positive finite number. -/
def renderMagnitude
    (mantissa : Nat)
    (exponent : Int) :
    String :=
  let (value, power) := shortest mantissa exponent
  let all := Nat.toDigits 10 value
  let leading := power + all.length - 1
  let digits := dropTrailingZeros all
  if -4 ≤ leading ∧ leading < 16 then
    positional digits (leading + 1)
  else
    scientific digits leading

/-- The text of a number. -/
def render : Binary64 → String
  | .undefined => "nan"
  | .infinite negative => if negative then "-inf" else "inf"
  | .finite negative mantissa exponent =>
      let magnitude :=
        if mantissa = 0 then "0.0" else renderMagnitude mantissa exponent
      if negative then "-" ++ magnitude else magnitude

end Binary64

end HouseStyle
