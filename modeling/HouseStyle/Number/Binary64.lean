namespace HouseStyle

/-!
# Binary floating-point numbers

Numbers with 53 significant bits and exponents from -1074 on, with signed
zeros, infinities and an undefined value. All arithmetic is on natural numbers,
so that rounding and printing can be reasoned about.
-/

/-- A 64-bit floating-point number; a finite one is `mantissa * 2 ^ exponent`. -/
inductive Binary64
  | finite (negative : Bool) (mantissa : Nat) (exponent : Int)
  | infinite (negative : Bool)
  | undefined
  deriving Repr, DecidableEq, Inhabited

namespace Binary64

/-- The exponent of the smallest positive number. -/
def leastExponent : Int := -1074

/-- The exponent of the largest finite number. -/
def greatestExponent : Int := 971

/-- Zero with a sign. -/
def signedZero (negative : Bool) : Binary64 :=
  .finite negative 0 0

/-- Reverse the sign. -/
def negate : Binary64 → Binary64
  | .finite negative mantissa exponent => .finite (!negative) mantissa exponent
  | .infinite negative => .infinite (!negative)
  | .undefined => .undefined

/-- A fraction scaled by a power of two. -/
def scaleFraction
    (numerator denominator : Nat)
    (exponent : Int) :
    Nat × Nat :=
  match exponent with
  | .ofNat shift => (numerator, denominator * Nat.pow 2 shift)
  | .negSucc shift => (numerator * Nat.pow 2 (shift + 1), denominator)

/-- A quotient rounded to the nearest natural number, a tie to the even one. -/
def roundDivide (numerator denominator : Nat) : Nat :=
  let quotient := numerator / denominator
  let twice := 2 * (numerator % denominator)
  if denominator < twice ∨ (twice = denominator ∧ quotient % 2 = 1) then
    quotient + 1
  else
    quotient

/-- Give a rounded mantissa its final form. -/
def normalize
    (negative : Bool)
    (mantissa : Nat)
    (exponent : Int) :
    Binary64 :=
  let (mantissa, exponent) :=
    if mantissa = Nat.pow 2 53 then
      (Nat.pow 2 52, exponent + 1)
    else
      (mantissa, exponent)
  if mantissa = 0 then
    signedZero negative
  else if greatestExponent < exponent then
    .infinite negative
  else
    .finite negative mantissa exponent

/-- The number nearest to a fraction with a positive denominator. -/
def ofFraction
    (negative : Bool)
    (numerator denominator : Nat) :
    Binary64 :=
  if numerator = 0 then
    signedZero negative
  else
    let guess : Int := numerator.log2 - denominator.log2 - 53
    let low := max guess leastExponent
    let (top, bottom) := scaleFraction numerator denominator low
    let exponent := if Nat.pow 2 53 ≤ top / bottom then low + 1 else low
    let (top, bottom) := scaleFraction numerator denominator exponent
    normalize negative (roundDivide top bottom) exponent

/-- The number nearest to `digits * 10 ^ exponent`. -/
def ofDecimal
    (negative : Bool)
    (digits : Nat)
    (exponent : Int) :
    Binary64 :=
  let magnitude := exponent + (digits.log2 * 30103 / 100000 : Nat)
  if digits = 0 ∨ magnitude < -400 then
    signedZero negative
  else if 400 < magnitude then
    .infinite negative
  else
    match exponent with
    | .ofNat power => ofFraction negative (digits * Nat.pow 10 power) 1
    | .negSucc power => ofFraction negative digits (Nat.pow 10 (power + 1))

/-- The number nearest to an integer, unless the integer is too large. -/
def ofInt? (value : Int) : Option Binary64 :=
  match ofFraction (value < 0) value.natAbs 1 with
  | .infinite _ => none
  | number => some number

/-- The numerator and denominator of a magnitude. -/
def fraction
    (mantissa : Nat)
    (exponent : Int) :
    Nat × Nat :=
  match exponent with
  | .ofNat shift => (mantissa * Nat.pow 2 shift, 1)
  | .negSucc shift => (mantissa, Nat.pow 2 (shift + 1))

/-- The numerator, with its sign, and the denominator of a finite number. -/
def signedFraction
    (negative : Bool)
    (mantissa : Nat)
    (exponent : Int) :
    Int × Nat :=
  let (top, bottom) := fraction mantissa exponent
  (if negative then -top else top, bottom)

/-- Numeric equality: zeros are equal, the undefined value equals nothing. -/
def equals : Binary64 → Binary64 → Bool
  | .finite negative mantissa exponent, .finite negative' mantissa' exponent' =>
      let (top, bottom) := signedFraction negative mantissa exponent
      let (top', bottom') := signedFraction negative' mantissa' exponent'
      top * bottom' == top' * bottom
  | .infinite negative, .infinite negative' => negative == negative'
  | _, _ => false

/-- Whether the number is exactly an integer. -/
def equalsInt (number : Binary64) (value : Int) : Bool :=
  match number with
  | .finite negative mantissa exponent =>
      let (top, bottom) := signedFraction negative mantissa exponent
      top == value * bottom
  | _ => false

/-- Whether the number is below zero. -/
def isNegative : Binary64 → Bool
  | .finite negative mantissa _ => negative && mantissa != 0
  | .infinite negative => negative
  | .undefined => false

/-- Whether the number is zero of either sign. -/
def isZero : Binary64 → Bool
  | .finite _ mantissa _ => mantissa == 0
  | _ => false

/-- Whether the number is below an integer. -/
def isBelow (number : Binary64) (value : Int) : Bool :=
  match number with
  | .finite negative mantissa exponent =>
      let (top, bottom) := signedFraction negative mantissa exponent
      top < value * bottom
  | .infinite negative => negative
  | .undefined => false

/-- The sum of two numbers, rounded to the nearest. -/
def plus : Binary64 → Binary64 → Binary64
  | .finite negative mantissa exponent, .finite negative' mantissa' exponent' =>
      let (top, bottom) := signedFraction negative mantissa exponent
      let (top', bottom') := signedFraction negative' mantissa' exponent'
      let sum := top * bottom' + top' * bottom
      if sum = 0 then
        signedZero (negative && negative')
      else
        ofFraction (sum < 0) sum.natAbs (bottom * bottom')
  | .infinite negative, .infinite negative' =>
      if negative = negative' then .infinite negative else .undefined
  | .infinite negative, .finite .. => .infinite negative
  | .finite .., .infinite negative => .infinite negative
  | _, _ => .undefined

/-- The product of two numbers, rounded to the nearest. -/
def times : Binary64 → Binary64 → Binary64
  | .finite negative mantissa exponent, .finite negative' mantissa' exponent' =>
      let (top, bottom) := fraction mantissa exponent
      let (top', bottom') := fraction mantissa' exponent'
      ofFraction (negative != negative') (top * top') (bottom * bottom')
  | .infinite negative, .infinite negative' => .infinite (negative != negative')
  | .infinite negative, .finite negative' mantissa _ =>
      if mantissa = 0 then .undefined else .infinite (negative != negative')
  | .finite negative mantissa _, .infinite negative' =>
      if mantissa = 0 then .undefined else .infinite (negative != negative')
  | _, _ => .undefined

/-- The exact value of a finite number. -/
def value? : Binary64 → Option Rat
  | .finite negative mantissa exponent =>
      let (top, bottom) := signedFraction negative mantissa exponent
      some (mkRat top bottom)
  | _ => none

/-- The greatest integer that is not above the number, if it is finite. -/
def floor? : Binary64 → Option Int
  | .finite negative mantissa exponent =>
      let (top, bottom) := signedFraction negative mantissa exponent
      some (top.fdiv bottom)
  | _ => none

example : ofDecimal false 1 (-1) = .finite false 7205759403792794 (-56) := by
  decide +kernel

example :
    (ofDecimal false 1 (-1)).plus (ofDecimal false 2 (-1)) =
      ofDecimal false 30000000000000004 (-17) := by
  decide +kernel

example : ofInt? (10 ^ 400) = none := by
  decide +kernel

end Binary64

end HouseStyle
