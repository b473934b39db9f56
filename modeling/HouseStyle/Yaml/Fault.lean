import HouseStyle.Calendar.Moment
import HouseStyle.Number.Numeral

namespace HouseStyle.Yaml

/-!
# Faults in YAML texts

Most faults make a text no YAML at all. A scalar whose tag asks for a value that
its text does not spell has a fault of its own.
-/

/-- Why a text is no YAML document that this library reads. -/
inductive Fault
  | malformed
  /-- An integer that is none, or a number of a directive that is too long. -/
  | badInteger (fault : IntegerFault)
  | badDecimal (text : String)
  | badMoment (fault : CalendarFault)
  /-- A number without a character. -/
  | emptyNumber
  /-- A word in small letters that is no truth value. -/
  | unknownTruth (word : String)
  /-- A text that spells no moment. -/
  | unspelledMoment
  /-- A mapping that is asked for a moment. -/
  | mappedMoment
  /-- An escape beyond the last code point. -/
  | noCharacter (code : Nat)
  deriving Repr, DecidableEq

/-- The wording of a fault that has one. -/
def Fault.message : Fault → String
  | .badInteger fault => fault.message
  | .badDecimal text => malformedDecimalMessage text
  | .badMoment fault => fault.message
  | .unknownTruth word => word
  | .noCharacter _ => "chr() arg not in range(0x110000)"
  | _ => ""

end HouseStyle.Yaml
