import HouseStyle.Number.Numeral
import HouseStyle.Pattern.Basic

namespace HouseStyle

/-!
# Faults of patterns

Why a text is no pattern, and the wording that says so.
-/

/-- Why a text is no pattern. -/
inductive PatternCause
  | unterminatedSet
  | badRange (low high : String)
  | nothingToRepeat
  | multipleRepeat
  | minExceedsMax
  | missingParenthesis
  | unterminatedComment
  | unbalancedParenthesis
  | badEscape (escape : String)
  | incompleteEscape (escape : String)
  | octalTooLarge (escape : String)
  | unknownCharacter (name : String)
  | danglingBackslash
  | unexpectedEnd
  | unknownExtension (mark : String)
  | missing (what : String)
  | unterminatedName (terminator : Char)
  | badGroupName (name : String)
  | unknownGroup (name : String)
  | repeatedGroup (name : String) (number former : Nat)
  | badGroupNumber
  | invalidReference (number : Nat)
  | openReference
  | innerReference
  | manyBranches
  | misplacedFlags
  | unknownFlag
  | byteFlag
  | exclusiveFlags
  | lastingFlags
  | globalFlag (on : Bool)
  | contradictoryFlags
  | unevenWidth
  | farBehind
  /-- A repetition in a pattern that is a template. -/
  | templateRepetition (eagerness : Eagerness)
  /-- Characters of every script are asked for, and of ASCII alone. -/
  | mixedScripts
  /-- A repetition count beyond the greatest one; the pattern is well formed. -/
  | hugeCount
  /-- A repetition count with too many digits to be read. -/
  | longCount (digits : Nat)
  deriving Repr, DecidableEq

/-- The word for a repetition that a template does not allow. -/
def Eagerness.operator : Eagerness → String
  | .greedy => "MAX_REPEAT"
  | .reluctant => "MIN_REPEAT"
  | .possessive => "POSSESSIVE_REPEAT"

namespace PatternCause

/-- The wording of a cause. -/
def message : PatternCause → String
  | .unterminatedSet => "unterminated character set"
  | .badRange low high => "bad character range " ++ low ++ "-" ++ high
  | .nothingToRepeat => "nothing to repeat"
  | .multipleRepeat => "multiple repeat"
  | .minExceedsMax => "min repeat greater than max repeat"
  | .missingParenthesis => "missing ), unterminated subpattern"
  | .unterminatedComment => "missing ), unterminated comment"
  | .unbalancedParenthesis => "unbalanced parenthesis"
  | .badEscape escape => "bad escape " ++ escape
  | .incompleteEscape escape => "incomplete escape " ++ escape
  | .octalTooLarge escape =>
      "octal escape value " ++ escape ++ " outside of range 0-0o377"
  | .unknownCharacter name => "undefined character name " ++ quoted name
  | .danglingBackslash => "bad escape (end of pattern)"
  | .unexpectedEnd => "unexpected end of pattern"
  | .unknownExtension mark => "unknown extension ?" ++ mark
  | .missing what => "missing " ++ what
  | .unterminatedName terminator =>
      "missing " ++ terminator.toString ++ ", unterminated name"
  | .badGroupName name => "bad character in group name " ++ quoted name
  | .unknownGroup name => "unknown group name " ++ quoted name
  | .repeatedGroup name number former =>
      "redefinition of group name " ++ quoted name ++ " as group " ++
        toString number ++ "; was group " ++ toString former
  | .badGroupNumber => "bad group number"
  | .invalidReference number =>
      "invalid group reference " ++ toString number
  | .openReference => "cannot refer to an open group"
  | .innerReference =>
      "cannot refer to group defined in the same lookbehind subpattern"
  | .manyBranches => "conditional backref with more than two branches"
  | .misplacedFlags => "global flags not at the start of the expression"
  | .unknownFlag => "unknown flag"
  | .byteFlag => "bad inline flags: cannot use 'L' flag with a str pattern"
  | .exclusiveFlags =>
      "bad inline flags: flags 'a', 'u' and 'L' are incompatible"
  | .lastingFlags =>
      "bad inline flags: cannot turn off flags 'a', 'u' and 'L'"
  | .globalFlag on =>
      "bad inline flags: cannot turn " ++ (if on then "on" else "off") ++
        " global flag"
  | .contradictoryFlags => "bad inline flags: flag turned on and off"
  | .unevenWidth => "look-behind requires fixed-width pattern"
  | .farBehind => "looks too much behind"
  | .templateRepetition eagerness =>
      "internal: unsupported template operator " ++ eagerness.operator
  | .mixedScripts => "ASCII and UNICODE flags are incompatible"
  | .hugeCount => "the repetition number is too large"
  | .longCount digits => (IntegerFault.tooLong digits).message

/-- Whether the position of the fault goes with the wording. -/
def isPlaced : PatternCause → Bool
  | .unevenWidth => false
  | .farBehind => false
  | .templateRepetition _ => false
  | .mixedScripts => false
  | .hugeCount => false
  | .longCount _ => false
  | _ => true

/-- Whether the fault is of a value in the pattern and not of its form. -/
def isOfValue : PatternCause → Bool
  | .mixedScripts => true
  | .longCount _ => true
  | _ => false

end PatternCause

/-- A fault and the position that shows it. -/
structure PatternFault where
  cause : PatternCause
  position : Nat
  deriving Repr, DecidableEq

/--
The wording of a fault. In a pattern of several lines the line and the column
are added to the position.
-/
def PatternFault.message
    (fault : PatternFault)
    (pattern : String) :
    String :=
  let before := pattern.toList.take fault.position
  let placed :=
    fault.cause.message ++ " at position " ++ toString fault.position
  if !fault.cause.isPlaced then
    fault.cause.message
  else if pattern.toList.contains '\n' then
    let line := before.count '\n' + 1
    let column := (before.reverse.takeWhile (· != '\n')).length + 1
    placed ++ " (line " ++ toString line ++ ", column " ++
      toString column ++ ")"
  else
    placed

/-! ## Faults that show once a pattern has been read -/

/-- The greatest number of characters that a part may look behind. -/
def greatestBehind : Nat := 4294967295

/-- What is wrong with the width of a part that looks behind. -/
def PatternWidth.behindFault? (width : PatternWidth) : Option PatternCause :=
  if greatestBehind < width.least then
    some .farBehind
  else if width.least < width.most then
    some .unevenWidth
  else
    none

mutual

/-- The first fault of a pattern that has been read. -/
def Pattern.cause? (template : Bool) : Pattern → Option PatternCause
  | .any _ => none
  | .set _ _ _ => none
  | .anchor _ => none
  | .sequence parts => firstCause? template parts
  | .choice options => firstCause? template options
  | .repeated eagerness _ _ part =>
      if template then
        some (.templateRepetition eagerness)
      else
        part.cause? template
  | .group _ part => part.cause? template
  | .atomic part => part.cause? template
  | .look behind _ part =>
      (behind.bind PatternWidth.behindFault?).or (part.cause? template)
  | .reference _ _ _ => none
  | .conditional _ present absent =>
      (present.cause? template).or (absent.cause? template)

/-- The first fault of some patterns that have been read. -/
def firstCause? (template : Bool) : List Pattern → Option PatternCause
  | [] => none
  | part :: rest => (part.cause? template).or (firstCause? template rest)

end

end HouseStyle
