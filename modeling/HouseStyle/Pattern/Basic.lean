import HouseStyle.Text.Blank
import HouseStyle.Text.Letter
import HouseStyle.Text.Lowercase

namespace HouseStyle

/-!
# Search patterns

Regular expressions over characters: sets, anchors, sequences, choices and
repetitions; groups that are remembered, and references to them; parts that are
tried without being given up again, and parts that only look around.
-/

/-! ## Sets of characters -/

/-- A kind of characters. -/
inductive CharacterKind
  | digit
  | word
  | blank
  deriving Repr, DecidableEq

/-- Whether a character is of a kind, of any script or of ASCII alone. -/
def CharacterKind.holds
    (kind : CharacterKind)
    (ascii : Bool)
    (character : Char) :
    Bool :=
  let code := character.toNat
  if ascii && 0x80 ≤ code then
    false
  else
    match kind with
    | .digit => isDecimalDigit character
    | .word => isWordCharacter character
    | .blank => isBlank character && !(ascii && 0x1C ≤ code && code ≤ 0x1F)

/-- A member of a set: a range of code points, or a kind of characters. -/
inductive SetMember
  | range (low high : Nat)
  | ofKind (kind : CharacterKind) (ascii negated : Bool)
  deriving Repr, DecidableEq

/-- Which characters count as one. -/
inductive CaseRule
  | exact
  | asciiAlike
  | alike
  deriving Repr, DecidableEq

/-- The characters that count as one with a character. -/
def CaseRule.variants (rule : CaseRule) (character : Char) : List Nat :=
  match rule with
  | .exact => [character.toNat]
  | .asciiAlike => asciiCaseVariants character
  | .alike => caseVariants character

/-- Whether a member of a set stands for a character. -/
def SetMember.accepts
    (rule : CaseRule)
    (member : SetMember)
    (character : Char) :
    Bool :=
  match member with
  | .range low high =>
      (rule.variants character).any fun code => low ≤ code && code ≤ high
  | .ofKind kind ascii negated => kind.holds ascii character != negated

/-! ## Patterns -/

/-- A place in a text that a pattern can ask for. -/
inductive Anchor
  | start
  | lineStart
  /-- The end, or before a line feed at the end. -/
  | lastEnd
  | lineEnd
  | finish
  | wordEdge (ascii negated : Bool)
  deriving Repr, DecidableEq

/-- How a repetition chooses between going on and stopping. -/
inductive Eagerness
  | greedy
  | reluctant
  /-- It goes on as long as it can, and nothing is given up again. -/
  | possessive
  deriving Repr, DecidableEq

/-- The least and the greatest number of characters that a part takes. -/
structure PatternWidth where
  least : Nat
  most : Nat
  deriving Repr, DecidableEq

/-- A search pattern. -/
inductive Pattern
  /-- Any character, with or without the line feed. -/
  | any (lineFeeds : Bool)
  | set (rule : CaseRule) (negated : Bool) (members : List SetMember)
  | anchor (place : Anchor)
  | sequence (parts : List Pattern)
  | choice (options : List Pattern)
  | repeated
      (eagerness : Eagerness) (least : Nat) (most : Option Nat) (part : Pattern)
  /-- A group is remembered if it has a number. -/
  | group (number : Option Nat) (part : Pattern)
  /-- The first match of the part is the only one. -/
  | atomic (part : Pattern)
  /-- The part matches here, or right before if its width is given. -/
  | look (behind : Option PatternWidth) (negated : Bool) (part : Pattern)
  /-- The text of a group once more; the width is the group's. -/
  | reference (rule : CaseRule) (number : Nat) (width : PatternWidth)
  | conditional (number : Nat) (present absent : Pattern)
  deriving Repr, Inhabited

/-! ## Widths -/

namespace PatternWidth

/-- No width is counted beyond this one. -/
def bound : Nat := Nat.pow 2 64

/-- The width of a part that takes no characters. -/
def zero : PatternWidth := { least := 0, most := 0 }

/-- The width of one character. -/
def one : PatternWidth := { least := 1, most := 1 }

/-- The width of two parts, one behind the other. -/
def add (first second : PatternWidth) : PatternWidth :=
  { least := min bound (first.least + second.least)
    most := min bound (first.most + second.most) }

/-- The width of either of two parts. -/
def either (first second : PatternWidth) : PatternWidth :=
  { least := min first.least second.least
    most := max first.most second.most }

/-- The width of a part that is repeated. -/
def times
    (width : PatternWidth)
    (least : Nat)
    (most : Option Nat) :
    PatternWidth :=
  { least := min bound (width.least * least)
    most :=
      if width.most = 0 then
        0
      else
        match most with
        | none => bound
        | some most => min bound (width.most * most) }

end PatternWidth

mutual

/-- The width of a pattern. -/
def Pattern.width : Pattern → PatternWidth
  | .any _ => .one
  | .set _ _ _ => .one
  | .anchor _ => .zero
  | .sequence parts => sequenceWidth parts
  | .choice options => choiceWidth options
  | .repeated _ least most part => part.width.times least most
  | .group _ part => part.width
  | .atomic part => part.width
  | .look _ _ _ => .zero
  | .reference _ _ width => width
  | .conditional _ present absent => present.width.either absent.width

/-- The width of parts, one behind the other. -/
def sequenceWidth : List Pattern → PatternWidth
  | [] => .zero
  | part :: rest => part.width.add (sequenceWidth rest)

/-- The width of any of the options. -/
def choiceWidth : List Pattern → PatternWidth
  | [] => .zero
  | [option] => option.width
  | option :: rest => option.width.either (choiceWidth rest)

end

/-! ## References -/

mutual

/-- The numbers of the groups that a pattern refers to. -/
def Pattern.references : Pattern → List Nat
  | .any _ => []
  | .set _ _ _ => []
  | .anchor _ => []
  | .sequence parts => allReferences parts
  | .choice options => allReferences options
  | .repeated _ _ _ part => part.references
  | .group _ part => part.references
  | .atomic part => part.references
  | .look _ _ part => part.references
  | .reference _ number _ => [number]
  | .conditional number present absent =>
      number :: present.references ++ absent.references

/-- The numbers of the groups that some patterns refer to. -/
def allReferences : List Pattern → List Nat
  | [] => []
  | part :: rest => part.references ++ allReferences rest

end

namespace Pattern

/-- The pattern of one character, or of those that count as one with it. -/
def literal (rule : CaseRule) (code : Nat) : Pattern :=
  .set rule false [.range code code]

end Pattern

end HouseStyle
