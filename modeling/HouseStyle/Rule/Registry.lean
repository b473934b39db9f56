import HouseStyle.Rule.BlankLinePlacement
import HouseStyle.Rule.BlockDelimiter
import HouseStyle.Rule.DeclarationOrder
import HouseStyle.Rule.ExplanatoryComment
import HouseStyle.Rule.Limits
import HouseStyle.Rule.MagicLiteral
import HouseStyle.Rule.MethodSeparation
import HouseStyle.Rule.NamingConvention
import HouseStyle.Rule.VerbNamedMethod

namespace HouseStyle

/-!
# Registries

A registry holds rules in the order in which they were registered. No two of
them have the same id.
-/

/-- A rule as a listing shows it: a name in capitals made of its id, and the id. -/
def Rule.shown (rule : Rule) : String :=
  let words := rule.id.toList.splitOnP (· == '-')
  let name := String.join (words.map fun word => capitalized (String.ofList word))
  "<" ++ name ++ "Rule " ++ rule.id ++ ">"

/-- Rules by id, in the order of registration. -/
structure Registry where
  rules : List Rule

namespace Registry

/-- The registry without rules. -/
def empty : Registry :=
  { rules := [] }

/-- The ids of the rules. -/
def ids (registry : Registry) : List String :=
  registry.rules.map Rule.id

/-- The number of rules. -/
def size (registry : Registry) : Nat :=
  registry.rules.length

/-- Whether a rule has that id. -/
def contains (registry : Registry) (id : String) : Bool :=
  registry.rules.any (·.id == id)

/-- The rule of that id. -/
def find? (registry : Registry) (id : String) : Option Rule :=
  registry.rules.find? (·.id == id)

/-- Add a rule at the end, unless its id is taken. -/
def register? (registry : Registry) (rule : Rule) : Option Registry :=
  if registry.contains rule.id then
    none
  else
    some { rules := registry.rules ++ [rule] }

end Registry

/-- Every rule of the library. -/
def builtinRules : List Rule :=
  [lineLength, namingConvention, magicLiteral, blockDelimiter, blockLength,
    blankLinePlacement, methodSeparation, declarationOrder, verbNamedMethod,
    explanatoryComment]

/-- The registry of every rule of the library. -/
def Registry.builtin : Registry :=
  { rules := builtinRules }

end HouseStyle
