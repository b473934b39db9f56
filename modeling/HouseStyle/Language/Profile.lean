import HouseStyle.Language.Basic

namespace HouseStyle

/-!
# Language profiles

Everything the reader of source files knows about a language is a `Profile`:
comments, literals, keywords and the conventions by which blocks open and names
are declared. No other module names a language to decide how its text is read.
-/

/-- How blocks are delimited. -/
inductive BlockStyle
  | braces
  | indent
  deriving Repr, DecidableEq, Inhabited

/-- The name of a block style. -/
def BlockStyle.name : BlockStyle → String
  | .braces => "braces"
  | .indent => "indent"

/-- Which characters beyond ASCII letters, digits and `_` a name may hold. -/
structure NameShape where
  /-- A name may start with one `#`. -/
  sigil : Bool
  /-- A name may hold `$` anywhere. -/
  dollar : Bool
  deriving Repr, DecidableEq, Inhabited

/-- The shape of a name as a regular expression. -/
def NameShape.pattern (shape : NameShape) : String :=
  let sigil := if shape.sigil then "#?" else ""
  let dollar := if shape.dollar then "$" else ""
  sigil ++ "[A-Za-z_" ++ dollar ++ "][A-Za-z0-9_" ++ dollar ++ "]*"

/-- Lexical and structural facts about one language. -/
structure Profile where
  language : Language
  extensions : List String
  keywords : List String
  blockStyle : BlockStyle := .braces
  lineComments : List String := ["//"]
  blockComments : List (String × String) := [("/*", "*/")]
  /-- Quotes that open a string, longest first. -/
  stringQuotes : List String := ["\"", "'"]
  multilineQuotes : List String := []
  /-- Characters of which up to two may stand before a quote. -/
  stringPrefixes : String := ""
  /-- Characters before a quote that switch escapes off. -/
  rawPrefixes : String := ""
  rawQuotes : List String := []
  nameShape : NameShape := { sigil := false, dollar := true }
  controlKeywords : List (String × BlockKind)
  continuationKeywords : List String := ["else", "catch", "finally"]
  classKeywords : List String := ["class", "interface", "enum"]
  modifierKeywords : List String := []
  visibilityKeywords : List (String × Visibility)
  bindingKeywords : List String := []
  typeKeywords : List String := []
  constructorNames : List String := []
  returnKeywords : List String := ["return"]
  newlineTerminates : Bool := false
  regexLiterals : Bool := false
  parenConditions : Bool := true
  nameBeforeType : Bool := false
  underscoreVisibility : Bool := false
  capitalizedVisibility : Bool := false
  deriving Repr, DecidableEq

namespace Profile

/-- The role of the block that a control keyword opens. -/
def control?
    (profile : Profile)
    (keyword : String) :
    Option BlockKind :=
  profile.controlKeywords.lookup keyword

/-- The visibility that a modifier gives. -/
def visibility?
    (profile : Profile)
    (keyword : String) :
    Option Visibility :=
  profile.visibilityKeywords.lookup keyword

end Profile

end HouseStyle
