import HouseStyle.Document.Render
import HouseStyle.Number.Numeral
import HouseStyle.Rule.Basic

namespace HouseStyle

/-!
# Magic literals

A literal that is compared or passed to a call is bound to a named constant
instead, unless its value is allowed. Declarations of constants are the binding
itself, and default values in the header of a method are no calls.
-/

namespace MagicLiteral

/-- What a literal stands for. -/
inductive LiteralValue
  | flag (value : Bool)
  | number (value : Binary64)
  /-- A numeral of no known form. -/
  | numeral (text : String)
  | text (value : String)
  deriving Repr, DecidableEq

/-- Whether two literals stand for the same thing. -/
def LiteralValue.same : LiteralValue → LiteralValue → Bool
  | .flag left, .flag right => left == right
  | .number left, .number right => left.equals right
  | .numeral left, .numeral right => left == right
  | .text left, .text right => left == right
  | _, _ => false

/-- The operators that compare. -/
def comparisons : List String :=
  ["==", "!=", "===", "!==", "<", ">", "<=", ">="]

/-- The keywords that an argument list may follow. -/
def calleeKeywords : List String :=
  ["super", "this", "base"]

/-- The tokens after which a minus belongs to the number behind it. -/
def signContexts : List String :=
  ["(", "[", ",", "=", "return"] ++ comparisons

/-! ## Values -/

/-- The value of an integer, unless it is too large. -/
def numberOfNat (value : Nat) : Except RuleFault Binary64 :=
  match Binary64.ofInt? value with
  | some number => .ok number
  | none => .error .numberTooLarge

/-- The value of a numeral of one of the known forms. -/
def plainNumber? (text : List Char) : Option (Except RuleFault Binary64) :=
  match readSourceInteger? text with
  | some value => some (numberOfNat value)
  | none => (readDecimal? (String.ofList text)).map .ok

/-- The letters that may end a numeral. -/
def suffixLetters : List Char :=
  "lLfFdDmMuUnj".toList

/-- A numeral without the letters that end it. -/
def withoutSuffix (text : List Char) : List Char :=
  (text.reverse.dropWhile suffixLetters.contains).reverse

/-- The value of a number token. -/
def numberValue (text : String) : Except RuleFault (Option Binary64) :=
  let digits := text.toList.filter (· != '_')
  match (plainNumber? digits).or (plainNumber? (withoutSuffix digits)) with
  | some value => value.map some
  | none => .ok none

/-- The quotes of strings, the longest first. -/
def quoteMarks : List (List Char) :=
  ["\"\"\"".toList, "'''".toList, ['"'], ['\''], ['`']]

/-- The letters that may stand before a quote. -/
def openingLetters : List Char :=
  "rRbBfFuU@$".toList

/-- The text between the quotes of a string token. -/
def stringBody (text : String) : String :=
  let body := text.toList.dropWhile openingLetters.contains
  let wraps (quote : List Char) : Bool :=
    quote.isPrefixOf body && quote.isSuffixOf body &&
      2 * quote.length ≤ body.length
  match quoteMarks.find? wraps with
  | some quote =>
      String.ofList
        ((body.drop quote.length).take (body.length - 2 * quote.length))
  | none => String.ofList body

/-- The value of a literal. -/
def literalValue
    (token : Token)
    (negated : Bool) :
    Except RuleFault LiteralValue :=
  if token.kind = .string then
    .ok (.text (stringBody token.text))
  else
    (numberValue token.text).map fun
      | some value => .number (if negated then value.negate else value)
      | none => .numeral token.text

/-- The value that an item of the list of allowed values stands for. -/
def allowedValue (item : Document) : Except RuleFault LiteralValue :=
  match item with
  | .scalar (.bool value) => .ok (.flag value)
  | .scalar (.int value) =>
      match Binary64.ofInt? value with
      | some number => .ok (.number number)
      | none => .error .numberTooLarge
  | .scalar (.float value) => .ok (.number value)
  | item =>
      if item.isTooLong then
        .error .longInteger
      else
        .ok (.text item.asText)

/-! ## Places -/

/-- A code token with the code around it. -/
structure Site where
  placed : Placed
  /-- The code tokens before it, the nearest first. -/
  before : List Token
  /-- The code token after it. -/
  after : Option Token
  /-- The innermost bracket around it opens the arguments of a call. -/
  inCall : Bool

/-- Whether an opening parenthesis behind that token opens arguments. -/
def isCallee (token : Token) : Bool :=
  token.kind == .identifier ||
    token.text == ")" || token.text == "]" ||
    (token.kind == .keyword && calleeKeywords.contains token.text)

/-- Whether a bracket opens the arguments of a call. -/
def opensCall
    (bracket : Token)
    (before : List Token) :
    Bool :=
  bracket.text == "(" && (before.head?.map isCallee).getD false

/--
The sites of the code tokens that are no brackets. `calls` tells of each open
bracket, the innermost first, whether it opens the arguments of a call.
-/
def sitesFrom
    (before : List Token)
    (calls : List Bool)
    (found : List Site) :
    List Placed →
    List Site
  | [] => found.reverse
  | placed :: rest =>
      let token := placed.token
      if token.opensBracket then
        sitesFrom (token :: before) (opensCall token before :: calls) found rest
      else if token.closesBracket then
        sitesFrom (token :: before) calls.tail found rest
      else
        let site : Site :=
          { placed
            before
            after := rest.head?.map Placed.token
            inCall := calls.headD false }
        sitesFrom (token :: before) calls (site :: found) rest

/-- The sites of a file. -/
def sitesOf (model : SourceModel) : List Site :=
  sitesFrom [] [] [] (placeCode model.tokens)

/-- Whether a number behind these tokens may carry a sign. -/
def takesSign : List Token → Bool
  | [] => true
  | token :: _ =>
      signContexts.contains token.text ||
        (token.kind == .operator && token.text != ")" && token.text != "]")

namespace Site

/-- Whether the token is a literal. -/
def isLiteral (site : Site) : Bool :=
  site.placed.kind == .number || site.placed.kind == .string

/-- The minus that belongs to a number. -/
def sign? (site : Site) : Option Token :=
  match site.before with
  | minus :: before =>
      if site.placed.kind = .number ∧ minus.text = "-" ∧ takesSign before then
        some minus
      else
        none
  | [] => none

/-- The code token before the literal and its sign. -/
def previous? (site : Site) : Option Token :=
  if site.sign?.isSome then
    site.before.tail.head?
  else
    site.before.head?

/-- The place where the literal with its sign starts. -/
def start (site : Site) : Position :=
  match site.sign? with
  | some minus => minus.start
  | none => site.placed.token.start

/-- The literal with its sign as it is written. -/
def shown (site : Site) : String :=
  if site.sign?.isSome then
    "-" ++ site.placed.text
  else
    site.placed.text

/-- Whether a neighbour compares. -/
def isComparison (token : Option Token) : Bool :=
  match token with
  | some token => token.kind == .operator && comparisons.contains token.text
  | none => false

/-- What is done with the literal, if it matters. -/
def context? (site : Site) : Option String :=
  if isComparison site.previous? || isComparison site.after then
    some "comparison"
  else if site.inCall then
    some "call"
  else
    none

end Site

/-- The spans of tokens, both ends included, in which literals are left alone. -/
def exemptSpans (model : SourceModel) : List (Nat × Nat) :=
  let constants :=
    model.declarations.filterMap fun declaration => do
      guard (declaration.kind = .constant)
      let statement ← model.statements[declaration.statement]?
      guard (statement.kind ≠ .block)
      pure (statement.first, statement.last)
  let headers :=
    (model.blocks.toList.filter (·.kind == .method)).map fun block =>
      (block.first, block.headerEnd)
  constants ++ headers

/-- Whether an index lies in one of some spans. -/
def covers
    (spans : List (Nat × Nat))
    (index : Nat) :
    Bool :=
  spans.any fun (first, last) => first ≤ index && index ≤ last

/-- Whether a site holds a literal that the rule looks at. -/
def isChecked
    (checkStrings : Bool)
    (spans : List (Nat × Nat))
    (site : Site) :
    Bool :=
  site.isLiteral && !covers spans site.placed.index &&
    (checkStrings || site.placed.kind != .string)

/-- The finding for a literal, unless its value is allowed. -/
def finding?
    (allowed : List LiteralValue)
    (severity : Severity)
    (site : Site)
    (context : String) :
    Except RuleFault (Option Finding) :=
  (literalValue site.placed.token site.sign?.isSome).map fun value =>
    if allowed.any value.same then
      none
    else
      some
        { place := site.start
          severity
          message :=
            "Magic literal " ++ site.shown ++ " in " ++ context ++
              "; bind it to a named constant" }

/-- The findings for sites with what is done there. -/
def findingsAt
    (allowed : List LiteralValue)
    (severity : Severity) :
    List (Site × String) →
    Except RuleFault (List Finding)
  | [] => .ok []
  | (site, context) :: rest => do
      let found ← finding? allowed severity site context
      let others ← findingsAt allowed severity rest
      pure (found.toList ++ others)

/-- The sites that the rule looks at, with what is done there. -/
def checkedSites
    (checkStrings : Bool)
    (model : SourceModel) :
    List (Site × String) :=
  ((sitesOf model).filter (isChecked checkStrings (exemptSpans model))).filterMap
    fun site => site.context?.map fun context => (site, context)

/-- The literals that should be bound to a constant. -/
def findings
    (allowed : List LiteralValue)
    (checkStrings : Bool)
    (severity : Severity)
    (model : SourceModel) :
    Except RuleFault (List Finding) :=
  findingsAt allowed severity (checkedSites checkStrings model)

end MagicLiteral

/-- Literals are bound to named constants. -/
def magicLiteral : Rule where
  id := "magic-literal"
  description :=
    "Literals used in comparisons or calls should be named constants."
  defaultParams :=
    [(.text "allow",
        .list [.int 0, .int 1, .int (-1), .text "", .bool true, .bool false]),
      (.text "check_strings", .bool true)]
  check := fun model settings => do
    let items ← settings.params.elementsParam "allow"
    let allowed ← items.mapM MagicLiteral.allowedValue
    let checkStrings ← settings.params.flagParam "check_strings"
    MagicLiteral.findings allowed checkStrings settings.severity model

end HouseStyle
