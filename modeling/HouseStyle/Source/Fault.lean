namespace HouseStyle

/-!
# Faults in a source text

A text that cannot be read under its language's profile is refused with one
cause and the line that shows it.
-/

/-- Why a source text cannot be read. -/
inductive FaultCause
  | unterminatedComment
  | unterminatedString
  | unmatchedBrace
  | unclosedBlock
  | missingBody (keyword : String)
  | unbalancedParenthesis
  | unexpectedIndent
  | inconsistentIndent
  | strayDecorator
  | missingSuite
  deriving Repr, DecidableEq

/-- The wording of a cause. -/
def FaultCause.message : FaultCause → String
  | .unterminatedComment => "unterminated block comment"
  | .unterminatedString => "unterminated string literal"
  | .unmatchedBrace => "unmatched '\x7d'"
  | .unclosedBlock => "block opened here is never closed"
  | .missingBody keyword => "'" ++ keyword ++ "' has no body"
  | .unbalancedParenthesis => "unbalanced parenthesis"
  | .unexpectedIndent => "unexpected indent"
  | .inconsistentIndent => "inconsistent indentation"
  | .strayDecorator => "decorator without a definition"
  | .missingSuite => "expected an indented block"

/-- A refusal: the cause and the line it is shown at. -/
structure Fault where
  cause : FaultCause
  line : Nat
  deriving Repr, DecidableEq

/-- The full wording of a refusal. -/
def Fault.message (fault : Fault) : String :=
  "line " ++ toString fault.line ++ ": " ++ fault.cause.message

end HouseStyle
