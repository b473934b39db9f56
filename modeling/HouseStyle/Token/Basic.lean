import HouseStyle.Text.Position

namespace HouseStyle

/-!
# Tokens

A token is a classified piece of source text with the places of its first and
last characters.
-/

/-- The lexical category of a token. -/
inductive TokenKind
  | identifier
  | keyword
  | number
  | string
  | comment
  | operator
  | delimiter
  | regex
  deriving Repr, DecidableEq, Inhabited

/-- The name of a lexical category. -/
def TokenKind.name : TokenKind → String
  | .identifier => "identifier"
  | .keyword => "keyword"
  | .number => "number"
  | .string => "string"
  | .comment => "comment"
  | .operator => "operator"
  | .delimiter => "delimiter"
  | .regex => "regex"

/-- A token: both of its places are inclusive. -/
structure Token where
  kind : TokenKind
  text : String
  start : Position
  stop : Position
  deriving Repr, DecidableEq, Inhabited

namespace Token

/-- Whether a token is more than a remark to the reader. -/
def isCode (token : Token) : Bool :=
  token.kind != .comment

/-- Whether the token is that delimiter. -/
def isDelimiter
    (token : Token)
    (text : String) :
    Bool :=
  token.kind == .delimiter && token.text == text

/-- Whether the token is an opening bracket of any shape. -/
def opensBracket (token : Token) : Bool :=
  token.kind == .delimiter && ["(", "[", "\x7b"].contains token.text

/-- Whether the token is a closing bracket of any shape. -/
def closesBracket (token : Token) : Bool :=
  token.kind == .delimiter && [")", "]", "\x7d"].contains token.text

end Token

end HouseStyle
