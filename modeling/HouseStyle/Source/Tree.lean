import HouseStyle.Language.Basic
import HouseStyle.Token.Basic

namespace HouseStyle

/-!
# Statement trees

Reading a source text yields a forest of statements. A statement either covers
a run of tokens or is a block: a header, the statements inside, and the token
that ends it. Nodes hold their tokens together with the tokens' indices, so no
later step has to look a token up.
-/

/-- A token and its index among all tokens of the file. -/
structure Placed where
  index : Nat
  token : Token
  deriving Repr, DecidableEq, Inhabited

namespace Placed

/-- The text of the token. -/
def text (placed : Placed) : String :=
  placed.token.text

/-- The lexical category of the token. -/
def kind (placed : Placed) : TokenKind :=
  placed.token.kind

/-- Whether the token is spelled `text`. -/
def reads
    (placed : Placed)
    (text : String) :
    Bool :=
  placed.token.text == text

/-- Whether the token is `text` itself: a string spelled so is not. -/
def is
    (placed : Placed)
    (text : String) :
    Bool :=
  placed.reads text && placed.kind != .string

variable {placed : Placed} {text : String}

theorem reads_of_is
    (isText : placed.is text = true) :
    placed.reads text = true :=
  (Bool.and_eq_true_iff.mp isText).1

theorem text_of_is
    (isText : placed.is text = true) :
    placed.token.text = text :=
  beq_iff_eq.mp (reads_of_is isText)

/-- A token that is one text is no other. -/
theorem is_eq_false
    {other : String}
    (isText : placed.is text = true)
    (isOther : text ≠ other) :
    placed.is other = false := by
  simp [is, reads, text_of_is isText, isOther]

/-- A delimiter is no string. -/
theorem is_of_isDelimiter
    (isDelimiter : placed.token.isDelimiter text = true) :
    placed.is text = true := by
  simp only [Token.isDelimiter, Bool.and_eq_true, beq_iff_eq] at isDelimiter
  simp [is, reads, kind, isDelimiter]

end Placed

/-- Number the tokens of a file. -/
def placeTokens (tokens : Array Token) : List Placed :=
  tokens.toList.zipIdx.map fun (token, index) => { index, token }

/-- The code tokens of a file. -/
def placeCode (tokens : Array Token) : List Placed :=
  (placeTokens tokens).filter (·.token.isCode)

/--
What is known of a block once its body begins. `opener` is the token that opens
the body; for a body without delimiters it is the body's own first token.
-/
structure BlockHead where
  kind : BlockKind
  keyword : String
  name : String
  first : Placed
  opener : Placed
  delimited : Bool
  /-- The block continues the statement before it, as `else` does. -/
  continues : Bool
  deriving Repr, DecidableEq

/-- A statement with everything inside it. -/
inductive Node
  | simple (first last : Placed)
  | block (head : BlockHead) (body : List Node) (last : Placed)
  deriving Repr

namespace Node

/-- The first token of a statement. -/
def first : Node → Placed
  | .simple first _ => first
  | .block head _ _ => head.first

/-- The last token of a statement. -/
def last : Node → Placed
  | .simple _ last => last
  | .block _ _ last => last

end Node

end HouseStyle
