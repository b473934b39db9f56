import HouseStyle.Language.Profile
import HouseStyle.Source.Fault
import HouseStyle.Text.Digit
import HouseStyle.Token.Basic

namespace HouseStyle

/-!
# Lexemes

How far the lexeme at the head of a text reaches. Each function measures one
class of lexeme as a number of characters, and `Profile.lexeme` tries the
classes in their fixed order. Lengths are measured by counters, so that long
literals cost no stack.
-/

/-- Whether `text` starts with `opening`. -/
def startsWith
    (text : List Char)
    (opening : String) :
    Bool :=
  opening.toList.isPrefixOf text

/-- The length of the longest run of `accepted` characters at the head. -/
def runLength
    (accepted : Char → Bool)
    (text : List Char) :
    Nat :=
  (text.takeWhile accepted).length

/-- Characters that separate tokens on their own. -/
def isSeparator (character : Char) : Bool :=
  character == ' ' || character == '\t' || character == '\r' ||
    character == '\x0c' || character == '\x0b' || character == '\n'

/--
The length of the gap at the head: separators, and backslashes that stand
directly before a line break.
-/
def gapLength (count : Nat) : List Char → Nat
  | '\\' :: '\n' :: rest => gapLength (count + 2) rest
  | '\\' :: '\r' :: '\n' :: rest => gapLength (count + 3) rest
  | character :: rest =>
      if isSeparator character then
        gapLength (count + 1) rest
      else
        count
  | [] => count

/-- Count up to and including the first occurrence of `closer`. -/
def lengthThrough
    (closer : List Char)
    (count : Nat) :
    List Char →
    Option Nat
  | [] => none
  | character :: rest =>
      if closer.isPrefixOf (character :: rest) then
        some (count + closer.length)
      else
        lengthThrough closer (count + 1) rest

/--
The length of a regular-expression literal's body up to its closing slash.
Inside a bracketed set a slash is an ordinary character.
-/
def regexBodyLength
    (insideSet : Bool)
    (count : Nat) :
    List Char →
    Option Nat
  | [] => none
  | '\\' :: escaped :: rest =>
      if escaped = '\n' then
        none
      else
        regexBodyLength insideSet (count + 2) rest
  | character :: rest =>
      if character = '\n' ∨ character = '\\' then
        none
      else if insideSet then
        regexBodyLength (character != ']') (count + 1) rest
      else if character = '/' then
        some count
      else
        regexBodyLength (character == '[') (count + 1) rest

/-- The length of a regular-expression literal with its flags. -/
def regexLength? : List Char → Option Nat
  | '/' :: first :: rest =>
      if first = '/' ∨ first = '*' then
        none
      else
        (regexBodyLength false 0 (first :: rest)).map fun body =>
          let flags := runLength isAsciiLetter ((first :: rest).drop (body + 1))
          1 + body + 1 + flags
  | _ => none

/-- How a string literal opens. -/
structure StringOpening where
  /-- Characters before the quote. -/
  marks : List Char
  quote : List Char
  /-- Backslashes escape nothing. -/
  raw : Bool
  /-- The literal may run over line breaks. -/
  multiline : Bool
  deriving Repr, DecidableEq

/-- The string opening at the head: up to two marks, then a quote. -/
def Profile.stringOpening?
    (profile : Profile)
    (text : List Char) :
    Option StringOpening :=
  let marks := (text.take 2).takeWhile profile.stringPrefixes.toList.contains
  let rest := text.drop marks.length
  (profile.stringQuotes.find? (startsWith rest)).map fun quote =>
    let raw :=
      profile.rawQuotes.contains quote ||
        marks.any profile.rawPrefixes.toList.contains
    { marks
      quote := quote.toList
      raw
      multiline := raw || profile.multilineQuotes.contains quote }

/-- Count from behind the opening quote through the closing one. -/
def stringBodyLength
    (opening : StringOpening)
    (count : Nat) :
    List Char →
    Option Nat
  | [] => none
  | character :: rest =>
      if character = '\\' ∧ opening.raw = false then
        match rest with
        | [] => none
        | _ :: beyond => stringBodyLength opening (count + 2) beyond
      else if opening.quote.isPrefixOf (character :: rest) then
        some (count + opening.quote.length)
      else if character = '\n' ∧ opening.multiline = false then
        none
      else
        stringBodyLength opening (count + 1) rest

/-- The length of a whole string literal that opens as `opening`. -/
def StringOpening.length?
    (opening : StringOpening)
    (text : List Char) :
    Option Nat :=
  let head := opening.marks.length + opening.quote.length
  stringBodyLength opening head (text.drop head)

/-- A digit of any script, or the underscore that groups digits. -/
def isGroupedDigit (character : Char) : Bool :=
  isDecimalDigit character || character == '_'

/-- The digits of a literal with a base mark such as `0x`. -/
def basedLength?
    (marks : List Char)
    (accepted : Char → Bool) :
    List Char →
    Option Nat
  | '0' :: mark :: rest =>
      let digits := runLength accepted rest
      if marks.contains mark ∧ 0 < digits then
        some (2 + digits)
      else
        none
  | _ => none

/-- The whole and fractional digits of a decimal literal. -/
def decimalLength? : List Char → Option Nat
  | '.' :: digit :: rest =>
      if isDecimalDigit digit then
        some (2 + runLength isGroupedDigit rest)
      else
        none
  | first :: rest =>
      if isDecimalDigit first then
        let whole := 1 + runLength isGroupedDigit rest
        match rest.drop (whole - 1) with
        | '.' :: fraction => some (whole + 1 + runLength isGroupedDigit fraction)
        | _ => some whole
      else
        none
  | [] => none

/-- The exponent at the head, if there is one. -/
def exponentLength : List Char → Nat
  | mark :: rest =>
      if mark = 'e' ∨ mark = 'E' then
        let sign :=
          match rest with
          | '+' :: _ => 1
          | '-' :: _ => 1
          | _ => 0
        let digits := runLength isDecimalDigit (rest.drop sign)
        if 0 < digits then
          1 + sign + digits
        else
          0
      else
        0
  | [] => 0

/-- The digits of a number in whichever base it is written. -/
def digitsLength? (text : List Char) : Option Nat :=
  basedLength? ['x', 'X'] (fun c => isHexDigit c || c == '_') text <|>
    basedLength? ['b', 'B'] (fun c => c == '0' || c == '1' || c == '_') text <|>
    basedLength? ['o', 'O'] (fun c => ('0' ≤ c && c ≤ '7') || c == '_') text <|>
    (decimalLength? text).map fun mantissa =>
      mantissa + exponentLength (text.drop mantissa)

/-- The length of a number literal with its type letters. -/
def numberLength? (text : List Char) : Option Nat :=
  (digitsLength? text).map fun digits =>
    digits + runLength isAsciiLetter (text.drop digits)

/-- A character that may start a name. -/
def NameShape.starts
    (shape : NameShape)
    (character : Char) :
    Bool :=
  isAsciiLetter character || character == '_' ||
    (shape.dollar && character == '$')

/-- A character that may continue a name. -/
def NameShape.continues
    (shape : NameShape)
    (character : Char) :
    Bool :=
  shape.starts character || isAsciiDigit character

/-- The length of the name at the head. -/
def NameShape.length?
    (shape : NameShape)
    (text : List Char) :
    Option Nat :=
  match text with
  | [] => none
  | first :: rest =>
      if shape.sigil ∧ first = '#' then
        match rest with
        | second :: beyond =>
            if shape.starts second then
              some (2 + runLength shape.continues beyond)
            else
              none
        | [] => none
      else if shape.starts first then
        some (1 + runLength shape.continues rest)
      else
        none

/-- Punctuation that is a token of its own. -/
def delimiters : List Char :=
  ['\x7b', '\x7d', '(', ')', '[', ']', ';', ',']

/-- Operators of more than one character, longest first. -/
def operators : List String :=
  [">>>=", "===", "!==", "**=", "<<=", ">>=", "...", "//=", ">>>",
    "=>", "->", "==", "!=", "<=", ">=", "&&", "||", "++", "--", "+=", "-=",
    "*=", "/=", "%=", "&=", "|=", "^=", "::", "??", "?.", ":=", "**", "//",
    "<<", ">>"]

/-- Keywords after which a slash starts a regular expression. -/
def regexKeywords : List String :=
  ["return", "typeof", "case", "delete", "void", "throw", "in", "of",
    "yield", "await", "else", "new", "instanceof"]

/-- Whether a slash after this code token starts a regular expression. -/
def regexMayFollow : Option Token → Bool
  | none => true
  | some previous =>
      match previous.kind with
      | .operator => !(["++", "--"].contains previous.text)
      | .delimiter => !([")", "]", "\x7d"].contains previous.text)
      | .keyword => regexKeywords.contains previous.text
      | _ => false

/-- A measured lexeme. -/
structure Lexeme where
  kind : TokenKind
  length : Nat
  deriving Repr, DecidableEq

/-- A comment at the head. -/
def Profile.comment?
    (profile : Profile)
    (text : List Char) :
    Option (Except FaultCause Lexeme) :=
  if profile.lineComments.any (startsWith text) then
    some (.ok { kind := .comment, length := runLength (· != '\n') text })
  else
    (profile.blockComments.find? (fun pair => startsWith text pair.1)).map
      fun pair =>
        match
          lengthThrough pair.2.toList pair.1.length (text.drop pair.1.length)
        with
        | none => .error .unterminatedComment
        | some length => .ok { kind := .comment, length }

/-- A regular-expression literal at the head, where one may stand. -/
def Profile.regex?
    (profile : Profile)
    (previous : Option Token)
    (text : List Char) :
    Option (Except FaultCause Lexeme) :=
  if profile.regexLiterals && regexMayFollow previous then
    (regexLength? text).map fun length => .ok { kind := .regex, length }
  else
    none

/-- A string literal at the head. -/
def Profile.string?
    (profile : Profile)
    (text : List Char) :
    Option (Except FaultCause Lexeme) :=
  (profile.stringOpening? text).map fun opening =>
    match opening.length? text with
    | none => .error .unterminatedString
    | some length => .ok { kind := .string, length }

/-- A number at the head. -/
def number?
    (text : List Char) :
    Option (Except FaultCause Lexeme) :=
  (numberLength? text).map fun length => .ok { kind := .number, length }

/-- A keyword or an identifier at the head. -/
def Profile.word?
    (profile : Profile)
    (text : List Char) :
    Option (Except FaultCause Lexeme) :=
  (profile.nameShape.length? text).map fun length =>
    let word := String.ofList (text.take length)
    if profile.keywords.contains word then
      .ok { kind := .keyword, length }
    else
      .ok { kind := .identifier, length }

/-- Punctuation at the head: whatever no other class claims is an operator. -/
def punctuation (text : List Char) : Lexeme :=
  match text with
  | [] => { kind := .operator, length := 1 }
  | first :: _ =>
      if delimiters.contains first then
        { kind := .delimiter, length := 1 }
      else
        match operators.find? (startsWith text) with
        | some operator => { kind := .operator, length := operator.length }
        | none => { kind := .operator, length := 1 }

/-- The lexeme at the head of a text that starts with no gap. -/
def Profile.lexeme
    (profile : Profile)
    (previous : Option Token)
    (text : List Char) :
    Except FaultCause Lexeme :=
  (profile.comment? text <|>
    profile.regex? previous text <|>
    profile.string? text <|>
    number? text <|>
    profile.word? text).getD (.ok (punctuation text))

end HouseStyle
