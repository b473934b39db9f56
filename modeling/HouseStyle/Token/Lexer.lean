import HouseStyle.Language.Catalogue
import HouseStyle.Token.Lexeme

namespace HouseStyle

/-!
# Reading tokens

`tokenize` cuts a text into tokens, dropping the gaps between them. Every step
takes at least the first character of what is left, so the reading ends.
-/

/--
The token spelled by `characters`, the first of which stands at `start`. The
carriage returns that end a comment are not part of its text, but its last
place counts them.
-/
def Token.spelled
    (kind : TokenKind)
    (characters : List Char)
    (start : Position) :
    Token :=
  let shown :=
    if kind = .comment then
      (characters.reverse.dropWhile (· == '\r')).reverse
    else
      characters
  { kind
    text := String.ofList shown
    start
    stop := start.advance characters.dropLast }

/--
Read the tokens of `text`, whose first character stands at `position`.
`previous` is the last code token read so far.
-/
def Profile.tokensFrom
    (profile : Profile)
    (previous : Option Token)
    (position : Position)
    (found : Array Token)
    (text : List Char) :
    Except Fault (Array Token) :=
  match text with
  | [] => .ok found
  | first :: rest =>
      let gap := gapLength 0 (first :: rest)
      if 0 < gap then
        profile.tokensFrom
          previous
          (position.advance (first :: rest.take (gap - 1)))
          found
          (rest.drop (gap - 1))
      else
        match profile.lexeme previous (first :: rest) with
        | .error cause => .error { cause, line := position.line }
        | .ok lexeme =>
            let characters := first :: rest.take (lexeme.length - 1)
            let token := Token.spelled lexeme.kind characters position
            profile.tokensFrom
              (if token.isCode then some token else previous)
              (position.advance characters)
              (found.push token)
              (rest.drop (lexeme.length - 1))
  termination_by text.length

/-- The tokens of a text under a profile. -/
def Profile.tokenize
    (profile : Profile)
    (text : String) :
    Except Fault (Array Token) :=
  profile.tokensFrom none .origin #[] text.toList

/-- The tokens of a text written in a language. -/
def tokenize
    (language : Language)
    (text : String) :
    Except Fault (Array Token) :=
  language.profile.tokenize text

end HouseStyle
