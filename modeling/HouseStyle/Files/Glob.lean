namespace HouseStyle

/-!
# Glob patterns

A pattern matches a whole text. `*` stands for any characters, `?` for one,
and brackets for one of a set; a set that starts with `!` is negated. A bracket
that is never closed stands for itself.
-/

/-- One element of a pattern. -/
inductive GlobPart
  | any
  | one
  | literal (character : Char)
  | set (negated : Bool) (ranges : List (Char × Char))
  deriving Repr, DecidableEq

/-- The characters of a set up to its closing bracket, and what follows. -/
def takeSet (text : List Char) : Option (List Char × List Char) :=
  let marked : List Char :=
    match text with
    | '!' :: ']' :: _ => ['!', ']']
    | '!' :: _ => ['!']
    | ']' :: _ => [']']
    | _ => []
  let rest := text.drop marked.length
  let inside := rest.takeWhile (· != ']')
  match rest.drop inside.length with
  | _ :: after => some (marked ++ inside, after)
  | [] => none

/--
Cut the characters of a set at the hyphens that make ranges. A hyphen at the
start, at the end or right behind a range stands for itself.
-/
def cutAtHyphens
    (reversed : List Char)
    (waiting : Nat) :
    List Char →
    List (List Char)
  | [] => [reversed.reverse]
  | '-' :: rest =>
      if waiting = 0 ∧ ¬ rest.isEmpty then
        reversed.reverse :: cutAtHyphens [] 2 rest
      else
        cutAtHyphens ('-' :: reversed) (waiting - 1) rest
  | character :: rest =>
      cutAtHyphens (character :: reversed) (waiting - 1) rest

/-- Join pieces whose range would be empty, dropping both ends of it. -/
def dropEmptyRanges : List (List Char) → List (List Char)
  | [] => []
  | piece :: rest =>
      match dropEmptyRanges rest with
      | [] => [piece]
      | next :: beyond =>
          match piece.getLast?, next with
          | some low, high :: others =>
              if high < low then
                (piece.dropLast ++ others) :: beyond
              else
                piece :: next :: beyond
          | _, _ => piece :: next :: beyond

/-- The ranges that pieces joined by hyphens stand for. -/
def rangesOf : List (List Char) → List (Char × Char)
  | [] => []
  | piece :: rest =>
      let singles := piece.map fun character => (character, character)
      match piece.getLast?, rest with
      | some low, (high :: _) :: _ => singles ++ (low, high) :: rangesOf rest
      | _, _ => singles ++ rangesOf rest

/--
The set that the characters between brackets stand for. An exclamation mark in
front negates the set, also one that comes to the front because an empty range
is dropped; a hyphen right behind it stands for itself.
-/
def globSet (inside : List Char) : GlobPart :=
  let waiting := if inside.head? = some '!' then 2 else 1
  match dropEmptyRanges (cutAtHyphens [] waiting inside) with
  | ['!'] :: next :: pieces => .set true (rangesOf (('-' :: next) :: pieces))
  | ('!' :: piece) :: pieces => .set true (rangesOf (piece :: pieces))
  | pieces => .set false (rangesOf pieces)

/-- Read a pattern. -/
def globParts : Nat → List Char → List GlobPart
  | 0, _ => []
  | _ + 1, [] => []
  | fuel + 1, '*' :: rest => .any :: globParts fuel rest
  | fuel + 1, '?' :: rest => .one :: globParts fuel rest
  | fuel + 1, '[' :: rest =>
      match takeSet rest with
      | some (inside, after) => globSet inside :: globParts fuel after
      | none => .literal '[' :: globParts fuel rest
  | fuel + 1, character :: rest => .literal character :: globParts fuel rest

/-- Whether an element other than `*` stands for a character. -/
def GlobPart.accepts
    (part : GlobPart)
    (character : Char) :
    Bool :=
  match part with
  | .any => true
  | .one => true
  | .literal expected => character == expected
  | .set negated ranges =>
      ranges.any (fun (low, high) => low ≤ character && character ≤ high) !=
        negated

/-- Whether some front part of `text` is matched by `*` and the rest by `rest`. -/
def matchAny
    (rest : List Char → Bool) :
    List Char →
    Bool
  | [] => rest []
  | character :: text => rest (character :: text) || matchAny rest text

/-- Whether the elements match a whole text. -/
def matchParts : List GlobPart → List Char → Bool
  | [], text => text.isEmpty
  | .any :: parts, text => matchAny (matchParts parts) text
  | part :: parts, character :: text =>
      part.accepts character && matchParts parts text
  | _ :: _, [] => false

/-- Whether a pattern matches a whole text. -/
def globMatches (pattern text : String) : Bool :=
  let characters := pattern.toList
  matchParts (globParts (characters.length + 1) characters) text.toList

example : globMatches "*.[!a-c]?" "dir/x.dz" = true := by decide +kernel

example : globMatches "[" "[" = true := by decide +kernel

example : globMatches "[z-a]" "z" = false := by decide +kernel

example : globMatches "[z-a!]" "z" = true := by decide +kernel

end HouseStyle
