import HouseStyle.Source.Tree

namespace HouseStyle

/-!
# Signatures

A header declares a callable when a name stands directly before a parenthesis
outside all others. Annotations such as `@Name.Part(...)` are looked over.
-/

/-- Drop `.name` pairs. -/
def dropQualifiers : List Placed → List Placed
  | dot :: name :: rest =>
      if dot.reads "." then
        dropQualifiers rest
      else
        dot :: name :: rest
  | tokens => tokens

/-- Drop everything up to the parenthesis that brings `depth` to zero. -/
def dropArguments (depth : Int) : List Placed → List Placed
  | [] => []
  | token :: rest =>
      if token.reads "(" then
        dropArguments (depth + 1) rest
      else if token.reads ")" then
        if depth - 1 = 0 then
          rest
        else
          dropArguments (depth - 1) rest
      else
        dropArguments depth rest

/-- Drop a qualified name and the arguments behind it. -/
def dropMarkerName (tokens : List Placed) : List Placed :=
  match dropQualifiers (tokens.drop 1) with
  | [] => []
  | token :: rest =>
      if token.reads "(" then
        dropArguments 0 (token :: rest)
      else
        token :: rest

theorem length_dropQualifiers_le (tokens : List Placed) :
    (dropQualifiers tokens).length ≤ tokens.length := by
  fun_induction dropQualifiers tokens with
  | case1 dot name rest _ inductionHypothesis =>
      simp only [List.length_cons]
      omega
  | case2 => exact Nat.le_refl _
  | case3 => exact Nat.le_refl _

theorem length_dropArguments_le
    (depth : Int)
    (tokens : List Placed) :
    (dropArguments depth tokens).length ≤ tokens.length := by
  fun_induction dropArguments depth tokens <;> simp_all <;> omega

/-- Looking over a marker never lengthens the list. -/
theorem length_dropMarkerName_le (tokens : List Placed) :
    (dropMarkerName tokens).length ≤ tokens.length := by
  unfold dropMarkerName
  have qualifiers := length_dropQualifiers_le (tokens.drop 1)
  have dropped : (tokens.drop 1).length ≤ tokens.length := by simp
  split
  · simp
  · next token rest same =>
      rw [same] at qualifiers
      split
      · exact Nat.le_trans (length_dropArguments_le 0 _) (by omega)
      · omega

/--
The name of the first signature: an identifier directly before a parenthesis
that stands inside no other. `previous` is the token before the list.
-/
def signatureFrom?
    (previous : Option Placed)
    (depth : Int)
    (tokens : List Placed) :
    Option Placed :=
  match tokens with
  | [] => none
  | token :: rest =>
      if token.reads "@" ∧ depth = 0 then
        have := length_dropMarkerName_le rest
        signatureFrom? none depth (dropMarkerName rest)
      else if token.token.isDelimiter "(" then
        match previous with
        | some name =>
            if depth = 0 ∧ name.kind = .identifier then
              some name
            else
              signatureFrom? (some token) (depth + 1) rest
        | none => signatureFrom? (some token) (depth + 1) rest
      else if token.token.isDelimiter ")" then
        signatureFrom? (some token) (depth - 1) rest
      else
        signatureFrom? (some token) depth rest
  termination_by tokens.length

/-- The name that a header declares as callable. -/
def signature? (tokens : List Placed) : Option Placed :=
  signatureFrom? none 0 tokens

end HouseStyle
