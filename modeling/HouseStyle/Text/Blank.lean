namespace HouseStyle

/-!
# White space

The white-space characters of Unicode together with the four information
separators. Trimming a text and asking whether a line is blank both read this
one table.
-/

/-- White space: the Unicode property, and the separators U+001C to U+001F. -/
def isBlank (character : Char) : Bool :=
  let code := character.toNat
  (0x09 ≤ code && code ≤ 0x0D) ||
    (0x1C ≤ code && code ≤ 0x20) ||
    code == 0x85 ||
    code == 0xA0 ||
    code == 0x1680 ||
    (0x2000 ≤ code && code ≤ 0x200A) ||
    code == 0x2028 ||
    code == 0x2029 ||
    code == 0x202F ||
    code == 0x205F ||
    code == 0x3000

/-- Drop white space from the front. -/
def trimStart (text : List Char) : List Char :=
  text.dropWhile isBlank

/-- Drop white space from the back. -/
def trimEnd (text : List Char) : List Char :=
  (text.reverse.dropWhile isBlank).reverse

/-- Drop white space from both ends. -/
def trim (text : List Char) : List Char :=
  trimEnd (trimStart text)

/-- Drop white space from both ends of a string. -/
def trimmed (text : String) : String :=
  String.ofList (trim text.toList)

/-- Every white-space character of the core library is white space here. -/
theorem isBlank_of_isWhitespace
    {character : Char}
    (white : character.isWhitespace = true) :
    isBlank character = true := by
  simp only [Char.isWhitespace, Bool.or_eq_true, decide_eq_true_eq] at white
  rcases white with ((isSpace | isTab) | isReturn) | isNewline <;>
    subst_vars <;> decide

end HouseStyle
