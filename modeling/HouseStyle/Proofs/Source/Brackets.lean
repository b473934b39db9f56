import HouseStyle.Proofs.Source.Spelling
import HouseStyle.Proofs.Token.Punctuation

namespace HouseStyle

/-!
# Nesting of brackets

The brackets of a row of tokens are read with a stack: an opening bracket is
pushed, a closing one takes the bracket of its shape off the stack. A row is
well nested when this never fails and leaves nothing open. What a row does to
its own stack it does above any other stack too, so a part of a row that is well
nested can be left out.
-/

/-- The opening brackets with the closing ones of their shape. -/
def bracketPairs : List (String × String) :=
  [("(", ")"), ("[", "]"), ("\x7b", "\x7d")]

namespace Placed

/-- The open brackets behind a token, if it may stand behind the `opened`. -/
def nest
    (token : Placed)
    (opened : List Placed) :
    Option (List Placed) :=
  if token.token.opensBracket then
    some (token :: opened)
  else if token.token.closesBracket then
    match opened with
    | [] => none
    | opener :: outer =>
        if bracketPairs.contains (opener.text, token.text) then
          some outer
        else
          none
  else
    some opened

/-- The number of open brackets behind a token. -/
def depthBehind
    (token : Placed)
    (depth : Nat) :
    Nat :=
  if token.token.opensBracket then
    depth + 1
  else if token.token.closesBracket then
    depth - 1
  else
    depth

variable {token : Placed} {inner opened stack : List Placed}

theorem nest_of_opens
    (opens : token.token.opensBracket = true) :
    token.nest opened = some (token :: opened) := by
  simp [nest, opens]

theorem nest_of_other
    (opensNone : token.token.opensBracket = false)
    (closesNone : token.token.closesBracket = false) :
    token.nest opened = some opened := by
  simp [nest, opensNone, closesNone]

/-- A closing bracket takes the bracket of its shape off the stack. -/
theorem exists_of_nest
    (opensNone : token.token.opensBracket = false)
    (closes : token.token.closesBracket = true)
    (nests : token.nest opened = some stack) :
    ∃ opener,
      opened = opener :: stack ∧
        (opener.text, token.text) ∈ bracketPairs := by
  cases opened with
  | nil =>
      simp [nest, opensNone, closes] at nests
  | cons opener outer =>
      simp only [nest, opensNone, closes, Bool.false_eq_true, ↓reduceIte,
        Option.ite_none_right_eq_some, List.contains_iff_mem,
        Option.some.injEq] at nests
      exact ⟨opener, by rw [nests.2], nests.1⟩

/-- What lies below the stack that is used does not matter. -/
theorem nest_append
    (nests : token.nest inner = some stack) :
    token.nest (inner ++ opened) = some (stack ++ opened) := by
  cases opens : token.token.opensBracket with
  | true =>
      rw [nest_of_opens opens, Option.some.injEq] at nests
      rw [nest_of_opens opens, ← nests, List.cons_append]
  | false =>
      cases closes : token.token.closesBracket with
      | true =>
          obtain ⟨opener, rfl, isPair⟩ := exists_of_nest opens closes nests
          simp [nest, opens, closes, isPair]
      | false =>
          rw [nest_of_other opens closes, Option.some.injEq] at nests
          rw [nest_of_other opens closes, nests]

/-- A token that closes none of the brackets below leaves them as they are. -/
theorem exists_nest
    (noClosing :
      inner = [] →
      token.token.opensBracket = false →
      token.token.closesBracket = false)
    (nests : token.nest (inner ++ opened) = some stack) :
    ∃ left,
      token.nest inner = some left ∧
        stack = left ++ opened ∧
        left.length = token.depthBehind inner.length := by
  cases opens : token.token.opensBracket with
  | true =>
      rw [nest_of_opens opens, Option.some.injEq] at nests
      refine ⟨token :: inner, nest_of_opens opens, nests.symm, ?_⟩
      simp [depthBehind, opens]
  | false =>
      cases closes : token.token.closesBracket with
      | true =>
          obtain ⟨opener, same, isPair⟩ := exists_of_nest opens closes nests
          cases inner with
          | nil =>
              simp [noClosing rfl opens] at closes
          | cons _ left =>
              obtain ⟨rfl, rfl⟩ := List.cons.inj same
              refine ⟨left, ?_, rfl, ?_⟩
              · simp [nest, opens, closes, isPair]
              · simp [depthBehind, opens, closes]
      | false =>
          rw [nest_of_other opens closes, Option.some.injEq] at nests
          refine ⟨inner, nest_of_other opens closes, nests.symm, ?_⟩
          simp [depthBehind, opens, closes]

end Placed

/--
The brackets still open behind the tokens, the last one first, or nothing if a
bracket is closed that does not stand open.
-/
def openBehind
    (opened tokens : List Placed) :
    Option (List Placed) :=
  tokens.foldlM (fun stack token => token.nest stack) opened

/-- The tokens close every bracket they open, and no other. -/
abbrev Nested (tokens : List Placed) : Prop :=
  openBehind [] tokens = some []

section OpenBehind

variable {inner opened stack : List Placed}

@[simp]
theorem openBehind_nil :
    openBehind opened [] = some opened :=
  rfl

theorem openBehind_cons
    (token : Placed)
    (rest : List Placed) :
    openBehind opened (token :: rest) =
      (token.nest opened).bind (openBehind · rest) :=
  rfl

theorem openBehind_append
    (front back : List Placed) :
    openBehind opened (front ++ back) =
      (openBehind opened front).bind (openBehind · back) :=
  List.foldlM_append

/-- What lies below the stack that is used does not matter. -/
theorem openBehind_above
    {tokens : List Placed}
    (opens : openBehind inner tokens = some stack) :
    openBehind (inner ++ opened) tokens = some (stack ++ opened) := by
  induction tokens generalizing inner with
  | nil =>
      cases opens
      rfl
  | cons token rest inductionHypothesis =>
      rw [openBehind_cons, Option.bind_eq_some_iff] at opens
      obtain ⟨middle, nests, opensRest⟩ := opens
      rw [openBehind_cons, Placed.nest_append nests, Option.bind_some]
      exact inductionHypothesis opensRest

/-- Tokens that are well nested leave open what stood open. -/
theorem Nested.openBehind
    {tokens : List Placed}
    (nested : Nested tokens) :
    HouseStyle.openBehind opened tokens = some opened :=
  openBehind_above nested

/-- The token in front moves only the brackets opened above the others. -/
theorem exists_of_openBehind_cons
    {token : Placed}
    {rest : List Placed}
    (noClosing :
      inner = [] →
      token.token.opensBracket = false →
      token.token.closesBracket = false)
    (nested : openBehind (inner ++ opened) (token :: rest) = some []) :
    ∃ left,
      token.nest inner = some left ∧
        left.length = token.depthBehind inner.length ∧
        openBehind (left ++ opened) rest = some [] := by
  rw [openBehind_cons, Option.bind_eq_some_iff] at nested
  obtain ⟨stack, nests, nestedRest⟩ := nested
  obtain ⟨left, nestsInner, rfl, isLeft⟩ :=
    Placed.exists_nest noClosing nests
  exact ⟨left, nestsInner, isLeft, nestedRest⟩

/-- Where a bracket is open, the others stay out of reach of any token. -/
theorem exists_of_openBehind_inside
    {token : Placed}
    {rest : List Placed}
    (isInside : 0 < inner.length)
    (nested : openBehind (inner ++ opened) (token :: rest) = some []) :
    ∃ left,
      token.nest inner = some left ∧
        left.length = token.depthBehind inner.length ∧
        openBehind (left ++ opened) rest = some [] := by
  refine exists_of_openBehind_cons ?_ nested
  intro isEmpty
  exact absurd isEmpty (List.ne_nil_of_length_pos isInside)

end OpenBehind

theorem Nested.singleton
    {token : Placed}
    (nests : token.nest [] = some []) :
    Nested [token] := by
  rw [Nested, openBehind_cons, nests, Option.bind_some, openBehind_nil]

theorem Nested.append
    {front back : List Placed}
    (left : Nested front)
    (right : Nested back) :
    Nested (front ++ back) := by
  rw [Nested, openBehind_append, left, Option.bind_some, right]

/-- A group between brackets of one shape is well nested if its inside is. -/
theorem Nested.group
    {opener closing : Placed}
    {inside : List Placed}
    (opens : opener.token.opensBracket = true)
    (nested : Nested inside)
    (closes : closing.nest [opener] = some []) :
    Nested (opener :: (inside ++ [closing])) := by
  rw [Nested, openBehind_cons, Placed.nest_of_opens opens, Option.bind_some,
    openBehind_append, nested.openBehind, Option.bind_some, openBehind_cons,
    closes, Option.bind_some, openBehind_nil]

/-- An opening bracket has one match: the group that it opens ends once. -/
theorem Nested.eq_of_closes
    {first second : List Placed}
    {closing other : Placed}
    {after beyond : List Placed}
    (nested : Nested first)
    (otherNested : Nested second)
    (closes : closing.nest [] = none)
    (otherCloses : other.nest [] = none)
    (same : first ++ closing :: after = second ++ other :: beyond) :
    first = second ∧ closing = other := by
  have noLonger
      {short long rest : List Placed}
      {token : Placed}
      (isNested : Nested short)
      (stops : token.nest [] = none)
      (isLonger : long = short ++ token :: rest) :
      ¬ Nested long := by
    rw [isLonger, Nested, openBehind_append, isNested, Option.bind_some,
      openBehind_cons, stops]
    simp
  rcases List.append_eq_append_iff.mp same with
    ⟨more, isLonger, sameRest⟩ | ⟨more, isLonger, sameRest⟩
  · cases more with
    | nil =>
        simp_all
    | cons token rest =>
        obtain ⟨rfl, _⟩ := List.cons.inj sameRest
        exact (noLonger nested closes isLonger otherNested).elim
  · cases more with
    | nil =>
        simp_all
    | cons token rest =>
        obtain ⟨rfl, _⟩ := List.cons.inj sameRest
        exact (noLonger otherNested otherCloses isLonger nested).elim

/-- Tokens up to `after` that close the brackets in `inner`, and no others. -/
def ClosesUpTo (inner tokens after : List Placed) : Prop :=
  ∃ taken, tokens = taken ++ after ∧ openBehind inner taken = some []

namespace ClosesUpTo

theorem refl (tokens : List Placed) :
    ClosesUpTo [] tokens tokens :=
  ⟨[], rfl, rfl⟩

theorem cons
    {token : Placed}
    {inner stack rest after : List Placed}
    (nests : token.nest inner = some stack)
    (others : ClosesUpTo stack rest after) :
    ClosesUpTo inner (token :: rest) after := by
  obtain ⟨taken, rfl, closes⟩ := others
  refine ⟨token :: taken, rfl, ?_⟩
  rw [openBehind_cons, nests, Option.bind_some, closes]

theorem trans
    {inner tokens middle after : List Placed}
    (first : ClosesUpTo inner tokens middle)
    (second : ClosesUpTo [] middle after) :
    ClosesUpTo inner tokens after := by
  obtain ⟨front, rfl, closes⟩ := first
  obtain ⟨back, rfl, nested⟩ := second
  refine ⟨front ++ back, by simp, ?_⟩
  rw [openBehind_append, closes, Option.bind_some, nested]

end ClosesUpTo

/-- The innermost open bracket, if there is one, is a brace. -/
def IsBody (opened : List Placed) : Prop :=
  ∀ opener ∈ opened.head?, opener.text = "\x7b"

/-- Outside all brackets of its own, a body is closed by a brace only. -/
theorem IsBody.isDelimiter_of_closes
    {token : Placed}
    {opened rest : List Placed}
    (isBody : IsBody opened)
    (nested : openBehind opened (token :: rest) = some [])
    (opensNone : token.token.opensBracket = false)
    (closes : token.token.closesBracket = true) :
    token.token.isDelimiter "\x7d" = true := by
  rw [openBehind_cons, Option.bind_eq_some_iff] at nested
  obtain ⟨stack, nests, _⟩ := nested
  obtain ⟨opener, rfl, isPair⟩ :=
    Placed.exists_of_nest opensNone closes nests
  have isBrace : opener.text = "\x7b" :=
    isBody opener rfl
  rw [isBrace] at isPair
  have isClosing : token.token.text = "\x7d" := by
    simpa [bracketPairs, Placed.text] using isPair
  simp only [Token.closesBracket, Bool.and_eq_true] at closes
  simp [Token.isDelimiter, isClosing, closes.1]

/--
What is left of a file in a body: the brackets that stand open are closed again,
and the innermost of them is a brace.
-/
structure InBody (opened tokens : List Placed) : Prop where
  plain : ∀ placed ∈ tokens, placed.token.DelimitsBrackets
  nested : openBehind opened tokens = some []
  isBody : IsBody opened

/-- A token that is spelled like a bracket is the delimiter. -/
theorem Placed.isDelimiter_of_reads
    {placed : Placed}
    {bracket : Char}
    (plain : placed.token.DelimitsBrackets)
    (isBracket : bracket ∈ brackets)
    (reads : placed.reads (String.ofList [bracket]) = true) :
    placed.token.isDelimiter (String.ofList [bracket]) = true := by
  have same : placed.token.text = String.ofList [bracket] := by
    simpa [Placed.reads] using reads
  simp [Token.isDelimiter, same, plain bracket isBracket same]

/-- A delimiter opens a group if it is spelled like an opening bracket. -/
theorem Token.opensBracket_of_isDelimiter
    {token : Token}
    {text : String}
    (isDelimiter : token.isDelimiter text = true) :
    token.opensBracket = ["(", "[", "\x7b"].contains text := by
  simp only [Token.isDelimiter, Bool.and_eq_true, beq_iff_eq] at isDelimiter
  rw [Token.opensBracket, isDelimiter.1, isDelimiter.2]
  rfl

/-- A delimiter closes a group if it is spelled like a closing bracket. -/
theorem Token.closesBracket_of_isDelimiter
    {token : Token}
    {text : String}
    (isDelimiter : token.isDelimiter text = true) :
    token.closesBracket = [")", "]", "\x7d"].contains text := by
  simp only [Token.isDelimiter, Bool.and_eq_true, beq_iff_eq] at isDelimiter
  rw [Token.closesBracket, isDelimiter.1, isDelimiter.2]
  rfl

/-- No other text than a bracket's opens or closes a group. -/
theorem Placed.nest_of_reads
    {placed : Placed}
    {text : String}
    {opened : List Placed}
    (reads : placed.reads text = true)
    (noOpener : ["(", "[", "\x7b"].contains text = false)
    (noCloser : [")", "]", "\x7d"].contains text = false) :
    placed.nest opened = some opened := by
  have same : placed.token.text = text := by
    simpa [Placed.reads] using reads
  refine Placed.nest_of_other ?_ ?_
  · rw [Token.opensBracket, same, noOpener, Bool.and_false]
  · rw [Token.closesBracket, same, noCloser, Bool.and_false]

theorem Placed.nest_of_is
    {placed : Placed}
    {text : String}
    {opened : List Placed}
    (isText : placed.is text = true)
    (noOpener : ["(", "[", "\x7b"].contains text = false)
    (noCloser : [")", "]", "\x7d"].contains text = false) :
    placed.nest opened = some opened :=
  Placed.nest_of_reads (Placed.reads_of_is isText) noOpener noCloser

namespace InBody

variable {token : Placed} {opened rest tokens after : List Placed}

/-- What closes all it opens leaves the rest of the body. -/
theorem behind
    (inBody : InBody opened tokens)
    (closes : ClosesUpTo [] tokens after) :
    InBody opened after := by
  obtain ⟨taken, rfl, isNested⟩ := closes
  have nested := inBody.nested
  rw [openBehind_append, Nested.openBehind isNested,
    Option.bind_some] at nested
  exact
    { plain := fun placed member =>
        inBody.plain placed (List.mem_append_right taken member)
      nested := nested
      isBody := inBody.isBody }

/-- Behind an opening brace there is another body. -/
theorem inside
    (inBody : InBody opened (token :: rest))
    (opens : token.token.isDelimiter "\x7b" = true) :
    InBody (token :: opened) rest := by
  have nested := inBody.nested
  rw [openBehind_cons,
    Placed.nest_of_opens (Token.opensBracket_of_isDelimiter opens),
    Option.bind_some] at nested
  simp only [Token.isDelimiter, Bool.and_eq_true, beq_iff_eq] at opens
  exact
    { plain := fun placed member =>
        inBody.plain placed (List.mem_cons_of_mem token member)
      nested := nested
      isBody := by simpa [IsBody, Placed.text] using opens.2 }

/-- A closing bracket closes the innermost open one. -/
theorem nest_of_closes
    {opener : Placed}
    (inBody : InBody (opener :: opened) (token :: rest))
    (opensNone : token.token.opensBracket = false)
    (closes : token.token.closesBracket = true) :
    token.nest [opener] = some [] := by
  have nested := inBody.nested
  rw [openBehind_cons, Option.bind_eq_some_iff] at nested
  obtain ⟨stack, nests, _⟩ := nested
  obtain ⟨_, same, isPair⟩ := Placed.exists_of_nest opensNone closes nests
  obtain ⟨rfl, _⟩ := List.cons.inj same
  simp [Placed.nest, opensNone, closes, isPair]

/-- A body that starts at a brace and stops at a closing one is a group. -/
theorem group
    {opener closing : Placed}
    {inside beyond : List Placed}
    (inBody : InBody opened (opener :: (inside ++ closing :: beyond)))
    (opens : opener.token.isDelimiter "\x7b" = true)
    (nested : Nested inside)
    (isBrace : closing.is "\x7d" = true) :
    closing.token.isDelimiter "\x7d" = true ∧
      Nested (opener :: (inside ++ [closing])) := by
  have atBrace : InBody (opener :: opened) (closing :: beyond) :=
    (inBody.inside opens).behind ⟨inside, rfl, nested⟩
  have isClosing : closing.token.isDelimiter "\x7d" = true :=
    Placed.isDelimiter_of_reads
      (atBrace.plain closing (by simp))
      (by decide : '\x7d' ∈ brackets)
      (Placed.reads_of_is isBrace)
  have closes : closing.nest [opener] = some [] :=
    atBrace.nest_of_closes
      (Token.opensBracket_of_isDelimiter isClosing)
      (Token.closesBracket_of_isDelimiter isClosing)
  exact
    ⟨isClosing,
      nested.group (Token.opensBracket_of_isDelimiter opens) closes⟩

/-- Behind the closing brace of a group the body goes on. -/
theorem behind_group
    {opener closing : Placed}
    {beyond : List Placed}
    (inBody : InBody opened (opener :: after))
    (opens : opener.token.isDelimiter "\x7b" = true)
    (closes : ClosesUpTo [] after (closing :: beyond))
    (isBrace : closing.is "\x7d" = true) :
    InBody opened beyond := by
  obtain ⟨inside, rfl, nested⟩ := closes
  exact
    inBody.behind
      ⟨opener :: (inside ++ [closing]), by simp,
        (inBody.group opens nested isBrace).2⟩

end InBody

end HouseStyle
