import HouseStyle.Proofs.Token.Tiling

namespace HouseStyle

/-!
# Brackets are delimiters

No comment, literal or name starts with a bracket. So a bracket is a lexeme of
its own wherever it is read outside of them, and a token that is spelled like a
bracket is a delimiter. In the same way no comment or literal starts like a
keyword that defines a name, and a token that is spelled like one is a keyword.
-/

/-- No comment or literal of the profile starts with the character. -/
structure Profile.Spares
    (profile : Profile)
    (start : Char) :
    Prop where
  lineComments :
    ∀ opener ∈ profile.lineComments,
      opener.toList.head?.any (· != start) = true
  blockComments :
    ∀ pair ∈ profile.blockComments,
      pair.1.toList.head?.any (· != start) = true
  quotes :
    ∀ quote ∈ profile.stringQuotes,
      quote.toList.head?.any (· != start) = true
  prefixes : profile.stringPrefixes.toList.contains start = false
  noSlash : start ≠ '/'
  noDigit : isDecimalDigit start = false
  noPoint : start ≠ '.'

/-- A text does not start with what starts with another character. -/
theorem startsWith_of_head?
    {first : Char}
    {rest : List Char}
    {opening : String}
    (isOther : opening.toList.head?.any (· != first) = true) :
    startsWith (first :: rest) opening = false := by
  unfold startsWith
  cases shape : opening.toList with
  | nil =>
      rw [shape] at isOther
      cases isOther
  | cons head tail =>
      rw [shape] at isOther
      have differs : head ≠ first :=
        bne_iff_ne.mp isOther
      simp [List.isPrefixOf, differs]

/-- Where no opener of a comment starts, no comment is read. -/
theorem Profile.comment?_eq_none
    {profile : Profile}
    {start : Char}
    (noLine :
      ∀ opener ∈ profile.lineComments,
        opener.toList.head?.any (· != start) = true)
    (noBlock :
      ∀ pair ∈ profile.blockComments,
        pair.1.toList.head?.any (· != start) = true)
    (rest : List Char) :
    profile.comment? (start :: rest) = none := by
  have noLine :
      profile.lineComments.any (startsWith (start :: rest)) = false := by
    rw [List.any_eq_false]
    intro opener member
    rw [startsWith_of_head? (noLine opener member)]
    simp
  have noBlock :
      profile.blockComments.find?
          (fun pair => startsWith (start :: rest) pair.1) =
        none := by
    rw [List.find?_eq_none]
    intro pair member
    rw [startsWith_of_head? (noBlock pair member)]
    simp
  rw [Profile.comment?, noLine, noBlock]
  rfl

/-- Where no slash stands, no regular expression is read. -/
theorem Profile.regex?_eq_none
    (profile : Profile)
    {start : Char}
    (noSlash : start ≠ '/')
    (rest : List Char)
    (previous : Option Token) :
    profile.regex? previous (start :: rest) = none := by
  have noRegex : regexLength? (start :: rest) = none := by
    unfold regexLength?
    split
    · next same =>
        exact (noSlash (List.cons.inj same).1).elim
    · rfl
  simp [Profile.regex?, noRegex]

section Spared

variable
  {profile : Profile}
  {start : Char}
  (spares : profile.Spares start)
  (rest : List Char)

include spares

theorem Profile.string?_of_spared :
    profile.string? (start :: rest) = none := by
  have noMarks :
      ((start :: rest).take 2).takeWhile
          profile.stringPrefixes.toList.contains =
        [] := by
    rw [List.take_succ_cons, List.takeWhile_cons, spares.prefixes]
    rfl
  have noQuote :
      profile.stringQuotes.find? (startsWith (start :: rest)) = none := by
    rw [List.find?_eq_none]
    intro quote member
    rw [startsWith_of_head? (spares.quotes quote member)]
    simp
  have noOpening : profile.stringOpening? (start :: rest) = none := by
    simp only [Profile.stringOpening?, noMarks, List.length_nil,
      List.drop_zero, noQuote, Option.map_none]
  rw [Profile.string?, noOpening]
  rfl

theorem Profile.number?_of_spared :
    number? (start :: rest) = none := by
  have noBase (marks : List Char) (accepted : Char → Bool) :
      basedLength? marks accepted (start :: rest) = none := by
    unfold basedLength?
    split
    · next same =>
        have isDigit : isDecimalDigit start = true := by
          rw [(List.cons.inj same).1]
          decide
        rw [spares.noDigit] at isDigit
        cases isDigit
    · rfl
  have noDecimal : decimalLength? (start :: rest) = none := by
    unfold decimalLength?
    split
    · next same =>
        exact (spares.noPoint (List.cons.inj same).1).elim
    · next same =>
        rw [← (List.cons.inj same).1, spares.noDigit]
        rfl
    · rfl
  simp [number?, numberLength?, digitsLength?, noBase, noDecimal]

/-- What starts with such a character is a word or punctuation. -/
theorem Profile.lexeme_of_spared
    (previous : Option Token) :
    profile.lexeme previous (start :: rest) =
      (profile.word? (start :: rest)).getD
        (.ok (punctuation (start :: rest))) := by
  simp [Profile.lexeme,
    Profile.comment?_eq_none spares.lineComments spares.blockComments,
    Profile.regex?_eq_none profile spares.noSlash,
    Profile.string?_of_spared spares, Profile.number?_of_spared spares]

end Spared

/-- The characters that open or close a group. -/
def brackets : List Char :=
  ['(', ')', '[', ']', '\x7b', '\x7d']

/-- What a test finds of each item of a list holds of all of them. -/
theorem forall_of_tested
    {Item : Type}
    {items : List Item}
    {Holds : Item → Prop}
    [DecidablePred Holds]
    (areTested : (items.all fun item => Holds item) = true) :
    ∀ item ∈ items, Holds item := by
  simpa using areTested

/-- Every language keeps the brackets for groups. -/
theorem sparesBrackets (language : Language) :
    ∀ bracket ∈ brackets, language.profile.Spares bracket := by
  intro bracket member
  refine ⟨?_, ?_, ?_, ?_, ?_, ?_, ?_⟩ <;>
    revert bracket <;> apply forall_of_tested
  · cases language <;> decide
  · cases language <;> decide
  · cases language <;> decide
  · cases language <;> decide
  · decide
  · decide
  · decide

section Brackets

variable
  {profile : Profile}
  {bracket : Char}
  (isBracket : bracket ∈ brackets)
  (rest : List Char)

include isBracket

theorem Profile.word?_of_bracket :
    profile.word? (bracket :: rest) = none := by
  have noName (shape : NameShape) :
      shape.length? (bracket :: rest) = none := by
    obtain ⟨sigil, dollar⟩ := shape
    revert bracket
    cases sigil <;> cases dollar <;>
      simp [brackets, NameShape.length?, NameShape.starts, isAsciiLetter]
  rw [Profile.word?, noName]
  rfl

/-- A bracket is a lexeme of its own. -/
theorem Profile.lexeme_of_bracket
    (spares : profile.Spares bracket)
    (previous : Option Token) :
    profile.lexeme previous (bracket :: rest) =
      .ok { kind := .delimiter, length := 1 } := by
  have areDelimiters :
      ∀ bracket ∈ brackets, delimiters.contains bracket = true := by
    apply forall_of_tested
    decide
  have isDelimiter := areDelimiters bracket isBracket
  have isPunctuation :
      punctuation (bracket :: rest) = { kind := .delimiter, length := 1 } := by
    simp only [punctuation, isDelimiter, ↓reduceIte]
  rw [Profile.lexeme_of_spared spares, Profile.word?_of_bracket isBracket,
    isPunctuation]
  rfl

end Brackets

/-- What holds of every token that is spelled holds of all tokens read. -/
theorem Profile.tokensFrom_forall
    {profile : Profile}
    {holds : Token → Prop}
    (spelled :
      ∀ (previous : Option Token) (first : Char) (rest : List Char)
        (lexeme : Lexeme) (position : Position),
        gapLength 0 (first :: rest) = 0 →
        profile.lexeme previous (first :: rest) = .ok lexeme →
        holds
          (Token.spelled
            lexeme.kind
            (first :: rest.take (lexeme.length - 1))
            position))
    {previous : Option Token}
    {position : Position}
    {found tokens : Array Token}
    {text : List Char}
    (read : profile.tokensFrom previous position found text = .ok tokens)
    (before : ∀ token ∈ found, holds token) :
    ∀ token ∈ tokens, holds token := by
  fun_induction Profile.tokensFrom profile previous position found text with
  | case1 =>
      cases read
      exact before
  | case2 =>
      rename_i inductionHypothesis
      exact inductionHypothesis read before
  | case3 =>
      cases read
  | case4 previous position found first rest gap noGap lexeme measured
      characters token =>
      rename_i inductionHypothesis
      refine inductionHypothesis read ?_
      intro other member
      rcases Array.mem_push.mp member with wasThere | isNew
      · exact before other wasThere
      · rw [isNew]
        exact
          spelled previous first rest lexeme position (Nat.eq_zero_of_not_pos noGap)
            measured

/-- A token starts with the first character that it is spelled with. -/
theorem Token.head?_spelled
    {kind : TokenKind}
    {first start : Char}
    {rest : List Char}
    {position : Position}
    (starts :
      (Token.spelled kind (first :: rest) position).text.toList.head? =
        some start) :
    first = start := by
  by_cases isComment : kind = .comment
  · -- The text of a comment may be cut at its end, but not at its start.
    obtain ⟨returns, whole, _⟩ := append_returns (first :: rest)
    simp only [Token.spelled, isComment, ↓reduceIte,
      String.toList_ofList] at starts
    have wholeStarts := congrArg List.head? whole
    rw [List.head?_append, starts, List.head?_cons] at wholeStarts
    simpa using wholeStarts
  · simpa [Token.spelled, isComment] using starts

/-- A token that is spelled like a bracket is a delimiter. -/
def Token.DelimitsBrackets (token : Token) : Prop :=
  ∀ bracket ∈ brackets,
    token.text = String.ofList [bracket] →
    token.kind = .delimiter

/-- All tokens of a text that are spelled like brackets are delimiters. -/
theorem tokenize_delimitsBrackets
    {language : Language}
    {text : String}
    {tokens : Array Token}
    (read : language.profile.tokenize text = .ok tokens) :
    ∀ token ∈ tokens, token.DelimitsBrackets := by
  refine Profile.tokensFrom_forall ?_ read (by simp)
  intro previous first rest lexeme position _ measured bracket isBracket same
  have starts := congrArg (fun shown => shown.toList.head?) same
  rw [String.toList_ofList, List.head?_cons] at starts
  have isFirst : first = bracket := Token.head?_spelled starts
  rw [isFirst,
    Profile.lexeme_of_bracket isBracket rest
      (sparesBrackets language bracket isBracket)] at measured
  cases measured
  rfl

/-- A keyword that starts like no comment and no literal. -/
structure Profile.OpensKeyword
    (profile : Profile)
    (keyword : String)
    (start : Char) :
    Prop where
  starts : keyword.toList.head? = some start
  spares : profile.Spares start
  isWord : profile.nameShape.starts start = true
  noSigil : start ≠ '#'
  isKeyword : profile.keywords.contains keyword = true

/-- A token that is spelled like a keyword is one, if no literal starts so. -/
theorem Profile.tokenize_keyword
    {profile : Profile}
    {keyword : String}
    {start : Char}
    (opens : profile.OpensKeyword keyword start)
    {text : String}
    {tokens : Array Token}
    (read : profile.tokenize text = .ok tokens) :
    ∀ token ∈ tokens, token.text = keyword → token.kind = .keyword := by
  refine Profile.tokensFrom_forall ?_ read (by simp)
  intro previous first rest lexeme position _ measured same
  have isFirst : first = start :=
    Token.head?_spelled (by rw [same]; exact opens.starts)
  subst isFirst
  have isName :
      profile.nameShape.length? (first :: rest) =
        some (1 + runLength profile.nameShape.continues rest) := by
    simp [NameShape.length?, opens.noSigil, opens.isWord]
  rw [Profile.lexeme_of_spared opens.spares, Profile.word?, isName] at measured
  simp only [Option.map_some, Option.getD_some] at measured
  split at measured
  · cases measured
    rfl
  · next noKeyword =>
      cases measured
      simp only [Token.spelled, reduceCtorEq, ↓reduceIte,
        Nat.add_sub_cancel_left] at same
      rw [Nat.add_comm, List.take_succ_cons, same] at noKeyword
      exact (noKeyword opens.isKeyword).elim

end HouseStyle
