import HouseStyle.Proofs.Token.Place
import HouseStyle.Proofs.Token.Punctuation
import HouseStyle.Rule.MagicLiteral

namespace HouseStyle

/-!
# Strings without their quotes

Tokens are read by the quotes and marks of one language, while the value of a
string is found in its text by one list of quotes for all of them. Both find the
same body: the longest quotes come first in the list, and a body that is not
empty does not start with the quote that ends it.
-/

/--
A string token as it was read: what opens a string at its offset, and its text
as marks, quote, body and quote.
-/
structure Token.ReadsAs
    (token : Token)
    (profile : Profile)
    (text : List Char)
    (offset : Nat)
    (opening : StringOpening)
    (body : List Char) :
    Prop where
  inText : offset < text.length
  startsAt : token.start = .ofOffset text offset
  opens : profile.stringOpening? (text.drop offset) = some opening
  closes :
    opening.length? (text.drop offset) = some token.text.toList.length
  spelled :
    token.text.toList =
      opening.marks ++ (opening.quote ++ (body ++ opening.quote))

/-- A string is read in only one way. -/
theorem Token.ReadsAs.eq_body
    {token : Token}
    {profile : Profile}
    {text body other : List Char}
    {offset place : Nat}
    {opening opener : StringOpening}
    (reads : token.ReadsAs profile text offset opening body)
    (readsToo : token.ReadsAs profile text place opener other) :
    body = other := by
  have samePlace : offset = place := by
    apply
      Position.eq_of_ofOffset_eq
        (Nat.le_of_lt reads.inText)
        (Nat.le_of_lt readsToo.inText)
    rw [← reads.startsAt, readsToo.startsAt]
  subst samePlace
  have sameOpening : opening = opener :=
    Option.some.inj (reads.opens.symm.trans readsToo.opens)
  subst sameOpening
  have same := reads.spelled.symm.trans readsToo.spelled
  exact
    List.append_cancel_right
      (List.append_cancel_left (List.append_cancel_left same))

/-! ## What is read -/

/--
A string is closed by the first quote that nothing escapes. So a body with
anything in it does not start with the quote.
-/
theorem exists_body_of_stringBodyLength
    {opening : StringOpening}
    (noEscape : opening.quote.head? ≠ some '\\')
    (hasQuote : opening.quote ≠ [])
    {count length : Nat}
    {text : List Char}
    (found : stringBodyLength opening count text = some length) :
    ∃ body rest,
      text = body ++ (opening.quote ++ rest) ∧
        length = count + body.length + opening.quote.length ∧
        (body ≠ [] → ¬ opening.quote <+: text) := by
  fun_induction stringBodyLength opening count text with
  | case1 =>
      cases found
  | case2 =>
      cases found
  | case3 count character escapes escaped beyond inductionHypothesis =>
      obtain ⟨body, rest, isText, measured, _⟩ := inductionHypothesis found
      refine ⟨character :: escaped :: body, rest, by simp [isText], ?_, ?_⟩
      · simp only [List.length_cons]
        omega
      · intro _ starts
        obtain ⟨first, more, isQuote⟩ := List.exists_cons_of_ne_nil hasQuote
        rw [isQuote, List.cons_prefix_cons] at starts
        rw [isQuote, List.head?_cons, starts.1, escapes.1] at noEscape
        exact noEscape rfl
  | case4 count character rest _ closes =>
      cases found
      obtain ⟨behind, isText⟩ := List.isPrefixOf_iff_prefix.mp closes
      exact ⟨[], behind, by simp [isText], by simp, by simp⟩
  | case5 =>
      cases found
  | case6 count character rest _ notClosed _ inductionHypothesis =>
      obtain ⟨body, behind, isText, measured, _⟩ := inductionHypothesis found
      refine ⟨character :: body, behind, by simp [isText], ?_, ?_⟩
      · rw [List.length_cons]
        omega
      · intro _ starts
        exact notClosed (List.isPrefixOf_iff_prefix.mpr starts)

/-! ## What is taken off -/

namespace MagicLiteral

/-- No quote starts with a mark or with what escapes. -/
theorem head?_of_mem_quoteMarks :
    ∀ quote ∈ quoteMarks,
      quote.head?.any
          (fun first => first != '\\' && !openingLetters.contains first) =
        true := by
  decide

theorem mem_quoteMarks_of_profile
    (language : Language) :
    ∀ quote ∈ language.profile.stringQuotes, quote.toList ∈ quoteMarks := by
  cases language <;> decide

theorem mem_openingLetters_of_profile
    (language : Language) :
    ∀ mark ∈ language.profile.stringPrefixes.toList,
      openingLetters.contains mark = true := by
  apply forall_of_tested
  cases language <;> decide

/-- The longest quotes are looked for first. -/
theorem pairwise_quoteMarks :
    quoteMarks.Pairwise fun earlier later =>
      earlier ≠ later ∧ later.length ≤ earlier.length := by
  decide

/-- A longer quote that starts like a quote is the quote three times. -/
theorem eq_thrice_of_head?_eq :
    ∀ quote ∈ quoteMarks, ∀ other ∈ quoteMarks,
      other ≠ quote →
      quote.length ≤ other.length →
      other.head? = quote.head? →
      other = quote ++ (quote ++ quote) := by
  decide

/-- Quotes that start the same text start alike. -/
theorem head?_eq_of_isPrefix
    {quote other rest : List Char}
    (isQuote : quote ∈ quoteMarks)
    (isOther : other ∈ quoteMarks)
    (starts : other <+: quote ++ rest) :
    other.head? = quote.head? := by
  have hasHead : ∀ mark ∈ quoteMarks, mark ≠ [] := by
    decide
  obtain ⟨first, more, rfl⟩ :=
    List.exists_cons_of_ne_nil (hasHead quote isQuote)
  obtain ⟨start, behind, rfl⟩ :=
    List.exists_cons_of_ne_nil (hasHead other isOther)
  rw [List.cons_append, List.cons_prefix_cons] at starts
  simp [starts.1]

section Wrapped

variable
  {quote body : List Char}
  (isQuote : quote ∈ quoteMarks)
  (noQuote : body ≠ [] → ¬ quote <+: body ++ quote)

include isQuote noQuote

/-- No longer quote is on both ends of a string. -/
theorem not_wraps
    {other : List Char}
    (isOther : other ∈ quoteMarks)
    (differs : other ≠ quote)
    (notShorter : quote.length ≤ other.length)
    (starts : other <+: quote ++ (body ++ quote)) :
    ¬ 2 * other.length ≤ (quote ++ (body ++ quote)).length := by
  have isThrice : other = quote ++ (quote ++ quote) :=
    eq_thrice_of_head?_eq quote isQuote other isOther differs notShorter
      (head?_eq_of_isPrefix isQuote isOther starts)
  subst isThrice
  have startsAgain : quote <+: body ++ quote :=
    (List.prefix_append quote quote).trans
      ((List.prefix_append_right_inj quote).mp starts)
  have isEmpty : body = [] := by
    by_contra hasBody
    exact noQuote hasBody startsAgain
  have hasLength : 0 < quote.length := by
    rw [List.length_pos_iff]
    rintro rfl
    exact differs rfl
  simp only [isEmpty, List.nil_append, List.length_append]
  omega

/-- Among the quotes that are looked for, that of a string is found. -/
theorem find?_quoteMarks :
    (quoteMarks.find? fun other =>
        other.isPrefixOf (quote ++ (body ++ quote)) &&
          other.isSuffixOf (quote ++ (body ++ quote)) &&
          2 * other.length ≤ (quote ++ (body ++ quote)).length) =
      some quote := by
  obtain ⟨longer, shorter, isList⟩ := List.append_of_mem isQuote
  rw [List.find?_eq_some_iff_append]
  refine ⟨?_, longer, shorter, isList, ?_⟩
  · have ends : quote <:+ quote ++ (body ++ quote) :=
      ⟨quote ++ body, by simp⟩
    simp only [Bool.and_eq_true, decide_eq_true_eq, List.length_append]
    refine ⟨⟨?_, ?_⟩, by omega⟩
    · exact List.isPrefixOf_iff_prefix.mpr (List.prefix_append _ _)
    · exact List.isSuffixOf_iff_suffix.mpr ends
  · intro other member
    have isOther : other ∈ quoteMarks := by
      rw [isList]
      exact List.mem_append_left _ member
    have inOrder := pairwise_quoteMarks
    rw [isList, List.pairwise_append] at inOrder
    obtain ⟨differs, notShorter⟩ :=
      inOrder.2.2 other member quote List.mem_cons_self
    by_contra wraps
    simp only [Bool.not_eq_true', Bool.not_eq_false, Bool.and_eq_true,
      decide_eq_true_eq] at wraps
    exact
      not_wraps isQuote noQuote isOther differs notShorter
        (List.isPrefixOf_iff_prefix.mp wraps.1.1) wraps.2

/-- Marks and quotes are taken off, and nothing else. -/
theorem stringBody_ofList
    {marks : List Char}
    (areMarks : ∀ mark ∈ marks, openingLetters.contains mark = true) :
    stringBody (String.ofList (marks ++ (quote ++ (body ++ quote)))) =
      String.ofList body := by
  have noMark :
      (quote ++ (body ++ quote)).dropWhile openingLetters.contains =
        quote ++ (body ++ quote) := by
    have starts := head?_of_mem_quoteMarks quote isQuote
    cases quote with
    | nil =>
        cases starts
    | cons first more =>
        have isOther : openingLetters.contains first = false := by
          simpa using (Bool.and_eq_true_iff.mp starts).2
        rw [List.cons_append, List.dropWhile_cons, isOther]
        rfl
  have unmarked :
      (marks ++ (quote ++ (body ++ quote))).dropWhile openingLetters.contains =
        quote ++ (body ++ quote) := by
    rw [List.dropWhile_append_of_pos areMarks, noMark]
  have within :
      ((quote ++ (body ++ quote)).drop quote.length).take
          ((quote ++ (body ++ quote)).length - 2 * quote.length) =
        body := by
    have measured :
        (quote ++ (body ++ quote)).length - 2 * quote.length =
          body.length := by
      simp only [List.length_append]
      omega
    rw [List.drop_left, measured, List.take_left]
  simp only [stringBody, String.toList_ofList, unmarked,
    find?_quoteMarks isQuote noQuote, within]

end Wrapped

end MagicLiteral

/-- A string is spelled by its marks, its quote, its body and its quote again. -/
theorem StringOpening.exists_body
    {profile : Profile}
    {text : List Char}
    {opening : StringOpening}
    {length : Nat}
    (isMark : opening.quote ∈ MagicLiteral.quoteMarks)
    (opens : profile.stringOpening? text = some opening)
    (closes : opening.length? text = some length) :
    ∃ body,
      text.take length =
          opening.marks ++ (opening.quote ++ (body ++ opening.quote)) ∧
        length = (text.take length).length ∧
        (body ≠ [] → ¬ opening.quote <+: body ++ opening.quote) := by
  have starts := MagicLiteral.head?_of_mem_quoteMarks opening.quote isMark
  have hasQuote : opening.quote ≠ [] := by
    intro isEmpty
    rw [isEmpty] at starts
    cases starts
  have noEscape : opening.quote.head? ≠ some '\\' := by
    intro escapes
    rw [escapes] at starts
    cases starts
  obtain ⟨⟨inside, isText⟩, _⟩ := Profile.exists_rest_of_stringOpening? opens
  have isInside :
      text.drop (opening.marks.length + opening.quote.length) = inside := by
    rw [isText, ← List.append_assoc, ← List.length_append, List.drop_left]
  rw [StringOpening.length?, isInside] at closes
  obtain ⟨body, rest, isBody, isLength, noQuote⟩ :=
    exists_body_of_stringBodyLength noEscape hasQuote closes
  have cut :
      text =
        (opening.marks ++ (opening.quote ++ (body ++ opening.quote))) ++
          rest := by
    rw [isText, isBody]
    simp only [List.append_assoc]
  have measured :
      length =
        (opening.marks ++
          (opening.quote ++ (body ++ opening.quote))).length := by
    simp only [List.length_append]
    omega
  have taken :
      text.take length =
        opening.marks ++ (opening.quote ++ (body ++ opening.quote)) := by
    rw [measured, cut, List.take_left]
  refine ⟨body, taken, by rw [taken, ← measured], ?_⟩
  intro hasBody isPrefix
  refine noQuote hasBody ?_
  rw [isBody, ← List.append_assoc]
  exact isPrefix.trans (List.prefix_append _ rest)

open MagicLiteral in
/-- A string that is read at some place is read as a body between its quotes. -/
theorem Token.exists_readsAs
    {language : Language}
    {whole passed text : List Char}
    {opening : StringOpening}
    {length : Nat}
    (isWhole : whole = passed ++ text)
    (hasMore : text ≠ [])
    (opens : language.profile.stringOpening? text = some opening)
    (closes : opening.length? text = some length) :
    ∃ body,
      (Token.spelled .string (text.take length) (.behind passed)).ReadsAs
        language.profile whole passed.length opening body ∧
      stringBody (String.ofList (text.take length)) =
        String.ofList body := by
  obtain ⟨⟨quote, listed, isQuote⟩, _⟩ := Profile.stringOpening?_fits opens
  have isMark : opening.quote ∈ quoteMarks := by
    rw [isQuote]
    exact mem_quoteMarks_of_profile language quote listed
  obtain ⟨body, taken, isLength, noQuote⟩ :=
    StringOpening.exists_body isMark opens closes
  refine ⟨body, ⟨?_, ?_, ?_, ?_, ?_⟩, ?_⟩
  · rw [isWhole, List.length_append]
    exact Nat.lt_add_of_pos_right (List.length_pos_iff.mpr hasMore)
  · rw [isWhole, Position.ofOffset, List.take_left]
    rfl
  · rw [isWhole, List.drop_left]
    exact opens
  · rw [isWhole, List.drop_left, closes]
    simpa [Token.spelled] using isLength
  · simpa only [Token.spelled, reduceCtorEq, ↓reduceIte,
      String.toList_ofList] using taken
  · rw [taken]
    refine stringBody_ofList isMark noQuote ?_
    intro mark member
    have marksListed := (Profile.exists_rest_of_stringOpening? opens).2
    exact
      mem_openingLetters_of_profile language mark (marksListed mark member)

/--
In every language a string token is read in one way only, and the value that is
found in its text is the body that was read.
-/
theorem stringBody_of_tokenize
    {language : Language}
    {text : String}
    {tokens : Array Token}
    (read : tokenize language text = .ok tokens) :
    ∀ token ∈ tokens,
      token.kind = .string →
      (∃ offset opening body,
        token.ReadsAs language.profile text.toList offset opening body) ∧
      ∀ offset opening body,
        token.ReadsAs language.profile text.toList offset opening body →
        MagicLiteral.stringBody token.text = String.ofList body := by
  have everyString :
      ∀ token ∈ tokens,
        token.kind = .string →
        ∃ offset opening body,
          token.ReadsAs language.profile text.toList offset opening body ∧
          MagicLiteral.stringBody token.text = String.ofList body := by
    have isText : text.toList = [] ++ text.toList := rfl
    refine Profile.tokensFrom_forall_behind ?_ ⟨isText, rfl⟩ read (by simp)
    intro previous passed first rest lexeme isWhole _ measured isString
    have isKind : lexeme.kind = .string := isString
    obtain ⟨opening, opens, closes⟩ :=
      (Profile.readsLexeme measured).exists_opening isKind
    have hasLength : 0 < lexeme.length :=
      (Profile.stringLength_fits (opensVisibly language).quotes
        opens closes).1
    obtain ⟨body, reads, same⟩ :=
      Token.exists_readsAs isWhole (by simp) opens closes
    rw [List.take_cons hasLength, ← isKind] at reads
    rw [List.take_cons hasLength] at same
    refine ⟨passed.length, opening, body, reads, ?_⟩
    simpa only [Token.spelled, isKind, reduceCtorEq, ↓reduceIte] using same
  intro token member isString
  obtain ⟨offset, opening, body, reads, same⟩ :=
    everyString token member isString
  refine ⟨⟨offset, opening, body, reads⟩, ?_⟩
  intro place opener other readsToo
  rw [same, reads.eq_body readsToo]

/-- Quotes in front of, behind and inside of bodies, and no body at all. -/
def quotedSample : String :=
  "f(rb'''\"it's\"''', \"\", '\"', u\"\\\"\")"

/-- What the literals of the sample stand for is what was read between their quotes. -/
theorem stringBody_of_quotedSample :
    ∃ tokens,
      tokenize .python quotedSample = .ok tokens ∧
        (tokens.toList.filter (·.kind = .string)).map
            (fun token => MagicLiteral.stringBody token.text) =
          ["\"it's\"", "", "\"", "\\\""] ∧
        ∀ token ∈ tokens,
          token.kind = .string →
          (∃ offset opening body,
            token.ReadsAs
              Language.python.profile
              quotedSample.toList offset opening body) ∧
          ∀ offset opening body,
            token.ReadsAs
              Language.python.profile
              quotedSample.toList offset opening body →
            MagicLiteral.stringBody token.text = String.ofList body := by
  have bodies :
      (tokenize .python quotedSample).toOption.map
          (fun tokens =>
            (tokens.toList.filter (·.kind = .string)).map
              (fun token => MagicLiteral.stringBody token.text)) =
        some ["\"it's\"", "", "\"", "\\\""] := by
    decide +kernel
  cases read : tokenize .python quotedSample with
  | error fault =>
      simp [read, Except.toOption] at bodies
  | ok tokens =>
      simp only [read, Except.toOption, Option.map_some] at bodies
      exact
        ⟨tokens, rfl, Option.some.inj bodies, stringBody_of_tokenize read⟩

end HouseStyle
