import HouseStyle.Proofs.Answer
import HouseStyle.Proofs.Token.Place
import HouseStyle.Proofs.Token.Punctuation

namespace HouseStyle

/-!
# String literals

Where marks and a quote open a string, a body of units has to follow up to the
next place where the quote starts outside of an escape. The scan of the literal
ends behind that quote, there is only one such end, and without it the literal
is refused at the line where its marks start.
-/

/-! ## How a literal opens -/

/-- Marks and a quote of the profile open a literal at the head of a text. -/
structure Profile.OpensString
    (profile : Profile)
    (text : List Char)
    (opening : StringOpening) :
    Prop where
  starts : opening.marks ++ opening.quote <+: text
  fewMarks : opening.marks.length ≤ 2
  areMarks : ∀ mark ∈ opening.marks, mark ∈ profile.stringPrefixes.toList
  isQuote : String.ofList opening.quote ∈ profile.stringQuotes
  longest :
    ∀ quote ∈ profile.stringQuotes,
      quote.toList <+: text.drop opening.marks.length →
      quote.length ≤ opening.quote.length
  raw_iff :
    opening.raw = true ↔
      String.ofList opening.quote ∈ profile.rawQuotes ∨
        ∃ mark ∈ opening.marks, mark ∈ profile.rawPrefixes.toList
  multiline_iff :
    opening.multiline = true ↔
      opening.raw = true ∨
        String.ofList opening.quote ∈ profile.multilineQuotes

/-- The characters that a literal can start with. -/
def Profile.literalStarts (profile : Profile) : List Char :=
  profile.stringPrefixes.toList ++
    profile.stringQuotes.flatMap fun quote => quote.toList.take 1

/-- What the scan of literals relies on in a profile. -/
structure Profile.QuotesApart (profile : Profile) : Prop where
  /-- Quotes start with no mark and with nothing that escapes. -/
  quotes :
    ∀ quote ∈ profile.stringQuotes,
      quote.toList.head?.any
          (fun first =>
            first != '\\' && !profile.stringPrefixes.toList.contains first) =
        true
  /-- Longer quotes are looked for first. -/
  longestFirst :
    profile.stringQuotes.Pairwise fun earlier later =>
      later.length ≤ earlier.length
  /-- No gap, comment or regular expression starts like a literal. -/
  starts :
    ∀ start ∈ profile.literalStarts,
      (start ≠ '\\' ∧ isSeparator start = false) ∧
        start ≠ '/' ∧
        (∀ opener ∈ profile.lineComments,
          opener.toList.head?.any (· != start) = true) ∧
        ∀ pair ∈ profile.blockComments,
          pair.1.toList.head?.any (· != start) = true

/-- Every language tells its literals from all else by how they start. -/
theorem quotesApart (language : Language) :
    language.profile.QuotesApart := by
  refine ⟨?_, ?_, ?_⟩
  · cases language <;> decide
  · cases language <;> decide
  · apply forall_of_tested
    cases language <;> decide

namespace Profile

variable
  {profile : Profile}
  {text : List Char}
  {opening : StringOpening}

/-- The quote that is found is the longest that stands there. -/
theorem length_le_of_find?_quotes
    (apart : profile.QuotesApart)
    {quote other : String}
    (isFound : profile.stringQuotes.find? (startsWith text) = some quote)
    (listed : other ∈ profile.stringQuotes)
    (stands : other.toList <+: text) :
    other.length ≤ quote.length := by
  obtain ⟨_, before, behind, isList, notBefore⟩ :=
    List.find?_eq_some_iff_append.mp isFound
  have inOrder := apart.longestFirst
  rw [isList, List.pairwise_append, List.pairwise_cons] at inOrder
  rw [isList, List.mem_append, List.mem_cons] at listed
  rcases listed with isBefore | rfl | isBehind
  · have isOther := notBefore other isBefore
    rw [startsWith, List.isPrefixOf_iff_prefix.mpr stands] at isOther
    cases isOther
  · exact Nat.le_refl _
  · exact inOrder.2.1.1 other isBehind

/-- What is found to open a string is a literal's opening. -/
theorem opensString_of_stringOpening?
    (apart : profile.QuotesApart)
    (found : profile.stringOpening? text = some opening) :
    profile.OpensString text opening := by
  obtain ⟨⟨rest, isText⟩, areMarks⟩ := exists_rest_of_stringOpening? found
  unfold stringOpening? at found
  obtain ⟨quote, isFound, rfl⟩ := Option.map_eq_some_iff.mp found
  refine ⟨⟨rest, ?_⟩, ?_, areMarks, ?_, ?_, ?_, ?_⟩
  · rw [List.append_assoc]
    exact isText.symm
  · exact
      Nat.le_trans (List.takeWhile_prefix _).length_le (List.length_take_le 2 text)
  · rw [String.ofList_toList]
    exact List.mem_of_find?_eq_some isFound
  · intro other listed stands
    rw [String.length_toList]
    exact length_le_of_find?_quotes apart isFound listed stands
  · simp
  · simp

namespace OpensString

/-- The quote of an opening starts with no mark and with nothing that escapes. -/
theorem exists_first
    (opens : profile.OpensString text opening)
    (apart : profile.QuotesApart) :
    ∃ first more,
      opening.quote = first :: more ∧
        first ≠ '\\' ∧
        profile.stringPrefixes.toList.contains first = false := by
  have starts := apart.quotes _ opens.isQuote
  rw [String.toList_ofList] at starts
  cases isQuote : opening.quote with
  | nil =>
      rw [isQuote] at starts
      cases starts
  | cons first more =>
      rw [isQuote, List.head?_cons, Option.any_some] at starts
      simp only [Bool.and_eq_true, bne_iff_ne, Bool.not_eq_true'] at starts
      exact ⟨first, more, rfl, starts.1, starts.2⟩

/-- A literal starts with a mark or with the first character of its quote. -/
theorem exists_start
    (opens : profile.OpensString text opening)
    (apart : profile.QuotesApart) :
    ∃ start rest, text = start :: rest ∧ start ∈ profile.literalStarts := by
  obtain ⟨first, more, isQuote, _⟩ := opens.exists_first apart
  obtain ⟨rest, isText⟩ := opens.starts
  cases isMarks : opening.marks with
  | nil =>
      rw [isMarks, isQuote] at isText
      refine ⟨first, more ++ rest, isText.symm, List.mem_append_right _ ?_⟩
      refine List.mem_flatMap.mpr ⟨_, opens.isQuote, ?_⟩
      rw [String.toList_ofList, isQuote]
      exact List.mem_singleton_self first
  | cons mark others =>
      rw [isMarks] at isText
      refine ⟨mark, others ++ opening.quote ++ rest, isText.symm, ?_⟩
      refine List.mem_append_left _ (opens.areMarks mark ?_)
      rw [isMarks]
      exact List.mem_cons_self ..

/-- The marks of an opening are all that stand there. -/
theorem marks_eq
    (opens : profile.OpensString text opening)
    (apart : profile.QuotesApart) :
    (text.take 2).takeWhile profile.stringPrefixes.toList.contains =
      opening.marks := by
  obtain ⟨first, more, isQuote, _, noMark⟩ := opens.exists_first apart
  obtain ⟨rest, isText⟩ := opens.starts
  have areMarks :
      ∀ mark ∈ opening.marks,
        profile.stringPrefixes.toList.contains mark = true :=
    fun mark member => List.contains_iff_mem.mpr (opens.areMarks mark member)
  have noMore (count : Nat) :
      ((first :: (more ++ rest)).take count).takeWhile
          profile.stringPrefixes.toList.contains =
        [] := by
    cases count with
    | zero => rfl
    | succ count => rw [List.take_succ_cons, List.takeWhile_cons, noMark]; rfl
  have fewMarks := opens.fewMarks
  rw [← isText, isQuote, List.append_assoc, List.cons_append,
    List.take_append, List.take_of_length_le fewMarks,
    List.takeWhile_append_of_pos areMarks, noMore, List.append_nil]

/-- A literal's opening is found. -/
theorem stringOpening?_eq
    (opens : profile.OpensString text opening)
    (apart : profile.QuotesApart) :
    profile.stringOpening? text = some opening := by
  have stands : opening.quote <+: text.drop opening.marks.length := by
    obtain ⟨rest, isText⟩ := opens.starts
    rw [← isText, List.append_assoc, List.drop_left]
    exact List.prefix_append _ _
  have isFound :
      profile.stringQuotes.find?
          (startsWith (text.drop opening.marks.length)) =
        some (String.ofList opening.quote) := by
    cases found :
        profile.stringQuotes.find?
          (startsWith (text.drop opening.marks.length)) with
    | none =>
        have noQuote := List.find?_eq_none.mp found _ opens.isQuote
        rw [startsWith, String.toList_ofList,
          List.isPrefixOf_iff_prefix.mpr stands] at noQuote
        exact (noQuote rfl).elim
    | some other =>
        -- Longer quotes come first in the list, so `other` is no shorter than
        -- the literal's own, and no quote that stands here is longer.
        have isOther :
            other.toList <+: text.drop opening.marks.length :=
          List.isPrefixOf_iff_prefix.mp (List.find?_some found :)
        have notLonger :=
          opens.longest other (List.mem_of_find?_eq_some found) isOther
        have notShorter : (String.ofList opening.quote).length ≤ other.length :=
          length_le_of_find?_quotes apart found opens.isQuote
            (by rwa [String.toList_ofList])
        rw [String.length_ofList] at notShorter
        have same : other.toList = opening.quote :=
          (List.prefix_of_prefix_length_le isOther stands
            (by rwa [String.length_toList])).eq_of_length
            (by rw [String.length_toList]; omega)
        rw [← same, String.ofList_toList]
  have isRaw :
      (profile.rawQuotes.contains (String.ofList opening.quote) ||
          opening.marks.any profile.rawPrefixes.toList.contains) =
        opening.raw :=
    Bool.eq_iff_iff.mpr (by simpa using opens.raw_iff.symm)
  have isMultiline :
      (opening.raw ||
          profile.multilineQuotes.contains (String.ofList opening.quote)) =
        opening.multiline :=
    Bool.eq_iff_iff.mpr (by simpa using opens.multiline_iff.symm)
  simp only [stringOpening?, opens.marks_eq apart, isFound, Option.map_some,
    isRaw, isMultiline, String.toList_ofList]

end OpensString

end Profile

/-! ## What a literal holds -/

/-- A piece of a literal that is read at once, in front of `rest`. -/
inductive StringOpening.IsUnit
    (opening : StringOpening)
    (rest : List Char) :
    List Char →
    Prop where
  | escape
      (character : Char)
      (escapes : opening.raw = false) :
      opening.IsUnit rest ['\\', character]
  | plain
      {character : Char}
      (noEscape : opening.raw = true ∨ character ≠ '\\')
      (noQuote : ¬ opening.quote <+: character :: rest)
      (inLiteral : opening.multiline = true ∨ character ≠ '\n') :
      opening.IsUnit rest [character]

/-- Units one after the other, in front of `rest`. -/
inductive StringOpening.IsBody
    (opening : StringOpening)
    (rest : List Char) :
    List Char →
    Prop where
  | nil : opening.IsBody rest []
  | cons
      {unit body : List Char}
      (isUnit : opening.IsUnit (body ++ rest) unit)
      (isBody : opening.IsBody rest body) :
      opening.IsBody rest (unit ++ body)

/-- The offset behind the quote that opens a literal. -/
def StringOpening.inside
    (opening : StringOpening)
    (start : Nat) :
    Nat :=
  start + opening.marks.length + opening.quote.length

/--
The literal that starts at one offset ends at another: from behind its opening
quote up to there stand a body and the quote.
-/
def StringOpening.EndsAt
    (opening : StringOpening)
    (text : List Char)
    (start stop : Nat) :
    Prop :=
  stop ≤ text.length ∧
    ∃ body,
      slice text (opening.inside start) stop = body ++ opening.quote ∧
        opening.IsBody (opening.quote ++ text.drop stop) body

/-- The scan ends behind a body that the quote follows. -/
theorem exists_isBody_of_stringBodyLength
    {opening : StringOpening}
    {count length : Nat}
    {text : List Char}
    (found : stringBodyLength opening count text = some length) :
    ∃ body rest,
      text = body ++ (opening.quote ++ rest) ∧
        opening.IsBody (opening.quote ++ rest) body ∧
        length = count + body.length + opening.quote.length := by
  fun_induction stringBodyLength opening count text with
  | case1 =>
      cases found
  | case2 =>
      cases found
  | case3 count character escapes escaped beyond inductionHypothesis =>
      obtain ⟨body, rest, rfl, isBody, measured⟩ := inductionHypothesis found
      obtain ⟨rfl, escapes⟩ := escapes
      refine ⟨'\\' :: escaped :: body, rest, rfl, ?_, ?_⟩
      · exact .cons (.escape escaped escapes) isBody
      · rw [measured, List.length_cons, List.length_cons]
        omega
  | case4 count character rest _ closes =>
      cases found
      obtain ⟨behind, isText⟩ := List.isPrefixOf_iff_prefix.mp closes
      exact ⟨[], behind, isText.symm, .nil, rfl⟩
  | case5 =>
      cases found
  | case6 count character rest noEscape notClosed notBroken
      inductionHypothesis =>
      obtain ⟨body, behind, rfl, isBody, measured⟩ := inductionHypothesis found
      refine ⟨character :: body, behind, rfl, ?_, ?_⟩
      · refine .cons (.plain ?_ ?_ ?_) isBody
        · grind
        · exact fun starts => notClosed (List.isPrefixOf_iff_prefix.mpr starts)
        · grind
      · rw [measured, List.length_cons]
        omega

/-- A body that the quote follows is scanned up to there. -/
theorem stringBodyLength_of_isBody
    {opening : StringOpening}
    {first : Char}
    {more : List Char}
    (isQuote : opening.quote = first :: more)
    (noEscape : first ≠ '\\')
    {rest body : List Char}
    (isBody : opening.IsBody (opening.quote ++ rest) body)
    (count : Nat) :
    stringBodyLength opening count (body ++ (opening.quote ++ rest)) =
      some (count + body.length + opening.quote.length) := by
  induction isBody generalizing count with
  | nil =>
      have closes : opening.quote.isPrefixOf (first :: (more ++ rest)) = true := by
        rw [isQuote]
        exact List.isPrefixOf_iff_prefix.mpr (List.prefix_append (first :: more) rest)
      have isText : [] ++ (opening.quote ++ rest) = first :: (more ++ rest) := by
        rw [isQuote]
        rfl
      rw [isText, stringBodyLength.eq_def]
      simp only [noEscape, false_and, ↓reduceIte, closes]
      rfl
  | @cons unit body isUnit _ inductionHypothesis =>
      cases isUnit with
      | escape character escapes =>
          rw [List.append_assoc, List.cons_append, List.cons_append,
            List.nil_append, stringBodyLength.eq_def]
          simp only [escapes, and_self, ↓reduceIte, inductionHypothesis]
          rw [List.cons_append, List.cons_append, List.length_cons,
            List.length_cons, List.nil_append, Option.some.injEq]
          omega
      | @plain character noEscapeToo noQuote inLiteral =>
          have notEscaped : ¬ (character = '\\' ∧ opening.raw = false) := by
            grind
          have notClosed :
              opening.quote.isPrefixOf
                  (character :: (body ++ (opening.quote ++ rest))) =
                false :=
            Bool.eq_false_iff.mpr
              fun closes => noQuote (List.isPrefixOf_iff_prefix.mp closes)
          have notBroken : ¬ (character = '\n' ∧ opening.multiline = false) := by
            grind
          rw [List.append_assoc, List.cons_append, List.nil_append,
            stringBodyLength.eq_def]
          simp only [notEscaped, notClosed, notBroken, Bool.false_eq_true,
            ↓reduceIte, inductionHypothesis]
          rw [List.cons_append, List.nil_append, List.length_cons,
            Option.some.injEq]
          omega

namespace Profile.OpensString

variable
  {profile : Profile}
  {text : List Char}
  {opening : StringOpening}
  {start : Nat}
  (opens : profile.OpensString (text.drop start) opening)
  (apart : profile.QuotesApart)

include opens apart

/-- A literal ends where its scan does. -/
theorem endsAt_iff
    (stop : Nat) :
    opening.EndsAt text start stop ↔
      ∃ length,
        opening.length? (text.drop start) = some length ∧
          stop = start + length := by
  obtain ⟨first, more, isQuote, noEscape, _⟩ := opens.exists_first apart
  have behindOpening :
      (text.drop start).drop (opening.marks.length + opening.quote.length) =
        text.drop (opening.inside start) := by
    rw [List.drop_drop, ← Nat.add_assoc]
    rfl
  have isInside :
      opening.inside start =
        start + (opening.marks.length + opening.quote.length) :=
    Nat.add_assoc ..
  have hasQuote : 0 < opening.quote.length := by
    rw [isQuote]
    exact Nat.succ_pos _
  rw [StringOpening.length?, behindOpening]
  constructor
  · rintro ⟨inText, body, isSlice, isBody⟩
    have measured := congrArg List.length isSlice
    rw [slice, List.length_take, List.length_drop, List.length_append] at measured
    have inOrder : opening.inside start ≤ stop := by omega
    have whole := slice_append_drop text inOrder
    rw [isSlice, List.append_assoc] at whole
    refine
      ⟨opening.marks.length + opening.quote.length + body.length +
          opening.quote.length, ?_, by omega⟩
    rw [← whole]
    exact stringBodyLength_of_isBody isQuote noEscape isBody _
  · rintro ⟨length, found, rfl⟩
    obtain ⟨body, rest, isText, isBody, measured⟩ :=
      exists_isBody_of_stringBodyLength found
    have fits := congrArg List.length isText
    rw [List.length_drop, List.length_append, List.length_append] at fits
    have isStop :
        start + length = opening.inside start + (body ++ opening.quote).length := by
      rw [List.length_append]
      omega
    have isRest : text.drop (start + length) = rest := by
      rw [isStop, ← List.drop_drop, isText, ← List.append_assoc, List.drop_left]
    refine ⟨by omega, body, ?_, ?_⟩
    · rw [slice, isStop, Nat.add_sub_cancel_left, isText, ← List.append_assoc,
        List.take_left]
    · rw [isRest]
      exact isBody

end Profile.OpensString

/-! ## How a literal is read -/

/-- Where a literal opens, its scan decides what is read. -/
theorem Profile.OpensString.lexeme_eq
    {profile : Profile}
    {text : List Char}
    {opening : StringOpening}
    (opens : profile.OpensString text opening)
    (apart : profile.QuotesApart)
    (previous : Option Token) :
    profile.lexeme previous text =
      match opening.length? text with
      | none => .error .unterminatedString
      | some length => .ok { kind := .string, length } := by
  have isOpening := opens.stringOpening?_eq apart
  obtain ⟨start, rest, rfl, isStart⟩ := opens.exists_start apart
  obtain ⟨_, noSlash, noLine, noBlock⟩ := apart.starts start isStart
  rw [Profile.lexeme, Profile.comment?_eq_none noLine noBlock,
    Profile.regex?_eq_none profile noSlash, Profile.string?, isOpening]
  cases isLength : opening.length? (start :: rest) <;>
    simp [isLength, Option.orElse_eq_or]

theorem Profile.OpensString.gapLength_eq
    {profile : Profile}
    {text : List Char}
    {opening : StringOpening}
    (opens : profile.OpensString text opening)
    (apart : profile.QuotesApart) :
    gapLength 0 text = 0 := by
  obtain ⟨start, rest, rfl, isStart⟩ := opens.exists_start apart
  obtain ⟨⟨noEscape, noSeparator⟩, _⟩ := apart.starts start isStart
  simp [gapLength.eq_def, noEscape, noSeparator]

/-- How a literal is read where it opens. -/
structure StringOpening.IsReadAt
    (opening : StringOpening)
    (profile : Profile)
    (text : List Char)
    (start : Nat) :
    Prop where
  /-- It ends at one offset at most. -/
  endsOnce :
    ∀ stop other,
      opening.EndsAt text start stop →
      opening.EndsAt text start other →
      stop = other
  /-- It is scanned up to an offset exactly if it ends there. -/
  scanned :
    ∀ previous stop,
      (∃ length,
          profile.lexeme previous (text.drop start) =
              .ok { kind := .string, length } ∧
            stop = start + length) ↔
        opening.EndsAt text start stop
  /-- It is refused, and for this cause only, exactly if it ends nowhere. -/
  refused :
    ∀ previous cause,
      profile.lexeme previous (text.drop start) = .error cause ↔
        cause = .unterminatedString ∧
          ∀ stop, ¬ opening.EndsAt text start stop
  /-- With the literal as a token, the text is read on from its end. -/
  goesOn :
    ∀ previous found stop,
      opening.EndsAt text start stop →
      profile.tokensFrom previous (.ofOffset text start) found
          (text.drop start) =
        let token :=
          Token.spelled .string (slice text start stop) (.ofOffset text start)
        profile.tokensFrom (some token) (.ofOffset text stop)
          (found.push token) (text.drop stop)
  /-- Without an end, the text is refused at the line where the literal starts. -/
  stops :
    ∀ previous found,
      (∀ stop, ¬ opening.EndsAt text start stop) →
      profile.tokensFrom previous (.ofOffset text start) found
          (text.drop start) =
        .error
          { cause := .unterminatedString
            line := (Position.ofOffset text start).line }

/--
In every language, a literal is scanned up to its only end, and refused at its
line if it has none.
-/
theorem isReadAt_of_opensString
    {language : Language}
    {text : List Char}
    {start : Nat}
    {opening : StringOpening}
    (opens : language.profile.OpensString (text.drop start) opening) :
    opening.IsReadAt language.profile text start := by
  have apart := quotesApart language
  have endsAt_iff := opens.endsAt_iff apart
  have isLexeme := opens.lexeme_eq apart
  have noGap := opens.gapLength_eq apart
  obtain ⟨first, rest, isText, _⟩ := opens.exists_start apart
  refine ⟨?_, ?_, ?_, ?_, ?_⟩
  · intro stop other ends endsToo
    obtain ⟨length, found, rfl⟩ := (endsAt_iff stop).mp ends
    obtain ⟨_, foundToo, rfl⟩ := (endsAt_iff other).mp endsToo
    rw [Option.some.inj (found.symm.trans foundToo)]
  · intro previous stop
    rw [isLexeme, endsAt_iff]
    cases opening.length? (text.drop start) <;> simp
  · intro previous cause
    simp only [isLexeme, endsAt_iff]
    cases opening.length? (text.drop start) <;> simp [eq_comm]
  · intro previous found stop ends
    obtain ⟨length, isLength, rfl⟩ := (endsAt_iff stop).mp ends
    have hasLength : 0 < length :=
      (Profile.stringLength_fits (opensVisibly language).quotes
        (opens.stringOpening?_eq apart) isLength).1
    have characters :
        first :: rest.take (length - 1) = slice text start (start + length) := by
      rw [slice, isText, Nat.add_sub_cancel_left, List.take_cons hasLength]
    have isRest : rest.drop (length - 1) = text.drop (start + length) := by
      rw [← List.drop_drop, isText, List.drop_cons hasLength]
    have isPlace :
        (Position.ofOffset text start).advance
            (slice text start (start + length)) =
          .ofOffset text (start + length) := by
      rw [Position.ofOffset, Position.ofOffset, Position.advance_behind, slice,
        Nat.add_sub_cancel_left, ← List.take_add]
    have isString := isLexeme previous
    rw [isLength] at isString
    rw [isText] at noGap isString ⊢
    rw [Profile.tokensFrom]
    simp only [noGap, Nat.lt_irrefl, ↓reduceIte, isString, characters, isRest,
      isPlace]
    rfl
  · intro previous found endless
    have noLength : opening.length? (text.drop start) = none := by
      by_contra hasLength
      obtain ⟨length, isLength⟩ := Option.ne_none_iff_exists'.mp hasLength
      exact endless _ ((endsAt_iff _).mpr ⟨length, isLength, rfl⟩)
    have isFault := isLexeme previous
    rw [noLength] at isFault
    rw [isText] at noGap isFault ⊢
    rw [Profile.tokensFrom]
    simp only [noGap, Nat.lt_irrefl, ↓reduceIte, isFault]

/-- A literal of three quotes, the first of four in front of its end escaped. -/
def escapedSample : List Char :=
  "x = f'''it\\''''".toList

/-- How the literal of the sample opens. -/
def escapedOpening : StringOpening where
  marks := ['f']
  quote := ['\'', '\'', '\'']
  raw := false
  multiline := true

/-- The escaped quote is a part of the literal, and the three behind it end it. -/
theorem isReadAt_of_escapedSample :
    Language.python.profile.OpensString
        (escapedSample.drop 4) escapedOpening ∧
      escapedOpening.EndsAt escapedSample 4 15 ∧
        escapedOpening.IsReadAt Language.python.profile escapedSample 4 := by
  have opens :
      Language.python.profile.OpensString
        (escapedSample.drop 4) escapedOpening :=
    Profile.opensString_of_stringOpening? (quotesApart .python)
      (by decide +kernel)
  have reads := isReadAt_of_opensString opens
  have isScanned :
      Language.python.profile.lexeme none (escapedSample.drop 4) =
        .ok { kind := .string, length := 11 } :=
    eq_ok_of_toOption_eq_some (by decide +kernel)
  exact ⟨opens, (reads.scanned none 15).mp ⟨11, isScanned, rfl⟩, reads⟩

/-! ## What a whole reading refuses -/

/-- Reading refuses a literal only at the line of one that has no end. -/
theorem exists_endless_of_tokensFrom
    {language : Language}
    {whole passed text : List Char}
    {previous : Option Token}
    {position : Position}
    {found : Array Token}
    {line : Nat}
    (isLeft : IsLeft whole passed text position)
    (refused :
      language.profile.tokensFrom previous position found text =
        .error { cause := .unterminatedString, line }) :
    ∃ start opening,
      language.profile.OpensString (whole.drop start) opening ∧
        (∀ stop, ¬ opening.EndsAt whole start stop) ∧
        line = (Position.ofOffset whole start).line := by
  fun_induction Profile.tokensFrom language.profile previous position found text
    generalizing passed with
  | case1 =>
      cases refused
  | case2 previous position found first rest gap _ =>
      rename_i inductionHypothesis
      exact inductionHypothesis (isLeft.behind (gap - 1)) refused
  | case3 _ position _ first rest =>
      cases refused
      rename_i isRefused
      have isText : whole.drop passed.length = first :: rest := by
        rw [isLeft.same, List.drop_left]
      rcases Profile.lexeme_refuses isRefused with
        isComment | ⟨_, opening, isOpening, endless⟩
      · cases isComment
      have apart := quotesApart language
      rw [← isText] at isOpening endless
      have opens := Profile.opensString_of_stringOpening? apart isOpening
      refine ⟨passed.length, opening, opens, ?_, ?_⟩
      · intro stop ends
        obtain ⟨length, isLength, _⟩ := (opens.endsAt_iff apart stop).mp ends
        rw [endless] at isLength
        cases isLength
      · simp [isLeft.same, isLeft.place, Position.ofOffset]
  | case4 _ position _ first rest _ _ lexeme _ characters _ =>
      rename_i inductionHypothesis
      exact inductionHypothesis (isLeft.behind (lexeme.length - 1)) refused

/-- A text is refused for a literal only at the line of one that has no end. -/
theorem exists_endless_of_tokenize
    {language : Language}
    {text : String}
    {line : Nat}
    (refused :
      tokenize language text =
        .error { cause := .unterminatedString, line }) :
    ∃ start opening,
      language.profile.OpensString (text.toList.drop start) opening ∧
        (∀ stop, ¬ opening.EndsAt text.toList start stop) ∧
        line = (Position.ofOffset text.toList start).line :=
  exists_endless_of_tokensFrom ⟨(List.nil_append _).symm, rfl⟩ refused

end HouseStyle
