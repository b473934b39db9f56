import HouseStyle.Proofs.Number.Numeral
import HouseStyle.Proofs.Token.Tiling

namespace HouseStyle

/-!
# Tokens at their places

A later character stands at a later place, so a place tells its offset, and the
tokens of a text stand at ever later places. What is read of a token depends on
what is left of the text where it stands; whether code is a name can be told from
its spelling alone.
-/

namespace Position

/-- Each character leads on. -/
theorem before_next
    (position : Position)
    (character : Char) :
    position.before (position.next character) = true := by
  by_cases isBreak : character = '\n' <;>
    simp [before, next, isBreak]

theorem before_trans
    {first second third : Position}
    (isBefore : first.before second = true)
    (isBeforeToo : second.before third = true) :
    first.before third = true := by
  simp only [before, Bool.or_eq_true, Bool.and_eq_true, decide_eq_true_eq,
    beq_iff_eq] at isBefore isBeforeToo ⊢
  omega

theorem before_irrefl (position : Position) :
    position.before position = false := by
  simp [before]

/-- Of two places one stands before the other. -/
theorem before_of_ne
    {first second : Position}
    (different : first ≠ second)
    (notBehind : second.before first = false) :
    first.before second = true := by
  obtain ⟨line, column⟩ := first
  obtain ⟨otherLine, otherColumn⟩ := second
  simp only [ne_eq, Position.mk.injEq] at different
  simp only [before, Bool.or_eq_false_iff, Bool.and_eq_false_iff,
    decide_eq_false_iff_not, beq_eq_false_iff_ne] at notBehind
  simp only [before, Bool.or_eq_true, Bool.and_eq_true, decide_eq_true_eq,
    beq_iff_eq]
  omega

/-- Going over some characters leads on. -/
theorem before_advance
    (position : Position)
    {text : List Char}
    (nonempty : text ≠ []) :
    position.before (position.advance text) = true := by
  induction text generalizing position with
  | nil =>
      exact (nonempty rfl).elim
  | cons first rest inductionHypothesis =>
      by_cases isLast : rest = []
      · subst isLast
        exact before_next position first
      · exact
          before_trans (before_next position first)
            (inductionHypothesis (position.next first) isLast)

/-- Later characters stand at later places. -/
theorem ofOffset_before
    {text : List Char}
    {earlier later : Nat}
    (inOrder : earlier < later)
    (inText : later ≤ text.length) :
    (ofOffset text earlier).before (ofOffset text later) = true := by
  have between : (text.drop earlier).take (later - earlier) ≠ [] := by
    apply List.ne_nil_of_length_pos
    rw [List.length_take, List.length_drop]
    omega
  have passed :
      text.take later =
        text.take earlier ++ (text.drop earlier).take (later - earlier) := by
    rw [← List.take_add, Nat.add_sub_cancel' (Nat.le_of_lt inOrder)]
  rw [ofOffset, ofOffset, passed, ← advance_behind]
  exact before_advance _ between

/-- A place in a text tells its offset. -/
theorem eq_of_ofOffset_eq
    {text : List Char}
    {offset other : Nat}
    (inText : offset ≤ text.length)
    (inTextToo : other ≤ text.length)
    (same : ofOffset text offset = ofOffset text other) :
    offset = other := by
  rcases Nat.lt_trichotomy offset other with isBefore | isSame | isBehind
  · have later := ofOffset_before isBefore inTextToo
    rw [same, before_irrefl] at later
    cases later
  · exact isSame
  · have later := ofOffset_before isBehind inText
    rw [same, before_irrefl] at later
    cases later

end Position

/-- Tokens that tile a text stand behind the offset where they start. -/
theorem Tiles.exists_offset
    {text : List Char}
    {offset : Nat}
    {tokens : List Token}
    (tiles : Tiles text offset tokens) :
    ∀ token ∈ tokens,
      ∃ start,
        offset ≤ start ∧ start < text.length ∧
          token.start = .ofOffset text start := by
  induction tiles with
  | gap _ =>
      simp
  | token notBefore _ occupies _ inductionHypothesis =>
      intro token member
      have nonempty := occupies.nonempty
      rcases List.mem_cons.mp member with rfl | later
      · exact
          ⟨_, notBefore, Nat.lt_of_lt_of_le nonempty occupies.inText,
            occupies.startsAt⟩
      · obtain ⟨start, isBehind, inText, startsAt⟩ :=
          inductionHypothesis token later
        exact ⟨start, by omega, inText, startsAt⟩

/-- Tokens that tile a text stand at ever later places. -/
theorem Tiles.pairwise_before
    {text : List Char}
    {offset : Nat}
    {tokens : List Token}
    (tiles : Tiles text offset tokens) :
    tokens.Pairwise fun earlier later =>
      earlier.start.before later.start = true := by
  induction tiles with
  | gap _ =>
      exact .nil
  | token _ _ occupies tiles inductionHypothesis =>
      refine .cons ?_ inductionHypothesis
      intro later member
      obtain ⟨start, isBehind, inText, startsAt⟩ :=
        tiles.exists_offset later member
      rw [occupies.startsAt, startsAt]
      exact
        Position.ofOffset_before
          (Nat.lt_of_lt_of_le occupies.nonempty isBehind)
          (Nat.le_of_lt inText)

/-- The tokens of a text stand at ever later places. -/
theorem tokenize_pairwise_before
    {language : Language}
    {text : String}
    {tokens : Array Token}
    (read : language.profile.tokenize text = .ok tokens) :
    tokens.toList.Pairwise fun earlier later =>
      earlier.start.before later.start = true :=
  (tiles_of_tokenize read).pairwise_before

/-- No token that tiles a text starts above the line on which an earlier one stops. -/
theorem Tiles.pairwise_lines
    {text : List Char}
    {offset : Nat}
    {tokens : List Token}
    (tiles : Tiles text offset tokens) :
    tokens.Pairwise fun earlier later =>
      earlier.stop.line ≤ later.start.line := by
  induction tiles with
  | gap _ =>
      exact .nil
  | token _ _ occupies tiles inductionHypothesis =>
      refine .cons ?_ inductionHypothesis
      intro later member
      obtain ⟨start, isBehind, _, startsAt⟩ := tiles.exists_offset later member
      rw [occupies.stopsAt, startsAt]
      exact Position.line_ofOffset_mono (Nat.sub_le_of_le_add (Nat.le_succ_of_le isBehind))

/-- A token of a text is known by the place where it starts. -/
theorem tokenize_index_of_start
    {language : Language}
    {text : String}
    {tokens : Array Token}
    (read : language.profile.tokenize text = .ok tokens)
    {index other : Nat}
    {token another : Token}
    (found : tokens[index]? = some token)
    (foundToo : tokens[other]? = some another)
    (same : token.start = another.start) :
    index = other := by
  have starts := List.pairwise_iff_getElem.mp (tokenize_pairwise_before read)
  obtain ⟨inFile, rfl⟩ := Array.getElem?_eq_some_iff.mp found
  obtain ⟨inFileToo, rfl⟩ := Array.getElem?_eq_some_iff.mp foundToo
  rcases Nat.lt_trichotomy index other with isBefore | isSame | isBehind
  · have earlier := starts index other (by simpa) (by simpa) isBefore
    simp [same, Position.before_irrefl] at earlier
  · exact isSame
  · have earlier := starts other index (by simpa) (by simpa) isBehind
    simp [same, Position.before_irrefl] at earlier

/-- Where no gap is, no line ends. -/
theorem ne_break_of_noGap
    {text : List Char}
    (noGap : gapLength 0 text = 0) :
    text.head? ≠ some '\n' := by
  intro isBreak
  obtain ⟨gap, measured, _, _, visible⟩ := gapLength_spec 0 text
  have isVisible := visible (by omega) '\n' isBreak
  cases isVisible

/--
What holds of every token that is spelled from a lexeme, at the place of the
lexeme, holds of all tokens of the text.
-/
theorem Profile.tokensFrom_forall_behind
    {profile : Profile}
    {holds : Token → Prop}
    {whole : List Char}
    (spelled :
      ∀ (previous : Option Token) (passed : List Char) (first : Char)
        (rest : List Char) (lexeme : Lexeme),
        whole = passed ++ first :: rest →
        gapLength 0 (first :: rest) = 0 →
        profile.lexeme previous (first :: rest) = .ok lexeme →
        holds
          (Token.spelled
            lexeme.kind
            (first :: rest.take (lexeme.length - 1))
            (.behind passed)))
    {passed text : List Char}
    {previous : Option Token}
    {position : Position}
    {found tokens : Array Token}
    (isLeft : IsLeft whole passed text position)
    (read : profile.tokensFrom previous position found text = .ok tokens)
    (before : ∀ token ∈ found, holds token) :
    ∀ token ∈ tokens, holds token := by
  fun_induction Profile.tokensFrom profile previous position found text
    generalizing passed with
  | case1 =>
      cases read
      exact before
  | case2 previous position found first rest gap hasGap =>
      rename_i inductionHypothesis
      exact inductionHypothesis (isLeft.behind (gap - 1)) read before
  | case3 =>
      cases read
  | case4 previous position found first rest gap noGap lexeme measured
      characters token =>
      rename_i inductionHypothesis
      refine inductionHypothesis (isLeft.behind (lexeme.length - 1)) read ?_
      intro other member
      rcases Array.mem_push.mp member with wasThere | isNew
      · exact before other wasThere
      · obtain ⟨isWhole, rfl⟩ := isLeft
        rw [isNew]
        exact
          spelled previous passed first rest lexeme isWhole
            (Nat.eq_zero_of_not_pos noGap) measured

/-! ## What is read -/

/-- What a lexeme is read as, and what tells its length. -/
inductive Profile.ReadsLexeme
    (profile : Profile)
    (text : List Char)
    (lexeme : Lexeme) :
    Prop where
  | comment (isKind : lexeme.kind = .comment)
  | regex
      (isKind : lexeme.kind = .regex)
      (reaches : regexLength? text = some lexeme.length)
  | string
      {opening : StringOpening}
      (isKind : lexeme.kind = .string)
      (opens : profile.stringOpening? text = some opening)
      (closes : opening.length? text = some lexeme.length)
  | number
      (isKind : lexeme.kind = .number)
      (reaches : numberLength? text = some lexeme.length)
  | keyword
      (isKind : lexeme.kind = .keyword)
      (reaches : profile.nameShape.length? text = some lexeme.length)
      (isKeyword :
        profile.keywords.contains
            (String.ofList (text.take lexeme.length)) =
          true)
  | identifier
      (isKind : lexeme.kind = .identifier)
      (reaches : profile.nameShape.length? text = some lexeme.length)
      (noKeyword :
        profile.keywords.contains
            (String.ofList (text.take lexeme.length)) =
          false)
  | punctuation
      (noName : profile.nameShape.length? text = none)
      (isPunctuation : lexeme = punctuation text)

/-- Every lexeme is read in one of these ways. -/
theorem Profile.readsLexeme
    {profile : Profile}
    {previous : Option Token}
    {text : List Char}
    {lexeme : Lexeme}
    (measured : profile.lexeme previous text = .ok lexeme) :
    profile.ReadsLexeme text lexeme := by
  unfold Profile.lexeme at measured
  rw [Option.getD_eq_iff] at measured
  simp only [Option.orElse_eq_orElse, Option.orElse_eq_or,
    Option.or_eq_some_iff, Option.or_eq_none_iff] at measured
  rcases measured with
    (isComment | ⟨_, isRegex | ⟨_, isString | ⟨_, isNumber | ⟨_, isWord⟩⟩⟩⟩) |
      ⟨⟨_, _, _, _, noWord⟩, isPunctuation⟩
  · unfold Profile.comment? at isComment
    split at isComment
    · cases isComment
      exact .comment rfl
    · obtain ⟨pair, _, read⟩ := Option.map_eq_some_iff.mp isComment
      split at read <;> cases read
      exact .comment rfl
  · unfold Profile.regex? at isRegex
    split at isRegex
    · obtain ⟨length, reaches, read⟩ := Option.map_eq_some_iff.mp isRegex
      cases read
      exact .regex rfl reaches
    · cases isRegex
  · obtain ⟨opening, opens, read⟩ := Option.map_eq_some_iff.mp isString
    split at read
    · cases read
    · next length closes =>
        cases read
        exact .string rfl opens closes
  · obtain ⟨length, reaches, read⟩ := Option.map_eq_some_iff.mp isNumber
    cases read
    exact .number rfl reaches
  · obtain ⟨length, reaches, read⟩ := Option.map_eq_some_iff.mp isWord
    simp only at read
    split at read
    · next isKeyword =>
        cases read
        exact .keyword rfl reaches isKeyword
    · next noKeyword =>
        cases read
        exact .identifier rfl reaches (by simpa using noKeyword)
  · cases isPunctuation
    exact .punctuation (Option.map_eq_none_iff.mp noWord) rfl

/-- A lexeme is refused only if it is a comment or a string without an end. -/
theorem Profile.lexeme_refuses
    {profile : Profile}
    {previous : Option Token}
    {text : List Char}
    {cause : FaultCause}
    (refused : profile.lexeme previous text = .error cause) :
    cause = .unterminatedComment ∨
      cause = .unterminatedString ∧
        ∃ opening,
          profile.stringOpening? text = some opening ∧
            opening.length? text = none := by
  unfold Profile.lexeme at refused
  rw [Option.getD_eq_iff] at refused
  rcases refused with claimed | ⟨_, isPunctuation⟩
  · simp only [Option.orElse_eq_orElse, Option.orElse_eq_or,
      Option.or_eq_some_iff] at claimed
    rcases claimed with
      isComment | ⟨_, isRegex | ⟨_, isString | ⟨_, isNumber | ⟨_, isWord⟩⟩⟩⟩
    · unfold Profile.comment? at isComment
      split at isComment
      · cases isComment
      · obtain ⟨pair, _, measured⟩ := Option.map_eq_some_iff.mp isComment
        split at measured <;> cases measured
        exact .inl rfl
    · unfold Profile.regex? at isRegex
      split at isRegex
      · obtain ⟨_, _, same⟩ := Option.map_eq_some_iff.mp isRegex
        cases same
      · cases isRegex
    · obtain ⟨opening, opens, measured⟩ := Option.map_eq_some_iff.mp isString
      split at measured
      · next endless =>
          cases measured
          exact .inr ⟨rfl, opening, opens, endless⟩
      · cases measured
    · obtain ⟨_, _, same⟩ := Option.map_eq_some_iff.mp isNumber
      cases same
    · obtain ⟨_, _, measured⟩ := Option.map_eq_some_iff.mp isWord
      simp only at measured
      split at measured <;> cases measured
  · cases isPunctuation

/-- What no other class claims is an operator or a delimiter. -/
theorem kind_punctuation (text : List Char) :
    (punctuation text).kind = .operator ∨
      (punctuation text).kind = .delimiter := by
  unfold punctuation
  split
  · exact .inl rfl
  · split
    · exact .inr rfl
    · split <;> exact .inl rfl

/-- Only string literals are read as strings. -/
theorem Profile.ReadsLexeme.exists_opening
    {profile : Profile}
    {text : List Char}
    {lexeme : Lexeme}
    (reads : profile.ReadsLexeme text lexeme)
    (isString : lexeme.kind = .string) :
    ∃ opening,
      profile.stringOpening? text = some opening ∧
        opening.length? text = some lexeme.length := by
  cases reads with
  | string _ opens closes =>
      exact ⟨_, opens, closes⟩
  | comment isKind | regex isKind _ | number isKind _ | keyword isKind _ _
  | identifier isKind _ _ =>
      rw [isKind] at isString
      cases isString
  | punctuation _ isPunctuation =>
      rw [isPunctuation] at isString
      rcases kind_punctuation text with isKind | isKind <;>
        · rw [isKind] at isString
          cases isString

/-- The marks and the quote of a string opening stand at the head. -/
theorem Profile.exists_rest_of_stringOpening?
    {profile : Profile}
    {text : List Char}
    {opening : StringOpening}
    (found : profile.stringOpening? text = some opening) :
    (∃ rest, text = opening.marks ++ (opening.quote ++ rest)) ∧
      ∀ mark ∈ opening.marks, mark ∈ profile.stringPrefixes.toList := by
  unfold Profile.stringOpening? at found
  obtain ⟨quote, foundQuote, rfl⟩ := Option.map_eq_some_iff.mp found
  have isPrefix :
      (text.take 2).takeWhile profile.stringPrefixes.toList.contains <+: text :=
    (List.takeWhile_prefix _).trans (List.take_prefix 2 text)
  have starts := List.find?_some foundQuote
  obtain ⟨rest, isRest⟩ := List.isPrefixOf_iff_prefix.mp starts
  refine ⟨⟨rest, ?_⟩, ?_⟩
  · show text = _ ++ (quote.toList ++ rest)
    rw [isRest]
    exact (List.prefix_iff_eq_append.mp isPrefix).symm
  · intro mark member
    exact List.contains_iff_mem.mp (List.mem_takeWhile_imp member)

/-! ## Names are told by their spelling -/

/-- A run that reaches to the end accepts everything. -/
theorem forall_of_runLength
    {accepted : Char → Bool}
    {text : List Char}
    (whole : runLength accepted text = text.length) :
    ∀ character ∈ text, accepted character = true := by
  have same : text.takeWhile accepted = text :=
    (List.takeWhile_prefix accepted).eq_of_length whole
  intro character member
  rw [← same] at member
  exact List.mem_takeWhile_imp member

/-- A run is a run of what it takes. -/
theorem runLength_take
    (accepted : Char → Bool)
    (text : List Char) :
    runLength accepted (text.take (runLength accepted text)) =
      runLength accepted text := by
  have taken :
      text.take (runLength accepted text) = text.takeWhile accepted :=
    (List.prefix_iff_eq_take.mp (List.takeWhile_prefix accepted)).symm
  rw [taken, runLength, List.takeWhile_takeWhile]
  simp [runLength]

namespace NameShape

variable {shape : NameShape} {text : List Char}

/-- What is taken for a name is a name as a whole. -/
theorem length?_take
    {length : Nat}
    (reaches : shape.length? text = some length) :
    shape.length? (text.take length) = some length := by
  unfold NameShape.length? at reaches
  split at reaches
  · cases reaches
  · next first rest =>
      split at reaches
      · next isSigil =>
          split at reaches
          · next second beyond =>
              split at reaches
              · next starts =>
                  cases reaches
                  rw [Nat.add_comm 2, List.take_succ_cons, List.take_succ_cons]
                  simp [NameShape.length?, isSigil, starts, runLength_take,
                    Nat.add_comm]
              · cases reaches
          · cases reaches
      · next noSigil =>
          split at reaches
          · next starts =>
              cases reaches
              rw [Nat.add_comm 1, List.take_succ_cons]
              simp [NameShape.length?, noSigil, starts, runLength_take,
                Nat.add_comm]
          · cases reaches

/-- Where no name starts, no part of the text is one. -/
theorem length?_take_none
    (noName : shape.length? text = none)
    (count : Nat) :
    shape.length? (text.take count) = none := by
  unfold NameShape.length? at noName
  split at noName
  · simp [NameShape.length?]
  · next first rest =>
      cases count with
      | zero =>
          rfl
      | succ count =>
          rw [List.take_succ_cons]
          split at noName
          · next isSigil =>
              split at noName
              · next second beyond =>
                  split at noName
                  · cases noName
                  · next noStart =>
                      cases count with
                      | zero =>
                          simp [NameShape.length?, isSigil]
                      | succ count =>
                          simp [NameShape.length?, isSigil, noStart]
              · simp [NameShape.length?, isSigil]
          · next noSigil =>
              split at noName
              · cases noName
              · next noStart =>
                  simp [NameShape.length?, noSigil, noStart]

/-- A name starts with its sigil or with a letter. -/
theorem starts_of_length?
    {first : Char}
    {rest : List Char}
    {length : Nat}
    (reaches : shape.length? (first :: rest) = some length) :
    first = '#' ∨ shape.starts first = true := by
  unfold NameShape.length? at reaches
  simp only at reaches
  split at reaches
  · next isSigil =>
      exact .inl isSigil.2
  · split at reaches
    · next starts =>
        exact .inr starts
    · cases reaches

/-- All characters of a name continue names, but for a sigil. -/
theorem continues_of_length?
    (isName : shape.length? text = some text.length) :
    ∀ character ∈ text,
      character = '#' ∨ shape.continues character = true := by
  unfold NameShape.length? at isName
  split at isName
  · cases isName
  · next first rest =>
      split at isName
      · next isSigil =>
          split at isName
          · next second beyond =>
              split at isName
              · next starts =>
                  have whole :
                      runLength shape.continues beyond = beyond.length := by
                    simp only [List.length_cons, Option.some.injEq] at isName
                    omega
                  intro character member
                  simp only [List.mem_cons] at member
                  rcases member with rfl | rfl | inBeyond
                  · exact .inl isSigil.2
                  · exact .inr (by simp [NameShape.continues, starts])
                  · exact .inr (forall_of_runLength whole character inBeyond)
              · cases isName
          · cases isName
      · split at isName
        · next starts =>
            have whole : runLength shape.continues rest = rest.length := by
              simp only [List.length_cons, Option.some.injEq] at isName
              omega
            intro character member
            rcases List.mem_cons.mp member with rfl | inRest
            · exact .inr (by simp [NameShape.continues, starts])
            · exact .inr (forall_of_runLength whole character inRest)
        · cases isName

end NameShape

/-- The text is that of a name, and no keyword. -/
structure Profile.IsName
    (profile : Profile)
    (text : List Char) :
    Prop where
  isWhole : profile.nameShape.length? text = some text.length
  noKeyword : profile.keywords.contains (String.ofList text) = false

/-- Every quote has a character that is in no name. -/
theorem quotes_unnamed (language : Language) :
    ∀ quote ∈ language.profile.stringQuotes,
      quote.toList.head?.any
          (fun first =>
            first != '#' && !language.profile.nameShape.continues first) =
        true := by
  cases language <;> decide

/-- Numbers start with a point or a digit. -/
theorem starts_of_numberLength?
    {first : Char}
    {rest : List Char}
    {length : Nat}
    (reaches : numberLength? (first :: rest) = some length) :
    first = '.' ∨ isDecimalDigit first = true := by
  have based
      {marks : List Char}
      {accepted : Char → Bool}
      {length : Nat}
      (reaches :
        basedLength? marks accepted (first :: rest) = some length) :
      isDecimalDigit first = true := by
    unfold basedLength? at reaches
    split at reaches
    · next same =>
        rw [(List.cons.inj same).1]
        decide
    · cases reaches
  obtain ⟨digits, foundDigits, _⟩ := Option.map_eq_some_iff.mp reaches
  simp only [digitsLength?, Option.orElse_eq_orElse, Option.orElse_eq_or,
    Option.or_eq_some_iff, Option.map_eq_some_iff] at foundDigits
  rcases foundDigits with
    isHex | ⟨_, isBinary | ⟨_, isOctal | ⟨_, mantissa, isDecimal, _⟩⟩⟩
  · exact .inr (based isHex)
  · exact .inr (based isBinary)
  · exact .inr (based isOctal)
  · unfold decimalLength? at isDecimal
    split at isDecimal
    · next same =>
        exact .inl (List.cons.inj same).1
    · next same =>
        split at isDecimal
        · next isDigit =>
            rw [(List.cons.inj same).1]
            exact .inr isDigit
        · cases isDecimal
    · cases isDecimal

/-- No name starts with a point, a digit or a slash. -/
theorem NameShape.not_starts
    {shape : NameShape}
    {first : Char}
    (isOther :
      first = '.' ∨ isDecimalDigit first = true ∨ first = '/') :
    ¬ (first = '#' ∨ shape.starts first = true) := by
  rcases isOther with rfl | isDigit | rfl
  · simp [NameShape.starts, isAsciiLetter]
  · obtain ⟨value, isValue⟩ := Option.isSome_iff_exists.mp isDigit
    have noLetter := isAsciiLetter_of_digitValue? isValue
    rintro (rfl | starts)
    · exact absurd isDigit (by decide)
    · simp only [NameShape.starts, noLetter, Bool.false_or, Bool.or_eq_true,
        beq_iff_eq, Bool.and_eq_true] at starts
      rcases starts with rfl | ⟨_, rfl⟩ <;> exact absurd isDigit (by decide)
  · simp [NameShape.starts, isAsciiLetter]

/-- What does not start like a name is none. -/
theorem Profile.not_isName_of_starts
    {profile : Profile}
    {first : Char}
    {rest : List Char}
    (isOther :
      first = '.' ∨ isDecimalDigit first = true ∨ first = '/')
    {length : Nat}
    (hasLength : 0 < length) :
    ¬ profile.IsName ((first :: rest).take length) := by
  intro isName
  have isWhole := isName.isWhole
  rw [List.take_cons hasLength] at isWhole
  exact NameShape.not_starts isOther (NameShape.starts_of_length? isWhole)

/-- A string holds its quote, and so it is no name. -/
theorem Language.not_isName_of_opening
    {language : Language}
    {text : List Char}
    {opening : StringOpening}
    {length : Nat}
    (opens : language.profile.stringOpening? text = some opening)
    (closes : opening.length? text = some length) :
    ¬ language.profile.IsName (text.take length) := by
  intro isName
  obtain ⟨⟨quote, listed, isQuote⟩, _⟩ := Profile.stringOpening?_fits opens
  obtain ⟨⟨inside, isText⟩, _⟩ := Profile.exists_rest_of_stringOpening? opens
  have unnamed := quotes_unnamed language quote listed
  rw [← isQuote] at unnamed
  obtain ⟨first, isFirst, isOther⟩ := (Option.any_eq_true _ _).mp unnamed
  have isThere : first ∈ text.take length := by
    have opensThere : opening.marks ++ opening.quote <+: text.take length := by
      have bounds := stringBodyLength_bounds closes
      rw [List.prefix_take_iff, List.length_append]
      refine ⟨⟨inside, ?_⟩, by omega⟩
      rw [isText, List.append_assoc]
    exact
      opensThere.subset (List.mem_append_right _ (List.mem_of_head? isFirst))
  simp only [Bool.and_eq_true, bne_iff_ne, Bool.not_eq_true'] at isOther
  rcases NameShape.continues_of_length? isName.isWhole first isThere with
    isSigil | continues
  · exact isOther.1 isSigil
  · rw [isOther.2] at continues
    cases continues

/-- No name is read as anything but a name or a keyword. -/
theorem Profile.ReadsLexeme.isIdentifier_iff
    {language : Language}
    {text : List Char}
    {lexeme : Lexeme}
    (reads : language.profile.ReadsLexeme text lexeme)
    (fits : Fits text lexeme.length)
    (isCode : lexeme.kind ≠ .comment) :
    lexeme.kind = .identifier ↔
      language.profile.IsName (text.take lexeme.length) := by
  have isLength : (text.take lexeme.length).length = lexeme.length :=
    List.length_take_of_le fits.2
  cases reads with
  | comment isKind =>
      exact (isCode isKind).elim
  | regex isKind reaches =>
      refine iff_of_false (by simp [isKind]) ?_
      unfold regexLength? at reaches
      split at reaches
      · exact Profile.not_isName_of_starts (.inr (.inr rfl)) fits.1
      · cases reaches
  | string isKind opens closes =>
      refine iff_of_false (by simp [isKind]) ?_
      exact Language.not_isName_of_opening opens closes
  | number isKind reaches =>
      refine iff_of_false (by simp [isKind]) ?_
      cases text with
      | nil =>
          cases reaches
      | cons first rest =>
          refine Profile.not_isName_of_starts ?_ fits.1
          rcases starts_of_numberLength? reaches with isPoint | isDigit
          · exact .inl isPoint
          · exact .inr (.inl isDigit)
  | keyword isKind reaches isKeyword =>
      refine iff_of_false (by simp [isKind]) fun isName => ?_
      rw [isName.noKeyword] at isKeyword
      cases isKeyword
  | identifier isKind reaches noKeyword =>
      refine iff_of_true isKind ⟨?_, noKeyword⟩
      rw [isLength, NameShape.length?_take reaches]
  | punctuation noName isPunctuation =>
      refine iff_of_false ?_ fun isName => ?_
      · rw [isPunctuation]
        rcases kind_punctuation text with isKind | isKind <;> simp [isKind]
      · have isWhole := isName.isWhole
        rw [NameShape.length?_take_none noName] at isWhole
        cases isWhole

/-- Of code, exactly the names are identifiers. -/
def Token.IsNamed
    (profile : Profile)
    (token : Token) :
    Prop :=
  token.isCode = true →
    (token.kind = .identifier ↔ profile.IsName token.text.toList)

/-- Every token of a text is told by its spelling to be an identifier or none. -/
theorem tokenize_isNamed
    {language : Language}
    {text : String}
    {tokens : Array Token}
    (read : language.profile.tokenize text = .ok tokens) :
    ∀ token ∈ tokens, token.IsNamed language.profile := by
  have isText : text.toList = [] ++ text.toList := rfl
  refine Profile.tokensFrom_forall_behind ?_ ⟨isText, rfl⟩ read (by simp)
  intro previous passed first rest lexeme _ noGap measured isCode
  have noComment : lexeme.kind ≠ .comment := by
    simpa [Token.isCode, Token.spelled] using isCode
  have fits :=
    Profile.lexeme_fits (opensVisibly language) (ne_break_of_noGap noGap)
      (by simp) measured
  have told :=
    (Profile.readsLexeme measured).isIdentifier_iff fits noComment
  rw [List.take_cons fits.1] at told
  simpa [Token.spelled, noComment] using told

end HouseStyle
