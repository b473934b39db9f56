import HouseStyle.Proofs.Answer
import HouseStyle.Proofs.Source.InnermostPair
import HouseStyle.Rule.MagicLiteral

namespace HouseStyle

/-!
# What is done with a literal

Going through the code of a file, the rule for literals keeps a stack that tells of
each open bracket whether it opens the arguments of a call. In code whose brackets are
well nested, the bracket on top is that of the innermost pair around a token. So a
literal is an argument exactly if that pair is the one of a call; whether it is
compared shows at its neighbours, and both are known without going through the code.
-/

namespace MagicLiteral

/-! ## Which literals are magic -/

section Context

variable (code : List Placed)

/-- A minus belongs to the number behind it, unless an operand stands before it. -/
structure IsSignOf (minus literal : Placed) : Prop where
  isNumber : literal.kind = .number
  isMinus : minus.text = "-"
  isNext : [minus, literal] <:+: code
  noOperand :
    ∀ token,
      [token, minus] <:+: code →
      token.text ∈ signContexts ∨
        token.kind = .operator ∧ token.text ≠ ")" ∧ token.text ≠ "]"

/-- A token stands right in front of a literal and its sign, if it has one. -/
def StandsLeft (token literal : Placed) : Prop :=
  (∃ minus, IsSignOf code minus literal ∧ [token, minus] <:+: code) ∨
    (¬ ∃ minus, IsSignOf code minus literal) ∧ [token, literal] <:+: code

/-- A literal is next to an operator that compares. -/
def IsCompared (literal : Placed) : Prop :=
  ∃ token,
    (StandsLeft code token literal ∨ [literal, token] <:+: code) ∧
      token.kind = .operator ∧
      token.text ∈ comparisons

/-- A literal is directly between the parentheses of a call. -/
def IsArgument (literal : Placed) : Prop :=
  ∃ opener callee,
    IsInnermost code opener literal ∧
      opener.text = "(" ∧
      [callee, opener] <:+: code ∧
      (callee.kind = .identifier ∨
        callee.text = ")" ∨
        callee.text = "]" ∨
        callee.kind = .keyword ∧ callee.text ∈ calleeKeywords)

/-- A literal with its sign stands for a value. -/
def StandsFor (literal : Placed) (value : LiteralValue) : Prop :=
  ∃ isNegated,
    (isNegated = true ↔ ∃ minus, IsSignOf code minus literal) ∧
      literalValue literal.token isNegated = .ok value

end Context

/--
A token lies in the declaration of a constant, which is no block, or in the header of
a method.
-/
def IsExempt (model : SourceModel) (index : Nat) : Prop :=
  (∃ declaration ∈ model.declarations, ∃ statement,
    declaration.kind = .constant ∧
      model.statements[declaration.statement]? = some statement ∧
      statement.kind ≠ .block ∧
      statement.first ≤ index ∧
      index ≤ statement.last) ∨
    ∃ block ∈ model.blocks,
      block.kind = .method ∧ block.first ≤ index ∧ index ≤ block.headerEnd

/-- A literal that is compared or passed to a call, and is not left alone. -/
structure IsChecked
    (model : SourceModel)
    (checkStrings : Bool)
    (literal : Placed) :
    Prop where
  isCode : literal ∈ placeCode model.tokens
  isLiteral : literal.kind = .number ∨ literal.kind = .string ∧ checkStrings = true
  notExempt : ¬ IsExempt model literal.index
  inContext :
    IsCompared (placeCode model.tokens) literal ∨
      IsArgument (placeCode model.tokens) literal

/-- A literal starts there and is written so, with its sign if it has one. -/
def IsWritten
    (code : List Placed)
    (literal : Placed)
    (place : Position)
    (shown : String) :
    Prop :=
  (∃ minus,
    IsSignOf code minus literal ∧
      place = minus.token.start ∧ shown = "-" ++ literal.text) ∨
    (¬ ∃ minus, IsSignOf code minus literal) ∧
      place = literal.token.start ∧ shown = literal.text

/-- The violation tells of a literal, and whether it is compared or an argument. -/
def Reports
    (model : SourceModel)
    (severity : Severity)
    (literal : Placed)
    (violation : Violation) :
    Prop :=
  ∃ place shown context,
    IsWritten (placeCode model.tokens) literal place shown ∧
      (IsCompared (placeCode model.tokens) literal ∧ context = "comparison" ∨
        ¬ IsCompared (placeCode model.tokens) literal ∧ context = "call") ∧
      violation =
        magicLiteral.sign model
          { place
            severity
            message :=
              "Magic literal " ++ shown ++ " in " ++ context ++
                "; bind it to a named constant" }

/-! ## Sites -/

/-- The stack that is kept of open brackets, going on over more tokens. -/
def callsBehind
    (before : List Token)
    (calls : List Bool) :
    List Placed →
    List Bool
  | [] => calls
  | placed :: rest =>
      let token := placed.token
      if token.opensBracket then
        callsBehind (token :: before) (opensCall token before :: calls) rest
      else if token.closesBracket then
        callsBehind (token :: before) calls.tail rest
      else
        callsBehind (token :: before) calls rest

/-- A site is that of a token between the code in front of it and behind it. -/
structure StandsBetween
    (before : List Token)
    (calls : List Bool)
    (site : Site)
    (front back : List Placed) :
    Prop where
  inFront : site.before = (front.map Placed.token).reverse ++ before
  isNext : site.after = back.head?.map Placed.token
  inCall : site.inCall = (callsBehind before calls front).headD false

/-- Whether a token is no bracket. -/
def isPlain (placed : Placed) : Bool :=
  !placed.token.opensBracket && !placed.token.closesBracket

/-- Each token that is no bracket has a site, in the order of the code. -/
theorem map_placed_sitesFrom
    (before : List Token)
    (calls : List Bool)
    (found : List Site)
    (tokens : List Placed) :
    (sitesFrom before calls found tokens).map Site.placed =
      (found.map Site.placed).reverse ++ tokens.filter isPlain := by
  fun_induction sitesFrom before calls found tokens with
  | case1 => simp
  | case2 before calls found placed rest token opens inductionHypothesis =>
      rw [inductionHypothesis, List.filter_cons_of_neg]
      simp [isPlain, token, opens]
  | case3 before calls found placed rest token opensNone closes inductionHypothesis =>
      rw [inductionHypothesis, List.filter_cons_of_neg]
      simp [isPlain, token, closes]
  | case4 before calls found placed rest token opensNone closesNone site
      inductionHypothesis =>
      rw [inductionHypothesis, List.filter_cons_of_pos]
      · simp [site]
      · simp [isPlain, token, opensNone, closesNone]

/-- Each site is that of a token between the code around it. -/
theorem exists_standsBetween
    {before : List Token}
    {calls : List Bool}
    {found : List Site}
    {tokens : List Placed} :
    ∀ site ∈ sitesFrom before calls found tokens,
      site ∈ found ∨
        ∃ front back,
          tokens = front ++ site.placed :: back ∧
            StandsBetween before calls site front back := by
  intro site member
  -- A token that is passed goes to the end of what is known to be in front.
  have behind
      {placed : Placed}
      {rest : List Placed}
      {before : List Token}
      {calls next : List Bool}
      (isNext :
        ∀ front,
          callsBehind before calls (placed :: front) =
            callsBehind (placed.token :: before) next front)
      (ofRest :
        ∃ front back,
          rest = front ++ site.placed :: back ∧
            StandsBetween (placed.token :: before) next site front back) :
      ∃ front back,
        placed :: rest = front ++ site.placed :: back ∧
          StandsBetween before calls site front back := by
    obtain ⟨front, back, rfl, stands⟩ := ofRest
    refine ⟨placed :: front, back, rfl, ?_, stands.isNext, ?_⟩
    · simp [stands.inFront]
    · rw [isNext, stands.inCall]
  fun_induction sitesFrom before calls found tokens with
  | case1 => exact .inl (List.mem_reverse.mp member)
  | case2 _ _ _ placed _ token opens inductionHypothesis =>
      refine (inductionHypothesis member).imp_right (behind fun front => ?_)
      rw [callsBehind, if_pos opens]
  | case3 _ _ _ placed _ token opensNone closes inductionHypothesis =>
      refine (inductionHypothesis member).imp_right (behind fun front => ?_)
      rw [callsBehind, if_neg opensNone, if_pos closes]
  | case4 before calls _ placed rest token opensNone closesNone here
      inductionHypothesis =>
      rcases inductionHypothesis member with isFound | inRest
      · rcases List.mem_cons.mp isFound with rfl | wasFound
        · exact .inr ⟨[], rest, rfl, rfl, rfl, rfl⟩
        · exact .inl wasFound
      · refine .inr (behind (fun front => ?_) inRest)
        rw [callsBehind, if_neg opensNone, if_neg closesNone]

/-- What the stack tells of a bracket: whether it opens the arguments of a call. -/
def TellsOf (code : List Placed) (opener : Placed) (isCall : Bool) : Prop :=
  ∃ front back,
    code = front ++ opener :: back ∧
      isCall = opensCall opener.token (front.map Placed.token).reverse

/-- The stack tells of the brackets that are open, going on over more tokens. -/
theorem callsBehind_tells
    {code front tokens back stack left : List Placed}
    {calls : List Bool}
    (isCode : code = front ++ (tokens ++ back))
    (tells : List.Forall₂ (TellsOf code) stack calls)
    (opened : openBehind stack tokens = some left) :
    List.Forall₂ (TellsOf code) left
      (callsBehind (front.map Placed.token).reverse calls tokens) := by
  induction tokens generalizing front stack calls with
  | nil =>
      cases opened
      exact tells
  | cons placed rest inductionHypothesis =>
      rw [openBehind_cons, Option.bind_eq_some_iff] at opened
      obtain ⟨next, nests, opened⟩ := opened
      have goesOn
          {calls : List Bool}
          (tells : List.Forall₂ (TellsOf code) next calls) :
          List.Forall₂ (TellsOf code) left
            (callsBehind (placed.token :: (front.map Placed.token).reverse) calls
              rest) := by
        have alsoCode : code = (front ++ [placed]) ++ (rest ++ back) := by
          simp [isCode]
        simpa using inductionHypothesis alsoCode tells opened
      cases opens : placed.token.opensBracket with
      | true =>
          rw [Placed.nest_of_opens opens, Option.some.injEq] at nests
          subst nests
          simp only [callsBehind, opens, ↓reduceIte]
          exact goesOn (.cons ⟨front, rest ++ back, isCode, rfl⟩ tells)
      | false =>
          cases closes : placed.token.closesBracket with
          | true =>
              obtain ⟨opener, rfl, _⟩ := Placed.exists_of_nest opens closes nests
              simp only [callsBehind, opens, closes, ↓reduceIte, Bool.false_eq_true]
              cases tells with
              | cons _ others => exact goesOn others
          | false =>
              rw [Placed.nest_of_other opens closes, Option.some.injEq] at nests
              subst nests
              simp only [callsBehind, opens, closes, ↓reduceIte, Bool.false_eq_true]
              exact goesOn tells

/-! ## What a site tells of its token -/

/-- What the literal of a site stands for. -/
def Site.value (site : Site) : Except RuleFault LiteralValue :=
  literalValue site.placed.token site.sign?.isSome

section Site

variable
  {code front back : List Placed}
  (ordered : InOrder code)

/-- A number may carry a sign unless an operand stands in front of the sign. -/
theorem takesSign_iff (front : List Placed) :
    takesSign (front.map Placed.token).reverse = true ↔
      ∀ token,
        front.getLast? = some token →
        token.text ∈ signContexts ∨
          token.kind = .operator ∧ token.text ≠ ")" ∧ token.text ≠ "]" := by
  induction front using List.reverseRecOn with
  | nil => simp [takesSign]
  | append_singleton front last _ =>
      simp [takesSign, Placed.text, Placed.kind, and_assoc]

include ordered

/-- What is the last in front of a number is its sign, if it is one. -/
theorem isSignOf_iff
    {literal minus : Placed}
    (isCode : code = front ++ literal :: back) :
    IsSignOf code minus literal ↔
      ∃ before,
        front = before ++ [minus] ∧
          literal.kind = .number ∧
          minus.text = "-" ∧
          takesSign (before.map Placed.token).reverse = true := by
  constructor
  · rintro ⟨isNumber, isMinus, isNext, noOperand⟩
    obtain ⟨before, rfl⟩ :=
      List.getLast?_eq_some_iff.mp ((infix_before_iff ordered isCode).mp isNext)
    have atMinus : code = before ++ minus :: (literal :: back) := by
      simp [isCode]
    simp only [infix_before_iff ordered atMinus] at noOperand
    exact ⟨before, rfl, isNumber, isMinus, (takesSign_iff before).mpr noOperand⟩
  · rintro ⟨before, rfl, isNumber, isMinus, takes⟩
    have atMinus : code = before ++ minus :: (literal :: back) := by
      simp [isCode]
    refine ⟨isNumber, isMinus, ⟨before, back, by simp [isCode]⟩, ?_⟩
    simp only [infix_before_iff ordered atMinus]
    exact (takesSign_iff before).mp takes

variable
  {site : Site}
  (isCode : code = front ++ site.placed :: back)
  (stands : StandsBetween [] [] site front back)

include isCode stands

/-- The site knows the sign of its literal, or that there is none. -/
theorem sign?_cases :
    (∃ before minus,
      front = before ++ [minus] ∧
        IsSignOf code minus site.placed ∧
        site.sign? = some minus.token) ∨
      (¬ ∃ minus, IsSignOf code minus site.placed) ∧ site.sign? = none := by
  have inFront := stands.inFront
  rw [List.append_nil] at inFront
  simp only [isSignOf_iff ordered isCode]
  cases front using List.reverseRecOn with
  | nil =>
      rw [List.map_nil, List.reverse_nil] at inFront
      exact .inr ⟨by simp, by simp [Site.sign?, inFront]⟩
  | append_singleton before minus _ =>
      rw [List.map_append, List.reverse_append] at inFront
      by_cases isSign :
          site.placed.kind = .number ∧
            minus.text = "-" ∧ takesSign (before.map Placed.token).reverse = true
      · refine .inl ⟨before, minus, rfl, ⟨before, rfl, isSign⟩, ?_⟩
        rw [Site.sign?, inFront]
        exact if_pos isSign
      · refine .inr ⟨?_, ?_⟩
        · rintro ⟨other, others, same, isOther⟩
          obtain ⟨rfl, isMinus⟩ := List.append_inj' same rfl
          obtain rfl := List.singleton_inj.mp isMinus
          exact isSign isOther
        · rw [Site.sign?, inFront]
          exact if_neg isSign

/-- The site tells what stands in front of the literal and its sign. -/
theorem previous?_eq_some_iff
    {token : Token} :
    site.previous? = some token ↔
      ∃ placed, StandsLeft code placed site.placed ∧ placed.token = token := by
  have inFront := stands.inFront
  rw [List.append_nil] at inFront
  rcases sign?_cases ordered isCode stands with
    ⟨before, minus, rfl, isSign, isThere⟩ | ⟨noSign, isNone⟩
  · have atMinus : code = before ++ minus :: (site.placed :: back) := by
      simp [isCode]
    have isOnly
        {other : Placed}
        (isOther : IsSignOf code other site.placed) :
        other = minus := by
      have isLast := (infix_before_iff ordered isCode).mp isOther.isNext
      simpa using isLast.symm
    have isLeft : ∀ placed,
        StandsLeft code placed site.placed ↔ before.getLast? = some placed := by
      intro placed
      rw [← infix_before_iff ordered atMinus]
      constructor
      · rintro (⟨other, isOther, isNext⟩ | ⟨noSign, _⟩)
        · rwa [isOnly isOther] at isNext
        · exact (noSign ⟨minus, isSign⟩).elim
      · intro isNext
        exact .inl ⟨minus, isSign, isNext⟩
    simp [Site.previous?, isThere, inFront, isLeft, List.getLast?_map]
  · have isLeft : ∀ placed,
        StandsLeft code placed site.placed ↔ front.getLast? = some placed := by
      intro placed
      rw [← infix_before_iff ordered isCode]
      constructor
      · rintro (⟨minus, isSign, _⟩ | ⟨_, isNext⟩)
        · exact (noSign ⟨minus, isSign⟩).elim
        · exact isNext
      · intro isNext
        exact .inr ⟨noSign, isNext⟩
    simp [Site.previous?, isNone, inFront, isLeft, List.getLast?_map]

theorem after_eq_some_iff
    {token : Token} :
    site.after = some token ↔
      ∃ placed, [site.placed, placed] <:+: code ∧ placed.token = token := by
  simp only [stands.isNext, Option.map_eq_some_iff, infix_behind_iff ordered isCode]

/-- The site tells whether the literal is compared. -/
theorem isCompared_iff :
    (Site.isComparison site.previous? || Site.isComparison site.after) = true ↔
      IsCompared code site.placed := by
  have compares (neighbour : Option Token) :
      Site.isComparison neighbour = true ↔
        ∃ token,
          neighbour = some token ∧
            token.kind = .operator ∧ token.text ∈ comparisons := by
    cases neighbour <;> simp [Site.isComparison]
  simp only [Bool.or_eq_true, compares, previous?_eq_some_iff ordered isCode stands,
    after_eq_some_iff ordered isCode stands]
  constructor
  · rintro (⟨_, ⟨placed, isLeft, rfl⟩, isOperator⟩ | ⟨_, ⟨placed, isRight, rfl⟩, isOperator⟩)
    · exact ⟨placed, .inl isLeft, isOperator⟩
    · exact ⟨placed, .inr isRight, isOperator⟩
  · rintro ⟨placed, isLeft | isRight, isOperator⟩
    · exact .inl ⟨placed.token, ⟨placed, isLeft, rfl⟩, isOperator⟩
    · exact .inr ⟨placed.token, ⟨placed, isRight, rfl⟩, isOperator⟩

omit isCode stands in
/-- A parenthesis opens the arguments of a call if it stands behind what is called. -/
theorem opensCall_iff
    {opener : Placed}
    (isCode : code = front ++ opener :: back) :
    opensCall opener.token (front.map Placed.token).reverse = true ↔
      opener.text = "(" ∧
        ∃ callee,
          [callee, opener] <:+: code ∧
            (callee.kind = .identifier ∨
              callee.text = ")" ∨
              callee.text = "]" ∨
              callee.kind = .keyword ∧ callee.text ∈ calleeKeywords) := by
  simp only [infix_before_iff ordered isCode]
  cases front using List.reverseRecOn with
  | nil => simp [opensCall]
  | append_singleton front callee _ =>
      simp [opensCall, isCallee, Placed.text, Placed.kind, or_assoc]

/-- The site tells whether the literal is an argument. -/
theorem inCall_iff
    (nested : Nested code)
    (closesNone : site.placed.token.closesBracket = false) :
    site.inCall = true ↔ IsArgument code site.placed := by
  have isNested := nested
  rw [isCode, Nested, openBehind_append, Option.bind_eq_some_iff] at isNested
  obtain ⟨stack, opened, _⟩ := isNested
  have isInnermost (opener : Placed) :
      IsInnermost code opener site.placed ↔ stack.head? = some opener :=
    isInnermost_iff ordered isCode opened nested closesNone
  have fromStart : code = [] ++ (front ++ site.placed :: back) := isCode
  have tells := callsBehind_tells fromStart .nil opened
  rw [List.map_nil, List.reverse_nil] at tells
  simp only [IsArgument, isInnermost, stands.inCall]
  generalize callsBehind [] [] front = calls at tells ⊢
  cases tells with
  | nil => simp
  | @cons opener isCall _ _ tellsOf _ =>
      obtain ⟨before, behind, atOpener, rfl⟩ := tellsOf
      simp only [List.headD_cons, opensCall_iff ordered atOpener, List.head?_cons,
        Option.some.injEq]
      constructor
      · rintro ⟨isParenthesis, callee, isNext, isCallee⟩
        exact ⟨opener, callee, rfl, isParenthesis, isNext, isCallee⟩
      · rintro ⟨_, callee, rfl, isParenthesis, isNext, isCallee⟩
        exact ⟨isParenthesis, callee, isNext, isCallee⟩

/-- The site knows where its literal starts and how it is written. -/
theorem isWritten :
    IsWritten code site.placed site.start site.shown := by
  rcases sign?_cases ordered isCode stands with
    ⟨before, minus, _, isSign, isThere⟩ | ⟨noSign, isNone⟩
  · exact .inl ⟨minus, isSign, by simp [Site.start, isThere], by simp [Site.shown, isThere]⟩
  · exact .inr ⟨noSign, by simp [Site.start, isNone], by simp [Site.shown, isNone]⟩

/-- The site knows what its literal stands for. -/
theorem standsFor_iff
    {value : LiteralValue} :
    StandsFor code site.placed value ↔
      site.value = .ok value := by
  have isSome_iff :
      site.sign?.isSome = true ↔ ∃ minus, IsSignOf code minus site.placed := by
    rcases sign?_cases ordered isCode stands with
      ⟨before, minus, _, isSign, isThere⟩ | ⟨noSign, isNone⟩
    · exact iff_of_true (by simp [isThere]) ⟨minus, isSign⟩
    · exact iff_of_false (by simp [isNone]) noSign
  constructor
  · rintro ⟨isNegated, isSign, isValue⟩
    rwa [Site.value, Bool.eq_iff_iff.mpr (isSome_iff.trans isSign.symm)]
  · intro isValue
    exact ⟨_, isSome_iff, isValue⟩

/-- The site tells what is done with its literal. -/
theorem context?_eq_some_iff
    (nested : Nested code)
    (closesNone : site.placed.token.closesBracket = false)
    {context : String} :
    site.context? = some context ↔
      IsCompared code site.placed ∧ context = "comparison" ∨
        ¬ IsCompared code site.placed ∧
          IsArgument code site.placed ∧ context = "call" := by
  rw [← isCompared_iff ordered isCode stands,
    ← inCall_iff ordered isCode stands nested closesNone]
  unfold Site.context?
  split
  · next isCompared =>
      constructor
      · intro same
        exact .inl ⟨isCompared, (Option.some.inj same).symm⟩
      · rintro (⟨_, rfl⟩ | ⟨notCompared, _⟩)
        · rfl
        · exact (notCompared isCompared).elim
  · next notCompared =>
      split
      · next isArgument =>
          constructor
          · intro same
            exact .inr ⟨notCompared, isArgument, (Option.some.inj same).symm⟩
          · rintro (⟨isCompared, _⟩ | ⟨_, _, rfl⟩)
            · exact (notCompared isCompared).elim
            · rfl
      · next notArgument => simp [notCompared, notArgument]

end Site

/-! ## The literals that are checked -/

/-- The spans that are left alone are declarations of constants and headers. -/
theorem mem_exemptSpans
    {model : SourceModel}
    {span : Nat × Nat} :
    span ∈ exemptSpans model ↔
      (∃ declaration ∈ model.declarations, ∃ statement,
        declaration.kind = .constant ∧
          model.statements[declaration.statement]? = some statement ∧
          statement.kind ≠ .block ∧
          span = (statement.first, statement.last)) ∨
        ∃ block ∈ model.blocks,
          block.kind = .method ∧ span = (block.first, block.headerEnd) := by
  simp only [exemptSpans, List.mem_append, List.mem_filterMap, List.mem_map,
    List.mem_filter, Array.mem_toList_iff, beq_iff_eq, Option.bind_eq_bind,
    Option.bind_eq_some_iff, Option.guard_eq_some', Option.pure_def, Option.some.injEq]
  refine or_congr ?_ ?_
  · constructor
    · rintro ⟨declaration, member, _, isConstant, statement, found, _, notBlock, rfl⟩
      exact ⟨declaration, member, statement, isConstant, found, notBlock, rfl⟩
    · rintro ⟨declaration, member, statement, isConstant, found, notBlock, rfl⟩
      exact ⟨declaration, member, (), isConstant, statement, found, (), notBlock, rfl⟩
  · constructor
    · rintro ⟨block, ⟨member, isMethod⟩, rfl⟩
      exact ⟨block, member, isMethod, rfl⟩
    · rintro ⟨block, member, isMethod, rfl⟩
      exact ⟨block, ⟨member, isMethod⟩, rfl⟩

/-- What the spans cover is left alone. -/
theorem covers_exemptSpans_iff
    {model : SourceModel}
    {index : Nat} :
    covers (exemptSpans model) index = true ↔ IsExempt model index := by
  simp only [covers, List.any_eq_true, mem_exemptSpans, Bool.and_eq_true,
    decide_eq_true_eq]
  constructor
  · rintro ⟨_, ⟨declaration, member, statement, isConstant, found, notBlock, rfl⟩ |
      ⟨block, member, isMethod, rfl⟩, notBefore, notBehind⟩
    · exact
        .inl ⟨declaration, member, statement, isConstant, found, notBlock, notBefore,
          notBehind⟩
    · exact .inr ⟨block, member, isMethod, notBefore, notBehind⟩
  · rintro (⟨declaration, member, statement, isConstant, found, notBlock, inside⟩ |
      ⟨block, member, isMethod, inside⟩)
    · exact
        ⟨_, .inl ⟨declaration, member, statement, isConstant, found, notBlock, rfl⟩,
          inside⟩
    · exact ⟨_, .inr ⟨block, member, isMethod, rfl⟩, inside⟩

section File

variable {model : SourceModel}

/-- Each site of a file is that of a token between the code around it. -/
theorem exists_of_mem_sitesOf
    {site : Site}
    (member : site ∈ sitesOf model) :
    ∃ front back,
      placeCode model.tokens = front ++ site.placed :: back ∧
        StandsBetween [] [] site front back := by
  exact (exists_standsBetween site member).resolve_left (by simp)

/-- Code is in order. -/
theorem placeCode_inOrder (tokens : Array Token) : InOrder (placeCode tokens) :=
  (placeTokens_inOrder tokens).of_sublist List.filter_sublist

/-- The sites of a file, in the order of the code. -/
theorem map_placed_sitesOf :
    (sitesOf model).map Site.placed = (placeCode model.tokens).filter isPlain := by
  rw [sitesOf, map_placed_sitesFrom]
  rfl

/-- The rule looks at the sites of literals of which it matters what is done there. -/
theorem mem_checkedSites
    {checkStrings : Bool}
    {site : Site}
    {context : String} :
    (site, context) ∈ checkedSites checkStrings model ↔
      site ∈ sitesOf model ∧
        (site.placed.kind = .number ∨
          site.placed.kind = .string ∧ checkStrings = true) ∧
        ¬ IsExempt model site.placed.index ∧
        site.context? = some context := by
  have looksAt (site : Site) :
      isChecked checkStrings (exemptSpans model) site = true ↔
        (site.placed.kind = .number ∨
          site.placed.kind = .string ∧ checkStrings = true) ∧
          ¬ IsExempt model site.placed.index := by
    rw [← covers_exemptSpans_iff]
    cases kind : site.placed.kind <;> cases checkStrings <;>
      simp [isChecked, Site.isLiteral, kind]
  rw [checkedSites, List.mem_filterMap]
  simp only [List.mem_filter, looksAt, Option.map_eq_some_iff, Prod.mk.injEq]
  constructor
  · rintro ⟨_, ⟨member, isLiteral, notExempt⟩, _, isContext, rfl, rfl⟩
    exact ⟨member, isLiteral, notExempt, isContext⟩
  · rintro ⟨member, isLiteral, notExempt, isContext⟩
    exact ⟨site, ⟨member, isLiteral, notExempt⟩, context, isContext, rfl, rfl⟩

/-- A literal is no bracket. -/
theorem isPlain_of_isLiteral
    {literal : Placed}
    {checkStrings : Bool}
    (isLiteral :
      literal.kind = .number ∨ literal.kind = .string ∧ checkStrings = true) :
    isPlain literal = true := by
  rcases isLiteral with isNumber | ⟨isString, _⟩
  · have kind : literal.token.kind = .number := isNumber
    simp [isPlain, Token.opensBracket, Token.closesBracket, kind]
  · have kind : literal.token.kind = .string := isString
    simp [isPlain, Token.opensBracket, Token.closesBracket, kind]

/-- So it does not close one. -/
theorem closesBracket_of_isLiteral
    {literal : Placed}
    {checkStrings : Bool}
    (isLiteral :
      literal.kind = .number ∨ literal.kind = .string ∧ checkStrings = true) :
    literal.token.closesBracket = false := by
  have isPlain := isPlain_of_isLiteral isLiteral
  simp only [MagicLiteral.isPlain, Bool.and_eq_true, Bool.not_eq_true'] at isPlain
  exact isPlain.2

/-- What is checked are the literals that the sites tell of. -/
theorem isChecked_iff
    (nested : Nested (placeCode model.tokens))
    {checkStrings : Bool}
    {literal : Placed} :
    IsChecked model checkStrings literal ↔
      ∃ site context,
        (site, context) ∈ checkedSites checkStrings model ∧ site.placed = literal := by
  have ordered := placeCode_inOrder model.tokens
  simp only [mem_checkedSites]
  constructor
  · rintro ⟨isCode, isLiteral, notExempt, inContext⟩
    have hasSite : literal ∈ (sitesOf model).map Site.placed := by
      rw [map_placed_sitesOf]
      exact List.mem_filter.mpr ⟨isCode, isPlain_of_isLiteral isLiteral⟩
    obtain ⟨site, isSite, rfl⟩ := List.mem_map.mp hasSite
    obtain ⟨front, back, atSite, stands⟩ := exists_of_mem_sitesOf isSite
    have closesNone := closesBracket_of_isLiteral isLiteral
    have isContext (context : String) :
        site.context? = some context ↔ _ :=
      context?_eq_some_iff ordered atSite stands nested closesNone
    by_cases isCompared : IsCompared (placeCode model.tokens) site.placed
    · exact
        ⟨site, "comparison",
          ⟨isSite, isLiteral, notExempt, (isContext _).mpr (.inl ⟨isCompared, rfl⟩)⟩,
          rfl⟩
    · have isArgument := inContext.resolve_left isCompared
      exact
        ⟨site, "call",
          ⟨isSite, isLiteral, notExempt,
            (isContext _).mpr (.inr ⟨isCompared, isArgument, rfl⟩)⟩,
          rfl⟩
  · rintro ⟨site, context, ⟨isSite, isLiteral, notExempt, isContext⟩, rfl⟩
    obtain ⟨front, back, atSite, stands⟩ := exists_of_mem_sitesOf isSite
    have closesNone := closesBracket_of_isLiteral isLiteral
    rw [context?_eq_some_iff ordered atSite stands nested closesNone] at isContext
    refine ⟨by simp [atSite], isLiteral, notExempt, ?_⟩
    rcases isContext with ⟨isCompared, _⟩ | ⟨_, isArgument, _⟩
    · exact .inl isCompared
    · exact .inr isArgument

/-! ## The literals that are reported -/

/-- The value that was read is among those that are allowed. -/
def isAllowed (allowed : List LiteralValue) : Except RuleFault LiteralValue → Bool
  | .ok value => allowed.any value.same
  | .error _ => false

/-- The finding for a literal whose value is not allowed. -/
def findingFor
    (severity : Severity)
    (site : Site)
    (context : String) :
    Finding :=
  { place := site.start
    severity
    message :=
      "Magic literal " ++ site.shown ++ " in " ++ context ++
        "; bind it to a named constant" }

/-- There are findings if each literal has a value: those that are not allowed. -/
theorem findingsAt_eq_ok_iff
    {allowed : List LiteralValue}
    {severity : Severity}
    {pairs : List (Site × String)}
    {found : List Finding} :
    findingsAt allowed severity pairs = .ok found ↔
      (∀ pair ∈ pairs, ∃ value, pair.1.value = .ok value) ∧
        found =
          (pairs.filter fun pair => !isAllowed allowed pair.1.value).map
            fun pair => findingFor severity pair.1 pair.2 := by
  induction pairs generalizing found with
  | nil =>
      simp [findingsAt, eq_comm]
  | cons pair rest inductionHypothesis =>
      obtain ⟨site, context⟩ := pair
      simp only [findingsAt, finding?, List.forall_mem_cons, List.filter_cons]
      rw [← Site.value]
      cases site.value with
      | error fault =>
          simp [Except.map, bind, Except.bind]
      | ok value =>
          have known : isAllowed allowed (.ok value) = allowed.any value.same := rfl
          simp only [known, Except.map, ok_bind, Except.ok.injEq, exists_eq', true_and]
          constructor
          · intro isThere
            obtain ⟨others, areOthers, same⟩ := exists_of_bind_eq_ok isThere
            cases same
            obtain ⟨haveValues, rfl⟩ := inductionHypothesis.mp areOthers
            refine ⟨haveValues, ?_⟩
            cases allowed.any value.same <;> rfl
          · rintro ⟨haveValues, rfl⟩
            rw [inductionHypothesis.mpr ⟨haveValues, rfl⟩, ok_bind]
            cases allowed.any value.same <;> rfl

/-- What is reported of a file, if some values are allowed. -/
structure ReportsMagic
    (model : SourceModel)
    (severity : Severity)
    (allowed : List LiteralValue)
    (checkStrings : Bool)
    (literals : List Placed)
    (violations : List Violation) :
    Prop where
  /-- No literal is reported twice, and they are reported in the order of the file. -/
  inOrder : InOrder literals
  hasValue :
    ∀ literal,
      IsChecked model checkStrings literal →
      ∃ value, StandsFor (placeCode model.tokens) literal value
  mem_iff :
    ∀ literal,
      literal ∈ literals ↔
        IsChecked model checkStrings literal ∧
          ∀ value,
            StandsFor (placeCode model.tokens) literal value →
            ∀ item ∈ allowed, value.same item = false
  reports : List.Forall₂ (Reports model severity) literals violations

/-- The sites of the literals whose values are not allowed. -/
def reportedSites
    (model : SourceModel)
    (allowed : List LiteralValue)
    (checkStrings : Bool) :
    List (Site × String) :=
  (checkedSites checkStrings model).filter fun pair => !isAllowed allowed pair.1.value

/-- Where more values are allowed, fewer literals are reported. -/
theorem reportedSites_sublist
    {allowed moreAllowed : List LiteralValue}
    {checkStrings : Bool}
    (isPart : allowed ⊆ moreAllowed) :
    (reportedSites model moreAllowed checkStrings).Sublist
      (reportedSites model allowed checkStrings) := by
  refine List.monotone_filter_right _ ?_
  rintro ⟨site, _⟩
  simp only [isAllowed, Bool.not_eq_true']
  cases site.value with
  | error _ => simp
  | ok value =>
      simp only [List.any_eq_false]
      exact fun noneSame item member => noneSame item (isPart member)

/-- What is no longer reported where more values are allowed has one of them. -/
theorem ReportsMagic.notMem_iff
    {severity : Severity}
    {allowed moreAllowed : List LiteralValue}
    {checkStrings : Bool}
    {literals left : List Placed}
    {violations remaining : List Violation}
    (reports :
      ReportsMagic model severity allowed checkStrings literals violations)
    (reportsLess :
      ReportsMagic model severity moreAllowed checkStrings left remaining)
    {literal : Placed}
    (isReported : literal ∈ literals) :
    literal ∉ left ↔
      ∃ value, StandsFor (placeCode model.tokens) literal value ∧
        ∃ item ∈ moreAllowed, item ∉ allowed ∧ value.same item = true := by
  obtain ⟨isChecked, notAllowed⟩ := (reports.mem_iff literal).mp isReported
  rw [reportsLess.mem_iff, not_and]
  constructor
  · intro isLeft
    have isAllowed := isLeft isChecked
    push Not at isAllowed
    obtain ⟨value, isValue, item, member, isSame⟩ := isAllowed
    have isSame := Bool.eq_true_of_not_eq_false isSame
    refine ⟨value, isValue, item, member, ?_, isSame⟩
    intro wasAllowed
    rw [notAllowed value isValue item wasAllowed] at isSame
    cases isSame
  · rintro ⟨value, isValue, item, member, _, isSame⟩ _ isLeft
    rw [isLeft value isValue item member] at isSame
    cases isSame

/-- The sites that the rule looks at are in the order of the code. -/
theorem checkedSites_inOrder {checkStrings : Bool} :
    InOrder ((checkedSites checkStrings model).map fun pair => pair.1.placed) := by
  have isPart :
      ((checkedSites checkStrings model).map Prod.fst).Sublist (sitesOf model) := by
    have withContext (sites : List Site) :
        (sites.filterMap fun site =>
          site.context?.map fun context => (site, context)).map Prod.fst =
          sites.filter fun site => site.context?.isSome := by
      induction sites with
      | nil => rfl
      | cons site rest inductionHypothesis =>
          cases isContext : site.context? <;> simp [isContext, inductionHypothesis]
    rw [checkedSites, withContext]
    exact List.filter_sublist.trans List.filter_sublist
  have ofCode := isPart.map Site.placed
  rw [map_placed_sitesOf, List.map_map] at ofCode
  exact (placeCode_inOrder model.tokens).of_sublist (ofCode.trans List.filter_sublist)

section Evaluation

variable
  (nested : Nested (placeCode model.tokens))
  {allowed : List LiteralValue}
  {checkStrings : Bool}
  {severity : Severity}

include nested

/-- Where each checked literal has a value, those that are not allowed are reported. -/
theorem reportsMagic
    (haveValues :
      ∀ pair ∈ checkedSites checkStrings model, ∃ value, pair.1.value = .ok value) :
    ReportsMagic model severity allowed checkStrings
      ((reportedSites model allowed checkStrings).map fun pair => pair.1.placed)
      ((reportedSites model allowed checkStrings).map fun pair =>
        magicLiteral.sign model (findingFor severity pair.1 pair.2)) := by
  have ordered := placeCode_inOrder model.tokens
  have standsFor
      {site : Site}
      {context : String}
      (member : (site, context) ∈ checkedSites checkStrings model)
      {value : LiteralValue} :
      StandsFor (placeCode model.tokens) site.placed value ↔
        site.value = .ok value := by
    obtain ⟨front, back, atSite, stands⟩ :=
      exists_of_mem_sitesOf (mem_checkedSites.mp member).1
    exact standsFor_iff ordered atSite stands
  refine ⟨?_, ?_, ?_, ?_⟩
  · exact checkedSites_inOrder.of_sublist (List.filter_sublist.map _)
  · intro literal isChecked
    obtain ⟨site, context, member, rfl⟩ := (isChecked_iff nested).mp isChecked
    obtain ⟨value, isValue⟩ := haveValues _ member
    exact ⟨value, (standsFor member).mpr isValue⟩
  · intro literal
    simp only [reportedSites, List.mem_map, List.mem_filter, Bool.not_eq_true', Prod.exists]
    constructor
    · rintro ⟨site, context, ⟨member, notAllowed⟩, rfl⟩
      refine ⟨(isChecked_iff nested).mpr ⟨site, context, member, rfl⟩, ?_⟩
      intro value isValue
      rw [(standsFor member).mp isValue] at notAllowed
      simpa [isAllowed] using notAllowed
    · rintro ⟨isChecked, notAllowed⟩
      obtain ⟨site, context, member, rfl⟩ := (isChecked_iff nested).mp isChecked
      obtain ⟨value, isValue⟩ := haveValues _ member
      refine ⟨site, context, ⟨member, ?_⟩, rfl⟩
      rw [isValue]
      simpa [isAllowed] using notAllowed value ((standsFor member).mpr isValue)
  · rw [List.forall₂_map_left_iff, List.forall₂_map_right_iff, List.forall₂_same]
    rintro ⟨site, context⟩ member
    obtain ⟨isSite, isLiteral, _, isContext⟩ :=
      mem_checkedSites.mp (List.mem_of_mem_filter member)
    obtain ⟨front, back, atSite, stands⟩ := exists_of_mem_sitesOf isSite
    have closesNone := closesBracket_of_isLiteral isLiteral
    rw [context?_eq_some_iff ordered atSite stands nested closesNone] at isContext
    exact
      ⟨site.start, site.shown, context, isWritten ordered atSite stands,
        isContext.imp_right (And.imp_right And.right), rfl⟩

omit nested in
/-- The rule answers if each literal that it checks has a value. -/
theorem evaluate_eq_ok_iff
    {settings : RuleSettings}
    {items : List Document}
    (areItems : settings.params.elementsParam "allow" = .ok items)
    (areAllowed : items.mapM allowedValue = .ok allowed)
    (checks : settings.params.flagParam "check_strings" = .ok checkStrings)
    {violations : List Violation} :
    magicLiteral.evaluate model settings = .ok violations ↔
      (∀ pair ∈ checkedSites checkStrings model, ∃ value, pair.1.value = .ok value) ∧
        violations =
          (reportedSites model allowed checkStrings).map fun pair =>
            magicLiteral.sign model (findingFor settings.severity pair.1 pair.2) := by
  have isCheck :
      magicLiteral.check model settings =
        findings allowed checkStrings settings.severity model := by
    simp only [magicLiteral, areItems, areAllowed, checks, ok_bind]
  rw [Rule.evaluate, isCheck, findings]
  constructor
  · intro isAnswer
    obtain ⟨found, areFound, rfl⟩ := exists_of_map_eq_ok isAnswer
    obtain ⟨haveValues, rfl⟩ := findingsAt_eq_ok_iff.mp areFound
    exact ⟨haveValues, List.map_map⟩
  · rintro ⟨haveValues, rfl⟩
    rw [findingsAt_eq_ok_iff.mpr ⟨haveValues, rfl⟩, Except.map, List.map_map]
    rfl

omit nested in
/-- What the rule reads before it looks at the file. -/
theorem exists_params_of_evaluate
    {settings : RuleSettings}
    {violations : List Violation}
    (isAnswer : magicLiteral.evaluate model settings = .ok violations) :
    ∃ items allowed checkStrings,
      settings.params.elementsParam "allow" = .ok items ∧
        items.mapM allowedValue = .ok allowed ∧
        settings.params.flagParam "check_strings" = .ok checkStrings := by
  obtain ⟨_, isCheck, _⟩ := exists_of_map_eq_ok isAnswer
  obtain ⟨items, areItems, isCheck⟩ := exists_of_bind_eq_ok isCheck
  obtain ⟨allowed, areAllowed, isCheck⟩ := exists_of_bind_eq_ok isCheck
  obtain ⟨checkStrings, checks, _⟩ := exists_of_bind_eq_ok isCheck
  exact ⟨items, allowed, checkStrings, areItems, areAllowed, checks⟩

/--
The rule reports the literals that are compared or passed to a call and are not left
alone, unless their values are allowed. If more values are allowed, those that have one
of them are no longer reported, and nothing else changes.
-/
theorem exists_reportsMagic_of_evaluate
    {settings : RuleSettings}
    {violations : List Violation}
    (isAnswer : magicLiteral.evaluate model settings = .ok violations) :
    ∃ items allowed checkStrings literals,
      settings.params.elementsParam "allow" = .ok items ∧
        items.mapM allowedValue = .ok allowed ∧
        settings.params.flagParam "check_strings" = .ok checkStrings ∧
        ReportsMagic model settings.severity allowed checkStrings literals violations ∧
        ∀ (wider : RuleSettings) (more : List Document) (moreAllowed : List LiteralValue),
          wider.severity = settings.severity →
          wider.params.flagParam "check_strings" = .ok checkStrings →
          wider.params.elementsParam "allow" = .ok more →
          more.mapM allowedValue = .ok moreAllowed →
          items ⊆ more →
          ∃ left remaining,
            magicLiteral.evaluate model wider = .ok remaining ∧
              ReportsMagic model settings.severity moreAllowed checkStrings left
                remaining ∧
              left.Sublist literals ∧
              remaining.Sublist violations ∧
              ∀ literal ∈ literals,
                literal ∉ left ↔
                  ∃ value, StandsFor (placeCode model.tokens) literal value ∧
                    ∃ item ∈ moreAllowed, item ∉ allowed ∧ value.same item = true := by
  obtain ⟨items, allowed, checkStrings, areItems, areAllowed, checks⟩ :=
    exists_params_of_evaluate isAnswer
  obtain ⟨haveValues, rfl⟩ := (evaluate_eq_ok_iff areItems areAllowed checks).mp isAnswer
  have reports
      {allowed : List LiteralValue} :
      ReportsMagic model settings.severity allowed checkStrings _ _ :=
    reportsMagic nested haveValues
  refine ⟨items, allowed, checkStrings, _, areItems, areAllowed, checks, reports, ?_⟩
  intro wider more moreAllowed sameSeverity alsoChecks areMore areMoreAllowed isPart
  have stillReported :
      (reportedSites model moreAllowed checkStrings).Sublist
        (reportedSites model allowed checkStrings) :=
    reportedSites_sublist (subset_of_mapM_eq_ok areAllowed areMoreAllowed isPart)
  have isAnswer :=
    (evaluate_eq_ok_iff areMore areMoreAllowed alsoChecks).mpr ⟨haveValues, rfl⟩
  rw [sameSeverity] at isAnswer
  exact
    ⟨_, _, isAnswer, reports, stillReported.map _, stillReported.map _,
      fun literal isReported => reports.notMem_iff reports isReported⟩

end Evaluation

end File

/-- What the value of a literal is read from: its kind, its text and if it has a sign. -/
abbrev Spelling : Type := TokenKind × String × Bool

/-- How the literal of a site is spelled. -/
def Site.spelling (site : Site) : Spelling :=
  (site.placed.kind, site.placed.text, site.sign?.isSome)

/-- The value of a literal that is spelled so, wherever it stands. -/
def Spelling.value (spelling : Spelling) : Except RuleFault LiteralValue :=
  literalValue
    { kind := spelling.1
      text := spelling.2.1
      start := .origin
      stop := .origin }
    spelling.2.2

/-- What literals are reported is known from how those that are checked are spelled. -/
theorem length_reportedSites
    {model : SourceModel}
    {checkStrings : Bool}
    {spellings : List Spelling}
    (areSpelled :
      (checkedSites checkStrings model).map (fun pair => pair.1.spelling) = spellings)
    (allowed : List LiteralValue) :
    (reportedSites model allowed checkStrings).length =
      spellings.countP fun spelling => !isAllowed allowed spelling.value := by
  rw [← areSpelled, List.countP_map, List.countP_eq_length_filter]
  rfl

/-- A file with calls in calls, an index and a constant. -/
def nestedCalls : SourceFile where
  path := "calls.py"
  text := "MAX = top(9)\nif n < -7:\n f(g[2](7, -3), h(\"a\"))\n"
  language := .python

/-- The literals of the file that are compared or passed to a call. -/
def nestedSpellings : List Spelling :=
  [(.number, "7", true), (.number, "7", false), (.number, "3", true),
    (.string, "\"a\"", false)]

/-- Strings are checked, and some values are allowed. -/
def allowing (items : List Document) : RuleSettings where
  ruleId := magicLiteral.id
  enabled := true
  severity := .warning
  params := [(.text "allow", .list items), (.text "check_strings", .bool true)]

set_option maxRecDepth 100000 in
/-- Of four magic literals three are left if the number seven is allowed. -/
theorem reportsMagic_of_nestedCalls :
    ∃ model violations allowed literals remaining moreAllowed left,
      SourceModel.build nestedCalls = .ok model ∧
        Nested (placeCode model.tokens) ∧
        magicLiteral.evaluate model (allowing [.int 0]) = .ok violations ∧
        ReportsMagic model .warning allowed true literals violations ∧
        magicLiteral.evaluate model (allowing [.int 0, .int 7]) = .ok remaining ∧
        ReportsMagic model .warning moreAllowed true left remaining ∧
        left.Sublist literals ∧
        violations.length = 4 ∧
        remaining.length = 3 := by
  have computed :
      (SourceModel.build nestedCalls).toOption.map (fun model =>
        ((openBehind [] (placeCode model.tokens)).map List.isEmpty,
          (checkedSites true model).map fun pair => pair.1.spelling)) =
        some (some true, nestedSpellings) := by
    decide +kernel
  have areRead :
      ∀ spelling ∈ nestedSpellings, spelling.value.toOption.isSome = true := by
    decide +kernel
  have fourLeft :
      ([Document.int 0].mapM allowedValue).toOption.map (fun allowed =>
        nestedSpellings.countP fun spelling =>
          !isAllowed allowed spelling.value) = some 4 := by
    decide +kernel
  have threeLeft :
      ([Document.int 0, Document.int 7].mapM allowedValue).toOption.map (fun allowed =>
        nestedSpellings.countP fun spelling =>
          !isAllowed allowed spelling.value) = some 3 := by
    decide +kernel
  obtain ⟨model, built, facts⟩ := Option.map_eq_some_iff.mp computed
  obtain ⟨isNested, areSpelled⟩ := Prod.mk.inj facts
  have nested : Nested (placeCode model.tokens) := by
    obtain ⟨stack, isStack, isEmpty⟩ := Option.map_eq_some_iff.mp isNested
    rwa [List.isEmpty_iff.mp isEmpty] at isStack
  have haveValues :
      ∀ pair ∈ checkedSites true model, ∃ value, pair.1.value = .ok value := by
    intro pair member
    have isSpelled : pair.1.spelling ∈ nestedSpellings :=
      areSpelled ▸ List.mem_map_of_mem member
    obtain ⟨value, isThere⟩ := Option.isSome_iff_exists.mp (areRead _ isSpelled)
    exact ⟨value, eq_ok_of_toOption_eq_some isThere⟩
  obtain ⟨allowed, areAllowed, areFour⟩ := Option.map_eq_some_iff.mp fourLeft
  obtain ⟨moreAllowed, areMoreAllowed, areThree⟩ := Option.map_eq_some_iff.mp threeLeft
  have areAllowed := eq_ok_of_toOption_eq_some areAllowed
  have areMoreAllowed := eq_ok_of_toOption_eq_some areMoreAllowed
  have isAnswer : magicLiteral.evaluate model (allowing [.int 0]) = .ok _ :=
    (evaluate_eq_ok_iff rfl areAllowed rfl).mpr ⟨haveValues, rfl⟩
  obtain ⟨items, alsoAllowed, checkStrings, literals, areItems, alsoRead, checks, reports,
      narrows⟩ :=
    exists_reportsMagic_of_evaluate nested isAnswer
  obtain rfl : [Document.int 0] = items := Except.ok.inj areItems
  obtain rfl : true = checkStrings := Except.ok.inj checks
  obtain rfl := Except.ok.inj (areAllowed.symm.trans alsoRead)
  have alsoChecks :
      (allowing [.int 0, .int 7]).params.flagParam "check_strings" = .ok true := rfl
  obtain ⟨left, remaining, isNarrower, reportsLess, areLeft, _⟩ :=
    narrows (allowing [.int 0, .int 7]) _ moreAllowed rfl alsoChecks rfl areMoreAllowed
      (by simp)
  obtain ⟨_, areRemaining⟩ :=
    (evaluate_eq_ok_iff rfl areMoreAllowed alsoChecks).mp isNarrower
  refine
    ⟨model, _, allowed, literals, remaining, moreAllowed, left,
      eq_ok_of_toOption_eq_some built, nested, isAnswer, reports, isNarrower, reportsLess,
      areLeft, ?_, ?_⟩
  · rw [List.length_map, length_reportedSites areSpelled, areFour]
  · rw [areRemaining, List.length_map, length_reportedSites areSpelled, areThree]

end MagicLiteral

end HouseStyle
