import HouseStyle.Configuration.Resolution
import HouseStyle.Proofs.Answer

namespace HouseStyle

/-!
# Word lists are read once

While a configuration is resolved, a word list is kept under the spelling of its
path, and every rule of every language that names it takes what was kept. A list
that was kept is what a reading of the file gives, so resolving comes to the same
as if each rule read its list again.
-/

/-- Word lists that have been read, by the spellings of their paths. -/
abbrev KeptLists := List (String × List String)

/-- What keeps the word lists that it reads. -/
abbrev Keeping := StateT KeptLists (Except ConfigFailure)

section Keeping

variable (surroundings : Surroundings)

/-- The words in a file, which is read if it has not been read. -/
def keepLexicon (spelling : String) : Keeping (List String) := do
  match (← get).lookup spelling with
  | some words => pure words
  | none =>
      let words ← readLexicon surroundings spelling
      modify ((spelling, words) :: ·)
      pure words

/-- Add the words of the file that the parameters name to their verbs. -/
def addLexiconKeeping (params : Entries) : Keeping Entries :=
  match unlessEmpty (params.get? "lexicon_file") with
  | none => pure params
  | some value => do
      let words ← keepLexicon surroundings value.asText
      let own :=
        match params.get? "verbs" with
        | some (.list items) => items
        | _ => []
      let verbs ← distinct [] (own ++ words.map Document.text)
      pure (params.put (.text "verbs") (.list verbs))

/-- The parameters of merged settings. -/
def settledParamsKeeping
    (rule : Rule)
    (place : String)
    (settings : Entries) :
    Keeping Entries := do
  let params :=
    match settings.get? "params" with
    | some (.map params) => params
    | _ => []
  let params ← addLexiconKeeping surroundings params
  match rule.validate params with
  | .ok () => pure params
  | .error .mixedTypes => throw (.defect .mixedTypes)
  | .error .hugeCount => throw (.defect .hugeCount)
  | .error fault => throw (.refused (.badParams place fault))

/-- The settings of a rule for a language. -/
def Rule.settleKeeping
    (rule : Rule)
    (language : Language)
    (layers : List Layer) :
    Keeping RuleSettings := do
  let settings ← layered rule rule.ownSettings layers
  let place := rule.id ++ " (" ++ language.name ++ ")"
  let severity ← settledSeverity rule place settings
  let params ← settledParamsKeeping surroundings rule place settings
  let enabled :=
    match settings.get? "enabled" with
    | some (.scalar (.bool enabled)) => enabled
    | _ => true
  pure { ruleId := rule.id, enabled, severity, params }

/-- The settings of all rules for one language. -/
def settleLanguageKeeping
    (registry : Registry)
    (defaults overrides : Configuration)
    (language : Language) :
    Keeping (Language × List RuleSettings) := do
  let layers := defaults.layers language ++ overrides.layers language
  let settings ←
    registry.rules.mapM fun rule =>
      rule.settleKeeping surroundings language layers
  pure (language, settings)

/-- Resolve a configuration on top of another one; no list is kept before. -/
def resolveKeeping
    (registry : Registry)
    (defaults overrides : Configuration) :
    Except ConfigFailure RuleSet := do
  defaults.checkIds registry
  overrides.checkIds registry
  let settled : Keeping (List (Language × List RuleSettings)) :=
    Language.sorted.mapM
      (settleLanguageKeeping surroundings registry defaults overrides)
  let languages ← settled.run' []
  pure
    { name := overrides.name
      failOn := (overrides.failOn.or defaults.failOn).getD .warning
      exclude := defaults.exclude ++ overrides.exclude
      languages }

/-- Every list that is kept is what its file gives. -/
def KeptLists.AreTrue (kept : KeptLists) : Prop :=
  ∀ spelling words,
    kept.lookup spelling = some words →
    readLexicon surroundings spelling = .ok words

end Keeping

/-- With true lists at hand, one comes to the answer, and keeps true lists. -/
def Keeping.ComesTo
    {Value : Type}
    (surroundings : Surroundings)
    (keeping : Keeping Value)
    (answer : Except ConfigFailure Value) :
    Prop :=
  ∀ kept : KeptLists,
    kept.AreTrue surroundings →
    match answer with
    | .error failure => keeping.run kept = .error failure
    | .ok value =>
        ∃ after : KeptLists,
          after.AreTrue surroundings ∧ keeping.run kept = .ok (value, after)

namespace Keeping.ComesTo

variable
  {surroundings : Surroundings}
  {Value Found Item : Type}

/-- What needs no list comes to what it is. -/
theorem lift (answer : Except ConfigFailure Value) :
    ComesTo surroundings (liftM answer) answer := by
  intro kept areTrue
  cases answer with
  | error failure => rfl
  | ok value => exact ⟨kept, areTrue, rfl⟩

/-- One step after the other comes to the answers one after the other. -/
theorem bind
    {first : Keeping Found}
    {second : Found → Keeping Value}
    {answer : Except ConfigFailure Found}
    {next : Found → Except ConfigFailure Value}
    (firstComes : ComesTo surroundings first answer)
    (secondComes : ∀ found, ComesTo surroundings (second found) (next found)) :
    ComesTo surroundings (first >>= second) (answer >>= next) := by
  intro kept areTrue
  have ofFirst := firstComes kept areTrue
  cases answer with
  | error failure =>
      change (first >>= second).run kept = .error failure
      rw [StateT.run_bind, ofFirst]
      rfl
  | ok found =>
      obtain ⟨after, afterTrue, isRun⟩ := ofFirst
      have ofSecond := secondComes found after afterTrue
      rw [StateT.run_bind, isRun]
      exact ofSecond

/-- What is done for each item of a list comes to the answers for them. -/
theorem mapM
    {keeping : Item → Keeping Value}
    {answer : Item → Except ConfigFailure Value}
    (each : ∀ item, ComesTo surroundings (keeping item) (answer item))
    (items : List Item) :
    ComesTo surroundings (items.mapM keeping) (items.mapM answer) := by
  induction items with
  | nil =>
      exact lift (.ok [])
  | cons item rest inductionHypothesis =>
      rw [List.mapM_cons, List.mapM_cons]
      refine (each item).bind fun value => ?_
      exact inductionHypothesis.bind fun values => lift (.ok (value :: values))

end Keeping.ComesTo

open Keeping (ComesTo)

section Resolving

variable (surroundings : Surroundings)

/-- A list comes to what a reading of its file gives, whether kept or not. -/
theorem keepLexicon_comesTo (spelling : String) :
    ComesTo surroundings
      (keepLexicon surroundings spelling) (readLexicon surroundings spelling) := by
  intro kept areTrue
  have asRun :
      (keepLexicon surroundings spelling).run kept =
        match kept.lookup spelling with
        | some words => .ok (words, kept)
        | none =>
            (readLexicon surroundings spelling).map fun words =>
              (words, (spelling, words) :: kept) := by
    simp only [keepLexicon, StateT.run_bind, StateT.run_get, pure_bind]
    cases kept.lookup spelling with
    | some words => rfl
    | none => cases readLexicon surroundings spelling <;> rfl
  rw [asRun]
  cases isKept : kept.lookup spelling with
  | some words =>
      rw [areTrue spelling words isKept]
      exact ⟨kept, areTrue, rfl⟩
  | none =>
      cases isRead : readLexicon surroundings spelling with
      | error failure => rfl
      | ok words =>
          refine ⟨(spelling, words) :: kept, ?_, rfl⟩
          intro other found isFound
          rw [List.lookup_cons] at isFound
          split at isFound
          · next same =>
              rw [eq_of_beq same, isRead, Option.some.inj isFound]
          · exact areTrue other found isFound

theorem addLexiconKeeping_comesTo (params : Entries) :
    ComesTo surroundings
      (addLexiconKeeping surroundings params)
      (addLexicon surroundings params) := by
  unfold addLexiconKeeping addLexicon
  cases unlessEmpty (params.get? "lexicon_file") with
  | none => exact .lift (.ok params)
  | some value =>
      refine (keepLexicon_comesTo surroundings _).bind fun words => ?_
      exact (ComesTo.lift _).bind fun verbs => .lift (.ok _)

theorem settledParamsKeeping_comesTo
    (rule : Rule)
    (place : String)
    (settings : Entries) :
    ComesTo surroundings
      (settledParamsKeeping surroundings rule place settings)
      (settledParams surroundings rule place settings) := by
  refine (addLexiconKeeping_comesTo surroundings _).bind fun params => ?_
  cases rule.validate params with
  | ok accepted => exact .lift (.ok params)
  | error fault => cases fault <;> exact .lift (.error _)

theorem Rule.settleKeeping_comesTo
    (rule : Rule)
    (language : Language)
    (layers : List Layer) :
    ComesTo surroundings
      (rule.settleKeeping surroundings language layers)
      (rule.settle surroundings language layers) := by
  refine (ComesTo.lift _).bind fun settings => ?_
  refine (ComesTo.lift _).bind fun severity => ?_
  refine (settledParamsKeeping_comesTo surroundings rule _ settings).bind ?_
  exact fun params => .lift (.ok _)

/-- Resolving with kept lists is resolving with lists that are read each time. -/
theorem resolveKeeping_eq
    (registry : Registry)
    (defaults overrides : Configuration) :
    resolveKeeping surroundings registry defaults overrides =
      resolveOver surroundings registry defaults overrides := by
  have ofLanguages :
      ComesTo surroundings
        (Language.sorted.mapM
          (settleLanguageKeeping surroundings registry defaults overrides))
        (Language.sorted.mapM
          (settleLanguage surroundings registry defaults overrides)) := by
    refine .mapM (fun language => ?_) _
    refine ComesTo.bind (.mapM (fun rule => ?_) _) fun settings => .lift (.ok _)
    exact rule.settleKeeping_comesTo surroundings language _
  have noneKept : KeptLists.AreTrue surroundings [] := by
    intro spelling words isKept
    cases isKept
  have sameLanguages :
      (StateT.run'
        (Language.sorted.mapM
          (settleLanguageKeeping surroundings registry defaults overrides))
        ([] : KeptLists) : Except ConfigFailure _) =
        Language.sorted.mapM
          (settleLanguage surroundings registry defaults overrides) := by
    have fromNone := ofLanguages [] noneKept
    rw [StateT.run'_eq]
    split at fromNone
    · next failure isFailure =>
        rw [fromNone, isFailure]
        rfl
    · next languages areLanguages =>
        obtain ⟨after, _, isRun⟩ := fromNone
        rw [isRun, areLanguages]
        rfl
  simp only [resolveKeeping, resolveOver, sameLanguages]

end Resolving

end HouseStyle
