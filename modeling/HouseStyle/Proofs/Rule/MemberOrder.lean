import HouseStyle.Proofs.Rule.Resolved
import HouseStyle.Proofs.Source.RowDeclarations

namespace HouseStyle

/-!
# Members that stand too late

Going through the members of a type, the rule remembers no more than the rank it
has reached. That is the largest rank of all members so far, those that are
reported included, since a reported member has a smaller rank than the one it
stands behind. So a member is reported exactly if an earlier member of the same
type has a larger rank, and a type is clean exactly if its ranks never fall.
-/

namespace DeclarationOrder

/--
Where a member belongs: constants first, then whatever holds a value, then
constructors, then methods in the order of their visibilities.
-/
def rankAmong
    (names : List String)
    (default : String)
    (member : Declaration) :
    Option Nat :=
  match member.kind with
  | .constant => some 0
  | .field | .variable => some 1
  | .constructor => some 2
  | .method =>
      let visibility :=
        if member.visibility = .unspecified then
          default
        else
          member.visibility.name
      some (3 + names.idxOf visibility)
  | .type => none

/-- What the members of a rank are called. -/
def labelAmong (names : List String) : Nat → String
  | 0 => "constants"
  | 1 => "fields"
  | 2 => "the constructor"
  | place + 3 => names.getD place "" ++ " methods"

/-- The largest rank of some members, and zero if none of them has one. -/
def reachedBy
    (rank? : Declaration → Option Nat)
    (members : List Declaration) :
    Nat :=
  (members.filterMap rank?).foldl max 0

/-- The largest rank before a member, if the member has a smaller one. -/
def overtakenBy?
    (rank? : Declaration → Option Nat)
    (earlier : List Declaration)
    (member : Declaration) :
    Option Nat :=
  (rank? member).bind fun own =>
    if own < reachedBy rank? earlier then some (reachedBy rank? earlier) else none

/-- The members that an earlier one overtakes in rank, with the largest such rank. -/
def overtaken
    (rank? : Declaration → Option Nat)
    (members : List Declaration) :
    List (Declaration × Nat) :=
  members.zipIdx.filterMap fun (member, place) =>
    (overtakenBy? rank? (members.take place) member).map fun largest =>
      (member, largest)

/-- What is said of a member that stands behind a larger rank. -/
def findingFor
    (names : List String)
    (severity : Severity)
    (member : Declaration)
    (largest : Nat) :
    Finding where
  place := member.place
  severity := severity
  message :=
    describe member ++ " '" ++ member.name ++ "' is declared after " ++
      labelAmong names largest

/-! ## Ranks by the order of visibilities -/

section Ranks

variable
  {names : List String}
  {default : String}

/-- The place of a visibility in an order of texts is its place among the names. -/
theorem findIdx_same (visibility : String) :
    (names.map Document.text).findIdx (Document.text visibility).same =
      names.idxOf visibility := by
  rw [List.findIdx_map, List.idxOf]
  congr
  funext name
  simp only [Function.comp_apply, Document.same, Scalar.same]
  exact Bool.beq_comm

/-- The rule ranks members by the names of visibilities. -/
theorem rank?_eq :
    MethodOrder.rank? { visibilities := names.map .text, default := .text default } =
      rankAmong names default := by
  funext member
  unfold MethodOrder.rank? rankAmong
  cases member.kind with
  | method =>
      simp only [MethodOrder.visibilityOf, apply_ite Document.text,
        ← findIdx_same]
  | _ => rfl

/-- The rule calls ranks by the names of visibilities. -/
theorem label_eq (rank : Nat) :
    MethodOrder.label { visibilities := names.map .text, default := .text default }
        rank =
      labelAmong names rank := by
  unfold MethodOrder.label labelAmong
  split
  · rfl
  · rfl
  · rfl
  · next place =>
      cases isThere : names[place]? <;>
        simp [isThere, List.getD_eq_getElem?_getD, Document.asText, Scalar.asText]

end Ranks

/-! ## The rank that is reached -/

section Reached

variable {rank? : Declaration → Option Nat}

/-- A member without a rank leaves the largest rank as it is. -/
theorem reachedBy_of_no_rank
    (earlier : List Declaration)
    {member : Declaration}
    (noRank : rank? member = none) :
    reachedBy rank? (earlier ++ [member]) = reachedBy rank? earlier := by
  simp [reachedBy, noRank]

/-- A member with a rank may raise the largest one. -/
theorem reachedBy_of_rank
    (earlier : List Declaration)
    {member : Declaration}
    {rank : Nat}
    (isRank : rank? member = some rank) :
    reachedBy rank? (earlier ++ [member]) = max (reachedBy rank? earlier) rank := by
  simp [reachedBy, isRank]

/-- No member has a rank above the one that is reached. -/
theorem le_reachedBy
    {members : List Declaration}
    {member : Declaration}
    {rank : Nat}
    (isMember : member ∈ members)
    (isRank : rank? member = some rank) :
    rank ≤ reachedBy rank? members := by
  induction members using List.reverseRecOn with
  | nil => cases isMember
  | append_singleton earlier last inductionHypothesis =>
      rcases List.mem_append.mp isMember with isEarlier | isLast
      · have notAbove := inductionHypothesis isEarlier
        cases isOther : rank? last with
        | none => rwa [reachedBy_of_no_rank earlier isOther]
        | some other =>
            rw [reachedBy_of_rank earlier isOther]
            exact notAbove.trans (Nat.le_max_left _ _)
      · obtain rfl := List.mem_singleton.mp isLast
        rw [reachedBy_of_rank earlier isRank]
        exact Nat.le_max_right _ _

/-- A rank above zero that is reached is the rank of a member. -/
theorem exists_of_reachedBy
    {members : List Declaration}
    (isReached : 0 < reachedBy rank? members) :
    ∃ member ∈ members, rank? member = some (reachedBy rank? members) := by
  induction members using List.reverseRecOn with
  | nil => simp [reachedBy] at isReached
  | append_singleton earlier last inductionHypothesis =>
      cases isRank : rank? last with
      | none =>
          rw [reachedBy_of_no_rank earlier isRank] at isReached ⊢
          obtain ⟨member, isThere, isLargest⟩ := inductionHypothesis isReached
          exact ⟨member, List.mem_append_left _ isThere, isLargest⟩
      | some rank =>
          rw [reachedBy_of_rank earlier isRank] at isReached ⊢
          rcases Nat.lt_or_ge rank (reachedBy rank? earlier) with isBelow | isAbove
          · obtain ⟨member, isThere, isLargest⟩ :=
              inductionHypothesis (Nat.zero_lt_of_lt isBelow)
            rw [Nat.max_eq_left (Nat.le_of_lt isBelow)]
            exact ⟨member, List.mem_append_left _ isThere, isLargest⟩
          · rw [Nat.max_eq_right isAbove]
            exact ⟨last, by simp, isRank⟩

/-- A member is overtaken by the rank that is reached, if its own is below. -/
theorem overtakenBy?_eq_some_iff
    {earlier : List Declaration}
    {member : Declaration}
    {largest : Nat} :
    overtakenBy? rank? earlier member = some largest ↔
      ∃ own, rank? member = some own ∧
        own < largest ∧
        IsGreatest {rank | ∃ other ∈ earlier, rank? other = some rank} largest := by
  constructor
  · intro isOvertaken
    obtain ⟨own, isOwn, isLargest⟩ := Option.bind_eq_some_iff.mp isOvertaken
    obtain ⟨isBelow, isReached⟩ := Option.ite_none_right_eq_some.mp isLargest
    obtain rfl := Option.some.inj isReached
    refine ⟨own, isOwn, isBelow, exists_of_reachedBy (Nat.zero_lt_of_lt isBelow), ?_⟩
    rintro rank ⟨other, isThere, isRank⟩
    exact le_reachedBy isThere isRank
  · rintro ⟨own, isOwn, isBelow, ⟨other, isThere, isRank⟩, above⟩
    have notAbove := le_reachedBy isThere isRank
    have isReached :=
      exists_of_reachedBy (Nat.zero_lt_of_lt (Nat.lt_of_lt_of_le isBelow notAbove))
    have isLargest : reachedBy rank? earlier = largest :=
      Nat.le_antisymm (above isReached) notAbove
    simp [overtakenBy?, isOwn, isLargest, isBelow]

/-- A member is overtaken exactly if an earlier one has a larger rank. -/
theorem overtakenBy?_isSome_iff
    {earlier : List Declaration}
    {member : Declaration} :
    (overtakenBy? rank? earlier member).isSome ↔
      ∃ other ∈ earlier, ∃ own larger,
        rank? member = some own ∧ rank? other = some larger ∧ own < larger := by
  constructor
  · intro isOvertaken
    obtain ⟨largest, isLargest⟩ := Option.isSome_iff_exists.mp isOvertaken
    obtain ⟨own, isOwn, isBelow, ⟨other, isThere, isRank⟩, _⟩ :=
      overtakenBy?_eq_some_iff.mp isLargest
    exact ⟨other, isThere, own, largest, isOwn, isRank, isBelow⟩
  · rintro ⟨other, isThere, own, larger, isOwn, isRank, isBelow⟩
    have isReached := Nat.lt_of_lt_of_le isBelow (le_reachedBy isThere isRank)
    simp [overtakenBy?, isOwn, isReached]

/-- No member is overtaken exactly if the ranks of the members never fall. -/
theorem overtaken_eq_nil_iff (members : List Declaration) :
    overtaken rank? members = [] ↔
      (members.filterMap rank?).Pairwise (· ≤ ·) := by
  rw [List.pairwise_filterMap, List.pairwise_iff_getElem, overtaken,
    List.filterMap_eq_nil_iff]
  constructor
  · intro noneOvertaken earlier later isEarlier isLater isBefore rank isRank own isOwn
    by_contra isAbove
    have isOvertaken :
        (overtakenBy? rank? (members.take later) members[later]).isSome :=
      overtakenBy?_isSome_iff.mpr
        ⟨members[earlier], List.mem_take_iff_getElem.mpr ⟨earlier, by omega, rfl⟩,
          own, rank, isOwn, isRank, Nat.lt_of_not_le isAbove⟩
    have notOvertaken :=
      noneOvertaken (members[later], later)
        (List.mem_zipIdx_iff_getElem?.mpr (List.getElem?_eq_getElem isLater))
    rw [Option.map_eq_none_iff] at notOvertaken
    simp [notOvertaken] at isOvertaken
  · rintro neverFall ⟨member, place⟩ isThere
    obtain ⟨inRange, isMember⟩ :=
      List.getElem?_eq_some_iff.mp (List.mem_zipIdx_iff_getElem?.mp isThere)
    simp only at inRange isMember
    subst isMember
    rw [Option.map_eq_none_iff, ← Option.not_isSome_iff_eq_none,
      overtakenBy?_isSome_iff]
    rintro ⟨other, isEarlier, own, larger, isOwn, isRank, isBelow⟩
    obtain ⟨earlier, isBefore, rfl⟩ := List.mem_take_iff_getElem.mp isEarlier
    have notAbove :=
      neverFall earlier place (by omega) inRange (by omega) larger isRank own isOwn
    omega

/-- A member is reported with a rank if this rank overtakes it at its place. -/
theorem mem_overtaken_iff
    {members : List Declaration}
    {member : Declaration}
    {largest : Nat} :
    (member, largest) ∈ overtaken rank? members ↔
      ∃ place,
        members[place]? = some member ∧
          overtakenBy? rank? (members.take place) member = some largest := by
  constructor
  · intro isThere
    obtain ⟨⟨found, place⟩, isPlaced, isOvertaken⟩ := List.mem_filterMap.mp isThere
    obtain ⟨rank, isOvertaken, same⟩ := Option.map_eq_some_iff.mp isOvertaken
    cases same
    exact ⟨place, List.mem_zipIdx_iff_getElem?.mp isPlaced, isOvertaken⟩
  · rintro ⟨place, isPlaced, isOvertaken⟩
    refine
      List.mem_filterMap.mpr
        ⟨(member, place), List.mem_zipIdx_iff_getElem?.mpr isPlaced, ?_⟩
    simp [isOvertaken]

end Reached

/-! ## What the rule says of the members of a type -/

/--
Going on behind `earlier` with the rank reached there, the rule reports the
members that an earlier one overtakes, and says which rank overtakes them.
-/
theorem findingsFrom_reachedBy
    (names : List String)
    (default : String)
    (severity : Severity)
    (earlier later : List Declaration) :
    findingsFrom { visibilities := names.map .text, default := .text default }
        severity (reachedBy (rankAmong names default) earlier) later =
      (later.zipIdx earlier.length).filterMap fun (member, place) =>
        (overtakenBy? (rankAmong names default)
            ((earlier ++ later).take place) member).map
          (findingFor names severity member) := by
  induction later generalizing earlier with
  | nil => rfl
  | cons member rest inductionHypothesis =>
      have goesOn := inductionHypothesis (earlier ++ [member])
      rw [List.append_assoc, List.singleton_append, List.length_append,
        List.length_singleton] at goesOn
      rw [List.zipIdx_cons, List.filterMap_cons, ← goesOn, findingsFrom, rank?_eq]
      simp only [List.take_left]
      cases isRank : rankAmong names default member with
      | none =>
          rw [reachedBy_of_no_rank earlier isRank]
          simp [overtakenBy?, isRank]
      | some rank =>
          rw [reachedBy_of_rank earlier isRank]
          simp only [overtakenBy?, isRank, Option.bind_some]
          split
          · next isBelow =>
              rw [Nat.max_eq_left (Nat.le_of_lt isBelow), label_eq]
              rfl
          · next notBelow =>
              rw [Nat.max_eq_right (Nat.le_of_not_lt notBelow)]
              rfl

/-- The rule reports the members that an earlier member of their type overtakes. -/
theorem findings_eq
    (names : List String)
    (default : String)
    (severity : Severity)
    (model : SourceModel) :
    findings { visibilities := names.map .text, default := .text default }
        severity model =
      (typeBlocks model).flatMap fun block =>
        (overtaken (rankAmong names default)
            (model.members (some block.index))).map fun (member, largest) =>
          findingFor names severity member largest := by
  unfold findings
  congr 1
  funext block
  have ofMembers :=
    findingsFrom_reachedBy names default severity [] (model.members (some block.index))
  rw [List.length_nil, List.nil_append] at ofMembers
  rw [overtaken, List.map_filterMap]
  refine ofMembers.trans (List.filterMap_congr ?_)
  rintro ⟨member, place⟩ _
  rw [Option.map_map]
  rfl

/-! ## Resolved settings -/

/--
What the rule says of a model with settings that list the visibilities as `names`
and have methods without one go by `default`.
-/
structure ReportsOvertaken
    (settings : RuleSettings)
    (model : SourceModel)
    (names : List String)
    (default : String)
    (violations : List Violation) :
    Prop where
  visibilities :
    settings.params.get? "visibility_order" = some (.list (names.map .text))
  unspecified :
    settings.params.get? "default_visibility" = some (.text default)
  listsAll : ∀ visibility ∈ visibilityNames, visibility ∈ names
  isListed : default ∈ visibilityNames
  answers : declarationOrder.evaluate model settings = .ok violations
  /-- Type by type, the members that are overtaken, with the rank they stand behind. -/
  reports :
    violations =
      (typeBlocks model).flatMap fun block =>
        (overtaken (rankAmong names default)
            (model.members (some block.index))).map fun (member, largest) =>
          declarationOrder.sign model
            (findingFor names settings.severity member largest)
  inSourceOrder :
    ∀ block,
      (model.members (some block)).Pairwise fun earlier later =>
        later.place.before earlier.place = false
  /-- A member is reported exactly if an earlier one of its type has a larger rank. -/
  isReported_iff :
    ∀ block member,
      (∃ largest,
        (member, largest) ∈
          overtaken (rankAmong names default) (model.members (some block))) ↔
      ∃ place,
        (model.members (some block))[place]? = some member ∧
        ∃ other ∈ (model.members (some block)).take place,
        ∃ own larger,
          rankAmong names default member = some own ∧
            rankAmong names default other = some larger ∧
            own < larger
  /-- The rank that a report names is the largest one before the member. -/
  isLargest :
    ∀ block member largest,
      (member, largest) ∈
        overtaken (rankAmong names default) (model.members (some block)) →
      ∃ place,
        (model.members (some block))[place]? = some member ∧
          IsGreatest
            {rank |
              ∃ other ∈ (model.members (some block)).take place,
                rankAmong names default other = some rank}
            largest
  /-- A type is clean exactly if the ranks of its members never fall. -/
  isClean_iff :
    ∀ block,
      overtaken (rankAmong names default) (model.members (some block)) = [] ↔
        ((model.members (some block)).filterMap
          (rankAmong names default)).Pairwise (· ≤ ·)

/-- The members of a built model stand in source order. -/
theorem members_inSourceOrder
    {source : SourceFile}
    {model : SourceModel}
    (built : SourceModel.build source = .ok model)
    (block : Option Nat) :
    (model.members block).Pairwise fun earlier later =>
      later.place.before earlier.place = false := by
  refine List.Pairwise.filter _ ?_
  rw [SourceModel.declarations_of_build built]
  exact sortDeclarations_inSourceOrder _

/-- A type with a constant behind its constructor. -/
def lateConstant : SourceFile where
  path := "Late.java"
  text := "class Late\x7bLate()\x7b\x7dint a;static final int B=1;\x7d"
  language := .java

/-- Private methods before all others. -/
def privateFirst : Configuration where
  rules :=
    [("declaration-order",
      [(.text "params",
        .map
          [(.text "visibility_order",
            .list [.text "private", .text "public", .text "protected"])])])]

end DeclarationOrder

end HouseStyle
