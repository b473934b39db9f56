import HouseStyle.Rule.Finding
import Mathlib

namespace HouseStyle

/-!
# Sorting for a report

What rules produce is sorted when a file has been evaluated, and again when its
result is put into the report. Sorting is stable, so twice sorted is as good as
once: violations stand by line, column and rule, and those that share all three
stand as they were produced.
-/

/-- `shown` is `produced` in order, and ties are as they were produced. -/
structure SortsStably
    {Item : Type}
    (notAfter isTie : Item → Item → Bool)
    (produced shown : List Item) :
    Prop where
  perm : shown.Perm produced
  inOrder :
    shown.Pairwise fun earlier later => notAfter earlier later = true
  ties : ∀ item, shown.filter (isTie item) = produced.filter (isTie item)

namespace SortsStably

variable
  {Item : Type}
  {notAfter isTie : Item → Item → Bool}

/-- A merge sort is stable wherever neither of two ties is after the other. -/
theorem mergeSort
    (trans :
      ∀ first second third,
        notAfter first second = true →
        notAfter second third = true →
        notAfter first third = true)
    (total :
      ∀ left right, (notAfter left right || notAfter right left) = true)
    (tie :
      ∀ left right,
        isTie left right = true →
        notAfter left right = true ∧ notAfter right left = true)
    (produced : List Item) :
    SortsStably notAfter isTie produced (produced.mergeSort notAfter) where
  perm := List.mergeSort_perm produced notAfter
  inOrder := List.pairwise_mergeSort trans total produced
  ties item := by
    have level :
        (produced.filter (isTie item)).Pairwise fun earlier later =>
          notAfter earlier later = true := by
      refine List.pairwise_of_forall_mem_list ?_
      intro earlier isEarlier later isLater
      have tieEarlier := tie item earlier (List.mem_filter.mp isEarlier).2
      have tieLater := tie item later (List.mem_filter.mp isLater).2
      exact trans earlier item later tieEarlier.2 tieLater.1
    have kept :
        (produced.filter (isTie item)).Sublist
          (produced.mergeSort notAfter) :=
      List.sublist_mergeSort trans total level List.filter_sublist
    have keptTies := kept.filter (isTie item)
    rw [List.filter_filter] at keptTies
    simp only [Bool.and_self] at keptTies
    refine (keptTies.eq_of_length ?_).symm
    exact
      ((List.mergeSort_perm produced notAfter).filter
        (isTie item)).length_eq.symm

theorem trans
    {produced middle shown : List Item}
    (first : SortsStably notAfter isTie produced middle)
    (second : SortsStably notAfter isTie middle shown) :
    SortsStably notAfter isTie produced shown where
  perm := second.perm.trans first.perm
  inOrder := second.inOrder
  ties item := (second.ties item).trans (first.ties item)

end SortsStably

/-- A list is cut in one way into items that pass a test and items that fail. -/
theorem eq_of_cut
    {Item : Type}
    {passes : Item → Bool}
    {left right otherLeft otherRight : List Item}
    (same : left ++ right = otherLeft ++ otherRight)
    (leftPasses : ∀ item ∈ left, passes item = true)
    (rightFails : ∀ item ∈ right, passes item = false)
    (otherLeftPasses : ∀ item ∈ otherLeft, passes item = true)
    (otherRightFails : ∀ item ∈ otherRight, passes item = false) :
    left = otherLeft ∧ right = otherRight := by
  have filtered := congrArg (List.filter passes) same
  rw [List.filter_append, List.filter_append,
    List.filter_eq_self.mpr leftPasses,
    List.filter_eq_self.mpr otherLeftPasses,
    List.filter_eq_nil_iff.mpr (by simpa using rightFails),
    List.filter_eq_nil_iff.mpr (by simpa using otherRightFails),
    List.append_nil, List.append_nil] at filtered
  subst filtered
  exact ⟨rfl, List.append_cancel_left same⟩

/-- Leaving items out before they are sorted is leaving them out afterwards. -/
theorem filter_mergeSort
    {Item : Type}
    {notAfter : Item → Item → Bool}
    (trans :
      ∀ first second third,
        notAfter first second = true →
        notAfter second third = true →
        notAfter first third = true)
    (total :
      ∀ left right, (notAfter left right || notAfter right left) = true)
    (keep : Item → Bool)
    (items : List Item) :
    (items.mergeSort notAfter).filter keep =
      (items.filter keep).mergeSort notAfter := by
  -- A new item stands before the first one that it is not after.
  have behind
      {item : Item}
      {rest before after : List Item}
      (isSorted : (item :: rest).mergeSort notAfter = before ++ item :: after) :
      ∀ other ∈ after, (!notAfter item other) = false := by
    have inOrder := List.pairwise_mergeSort trans total (item :: rest)
    rw [isSorted] at inOrder
    have ofItem := List.pairwise_cons.mp (List.pairwise_append.mp inOrder).2.1
    intro other member
    rw [ofItem.1 other member, Bool.not_true]
  induction items with
  | nil =>
      simp
  | cons item rest inductionHypothesis =>
      obtain ⟨before, after, isSorted, isRest, areBefore⟩ :=
        List.mergeSort_cons trans total item rest
      rw [isRest, List.filter_append] at inductionHypothesis
      rw [isSorted, List.filter_append]
      by_cases isKept : keep item = true
      · obtain ⟨keptBefore, keptAfter, keptSorted, keptRest, areKeptBefore⟩ :=
          List.mergeSort_cons trans total item (rest.filter keep)
        rw [keptRest] at inductionHypothesis
        have areAfter := behind isSorted
        have areKeptAfter := behind keptSorted
        obtain ⟨sameBefore, sameAfter⟩ :=
          eq_of_cut inductionHypothesis
            (fun other member => areBefore other (List.mem_of_mem_filter member))
            (fun other member => areAfter other (List.mem_of_mem_filter member))
            areKeptBefore
            areKeptAfter
        rw [List.filter_cons_of_pos isKept, List.filter_cons_of_pos isKept,
          keptSorted, sameBefore, sameAfter]
      · rw [List.filter_cons_of_neg isKept, List.filter_cons_of_neg isKept,
          inductionHypothesis]

/-- The violations are of one rule at one place. -/
def Violation.sharesKey (left right : Violation) : Bool :=
  left.line == right.line && left.exactColumn == right.exactColumn &&
    left.ruleId == right.ruleId

/-- Violations are sorted by line, column and rule. -/
theorem Violation.sorted_sortsStably (produced : List Violation) :
    SortsStably
      Violation.notAfter Violation.sharesKey
      produced (Violation.sorted produced) := by
  refine .mergeSort ?_ Violation.notAfter_total ?_ produced
  · exact fun _ _ _ => Violation.notAfter_trans
  · intro left right shares
    simp only [Violation.sharesKey, Bool.and_eq_true, beq_iff_eq] at shares
    obtain ⟨⟨sameLine, sameColumn⟩, sameRule⟩ := shares
    rw [Violation.notAfter_iff, Violation.notAfter_iff]
    simp [sameLine, sameColumn, sameRule]

theorem Violation.filter_sorted
    (keep : Violation → Bool)
    (violations : List Violation) :
    (Violation.sorted violations).filter keep =
      Violation.sorted (violations.filter keep) := by
  refine filter_mergeSort ?_ Violation.notAfter_total keep violations
  exact fun _ _ _ => Violation.notAfter_trans

/-- The order of diagnostics: by rule. -/
def Diagnostic.notAfter (left right : Diagnostic) : Bool :=
  left.ruleId ≤ right.ruleId

/-- The diagnostics are of one rule. -/
def Diagnostic.sharesRule (left right : Diagnostic) : Bool :=
  left.ruleId == right.ruleId

/-- Diagnostics are sorted by rule. -/
theorem Diagnostic.sorted_sortsStably (produced : List Diagnostic) :
    SortsStably
      Diagnostic.notAfter Diagnostic.sharesRule
      produced (Diagnostic.sorted produced) := by
  refine .mergeSort ?_ ?_ ?_ produced
  · intro first second third before after
    simp only [Diagnostic.notAfter, decide_eq_true_eq] at before after ⊢
    exact String.le_trans before after
  · intro left right
    simpa [Diagnostic.notAfter] using
      String.le_total left.ruleId right.ruleId
  · intro left right shares
    have sameRule : left.ruleId = right.ruleId := by
      simpa [Diagnostic.sharesRule] using shares
    simp [Diagnostic.notAfter, sameRule]

end HouseStyle
