import Mathlib.Data.List.Basic

/-
  Sorting leaves values that are ties in the place they had
  among themselves, and sorting by a key makes it ascend.

  Main declarations:
    * `filter_mergeSort_of_ties`
    * `pairwise_mergeSort_key`
    * `filter_mergeSort_key`
-/

namespace Signpost

variable {α κ : Type}

------------------------------------------------------------
-- Ties
------------------------------------------------------------

/- Values of which each may precede each stay in order. -/
theorem filter_mergeSort_of_ties
    {le : α → α → Bool}
    {kind : α → Bool}
    (hTrans : ∀ a b c, le a b = true → le b c = true →
      le a c = true)
    (hTotal : ∀ a b, (le a b || le b a) = true)
    (hTies : ∀ a b, kind a = true → kind b = true →
      le a b = true)
    (xs : List α) :
    (xs.mergeSort le).filter kind = xs.filter kind := by
  -- Values of the kind are sorted as they are, so a stable
  -- sort leaves them in place.
  have hAlike :
      (xs.filter kind).Pairwise fun a b => le a b = true := by
    apply List.pairwise_of_forall_mem_list
    intro a ha b hb
    exact
      hTies a b (List.mem_filter.mp ha).2
        (List.mem_filter.mp hb).2
  have hKept :=
    (List.sublist_mergeSort hTrans hTotal hAlike
      List.filter_sublist).filter kind
  rw [List.filter_filter] at hKept
  simp only [Bool.and_self] at hKept
  apply (hKept.eq_of_length ?_).symm
  exact ((List.mergeSort_perm xs _).filter _).length_eq.symm

------------------------------------------------------------
-- Keys
------------------------------------------------------------

variable [LE κ] [DecidableLE κ] [Std.IsLinearPreorder κ]
variable (key : α → κ)

private theorem key_trans
    (a b c : α)
    (hab : decide (key a ≤ key b) = true)
    (hbc : decide (key b ≤ key c) = true) :
    decide (key a ≤ key c) = true := by
  simp only [decide_eq_true_eq] at hab hbc ⊢
  exact Std.le_trans hab hbc

private theorem key_total
    (a b : α) :
    (decide (key a ≤ key b) || decide (key b ≤ key a)) =
      true := by
  simpa using Std.le_total

/- The keys of what is sorted by them ascend. -/
theorem pairwise_mergeSort_key
    (xs : List α) :
    (xs.mergeSort fun a b => key a ≤ key b).Pairwise
      fun a b => key a ≤ key b := by
  have hSorted :=
    List.pairwise_mergeSort (key_trans key) (key_total key) xs
  simpa using hSorted

/- The values of one key are those there were, in order. -/
theorem filter_mergeSort_key
    [DecidableEq κ]
    (xs : List α)
    (k : κ) :
    (xs.mergeSort fun a b => key a ≤ key b).filter
        (fun a => key a = k) =
      xs.filter fun a => key a = k := by
  apply filter_mergeSort_of_ties (key_trans key) (key_total key)
  intro a b ha hb
  simp only [decide_eq_true_eq] at ha hb ⊢
  rw [ha, hb]
  exact Std.le_refl k

end Signpost
