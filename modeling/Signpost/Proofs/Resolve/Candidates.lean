import Signpost.Proofs.Sorting
import Signpost.Proofs.Text.Distinct
import Signpost.Resolve.Candidates

/-
  The candidates of a listing in the order in which they are
  tried, described without a sorting procedure.

  Main declarations:
    * `StablySorted`
    * `StablySorted.unique`
    * `Candidates.stablySorted_sorted`
    * `Candidates.nodup_ids_kept`
-/

namespace Signpost

open Text

------------------------------------------------------------
-- Stable Sorting
------------------------------------------------------------

/-
  Definitions are the given ones in ascending order, and the
  definitions of each order are in the place they had among
  themselves.
-/
structure StablySorted
    (ds ordered : List RouteDefinition) : Prop where
  perm : ordered.Perm ds
  ascending : ordered.Pairwise fun a b => a.order ≤ b.order
  stable :
    ∀ n : Int32,
      ordered.filter (fun d => d.order = n) =
        ds.filter (fun d => d.order = n)

namespace StablySorted

/-
  Two ascending lists with the same definitions of each
  order begin with the same definition.
-/
private theorem head_eq
    {a b : RouteDefinition}
    {as bs : List RouteDefinition}
    (hPerm : (a :: as).Perm (b :: bs))
    (hLeft :
      (a :: as).Pairwise fun a b => a.order ≤ b.order)
    (hRight :
      (b :: bs).Pairwise fun a b => a.order ≤ b.order)
    (hStable :
      ∀ n : Int32,
        (a :: as).filter (fun d => d.order = n) =
          (b :: bs).filter (fun d => d.order = n)) :
    a = b := by
  have hab : a.order ≤ b.order := by
    rcases List.mem_cons.mp
        (hPerm.mem_iff.mpr List.mem_cons_self) with
      hEq | hMember
    · rw [hEq]
      exact Int32.le_refl _
    · exact List.rel_of_pairwise_cons hLeft hMember
  have hba : b.order ≤ a.order := by
    rcases List.mem_cons.mp
        (hPerm.mem_iff.mp List.mem_cons_self) with
      hEq | hMember
    · rw [hEq]
      exact Int32.le_refl _
    · exact List.rel_of_pairwise_cons hRight hMember
  have hOrder : a.order = b.order :=
    Int32.le_antisymm hab hba
  have hHeads := hStable b.order
  simp only [List.filter_cons, hOrder, decide_true,
    if_true] at hHeads
  exact (List.cons.inj hHeads).1

/- Sorting with ties in place has only one result. -/
theorem unique
    {ds left right : List RouteDefinition}
    (hLeft : StablySorted ds left)
    (hRight : StablySorted ds right) :
    left = right := by
  obtain ⟨hLeftPerm, hLeft, hLeftStable⟩ := hLeft
  obtain ⟨hRightPerm, hRight, hRightStable⟩ := hRight
  have hPerm : left.Perm right :=
    hLeftPerm.trans hRightPerm.symm
  have hStable :
      ∀ n : Int32,
        left.filter (fun d => d.order = n) =
          right.filter (fun d => d.order = n) := by
    intro n
    rw [hLeftStable, hRightStable]
  clear hLeftPerm hRightPerm hLeftStable hRightStable
  induction left generalizing right with
  | nil => exact (List.nil_perm.mp hPerm).symm
  | cons a as ih =>
      cases right with
      | nil => exact List.perm_nil.mp hPerm
      | cons b bs =>
          have hHead : a = b :=
            head_eq hPerm hLeft hRight hStable
          subst hHead
          congr 1
          apply ih hLeft.of_cons hRight.of_cons
            hPerm.cons_inv
          intro n
          have hFilter := hStable n
          by_cases hOrder : a.order = n
          · simpa [List.filter_cons, hOrder] using hFilter
          · simpa [List.filter_cons, hOrder] using hFilter

end StablySorted

------------------------------------------------------------
-- The Order of Candidates
------------------------------------------------------------

namespace Candidates

/- Definitions are sorted, and ties stay in place. -/
theorem stablySorted_sorted
    (ds : List RouteDefinition) :
    StablySorted ds (sorted ds) := by
  exact
    ⟨List.mergeSort_perm ds _,
      pairwise_mergeSort_key RouteDefinition.order ds,
      filter_mergeSort_key RouteDefinition.order ds⟩

/- Candidates have different names. -/
theorem nodup_ids_kept
    (ds : List RouteDefinition) :
    ((ofList ds).kept.map RouteDefinition.id).Nodup :=
  Distinct.nodup_kept_ofList RouteDefinition.id (sorted ds)

/- Candidates are among the definitions. -/
theorem mem_of_mem_kept
    {ds : List RouteDefinition}
    {d : RouteDefinition}
    (hKept : d ∈ (ofList ds).kept) :
    d ∈ ds := by
  have hSorted : d ∈ sorted ds :=
    (Distinct.sublist_kept_ofList RouteDefinition.id
      (sorted ds)).subset hKept
  exact (stablySorted_sorted ds).perm.mem_iff.mp hSorted

/- There are no more candidates than definitions. -/
theorem length_kept_le
    (ds : List RouteDefinition) :
    (ofList ds).kept.length ≤ ds.length := by
  calc (ofList ds).kept.length
      ≤ (sorted ds).length :=
        (Distinct.sublist_kept_ofList
          RouteDefinition.id (sorted ds)).length_le
    _ = ds.length := (stablySorted_sorted ds).perm.length_eq

end Candidates

end Signpost
