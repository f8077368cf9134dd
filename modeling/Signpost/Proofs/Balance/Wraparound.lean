import Mathlib.Data.List.Rotate
import Mathlib.Tactic.IntervalCases
import Signpost.Proofs.Balance.Balancer

/-
  What taking turns does when the number of choices that
  were made for a service is larger than its counter can
  hold: the counter begins anew, and a row of choices that
  goes beyond that comes to each instance once only if the
  number of instances divides the number of counts.

  Main declarations:
    * `Balancer.chooseMany`
    * `Balancer.chooseMany_of_ne_nil`
    * `Balancer.GoesAround`
    * `Balancer.place_eq_of_not_goesAround`
    * `Balancer.chooseMany_once_iff`
    * `Balancer.chooseMany_wraps`
-/

namespace Signpost

open Text

namespace Balancer

------------------------------------------------------------
-- Choices in a Row
------------------------------------------------------------

/-
  Some choices from one list in a row: the balancer after
  them and their answers.
-/
def chooseMany
    (service : String)
    (is : List ServiceInstance) :
    Nat → Balancer →
      Balancer × List (Except GatewayError ServiceInstance)
| 0, b => (b, [])
| many + 1, b =>
    let (b, answer) := b.choose service is
    let (b, answers) := chooseMany service is many b
    (b, answer :: answers)

variable {is : List ServiceInstance}

/- Places are counted on from the next count as well. -/
theorem place_add
    (c : UInt64)
    (many n : Nat) :
    ((c + 1).toNat + many) % UInt64.size % n =
      (c.toNat + (many + 1)) % UInt64.size % n := by
  have hNext : (c + 1).toNat = (c.toNat + 1) % UInt64.size :=
    UInt64.toNat_add c 1
  rw [hNext, Nat.mod_add_mod, Nat.add_assoc, Nat.add_comm 1]

/-
  Choices in a row are of the places that the counter comes
  to, counting around the list, and each adds one to the
  counter, which begins anew after its largest value.
-/
theorem chooseMany_of_ne_nil
    (hSome : is ≠ [])
    (service : String)
    (many : Nat)
    (counts : Dict UInt64) :
    ∃ (chosen : List ServiceInstance) (counts' : Dict UInt64),
      (turns counts).chooseMany service is many =
          (turns counts', chosen.map .ok) ∧
        count counts' service =
          count counts service + UInt64.ofNat many ∧
        chosen.length = many ∧
        ∀ k < many,
          chosen[k]? =
            is[((count counts service).toNat + k) %
              UInt64.size % is.length]? := by
  induction many generalizing counts with
  | zero =>
      refine ⟨[], counts, rfl, ?_, rfl, ?_⟩
      · simp
      · intro k hk
        exact absurd hk (Nat.not_lt_zero k)
  | succ many ih =>
      rcases choose_of_ne_nil hSome (turns counts) service with
        ⟨i, hPlace, hChoose⟩
      rcases
          ih (counts.insert service (count counts service + 1))
        with ⟨chosen, counts', hMany, hCount, hLength, hChosen⟩
      rw [count_taken, if_pos rfl] at hCount hChosen
      refine ⟨i :: chosen, counts', ?_, ?_, ?_, ?_⟩
      · simp only [chooseMany, hChoose, taken, hMany,
          List.map_cons]
      · rw [hCount, UInt64.ofNat_add, UInt64.add_assoc,
          UInt64.add_comm 1]
        rfl
      · rw [List.length_cons, hLength]
      · intro k hk
        cases k with
        | zero =>
            have hSmall : (count counts service).toNat <
                UInt64.size :=
              UInt64.toNat_lt_size _
            rw [List.getElem?_cons_zero, Nat.add_zero,
              Nat.mod_eq_of_lt hSmall]
            exact hPlace.symm
        | succ k =>
            rw [List.getElem?_cons_succ,
              hChosen k (Nat.lt_of_succ_lt_succ hk), place_add]

------------------------------------------------------------
-- Going Around
------------------------------------------------------------

/-
  Counting on from a number goes around a list once: the
  counter does not begin anew on the way, or it does where
  the list begins anew as well.
-/
def GoesAround (first n : Nat) : Prop :=
  first + n ≤ UInt64.size ∨ n ∣ UInt64.size

theorem place_eq_of_goesAround
    {first n k : Nat}
    (hAround : GoesAround first n)
    (hk : k < n) :
    (first + k) % UInt64.size % n = (k + first) % n := by
  rw [Nat.add_comm k]
  rcases hAround with hShort | hDivides
  · have hBelow : first + k < UInt64.size := by omega
    rw [Nat.mod_eq_of_lt hBelow]
  · exact Nat.mod_mod_of_dvd _ hDivides

/-
  Otherwise some place is taken twice: where the counter
  begins anew the list does not.
-/
theorem place_eq_of_not_goesAround
    {first n : Nat}
    (hFirst : first < UInt64.size)
    (hNot : ¬GoesAround first n) :
    ∃ j k, j < k ∧ k < n ∧
      (first + j) % UInt64.size % n =
        (first + k) % UInt64.size % n := by
  rcases not_or.mp hNot with ⟨hLong, hDivides⟩
  have hSome : 0 < UInt64.size % n :=
    Nat.emod_pos_of_not_dvd hDivides
  have hLess : UInt64.size % n < n :=
    Nat.mod_lt _ (by omega)
  have hLeft : UInt64.size % n ≤ UInt64.size :=
    Nat.mod_le _ n
  have hWhole : n ∣ UInt64.size - UInt64.size % n :=
    Nat.dvd_sub_mod UInt64.size
  generalize UInt64.size % n = left at *
  by_cases hReached : first + left ≤ UInt64.size
  · -- The list began anew before the counter does.
    refine
      ⟨UInt64.size - first - left, UInt64.size - first,
        by omega, by omega, ?_⟩
    have hBefore :
        first + (UInt64.size - first - left) =
          UInt64.size - left := by
      omega
    have hAnew :
        first + (UInt64.size - first) = UInt64.size := by
      omega
    have hBelow : UInt64.size - left < UInt64.size := by omega
    rw [hBefore, hAnew, Nat.mod_self, Nat.zero_mod,
      Nat.mod_eq_of_lt hBelow, Nat.mod_eq_zero_of_dvd hWhole]
  · -- The counter begins anew before the list does.
    refine ⟨0, left, hSome, hLess, ?_⟩
    have hBeyond :
        (first + left) % UInt64.size =
          first - (UInt64.size - left) := by
      rw [Nat.mod_eq_sub_mod (by omega),
        Nat.mod_eq_of_lt (by omega)]
      omega
    have hSplit :
        first =
          (first - (UInt64.size - left)) +
            (UInt64.size - left) := by
      omega
    rw [Nat.add_zero, Nat.mod_eq_of_lt hFirst, hBeyond]
    conv_lhs => rw [hSplit]
    rw [Nat.add_mod, Nat.mod_eq_zero_of_dvd hWhole,
      Nat.add_zero, Nat.mod_mod]

/-
  As many choices in a row as there are instances come to
  each of them once if they go around the list.  If the
  instances are distinct they do not otherwise.
-/
theorem chooseMany_once_iff
    (service : String)
    (is : List ServiceInstance)
    (counts : Dict UInt64) :
    (GoesAround (count counts service).toNat is.length →
        ((turns counts).chooseMany service is
          is.length).2.Perm (is.map .ok)) ∧
      (is.Nodup →
        (((turns counts).chooseMany service is
            is.length).2.Perm (is.map .ok) ↔
          GoesAround (count counts service).toNat
            is.length)) := by
  have hFirst : (count counts service).toNat < UInt64.size :=
    UInt64.toNat_lt_size _
  by_cases hSome : is = []
  · subst hSome
    have hAround :
        GoesAround (count counts service).toNat 0 :=
      Or.inl (Nat.le_of_lt hFirst)
    simp [chooseMany, hAround]
  rcases chooseMany_of_ne_nil hSome service is.length counts with
    ⟨chosen, counts', hMany, -, hLength, hChosen⟩
  rw [hMany]
  have hOnce :
      GoesAround (count counts service).toNat is.length →
        (chosen.map Except.ok).Perm
          (is.map (Except.ok : _ → Except GatewayError _)) := by
    intro hAround
    have hRotated :
        chosen = is.rotate (count counts service).toNat := by
      apply List.ext_getElem?
      intro k
      by_cases hk : k < is.length
      · rw [hChosen k hk, place_eq_of_goesAround hAround hk,
          List.getElem?_rotate hk]
      · rw [List.getElem?_eq_none (by omega),
          List.getElem?_eq_none (by simpa using hk)]
    rw [hRotated]
    exact (List.rotate_perm is _).map _
  refine ⟨hOnce, fun hNodup => ⟨?_, hOnce⟩⟩
  intro hPerm
  by_contra hNot
  rcases place_eq_of_not_goesAround hFirst hNot with
    ⟨j, k, hLess, hk, hPlace⟩
  have hOk :
      Function.Injective
        (Except.ok : ServiceInstance → Except GatewayError _) :=
    fun _ _ => Except.ok.inj
  have hDistinct : chosen.Nodup :=
    ((List.map_perm_map_iff hOk).mp hPerm).nodup_iff.mpr hNodup
  have hSame : chosen[j]? = chosen[k]? := by
    rw [hChosen j (by omega), hChosen k hk, hPlace]
  have hBound : j < chosen.length := by omega
  have hEqual := (List.getElem?_inj hBound hDistinct).mp hSame
  omega

/- Three instances of a service. -/
def threeInstances : List ServiceInstance :=
  [⟨"svc", "I1", "127.0.0.1", 8081, false⟩,
    ⟨"svc", "I2", "127.0.0.1", 8082, false⟩,
    ⟨"svc", "I3", "127.0.0.1", 8083, false⟩]

/-
  When its counter is at its largest value, three choices
  from three instances come to the first of them twice and
  never to the last.  The counter is there after as many
  choices from them as that value.
-/
theorem chooseMany_wraps :
    let before :=
      (turns .empty).chooseMany "svc" threeInstances
        (UInt64.size - 1)
    let answers :=
      (before.1.chooseMany "svc" threeInstances 3).2
    threeInstances.Nodup ∧
      answers =
        [threeInstances[0], threeInstances[0],
          threeInstances[1]].map .ok ∧
      ¬answers.Perm (threeInstances.map .ok) := by
  intro before answers
  have hSome : threeInstances ≠ [] := List.cons_ne_nil _ _
  rcases chooseMany_of_ne_nil hSome "svc" (UInt64.size - 1)
      .empty with
    ⟨first, counts, hBefore, hCount, -⟩
  rcases chooseMany_of_ne_nil hSome "svc" 3 counts with
    ⟨chosen, counts', hMany, -, hLength, hChosen⟩
  have hLast : (count counts "svc").toNat = UInt64.size - 1 := by
    rw [hCount]
    rfl
  rw [hLast] at hChosen
  have hList :
      chosen =
        [threeInstances[0], threeInstances[0],
          threeInstances[1]] := by
    apply List.ext_getElem?
    intro k
    by_cases hk : k < 3
    · rw [hChosen k hk]
      interval_cases k
      · rfl
      · rfl
      · rfl
    · rw [List.getElem?_eq_none (by omega),
        List.getElem?_eq_none (Nat.le_of_not_lt hk)]
  have hAnswers : answers = chosen.map .ok := by
    simp only [answers, before, hBefore, hMany]
  rw [hAnswers, hList]
  exact ⟨by decide, rfl, by decide⟩

end Balancer

end Signpost
