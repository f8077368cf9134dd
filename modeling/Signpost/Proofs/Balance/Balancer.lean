import Mathlib.Data.Int.CardIntervalMod
import Signpost.Balance.Balancer

/-
  How taking turns goes around a list of instances, and how
  often it comes to each of them.

  Main declarations:
    * `Balancer.choose_nil`
    * `Balancer.choose_of_ne_nil`
    * `Balancer.count_taken`
    * `Balancer.count_mod_eq`
    * `Balancer.count_around`
-/

namespace Signpost

open Text

namespace Balancer

------------------------------------------------------------
-- One Choice
------------------------------------------------------------

/- Going around comes to every place of a list. -/
theorem around_eq_some
    {is : List ServiceInstance}
    (hSome : is ≠ [])
    (place : Nat) :
    ∃ i, is[place % is.length]? = some i ∧
      around place is = some i := by
  have hPlace : place % is.length < is.length :=
    Nat.mod_lt place (List.length_pos_iff.mpr hSome)
  exact
    ⟨is[place % is.length], by simp [hPlace],
      by simp [around, hPlace]⟩

/- Without instances there is no choice, and no turn. -/
theorem choose_nil
    (b : Balancer)
    (service : String) :
    b.choose service [] = (b, .error (.noInstances service)) := by
  simp [choose, around]

/- With instances there is a choice, and one turn is taken. -/
theorem choose_of_ne_nil
    {is : List ServiceInstance}
    (hSome : is ≠ [])
    (b : Balancer)
    (service : String) :
    ∃ i, is[b.place service % is.length]? = some i ∧
      b.choose service is = (b.taken service, .ok i) := by
  obtain ⟨i, hPlace, hAround⟩ :=
    around_eq_some hSome (b.place service)
  exact ⟨i, hPlace, by simp [choose, hAround]⟩

/- A turn counts for its own service only. -/
theorem count_taken
    (counts : Dict UInt64)
    (service other : String) :
    count (counts.insert service (count counts service + 1))
        other =
      if other = service then count counts service + 1
      else count counts other := by
  unfold count
  by_cases hSame : other = service
  · subst hSame
    simp
  · simp [hSame, Dict.get?_insert_of_ne]

------------------------------------------------------------
-- Many Choices
------------------------------------------------------------

/-
  Of some numbers in a row the share of each remainder is
  the same up to one.
-/
theorem count_mod_eq
    {n j : Nat}
    (hj : j < n)
    (first many : Nat) :
    Nat.count (fun k => (first + k) % n = j) many = many / n ∨
      Nat.count (fun k => (first + k) % n = j) many =
        (many + n - 1) / n := by
  have hPos : 0 < n := by omega
  have hUpTo :
      ∀ m, Nat.count (fun k => k % n = j) m =
        m / n + if j < m % n then 1 else 0 := by
    intro m
    have hCount := Nat.count_modEq_card m hPos j
    simpa [Nat.ModEq, Nat.mod_eq_of_lt hj] using hCount
  have hSplit :=
    Nat.count_add (fun k => k % n = j) first many
  rw [hUpTo, hUpTo] at hSplit
  have hCeil :
      (many + n - 1) / n =
        many / n + if many % n = 0 then 0 else 1 := by
    have hSum : many + n - 1 = many + (n - 1) := by omega
    have hPred : n - 1 < n := by omega
    rw [hSum, Nat.add_div hPos, Nat.div_eq_of_lt hPred,
      Nat.mod_eq_of_lt hPred]
    by_cases hZero : many % n = 0
    · rw [if_neg (by omega), if_pos hZero]
    · rw [if_pos (by omega), if_neg hZero]
  have hFirst := Nat.mod_lt first hPos
  have hMany := Nat.mod_lt many hPos
  rw [Nat.add_div hPos, Nat.add_mod] at hSplit
  rw [hCeil]
  -- Whether the remainders carry over decides which place
  -- the row ends at.
  by_cases hCarry : n ≤ first % n + many % n
  · have hEnd :
        (first % n + many % n) % n =
          first % n + many % n - n := by
      rw [Nat.mod_eq_sub_mod hCarry,
        Nat.mod_eq_of_lt (by omega)]
    rw [if_pos hCarry, hEnd] at hSplit
    split_ifs at hSplit ⊢ <;> omega
  · have hEnd :
        (first % n + many % n) % n =
          first % n + many % n :=
      Nat.mod_eq_of_lt (by omega)
    rw [if_neg hCarry, hEnd] at hSplit
    split_ifs at hSplit ⊢ <;> omega

/-
  Whoever goes around a list without repetitions comes to
  each of its instances equally often, up to one.
-/
theorem count_around
    {is chosen : List ServiceInstance}
    (hNodup : is.Nodup)
    (first : Nat)
    (hChosen :
      ∀ k i, chosen[k]? = some i →
        is[(first + k) % is.length]? = some i)
    {i : ServiceInstance}
    (hMember : i ∈ is) :
    chosen.count i = chosen.length / is.length ∨
      chosen.count i =
        (chosen.length + is.length - 1) / is.length := by
  obtain ⟨j, hj, rfl⟩ := List.getElem_of_mem hMember
  have hPlaces :
      chosen.map (fun i => decide (i = is[j])) =
        (List.range chosen.length).map fun k =>
          decide ((first + k) % is.length = j) := by
    apply List.ext_getElem
    · simp
    · intro k hk _
      rw [List.length_map] at hk
      have hPlace :=
        hChosen k chosen[k] (List.getElem?_eq_getElem hk)
      obtain ⟨hBound, hEq⟩ :=
        List.getElem?_eq_some_iff.mp hPlace
      simp only [List.getElem_map, List.getElem_range,
        ← hEq, hNodup.getElem_inj_iff]
  have hCount :
      chosen.count is[j] =
        Nat.count (fun k => (first + k) % is.length = j)
          chosen.length := by
    have hBoth := congrArg (List.countP id) hPlaces
    simpa [List.countP_map, Function.comp_def, Nat.count,
      List.count_eq_countP, beq_eq_decide] using hBoth
  rw [hCount]
  exact count_mod_eq hj first chosen.length

end Balancer

end Signpost
