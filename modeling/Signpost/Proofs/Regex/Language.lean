import Mathlib.Data.List.Basic
import Signpost.Regex.Basic

/-
  Searching for an expression finds exactly what its
  language says.

  Main declarations:
    * `Regex.Places`
    * `Regex.Rounds` and `Regex.matches_times_iff`
    * `Regex.mem_grow_iff`
    * `Regex.Proper`
    * `Regex.Takes` and `Regex.takes_ends`
    * `Regex.isMatch_iff`
    * `Regex.isMatch_enclosed_iff`
-/

namespace Signpost

namespace Regex

variable {text : Array Char}

------------------------------------------------------------
-- Lists of Positions
------------------------------------------------------------

/- Positions of a text, each of them once, the last first. -/
structure Places
    (text : Array Char)
    (ps : List Nat) : Prop where
  descending : ps.Pairwise fun i j => j < i
  le_size : ∀ i ∈ ps, i ≤ text.size

theorem mem_merge_iff
    {is js : List Nat}
    {k : Nat} :
    k ∈ merge is js ↔ k ∈ is ∨ k ∈ js := by
  fun_induction merge is js with
  | case1 js => simp
  | case2 is hNonempty => simp
  | case3 is i js ih =>
      simp only [List.mem_cons, ih]
      tauto
  | case4 i is j js hNe hLt ih =>
      simp only [List.mem_cons, ih]
      tauto
  | case5 i is j js hNe hLt ih =>
      simp only [List.mem_cons, ih]
      tauto

/- What is below both heads is below all of a merged list. -/
theorem descending_merge
    {is js : List Nat}
    (hLeft : is.Pairwise fun i j => j < i)
    (hRight : js.Pairwise fun i j => j < i) :
    (merge is js).Pairwise fun i j => j < i := by
  fun_induction merge is js with
  | case1 js => exact hRight
  | case2 is hNonempty => exact hLeft
  | case3 is i js ih =>
      rw [List.pairwise_cons] at hLeft hRight ⊢
      refine ⟨?_, ih hLeft.2 hRight.2⟩
      intro k hk
      rcases mem_merge_iff.mp hk with hk | hk
      · exact hLeft.1 k hk
      · exact hRight.1 k hk
  | case4 i is j js hNe hLt ih =>
      have hBelow := List.pairwise_cons.mp hRight
      rw [List.pairwise_cons] at hLeft ⊢
      refine ⟨?_, ih hLeft.2 hRight⟩
      intro k hk
      rcases mem_merge_iff.mp hk with hk | hk
      · exact hLeft.1 k hk
      · rcases List.mem_cons.mp hk with rfl | hk
        · exact hLt
        · exact Nat.lt_trans (hBelow.1 k hk) hLt
  | case5 i is j js hNe hLt ih =>
      have hBelow := List.pairwise_cons.mp hLeft
      rw [List.pairwise_cons] at hRight ⊢
      refine ⟨?_, ih hLeft hRight.2⟩
      intro k hk
      have hij : i < j := by omega
      rcases mem_merge_iff.mp hk with hk | hk
      · rcases List.mem_cons.mp hk with rfl | hk
        · exact hij
        · exact Nat.lt_trans (hBelow.1 k hk) hij
      · exact hRight.1 k hk

theorem sublist_without
    (is js : List Nat) :
    (without is js).Sublist is := by
  fun_induction without is js with
  | case1 js => exact List.Sublist.refl _
  | case2 is hNonempty => exact List.Sublist.refl _
  | case3 is i js ih => exact ih.cons i
  | case4 i is j js hNe hLt ih => exact ih.cons_cons i
  | case5 i is j js hNe hLt ih => exact ih

/- What comes before the head of a descending list is new. -/
theorem mem_without_iff
    {is js : List Nat}
    (hLeft : is.Pairwise fun i j => j < i)
    (hRight : js.Pairwise fun i j => j < i)
    {k : Nat} :
    k ∈ without is js ↔ k ∈ is ∧ k ∉ js := by
  fun_induction without is js with
  | case1 js => simp
  | case2 is hNonempty => simp
  | case3 is i js ih =>
      have hBelow := List.pairwise_cons.mp hLeft
      have hOther := List.pairwise_cons.mp hRight
      rw [ih hBelow.2 hOther.2]
      have hFirst : k ∈ is → k ≠ i := by
        intro hk
        exact Nat.ne_of_lt (hBelow.1 k hk)
      simp only [List.mem_cons]
      tauto
  | case4 i is j js hNe hLt ih =>
      have hBelow := List.pairwise_cons.mp hLeft
      have hOther := List.pairwise_cons.mp hRight
      have hNew : i ∉ j :: js := by
        intro hMember
        rcases List.mem_cons.mp hMember with hEq | hMember
        · exact hNe hEq
        · have hLower := hOther.1 i hMember
          omega
      simp only [List.mem_cons, ih hBelow.2 hRight]
      constructor
      · rintro (rfl | hk)
        · exact ⟨Or.inl rfl, by simpa using hNew⟩
        · exact ⟨Or.inr hk.1, hk.2⟩
      · rintro ⟨hk | hk, hNot⟩
        · exact Or.inl hk
        · exact Or.inr ⟨hk, hNot⟩
  | case5 i is j js hNe hLt ih =>
      have hBelow := List.pairwise_cons.mp hLeft
      have hOther := List.pairwise_cons.mp hRight
      have hij : i < j := by omega
      have hLower : k ∈ i :: is → k ≠ j := by
        intro hk
        rcases List.mem_cons.mp hk with rfl | hk
        · omega
        · have := hBelow.1 k hk
          omega
      rw [ih hLeft hOther.2, List.mem_cons (a := k) (b := j)]
      tauto

namespace Places

variable {is js : List Nat}

theorem positions
    (text : Array Char) :
    Places text (positions text) where
  descending := by
    rw [Regex.positions, List.pairwise_reverse]
    exact List.pairwise_lt_range
  le_size := by
    intro i hi
    rw [Regex.positions, List.mem_reverse,
      List.mem_range] at hi
    exact Nat.le_of_lt_succ hi

theorem merge
    (hLeft : Places text is)
    (hRight : Places text js) :
    Places text (merge is js) where
  descending :=
    descending_merge hLeft.descending hRight.descending
  le_size := by
    intro i hi
    rcases mem_merge_iff.mp hi with hi | hi
    · exact hLeft.le_size i hi
    · exact hRight.le_size i hi

theorem sublist
    (hPlaces : Places text is)
    (hSublist : js.Sublist is) :
    Places text js where
  descending := hPlaces.descending.sublist hSublist
  le_size i hi := hPlaces.le_size i (hSublist.subset hi)

end Places

------------------------------------------------------------
-- Rounds
------------------------------------------------------------

/- A number of steps lead from one position to another. -/
inductive Rounds (step : Nat → Nat → Prop) :
    Nat → Nat → Nat → Prop where
| none (i : Nat) : Rounds step 0 i i
| more
    {n i j k : Nat}
    (first : step i j)
    (rest : Rounds step n j k) :
    Rounds step (n + 1) i k

section Rounds

variable {step : Nat → Nat → Prop}

theorem rounds_zero_iff
    {i j : Nat} :
    Rounds step 0 i j ↔ i = j := by
  constructor
  · intro hRounds
    cases hRounds
    rfl
  · rintro rfl
    exact .none i

theorem rounds_succ_iff
    {n i k : Nat} :
    Rounds step (n + 1) i k ↔
      ∃ j, step i j ∧ Rounds step n j k := by
  constructor
  · intro hRounds
    cases hRounds with
    | more hFirst hRest => exact ⟨_, hFirst, hRest⟩
  · rintro ⟨j, hFirst, hRest⟩
    exact .more hFirst hRest

theorem rounds_add_iff
    {m n i k : Nat} :
    Rounds step (m + n) i k ↔
      ∃ j, Rounds step m i j ∧ Rounds step n j k := by
  induction m generalizing i with
  | zero =>
      rw [Nat.zero_add]
      constructor
      · intro hRounds
        exact ⟨i, .none i, hRounds⟩
      · rintro ⟨j, hNone, hRounds⟩
        rw [rounds_zero_iff.mp hNone]
        exact hRounds
  | succ m ih =>
      rw [Nat.succ_add, rounds_succ_iff]
      constructor
      · rintro ⟨j, hFirst, hRest⟩
        rcases ih.mp hRest with ⟨l, hLeft, hRight⟩
        exact ⟨l, .more hFirst hLeft, hRight⟩
      · rintro ⟨l, hLeft, hRight⟩
        rcases rounds_succ_iff.mp hLeft with
          ⟨j, hFirst, hRest⟩
        exact ⟨j, hFirst, ih.mpr ⟨l, hRest, hRight⟩⟩

/- What every step keeps is kept in several rounds. -/
theorem Rounds.keeps
    {P : Nat → Prop}
    (hStep : ∀ i j, step i j → P i → P j)
    {n i j : Nat}
    (hRounds : Rounds step n i j)
    (hStart : P i) :
    P j := by
  induction hRounds with
  | none i => exact hStart
  | more hFirst _ ih => exact ih (hStep _ _ hFirst hStart)

/-
  Rounds that do not get ahead can be left out, so no more
  of them are needed than there are positions to pass.
-/
theorem Rounds.exists_short
    (hStep : ∀ i j, step i j → i ≤ j)
    {n i k : Nat}
    (hRounds : Rounds step n i k) :
    ∃ m ≤ k - i, Rounds step m i k := by
  induction hRounds with
  | none i => exact ⟨0, Nat.zero_le _, .none i⟩
  | @more n i j k hFirst hRest ih =>
      rcases ih with ⟨m, hm, hShort⟩
      have hij := hStep i j hFirst
      have hjk : j ≤ k :=
        hRest.keeps (P := fun l => j ≤ l)
          (fun l l' h hl => Nat.le_trans hl (hStep l l' h))
          (Nat.le_refl j)
      rcases Nat.eq_or_lt_of_le hij with rfl | hAhead
      · exact ⟨m, hm, hShort⟩
      · exact ⟨m + 1, by omega, .more hFirst hShort⟩

end Rounds

------------------------------------------------------------
-- Languages
------------------------------------------------------------

/- A repetition is some number of rounds that it allows. -/
theorem matches_times_iff
    {a : Regex}
    {least : Nat}
    {most : Option Nat}
    {i k : Nat} :
    Matches text (.times a least most) i k ↔
      ∃ n, least ≤ n ∧ (∀ m, most = some m → n ≤ m) ∧
        Rounds (Matches text a) n i k := by
  constructor
  · intro hMatches
    generalize hTimes : Regex.times a least most = r
      at hMatches
    induction hMatches generalizing least most with
    | stop i =>
        cases hTimes
        exact
          ⟨0, Nat.le_refl 0, fun m _ => Nat.zero_le m, .none i⟩
    | more hRoom hFirst _ _ ih =>
        cases hTimes
        rcases ih rfl with ⟨n, hLeast, hMost, hRounds⟩
        refine ⟨n + 1, by omega, ?_, .more hFirst hRounds⟩
        intro m hm
        have hBound := hMost (m - 1) (by simp [hm])
        have hPositive : m ≠ 0 := by
          rintro rfl
          exact hRoom hm
        omega
    | _ => cases hTimes
  · rintro ⟨n, hLeast, hMost, hRounds⟩
    induction hRounds generalizing least most with
    | none i =>
        rw [Nat.le_zero.mp hLeast]
        exact .stop i
    | @more n i j k hFirst _ ih =>
        apply Matches.more ?_ hFirst
        · apply ih
          · omega
          · intro m hm
            rcases Option.map_eq_some_iff.mp hm with
              ⟨m', hm', rfl⟩
            have hBound := hMost m' hm'
            omega
        · intro hZero
          have hBound := hMost 0 hZero
          omega

/- A match never leads back, nor beyond the end. -/
theorem Matches.le
    {r : Regex}
    {i j : Nat}
    (hMatches : Matches text r i j) :
    i ≤ j ∧ (i ≤ text.size → j ≤ text.size) := by
  induction hMatches with
  | chars hHere _ =>
      have hBound :=
        (Array.getElem?_eq_some_iff.mp hHere).1
      omega
  | cat _ _ ihFirst ihSecond => omega
  | more _ _ _ ihFirst ihRest => omega
  | altLeft _ ih => exact ih
  | altRight _ ih => exact ih
  | group _ ih => exact ih
  | _ => exact ⟨Nat.le_refl _, fun h => h⟩

------------------------------------------------------------
-- Repeated Steps
------------------------------------------------------------

/-
  A function takes the steps of a relation from positions of
  a text to positions of it.
-/
structure Takes
    (text : Array Char)
    (step : Nat → Nat → Prop)
    (f : List Nat → List Nat) : Prop where
  places : ∀ ps, Places text ps → Places text (f ps)
  mem_iff :
    ∀ ps, Places text ps →
      ∀ j, j ∈ f ps ↔ ∃ i ∈ ps, step i j

section Repeated

variable {step : Nat → Nat → Prop}
variable {f : List Nat → List Nat}

theorem Takes.repeated
    (hTakes : Takes text step f)
    (n : Nat) :
    Takes text (Rounds step n) (repeated f n) := by
  induction n with
  | zero =>
      refine ⟨fun ps h => h, ?_⟩
      intro ps _ j
      simp [Regex.repeated, rounds_zero_iff]
  | succ n ih =>
      constructor
      · intro ps hPlaces
        unfold Regex.repeated
        split
        · exact ⟨List.Pairwise.nil, by simp⟩
        · exact ih.places _ (hTakes.places ps hPlaces)
      · intro ps hPlaces k
        unfold Regex.repeated
        split
        · rename_i hEmpty
          simp [List.isEmpty_iff.mp hEmpty]
        · rw [ih.mem_iff _ (hTakes.places ps hPlaces)]
          simp only [hTakes.mem_iff ps hPlaces,
            rounds_succ_iff]
          constructor
          · rintro ⟨j, ⟨i, hi, hFirst⟩, hRest⟩
            exact ⟨i, hi, j, hFirst, hRest⟩
          · rintro ⟨i, hi, j, hFirst, hRest⟩
            exact ⟨j, ⟨i, hi, hFirst⟩, hRest⟩

/-
  Growing from positions adds what some rounds reach.  The
  induction needs that nothing is missed: a step from a
  position that is not fresh leads to one seen already.
-/
theorem mem_grow_iff
    (hTakes : Takes text step f)
    {n : Nat}
    {seen fresh : List Nat}
    (hSeen : Places text seen)
    (hFresh : Places text fresh)
    (hSubset : ∀ i ∈ fresh, i ∈ seen)
    (hClosed :
      ∀ i ∈ seen, i ∉ fresh → ∀ j, step i j → j ∈ seen) :
    Places text (grow f n seen fresh) ∧
      ∀ k, k ∈ grow f n seen fresh ↔
        ∃ m ≤ n, ∃ i ∈ seen, Rounds step m i k := by
  induction n generalizing seen fresh with
  | zero =>
      refine ⟨hSeen, ?_⟩
      intro k
      simp [grow, rounds_zero_iff]
  | succ n ih =>
      have hStepped := hTakes.places fresh hFresh
      have hNew :
          ∀ j, j ∈ without (f fresh) seen ↔
            (∃ i ∈ fresh, step i j) ∧ j ∉ seen := by
        intro j
        rw [mem_without_iff hStepped.descending
            hSeen.descending,
          hTakes.mem_iff fresh hFresh]
      -- One step from what was seen leads to what was seen
      -- or is new.
      have hNext :
          ∀ i ∈ seen, ∀ j, step i j →
            j ∈ seen ∨ j ∈ without (f fresh) seen := by
        intro i hi j hij
        by_cases hj : j ∈ seen
        · exact Or.inl hj
        · by_cases hif : i ∈ fresh
          · exact Or.inr ((hNew j).mpr ⟨⟨i, hif, hij⟩, hj⟩)
          · exact absurd (hClosed i hi hif j hij) hj
      simp only [grow]
      split
      · rename_i hEmpty
        refine ⟨hSeen, ?_⟩
        intro k
        constructor
        · intro hk
          exact ⟨0, Nat.zero_le _, k, hk, .none k⟩
        · rintro ⟨m, -, i, hi, hRounds⟩
          apply hRounds.keeps (P := fun j => j ∈ seen) ?_ hi
          intro j l hjl hj
          rcases hNext j hj l hjl with hl | hl
          · exact hl
          · simp [List.isEmpty_iff.mp hEmpty] at hl
      · have hAdded :
            Places text (without (f fresh) seen) :=
          hStepped.sublist (sublist_without _ _)
        have hStill :
            ∀ i ∈ Regex.merge (without (f fresh) seen) seen,
              i ∉ without (f fresh) seen →
                ∀ j, step i j →
                  j ∈ Regex.merge (without (f fresh) seen)
                    seen := by
          intro i hi hOld j hij
          rw [mem_merge_iff] at hi ⊢
          exact
            (hNext i (hi.resolve_left hOld) j hij).symm
        rcases
            ih (hAdded.merge hSeen) hAdded
              (fun i hi => mem_merge_iff.mpr (Or.inl hi)) hStill with
          ⟨hPlaces, hGrown⟩
        refine ⟨hPlaces, ?_⟩
        intro k
        rw [hGrown]
        constructor
        · rintro ⟨m, hm, i, hi, hRounds⟩
          rcases mem_merge_iff.mp hi with hi | hi
          · rcases ((hNew i).mp hi).1 with ⟨j, hj, hji⟩
            exact
              ⟨m + 1, Nat.succ_le_succ hm, j,
                hSubset j hj, .more hji hRounds⟩
          · exact ⟨m, Nat.le_succ_of_le hm, i, hi, hRounds⟩
        · rintro ⟨m, hm, i, hi, hRounds⟩
          cases hRounds with
          | none =>
              exact
                ⟨0, Nat.zero_le _, k,
                  mem_merge_iff.mpr (Or.inr hi), .none k⟩
          | @more m _ j _ hFirst hRest =>
              exact
                ⟨m, Nat.le_of_succ_le_succ hm, j,
                  mem_merge_iff.mpr (hNext i hi j hFirst).symm,
                  hRest⟩

/-
  Growing from where a number of steps leads takes that many
  steps and some more.
-/
theorem Takes.grown
    (hTakes : Takes text step f)
    (least n : Nat) :
    Takes text
      (fun i k => ∃ m ≤ n, Rounds step (least + m) i k)
      fun ps =>
        grow f n (Regex.repeated f least ps)
          (Regex.repeated f least ps) := by
  have hRepeated := hTakes.repeated least
  have hGrown :=
    fun ps (hPlaces : Places text ps) =>
      mem_grow_iff (n := n) hTakes
        (hRepeated.places ps hPlaces)
        (hRepeated.places ps hPlaces)
        (fun i hi => hi) fun i hi hOld => absurd hi hOld
  refine ⟨fun ps hPlaces => (hGrown ps hPlaces).1, ?_⟩
  intro ps hPlaces k
  simp only [(hGrown ps hPlaces).2,
    hRepeated.mem_iff ps hPlaces, rounds_add_iff]
  constructor
  · rintro ⟨m, hm, j, ⟨i, hi, hLeft⟩, hRight⟩
    exact ⟨i, hi, m, hm, j, hLeft, hRight⟩
  · rintro ⟨i, hi, m, hm, j, hLeft, hRight⟩
    exact ⟨m, hm, j, ⟨i, hi, hLeft⟩, hRight⟩

end Repeated

------------------------------------------------------------
-- Searching
------------------------------------------------------------

/- No repetition asks for more rounds than it allows. -/
def Proper : Regex → Prop
| .cat a b => a.Proper ∧ b.Proper
| .alt a b => a.Proper ∧ b.Proper
| .times a least most =>
    a.Proper ∧ ∀ m, most = some m → least ≤ m
| .group a => a.Proper
| _ => True

/- Repeating takes the rounds that a repetition allows. -/
theorem takes_times
    {a : Regex}
    {least : Nat}
    {most : Option Nat}
    (hTakes : Takes text (Matches text a) (a.ends text))
    (hMost : ∀ m, most = some m → least ≤ m) :
    Takes text (Matches text (.times a least most))
      (ends text (.times a least most)) := by
  cases most with
  | some most =>
      have hLeast := hMost most rfl
      have hGrown := hTakes.grown least (most - least)
      refine ⟨hGrown.places, ?_⟩
      intro ps hPlaces k
      simp only [matches_times_iff]
      refine (hGrown.mem_iff ps hPlaces k).trans ?_
      constructor
      · rintro ⟨i, hi, m, hm, hRounds⟩
        refine
          ⟨i, hi, least + m, Nat.le_add_right _ _, ?_, hRounds⟩
        intro m' hm'
        cases hm'
        omega
      · rintro ⟨i, hi, n, hLow, hHigh, hRounds⟩
        have hn := hHigh most rfl
        refine ⟨i, hi, n - least, by omega, ?_⟩
        rwa [Nat.add_sub_cancel' hLow]
  | none =>
      have hGrown := hTakes.grown least (text.size + 1)
      refine ⟨hGrown.places, ?_⟩
      intro ps hPlaces k
      simp only [matches_times_iff]
      refine (hGrown.mem_iff ps hPlaces k).trans ?_
      constructor
      · rintro ⟨i, hi, m, -, hRounds⟩
        exact
          ⟨i, hi, least + m, Nat.le_add_right _ _, by simp,
            hRounds⟩
      · rintro ⟨i, hi, n, hLow, -, hRounds⟩
        have hk : k ≤ text.size :=
          hRounds.keeps (P := fun l => l ≤ text.size)
            (fun l l' h => h.le.2) (hPlaces.le_size i hi)
        -- Only rounds after the least number of them may be
        -- left out.
        rw [← Nat.add_sub_cancel' hLow, rounds_add_iff]
          at hRounds
        rcases hRounds with ⟨j, hFirst, hRest⟩
        rcases hRest.exists_short fun l l' h => h.le.1 with
          ⟨m, hm, hShort⟩
        refine ⟨i, hi, m, by omega, ?_⟩
        exact rounds_add_iff.mpr ⟨j, hFirst, hShort⟩

/- Reading one character goes from each position by one. -/
theorem takes_chars
    (text : Array Char)
    (s : CharSet) :
    Takes text (Matches text (.chars s))
      (ends text (.chars s)) := by
  have hEnds :
      ∀ ps j, j ∈ ends text (.chars s) ps ↔
        ∃ i ∈ ps, Matches text (.chars s) i j := by
    intro ps j
    rw [ends, List.mem_filterMap]
    constructor
    · rintro ⟨i, hi, hEnd⟩
      split at hEnd
      · rename_i c hHere
        split at hEnd
        · rename_i hMem
          cases hEnd
          exact ⟨i, hi, .chars hHere hMem⟩
        · cases hEnd
      · cases hEnd
    · rintro ⟨i, hi, hMatches⟩
      cases hMatches with
      | chars hHere hMem =>
          exact ⟨i, hi, by simp [hHere, hMem]⟩
  refine ⟨?_, fun ps _ => hEnds ps⟩
  intro ps hPlaces
  constructor
  · apply hPlaces.descending.filterMap
    intro i j hLt i' hi' j' hj'
    split at hi' <;> try cases hi'
    split at hj' <;> try cases hj'
    split at hi' <;> cases hi'
    split at hj' <;> cases hj'
    exact Nat.succ_lt_succ hLt
  · intro j hj
    rcases (hEnds ps j).mp hj with ⟨i, hi, hMatches⟩
    exact hMatches.le.2 (hPlaces.le_size i hi)

/-
  The positions that are found are those where a match ends
  that starts at one of the given positions.
-/
theorem takes_ends
    (text : Array Char)
    {r : Regex}
    (hProper : r.Proper) :
    Takes text (Matches text r) (r.ends text) := by
  induction r with
  | empty =>
      refine ⟨fun ps h => h, ?_⟩
      intro ps _ j
      constructor
      · intro hj
        exact ⟨j, hj, .empty j⟩
      · rintro ⟨i, hi, hMatches⟩
        cases hMatches
        exact hi
  | chars s => exact takes_chars text s
  | look l =>
      refine ⟨fun ps h => h.sublist List.filter_sublist, ?_⟩
      intro ps _ j
      rw [ends, List.mem_filter]
      constructor
      · rintro ⟨hj, hHolds⟩
        exact ⟨j, hj, .look hHolds⟩
      · rintro ⟨i, hi, hMatches⟩
        cases hMatches with
        | look hHolds => exact ⟨hi, hHolds⟩
  | cat a b ihA ihB =>
      have hA := ihA hProper.1
      have hB := ihB hProper.2
      refine
        ⟨fun ps h => hB.places _ (hA.places ps h), ?_⟩
      intro ps hPlaces k
      rw [ends, hB.mem_iff _ (hA.places ps hPlaces)]
      simp only [hA.mem_iff ps hPlaces]
      constructor
      · rintro ⟨j, ⟨i, hi, hFirst⟩, hSecond⟩
        exact ⟨i, hi, .cat hFirst hSecond⟩
      · rintro ⟨i, hi, hMatches⟩
        cases hMatches with
        | cat hFirst hSecond =>
            exact ⟨_, ⟨i, hi, hFirst⟩, hSecond⟩
  | alt a b ihA ihB =>
      have hA := ihA hProper.1
      have hB := ihB hProper.2
      refine
        ⟨fun ps h => (hA.places ps h).merge (hB.places ps h),
          ?_⟩
      intro ps hPlaces j
      rw [ends, mem_merge_iff, hA.mem_iff ps hPlaces,
        hB.mem_iff ps hPlaces]
      constructor
      · rintro (⟨i, hi, hLeft⟩ | ⟨i, hi, hRight⟩)
        · exact ⟨i, hi, .altLeft hLeft⟩
        · exact ⟨i, hi, .altRight hRight⟩
      · rintro ⟨i, hi, hMatches⟩
        cases hMatches with
        | altLeft hLeft => exact Or.inl ⟨i, hi, hLeft⟩
        | altRight hRight => exact Or.inr ⟨i, hi, hRight⟩
  | times a least most ih =>
      exact takes_times (ih hProper.1) hProper.2
  | group a ih =>
      have hA := ih hProper
      refine ⟨hA.places, ?_⟩
      intro ps hPlaces j
      rw [ends, hA.mem_iff ps hPlaces]
      constructor
      · rintro ⟨i, hi, hInside⟩
        exact ⟨i, hi, .group hInside⟩
      · rintro ⟨i, hi, hMatches⟩
        cases hMatches with
        | group hInside => exact ⟨i, hi, hInside⟩

/-
  An expression is found in a text if it matches between
  some of its positions.
-/
theorem isMatch_iff
    {r : Regex}
    (hProper : r.Proper)
    (s : String) :
    r.isMatch s = true ↔
      ∃ i ≤ s.length, ∃ j,
        Matches s.toList.toArray r i j := by
  have hPlaces := Places.positions s.toList.toArray
  have hEnds :=
    (takes_ends s.toList.toArray hProper).mem_iff _ hPlaces
  have hPosition :
      ∀ i, i ∈ positions s.toList.toArray ↔ i ≤ s.length := by
    intro i
    rw [positions, List.mem_reverse, List.mem_range,
      List.size_toArray, String.length_toList, Nat.lt_succ_iff]
  simp only [isMatch, Bool.not_eq_true',
    List.isEmpty_eq_false_iff_exists_mem, hEnds, hPosition]
  constructor
  · rintro ⟨j, i, hi, hMatches⟩
    exact ⟨i, hi, j, hMatches⟩
  · rintro ⟨i, hi, j, hMatches⟩
    exact ⟨j, i, hi, hMatches⟩

/- An expression that has to reach from end to end. -/
def enclosed (r : Regex) : Regex :=
  .cat (.look .textStart) (.cat r (.look .textEnd))

theorem matches_look_iff
    {l : Look}
    {i j : Nat} :
    Matches text (.look l) i j ↔
      i = j ∧ l.holdsAt text i = true := by
  constructor
  · intro hMatches
    cases hMatches with
    | look hHolds => exact ⟨rfl, hHolds⟩
  · rintro ⟨rfl, hHolds⟩
    exact .look hHolds

theorem matches_cat_iff
    {a b : Regex}
    {i k : Nat} :
    Matches text (.cat a b) i k ↔
      ∃ j, Matches text a i j ∧ Matches text b j k := by
  constructor
  · intro hMatches
    cases hMatches with
    | cat hFirst hSecond => exact ⟨_, hFirst, hSecond⟩
  · rintro ⟨j, hFirst, hSecond⟩
    exact .cat hFirst hSecond

/- Only the first position has nothing before it. -/
theorem holdsAt_textStart_iff
    {i : Nat}
    (hi : i ≤ text.size) :
    Look.textStart.holdsAt text i = true ↔ i = 0 := by
  unfold Look.holdsAt
  simp only [Look.holds, Option.isNone_iff_eq_none]
  split
  · simp [*]
  · rw [Array.getElem?_eq_none_iff]
    omega

/- Only the last position has nothing after it. -/
theorem holdsAt_textEnd_iff
    {i : Nat}
    (hi : i ≤ text.size) :
    Look.textEnd.holdsAt text i = true ↔ i = text.size := by
  unfold Look.holdsAt
  simp only [Look.holds, Option.isNone_iff_eq_none,
    Array.getElem?_eq_none_iff]
  omega

/-
  Between the start and the end of the text an expression is
  found just in the texts of its language.
-/
theorem isMatch_enclosed_iff
    {r : Regex}
    (hProper : r.Proper)
    (s : String) :
    r.enclosed.isMatch s = true ↔ r.Accepts s := by
  have hEnclosed : r.enclosed.Proper :=
    ⟨trivial, hProper, trivial⟩
  have hSize : s.toList.toArray.size = s.length := by
    rw [List.size_toArray, String.length_toList]
  rw [isMatch_iff hEnclosed]
  simp only [enclosed, matches_cat_iff, matches_look_iff]
  constructor
  · rintro ⟨i, hi, k, i', ⟨rfl, hStart⟩, j, hInside, rfl, hEnd⟩
    have hj := hInside.le.2 (by omega)
    rw [holdsAt_textStart_iff (by omega)] at hStart
    rw [holdsAt_textEnd_iff hj, hSize] at hEnd
    rw [hStart, hEnd] at hInside
    exact hInside
  · intro hAccepts
    refine
      ⟨0, Nat.zero_le _, s.length, 0, ⟨rfl, ?_⟩, s.length,
        hAccepts, rfl, ?_⟩
    · exact (holdsAt_textStart_iff (Nat.zero_le _)).mpr rfl
    · exact
        (holdsAt_textEnd_iff (Nat.le_of_eq hSize.symm)).mpr
          hSize.symm

end Regex

end Signpost
