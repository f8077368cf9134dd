import Mathlib.Data.List.Nodup
import Signpost.Text.Distinct

/-
  Dividing values by their names keeps exactly those values
  whose name no earlier value has.

  Main declarations:
    * `Distinct.firsts` and `Distinct.repeats`
    * `Distinct.kept_ofList`
    * `Distinct.dropped_ofList`
    * `Distinct.nodup_kept_ofList`
    * `Distinct.name_mem_kept_ofList`
    * `Distinct.divide_map`
-/

namespace Signpost.Text

namespace Distinct

variable {α : Type}

------------------------------------------------------------
-- First and Later Values of a Name
------------------------------------------------------------

/- Some value has a name. -/
def named
    (name : α → String)
    (n : String)
    (xs : List α) : Bool :=
  xs.any fun x => name x = n

/- The values whose name no value before them has. -/
def firsts (name : α → String) (xs : List α) : List α :=
  (xs.zipIdx.filter fun e =>
    !named name (name e.1) (xs.take e.2)).map Prod.fst

/- The values whose name some value before them has. -/
def repeats (name : α → String) (xs : List α) : List α :=
  (xs.zipIdx.filter fun e =>
    named name (name e.1) (xs.take e.2)).map Prod.fst

/-
  What is kept and dropped after some values whose names are
  the ones in use.  The values before are carried along, so
  that the places are places in the whole list.
-/
private theorem divide_eq
    (name : α → String)
    (before xs : List α)
    {used : List String}
    (hUsed : ∀ n, used.contains n = named name n before) :
    (divide name used xs).kept =
        ((xs.zipIdx before.length).filter fun e =>
          !named name (name e.1)
            ((before ++ xs).take e.2)).map Prod.fst ∧
      (divide name used xs).dropped =
        ((xs.zipIdx before.length).filter fun e =>
          named name (name e.1)
            ((before ++ xs).take e.2)).map Prod.fst := by
  induction xs generalizing before used with
  | nil => simp [divide]
  | cons x xs ih =>
      have hWhole :
          before ++ x :: xs = (before ++ [x]) ++ xs := by
        simp
      have hNamed :
          ∀ n, named name n (before ++ [x]) =
            (named name n before || decide (name x = n)) := by
        simp [named]
      have hHere :
          ((before ++ [x]) ++ xs).take before.length =
            before := by
        simp
      have hPlace :
          before.length + 1 = (before ++ [x]).length := by
        simp
      rw [hWhole, List.zipIdx_cons, hPlace]
      simp only [divide, List.filter_cons, hHere]
      by_cases hRepeat : named name (name x) before = true
      · have hNext :
            ∀ n, used.contains n =
              named name n (before ++ [x]) := by
          intro n
          rw [hNamed, hUsed]
          by_cases hn : name x = n
          · simp [← hn, hRepeat]
          · simp [hn]
        rw [if_pos ((hUsed _).trans hRepeat)]
        simp [hRepeat, ih (before ++ [x]) hNext]
      · have hNext :
            ∀ n, (name x :: used).contains n =
              named name n (before ++ [x]) := by
          intro n
          have hSame :
              (n == name x) = decide (name x = n) := by
            rw [Bool.eq_iff_iff, beq_iff_eq,
              decide_eq_true_eq]
            exact eq_comm
          rw [hNamed, List.contains_cons, hUsed, hSame,
            Bool.or_comm]
        rw [if_neg (by rwa [hUsed])]
        simp [hRepeat, ih (before ++ [x]) hNext]

/- The first value of each name is kept. -/
theorem kept_ofList
    (name : α → String)
    (xs : List α) :
    (ofList name xs).kept = firsts name xs := by
  simpa [ofList, firsts] using
    (divide_eq name [] xs fun _ => rfl).1

/- The later values of each name are dropped. -/
theorem dropped_ofList
    (name : α → String)
    (xs : List α) :
    (ofList name xs).dropped = repeats name xs := by
  simpa [ofList, repeats] using
    (divide_eq name [] xs fun _ => rfl).2

------------------------------------------------------------
-- What Is Kept
------------------------------------------------------------

theorem sublist_kept_divide
    (name : α → String)
    (used : List String)
    (xs : List α) :
    (divide name used xs).kept.Sublist xs := by
  induction xs generalizing used with
  | nil => exact List.Sublist.refl _
  | cons x xs ih =>
      unfold divide
      split
      · exact (ih used).cons x
      · exact (ih (name x :: used)).cons_cons x

/- What is kept keeps its order. -/
theorem sublist_kept_ofList
    (name : α → String)
    (xs : List α) :
    (ofList name xs).kept.Sublist xs :=
  sublist_kept_divide name [] xs

/- No kept value has a name in use. -/
theorem not_mem_of_mem_kept
    {name : α → String}
    {used : List String}
    {xs : List α}
    {x : α}
    (hKept : x ∈ (divide name used xs).kept) :
    name x ∉ used := by
  induction xs generalizing used with
  | nil => simp [divide] at hKept
  | cons y xs ih =>
      unfold divide at hKept
      split at hKept
      · exact ih hKept
      · rename_i hFresh
        rcases List.mem_cons.mp hKept with rfl | hKept
        · simpa using hFresh
        · have hRest := ih hKept
          simp only [List.mem_cons, not_or] at hRest
          exact hRest.2

theorem nodup_kept_divide
    (name : α → String)
    (used : List String)
    (xs : List α) :
    ((divide name used xs).kept.map name).Nodup := by
  induction xs generalizing used with
  | nil => simp [divide]
  | cons x xs ih =>
      unfold divide
      split
      · exact ih used
      · rw [List.map_cons, List.nodup_cons]
        refine ⟨?_, ih (name x :: used)⟩
        intro hMember
        rcases List.mem_map.mp hMember with
          ⟨y, hKept, hName⟩
        have hFresh := not_mem_of_mem_kept hKept
        simp [hName] at hFresh

/- Kept values have different names. -/
theorem nodup_kept_ofList
    (name : α → String)
    (xs : List α) :
    ((ofList name xs).kept.map name).Nodup :=
  nodup_kept_divide name [] xs

/- No name is lost. -/
theorem name_mem_kept_divide
    (name : α → String)
    {used : List String}
    {xs : List α}
    {x : α}
    (hMember : x ∈ xs)
    (hFresh : name x ∉ used) :
    name x ∈ (divide name used xs).kept.map name := by
  induction xs generalizing used with
  | nil => cases hMember
  | cons y xs ih =>
      unfold divide
      split
      · rename_i hUsed
        rcases List.mem_cons.mp hMember with rfl | hMember
        · exact absurd (List.contains_iff_mem.mp hUsed) hFresh
        · exact ih hMember hFresh
      · rw [List.map_cons, List.mem_cons]
        by_cases hSame : name x = name y
        · exact Or.inl hSame
        · have hLater : x ∈ xs := by
            rcases List.mem_cons.mp hMember with rfl | hLater
            · exact absurd rfl hSame
            · exact hLater
          exact
            Or.inr (ih hLater (by simp [hSame, hFresh]))

/- Each value's name is that of a value that is kept. -/
theorem name_mem_kept_ofList
    (name : α → String)
    {xs : List α}
    {x : α}
    (hMember : x ∈ xs) :
    name x ∈ (ofList name xs).kept.map name :=
  name_mem_kept_divide name hMember List.not_mem_nil

/- What is done to values and leaves their names. -/
theorem divide_map
    {name : α → String}
    {f : α → α}
    (hName : ∀ x, name (f x) = name x)
    (used : List String)
    (xs : List α) :
    (divide name used (xs.map f)).kept =
        (divide name used xs).kept.map f ∧
      (divide name used (xs.map f)).dropped =
        (divide name used xs).dropped.map f := by
  induction xs generalizing used with
  | nil => exact ⟨rfl, rfl⟩
  | cons x xs ih =>
      simp only [List.map_cons, divide, hName]
      split
      · exact ⟨(ih used).1, by simp [(ih used).2]⟩
      · exact
          ⟨by simp [(ih (name x :: used)).1],
            (ih (name x :: used)).2⟩

end Distinct

end Signpost.Text
