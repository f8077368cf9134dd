/-
  This file defines dictionaries: finite maps with text keys
  in ascending order.

  The order of keys is the order of their code points, which
  is also the order of their UTF-8 octets.  Keys ascend
  strictly, so two dictionaries with the same look-ups are
  equal.

  Key definitions include:
    * `Dict`
    * `Dict.get?`
    * `Dict.insert`
    * `Dict.erase`
    * `Dict.keep`
    * `Dict.ofList`

  The view is `Dict.get?`, and the main statements are:
    * `Dict.get?_insert_self`
    * `Dict.get?_insert_of_ne`
    * `Dict.get?_keep`
    * `Dict.get?_mapValues`
-/

------------------------------------------------------------
-- Ascending Entries
------------------------------------------------------------

namespace Signpost.Text

variable {α β : Type}

/- The keys of some entries ascend strictly. -/
def Ascending (xs : List (String × α)) : Prop :=
  xs.Pairwise (fun a b => a.1 < b.1)

/- Put a value under a key, in place of an older one. -/
def putEntry
    (k : String)
    (v : α) :
    List (String × α) → List (String × α)
| [] => [(k, v)]
| (j, w) :: xs =>
    if k < j then (k, v) :: (j, w) :: xs
    else if k = j then (k, v) :: xs
    else (j, w) :: putEntry k v xs

/- The keys after putting an entry. -/
theorem mem_putEntry
    {k : String}
    {v : α}
    {xs : List (String × α)}
    {e : String × α}
    (h : e ∈ putEntry k v xs) :
    e = (k, v) ∨ e ∈ xs := by
  induction xs with
  | nil => simpa [putEntry] using h
  | cons x xs ih =>
      obtain ⟨j, w⟩ := x
      unfold putEntry at h
      split at h
      · simpa using h
      · split at h
        · rcases List.mem_cons.mp h with h | h
          · exact Or.inl h
          · exact Or.inr (List.mem_cons_of_mem _ h)
        · rcases List.mem_cons.mp h with h | h
          · exact Or.inr (by simp [h])
          · rcases ih h with h | h
            · exact Or.inl h
            · exact Or.inr (List.mem_cons_of_mem _ h)

/- Putting an entry keeps the keys ascending. -/
theorem ascending_putEntry
    {k : String}
    {v : α}
    {xs : List (String × α)}
    (h : Ascending xs) :
    Ascending (putEntry k v xs) := by
  induction xs with
  | nil => simp [putEntry, Ascending]
  | cons x xs ih =>
      obtain ⟨j, w⟩ := x
      have hTail : Ascending xs := (List.pairwise_cons.mp h).2
      have hHead := (List.pairwise_cons.mp h).1
      unfold putEntry
      split
      · rename_i hlt
        apply List.pairwise_cons.mpr
        refine ⟨?_, h⟩
        intro e he
        rcases List.mem_cons.mp he with he | he
        · simpa [he] using hlt
        · exact String.lt_trans hlt (hHead e he)
      · split
        · rename_i heq
          subst heq
          exact List.pairwise_cons.mpr ⟨hHead, hTail⟩
        · rename_i hlt hne
          apply List.pairwise_cons.mpr
          refine ⟨?_, ih hTail⟩
          intro e he
          rcases mem_putEntry he with he | he
          · have hle : j ≤ k := String.not_lt.mp hlt
            subst he
            rcases Decidable.em (j < k) with hjk | hjk
            · exact hjk
            · exact absurd
                (String.le_antisymm
                  (String.not_lt.mp hjk) hle) hne
          · exact hHead e he

------------------------------------------------------------
-- Dictionaries
------------------------------------------------------------

/- A finite map with text keys that ascend strictly. -/
structure Dict (α : Type) where
  toList : List (String × α)
  ascending : Ascending toList
deriving DecidableEq

namespace Dict

/- The dictionary without entries. -/
def empty : Dict α := ⟨[], List.Pairwise.nil⟩

instance : Inhabited (Dict α) := ⟨empty⟩

instance : EmptyCollection (Dict α) := ⟨empty⟩

/- The value of the first entry with a given key. -/
def find (k : String) : List (String × α) → Option α
| [] => none
| (j, v) :: xs => if k = j then some v else find k xs

/- The value under a key. -/
def get? (d : Dict α) (k : String) : Option α :=
  find k d.toList

/- Put a value under a key, in place of an older one. -/
def insert
    (d : Dict α)
    (k : String)
    (v : α) : Dict α :=
  ⟨putEntry k v d.toList, ascending_putEntry d.ascending⟩

/- Keep the entries whose key has a property. -/
def keep
    (d : Dict α)
    (p : String → Bool) : Dict α :=
  ⟨d.toList.filter (fun e => p e.1),
    d.ascending.filter _⟩

/- Remove the entry under a key. -/
def erase (d : Dict α) (k : String) : Dict α :=
  d.keep (fun j => j ≠ k)

/- The dictionary of some entries, later ones winning. -/
def ofList (xs : List (String × α)) : Dict α :=
  xs.foldl (fun d e => d.insert e.1 e.2) empty

/- The keys in ascending order. -/
def keys (d : Dict α) : List String :=
  d.toList.map Prod.fst

/- The number of entries. -/
def size (d : Dict α) : Nat :=
  d.toList.length

/- There are no entries. -/
def isEmpty (d : Dict α) : Bool :=
  d.toList.isEmpty

/- Apply a function to every value. -/
def mapValues
    (f : String → α → β)
    (d : Dict α) : Dict β :=
  ⟨d.toList.map (fun e => (e.1, f e.1 e.2)), by
    exact List.pairwise_map.mpr d.ascending⟩

instance [Repr α] : Repr (Dict α) :=
  ⟨fun d n => reprPrec d.toList n⟩

------------------------------------------------------------
-- Look-Ups
------------------------------------------------------------

/- Looking up a key in no entries finds nothing. -/
@[simp] theorem get?_empty (k : String) :
    (empty : Dict α).get? k = none := rfl

private theorem find_putEntry_self
    (k : String)
    (v : α)
    (xs : List (String × α)) :
    find k (putEntry k v xs) = some v := by
  induction xs with
  | nil => simp [putEntry, find]
  | cons x xs ih =>
      obtain ⟨j, w⟩ := x
      unfold putEntry
      split
      · simp [find]
      · split
        · simp [find]
        · rename_i hne
          simp [find, hne, ih]

private theorem find_putEntry_of_ne
    {j k : String}
    (h : j ≠ k)
    (v : α)
    (xs : List (String × α)) :
    find j (putEntry k v xs) = find j xs := by
  induction xs with
  | nil => simp [putEntry, find, h]
  | cons x xs ih =>
      obtain ⟨i, w⟩ := x
      unfold putEntry
      split
      · simp [find, h]
      · split
        · rename_i heq
          subst heq
          simp [find, h]
        · by_cases hji : j = i <;> simp [find, hji, ih]

/- The value just put under a key is found there. -/
@[simp] theorem get?_insert_self
    (d : Dict α)
    (k : String)
    (v : α) :
    (d.insert k v).get? k = some v :=
  find_putEntry_self k v d.toList

/- Putting a value leaves the other keys alone. -/
theorem get?_insert_of_ne
    (d : Dict α)
    {j k : String}
    (h : j ≠ k)
    (v : α) :
    (d.insert k v).get? j = d.get? j :=
  find_putEntry_of_ne h v d.toList

private theorem find_filter
    (p : String → Bool)
    (k : String)
    (xs : List (String × α)) :
    find k (xs.filter (fun e => p e.1)) =
      if p k then find k xs else none := by
  induction xs with
  | nil => simp [find]
  | cons x xs ih =>
      obtain ⟨j, w⟩ := x
      by_cases hj : p j
      · by_cases hk : k = j
        · subst hk
          simp [find, hj]
        · simp [find, hj, hk, ih]
      · by_cases hk : k = j
        · subst hk
          simp [hj, ih]
        · simp [find, hj, hk, ih]

/- Keys that are kept keep their values. -/
theorem get?_keep
    (d : Dict α)
    (p : String → Bool)
    (k : String) :
    (d.keep p).get? k =
      if p k then d.get? k else none :=
  find_filter p k d.toList

/- The value under a key that was removed is gone. -/
theorem get?_erase
    (d : Dict α)
    (j k : String) :
    (d.erase j).get? k =
      if k = j then none else d.get? k := by
  rw [erase, get?_keep]
  by_cases h : k = j <;> simp [h]

private theorem find_isSome_iff
    (k : String)
    (xs : List (String × α)) :
    (find k xs).isSome = true ↔ k ∈ xs.map Prod.fst := by
  induction xs with
  | nil => simp [find]
  | cons x xs ih =>
      obtain ⟨j, w⟩ := x
      by_cases hk : k = j
      · simp [find, hk]
      · simp [find, hk, ih]

/- The keys are those under which there is a value. -/
theorem mem_keys_iff
    (d : Dict α)
    (k : String) :
    k ∈ d.keys ↔ (d.get? k).isSome = true :=
  (find_isSome_iff k d.toList).symm

/- No key is there twice. -/
theorem nodup_keys
    (d : Dict α) :
    d.keys.Nodup := by
  apply List.pairwise_map.mpr
  apply d.ascending.imp
  intro a b hLess hSame
  rw [hSame] at hLess
  exact String.lt_irrefl _ hLess

/- There is one entry for each key. -/
@[simp] theorem length_keys
    (d : Dict α) :
    d.keys.length = d.size :=
  List.length_map _

private theorem find_map
    {β : Type}
    (f : String → α → β)
    (k : String)
    (xs : List (String × α)) :
    find k (xs.map fun e => (e.1, f e.1 e.2)) =
      (find k xs).map (f k) := by
  induction xs with
  | nil => rfl
  | cons x xs ih =>
      obtain ⟨j, w⟩ := x
      by_cases hk : k = j
      · subst hk
        simp [find]
      · simp [find, hk, ih]

/- A function applied to every value is applied to each. -/
@[simp] theorem get?_mapValues
    {β : Type}
    (f : String → α → β)
    (d : Dict α)
    (k : String) :
    (d.mapValues f).get? k = (d.get? k).map (f k) :=
  find_map f k d.toList

end Dict

end Signpost.Text
