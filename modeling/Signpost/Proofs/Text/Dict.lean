import Mathlib.Data.List.Induction
import Mathlib.Data.List.Nodup
import Signpost.Text.Dict

/-
  A dictionary of entries with different keys has just these
  entries.

  Main declarations:
    * `Dict.mem_toList_iff`
    * `Dict.get?_ofList_eq_some_iff`
    * `Dict.perm_toList_ofList`
-/

namespace Signpost.Text

namespace Dict

variable {α : Type}
variable {xs : List (String × α)}
variable {k : String}
variable {v : α}

/- An entry is found under its key, if no key is there twice. -/
private theorem find_eq_some_iff
    (hNodup : (xs.map Prod.fst).Nodup) :
    find k xs = some v ↔ (k, v) ∈ xs := by
  induction xs with
  | nil => simp [find]
  | cons x xs ih =>
      obtain ⟨j, w⟩ := x
      rw [List.map_cons, List.nodup_cons] at hNodup
      rcases hNodup with ⟨hFresh, hNodup⟩
      rw [find, List.mem_cons]
      by_cases hKey : k = j
      · subst hKey
        have hOnly : (k, v) ∉ xs :=
          fun hMember =>
            hFresh (List.mem_map.mpr ⟨(k, v), hMember, rfl⟩)
        simp [hOnly, eq_comm]
      · simp [hKey, ih hNodup]

/- The entries are the keys with what is found under them. -/
theorem mem_toList_iff
    (d : Dict α)
    (k : String)
    (v : α) :
    (k, v) ∈ d.toList ↔ d.get? k = some v :=
  (find_eq_some_iff d.nodup_keys).symm

/- The last of some entries is put in after the others. -/
theorem ofList_concat
    (xs : List (String × α))
    (k : String)
    (v : α) :
    ofList (xs ++ [(k, v)]) = (ofList xs).insert k v := by
  simp [ofList]

/- Entries with different keys are all found. -/
theorem get?_ofList_eq_some_iff
    (hNodup : (xs.map Prod.fst).Nodup) :
    (ofList xs).get? k = some v ↔ (k, v) ∈ xs := by
  induction xs using List.reverseRecOn with
  | nil => simp [ofList]
  | append_singleton xs x ih =>
      obtain ⟨j, w⟩ := x
      rw [List.map_append, List.nodup_append] at hNodup
      rcases hNodup with ⟨hNodup, -, hFresh⟩
      rw [ofList_concat, List.mem_append, List.mem_singleton]
      by_cases hKey : k = j
      · subst hKey
        have hOnly : (k, v) ∉ xs := by
          intro hMember
          exact
            hFresh k (List.mem_map_of_mem hMember) k
              (List.mem_singleton.mpr rfl) rfl
        simp [hOnly, eq_comm]
      · rw [get?_insert_of_ne _ hKey, ih hNodup]
        simp [hKey]

/- No entry is lost or added, whatever their order was. -/
theorem perm_toList_ofList
    (hNodup : (xs.map Prod.fst).Nodup) :
    (ofList xs).toList.Perm xs := by
  have hEntries : (ofList xs).toList.Nodup :=
    (ofList xs).nodup_keys.of_map
  apply
    (List.perm_ext_iff_of_nodup hEntries hNodup.of_map).mpr
  intro e
  obtain ⟨k, v⟩ := e
  rw [mem_toList_iff, get?_ofList_eq_some_iff hNodup]

end Dict

end Signpost.Text
