import Signpost.Component.Spec
import Signpost.Proofs.Sorting
import Signpost.Proofs.Text.Decimal
import Signpost.Proofs.Text.Dict
import Signpost.Proofs.Text.Split

/-
  The values of the shortcut notation reach the fields of a
  component in the order in which they are written, however
  many they are, although their keys are not in this order.

  Main declarations:
    * `number?_numberedKey`
    * `ComponentSpec.inOrder_numberedArguments`
    * `ComponentSpec.parse_shortcut`
    * `Arguments.bind_each` and `Arguments.bind_gather`
    * `Arguments.list_joined`
    * `ComponentSpec.bind_shortcut`
-/

namespace Signpost

open Text

/- Texts without outer white space are not trimmed. -/
theorem map_trimmed_eq_self
    {vs : List String}
    (hValues : ∀ v ∈ vs, trimmed v = v) :
    vs.map trimmed = vs := by
  rw [List.map_congr_left hValues, List.map_id']

------------------------------------------------------------
-- Numbered Keys
------------------------------------------------------------

theorem dropMark_append
    (mark cs : List Char) :
    dropMark mark (mark ++ cs) = some cs := by
  induction mark with
  | nil => cases cs <;> rfl
  | cons c mark ih => simp [dropMark, ih]

/- The number of a key is read back from it. -/
theorem number?_numberedKey
    {n : Nat}
    (hSize : n < UInt64.size) :
    number? (numberedKey n) = some n := by
  have hDigits : (toString n).toList = Nat.toDigits 10 n :=
    Nat.toList_repr
  rw [number?, numberedKey, String.toList_append, hDigits,
    dropMark_append]
  simp only
  rw [readNat_toDigits (Nat.le_sub_one_of_lt hSize)]
  rfl

------------------------------------------------------------
-- Numbered Values
------------------------------------------------------------

namespace ComponentSpec

variable {vs : List String}

/- A value and its place as an entry under its key. -/
private def entry (e : String × Nat) : String × String :=
  (numberedKey e.2, e.1)

private theorem lt_size_of_mem
    (hSize : vs.length ≤ UInt64.size)
    {e : String × Nat}
    (hMember : e ∈ vs.zipIdx) :
    e.2 < UInt64.size := by
  have hPlace := List.mem_zipIdx_iff_getElem?.mp hMember
  have hLess := (List.getElem?_eq_some_iff.mp hPlace).1
  omega

/- No two values have the same key. -/
private theorem nodup_entries
    (hSize : vs.length ≤ UInt64.size) :
    ((vs.zipIdx.map entry).map Prod.fst).Nodup := by
  rw [List.map_map]
  apply List.Nodup.map_on
  · intro a ha b hb hKeys
    have hSame :
        number? (numberedKey a.2) = number? (numberedKey b.2) :=
      congrArg number? hKeys
    rw [number?_numberedKey (lt_size_of_mem hSize ha),
      number?_numberedKey (lt_size_of_mem hSize hb)] at hSame
    have hPlace : a.2 = b.2 := Option.some.inj hSame
    have ha := List.mem_zipIdx_iff_getElem?.mp ha
    have hb := List.mem_zipIdx_iff_getElem?.mp hb
    rw [hPlace, hb] at ha
    exact Prod.ext (Option.some.inj ha.symm) hPlace
  · apply List.Nodup.of_map Prod.snd
    rw [List.zipIdx_map_snd]
    exact List.nodup_range'

/- The entries of the arguments are those of the values. -/
theorem perm_toList_numberedArguments
    (hSize : vs.length ≤ UInt64.size) :
    (numberedArguments vs).toList.Perm
      (vs.zipIdx.map fun e => (numberedKey e.2, e.1)) :=
  Dict.perm_toList_ofList (nodup_entries hSize)

/- Every argument has a number. -/
theorem named_numberedArguments
    (hSize : vs.length ≤ UInt64.size) :
    Arguments.named (numberedArguments vs) = .empty := by
  have hNone :
      (numberedArguments vs).toList.filter
          (fun e => (number? e.1).isNone) = [] := by
    apply List.filter_eq_nil_iff.mpr
    intro e hEntry
    rcases List.mem_map.mp
        ((perm_toList_numberedArguments hSize).mem_iff.mp
          hEntry) with
      ⟨v, hValue, rfl⟩
    simp [number?_numberedKey (lt_size_of_mem hSize hValue)]
  simp [Arguments.named, Dict.keep, Dict.empty, hNone]

/- The values are found again with their places. -/
theorem perm_numbered
    (hSize : vs.length ≤ UInt64.size) :
    (Arguments.numbered (numberedArguments vs)).Perm
      (vs.zipIdx.map fun e => (e.2, e.1)) := by
  have hNumbers :
      (vs.zipIdx.map fun e => (numberedKey e.2, e.1)).filterMap
          (fun e => (number? e.1).map fun n => (n, e.2)) =
        vs.zipIdx.map fun e => (e.2, e.1) := by
    rw [List.filterMap_map, ← List.filterMap_eq_map]
    apply List.filterMap_congr
    intro e hMember
    simp [number?_numberedKey (lt_size_of_mem hSize hMember)]
  rw [← hNumbers]
  exact (perm_toList_numberedArguments hSize).filterMap _

/- They are put in the order of their places. -/
theorem inOrder_numberedArguments
    (hSize : vs.length ≤ UInt64.size) :
    Arguments.inOrder (numberedArguments vs) = vs := by
  have hPlaces :
      (vs.zipIdx.map fun e => (e.2, e.1)).Pairwise
        fun a b : Nat × String => a.1 ≤ b.1 := by
    have hRange :
        (vs.zipIdx.map Prod.snd).Pairwise (· ≤ ·) := by
      rw [List.zipIdx_map_snd]
      exact List.pairwise_le_range' 1
    exact List.pairwise_map.mpr (List.pairwise_map.mp hRange)
  have hSorted :
      ((Arguments.numbered (numberedArguments vs)).mergeSort
          fun a b => a.1 ≤ b.1) =
        vs.zipIdx.map fun e => (e.2, e.1) := by
    have hPerm :=
      (List.mergeSort_perm _ fun a b : Nat × String =>
        a.1 ≤ b.1).trans (perm_numbered hSize)
    apply List.Perm.eq_of_pairwise ?_
      (pairwise_mergeSort_key Prod.fst _) hPlaces hPerm
    -- Values with one place are one value.
    intro a b ha hb hab hba
    rcases List.mem_map.mp (hPerm.mem_iff.mp ha) with
      ⟨v, hv, rfl⟩
    rcases List.mem_map.mp hb with ⟨w, hw, rfl⟩
    have hSame : v.2 = w.2 := Nat.le_antisymm hab hba
    have hv := List.mem_zipIdx_iff_getElem?.mp hv
    have hw := List.mem_zipIdx_iff_getElem?.mp hw
    rw [hSame, hw] at hv
    exact Prod.ext hSame (Option.some.inj hv.symm)
  rw [Arguments.inOrder, hSorted, List.map_map]
  exact List.zipIdx_map_fst 0 vs

------------------------------------------------------------
-- The Shortcut Notation
------------------------------------------------------------

/- A name and values as they are written in short. -/
def shortcut (name : String) (vs : List String) : String :=
  name ++ "=" ++ joined "," vs

/- What is written in short is read as it is written. -/
theorem parse_shortcut
    {name : String}
    (hName : name ≠ "")
    (hEquals : '=' ∉ name.toList)
    (hTrimmed : trimmed name = name)
    (hSome : vs ≠ [])
    (hComma : ∀ v ∈ vs, ',' ∉ v.toList)
    (hValues : ∀ v ∈ vs, trimmed v = v) :
    parse (shortcut name vs) =
      .ok ⟨name, numberedArguments vs⟩ := by
  have hPieces :
      (pieces ',' (joined "," vs)).map trimmed = vs := by
    rw [pieces_joined rfl hComma hSome]
    exact map_trimmed_eq_self hValues
  rw [parse, shortcut, cut_append rfl hEquals]
  simp [hTrimmed, hPieces, hName]

end ComponentSpec

------------------------------------------------------------
-- Binding
------------------------------------------------------------

namespace Arguments

variable {vs : List String}

/- Each value is bound to the field of its place. -/
theorem bind_each
    (hSize : vs.length ≤ UInt64.size)
    (hSome : vs ≠ [])
    (fields : List String) :
    bind (ComponentSpec.numberedArguments vs) fields .each =
      if fields.length < vs.length then
        .error (.tooMany fields vs.length)
      else .ok (Dict.ofList (fields.zip vs)) := by
  simp only [bind, ComponentSpec.inOrder_numberedArguments hSize,
    ComponentSpec.named_numberedArguments hSize]
  simp [hSome, Dict.ofList]

/- All values are bound to the first field. -/
theorem bind_gather
    (hSize : vs.length ≤ UInt64.size)
    (hSome : vs ≠ [])
    (field : String)
    (fields : List String) :
    bind (ComponentSpec.numberedArguments vs) (field :: fields)
        .gather =
      .ok (Dict.empty.insert field (joined "," vs)) := by
  simp only [bind, ComponentSpec.inOrder_numberedArguments hSize,
    ComponentSpec.named_numberedArguments hSize]
  simp [hSome]

theorem bind_gather_nil
    (hSize : vs.length ≤ UInt64.size)
    (hSome : vs ≠ []) :
    bind (ComponentSpec.numberedArguments vs) [] .gather =
      .error .noShortcut := by
  simp only [bind, ComponentSpec.inOrder_numberedArguments hSize]
  simp [hSome]

------------------------------------------------------------
-- Reading Bound Values
------------------------------------------------------------

variable {a : Arguments}
variable {key : String}

theorem optional_of_get?
    {v : String}
    (hKey : a.get? key = some v)
    (hSome : v ≠ "") :
    optional a key = some v := by
  simp [optional, hKey, Option.filter_some, hSome]

/- An empty value is as good as none. -/
theorem optional_of_empty
    (hKey : a.get? key = some "") :
    optional a key = none := by
  simp [optional, hKey, Option.filter_some]

/- The items of joined values are trimmed and not empty. -/
theorem items_joined_eq
    (hSome : vs ≠ [])
    (hComma : ∀ v ∈ vs, ',' ∉ v.toList) :
    items (joined "," vs) =
      (vs.map trimmed).filter fun v => !v.isEmpty := by
  rw [items, pieces_joined rfl hComma hSome]

/- Values without outer white space stay as they are. -/
theorem items_joined
    (hSome : vs ≠ [])
    (hComma : ∀ v ∈ vs, ',' ∉ v.toList)
    (hValues : ∀ v ∈ vs, trimmed v = v) :
    items (joined "," vs) = vs.filter fun v => !v.isEmpty := by
  rw [items_joined_eq hSome hComma, map_trimmed_eq_self hValues]

/- The items of a value are listed if there is one. -/
theorem list_of_items
    {v : String}
    (hKey : a.get? key = some v)
    (hSome : items v ≠ []) :
    list a key = .ok (items v) := by
  have hValue : v ≠ "" := by
    intro hEmpty
    rw [hEmpty] at hSome
    exact hSome rfl
  simp [list, required, optional_of_get? hKey hValue, hSome]

/- Joined values are listed, unless all of them are empty. -/
theorem list_joined
    (hSome : vs ≠ [])
    (hComma : ∀ v ∈ vs, ',' ∉ v.toList)
    (hValues : ∀ v ∈ vs, trimmed v = v)
    (hKey : a.get? key = some (joined "," vs)) :
    (vs.filter (fun v => !v.isEmpty) = [] →
        ∃ e, list a key = .error e) ∧
      (vs.filter (fun v => !v.isEmpty) ≠ [] →
        list a key = .ok (vs.filter fun v => !v.isEmpty)) := by
  rw [← items_joined hSome hComma hValues]
  constructor
  · intro hNone
    by_cases hEmpty : joined "," vs = ""
    · rw [hEmpty] at hKey
      simp [list, required, optional_of_empty hKey]
    · have hValue := optional_of_get? hKey hEmpty
      simp [list, required, hValue, hNone]
  · exact list_of_items hKey

end Arguments

------------------------------------------------------------
-- From Text to Fields
------------------------------------------------------------

namespace ComponentSpec

/- The value of a key in a row is that of its place. -/
theorem get?_ofList_zip
    {fields : List String}
    (hFields : fields.Nodup)
    (vs : List String)
    (key v : String) :
    (Dict.ofList (fields.zip vs)).get? key = some v ↔
      ∃ i : Nat, fields[i]? = some key ∧ vs[i]? = some v := by
  have hKeys : ((fields.zip vs).map Prod.fst).Nodup := by
    rw [List.zip_eq_zip_take_min, List.map_fst_zip (by simp)]
    exact hFields.sublist (List.take_sublist _ fields)
  rw [Dict.get?_ofList_eq_some_iff hKeys,
    List.mem_iff_getElem?]
  simp only [List.getElem?_zip_eq_some]

/-
  What is written in short is read with its name, and its
  values reach the fields of a component.  One field each,
  there have to be enough fields, and then the fields have
  the values of their places and nothing else is bound.
  Gathered, there has to be a field, and its list has the
  values that are not empty, of which there must be one.

  A key numbers as many values as a word can count.
-/
theorem bind_shortcut
    {name : String}
    {vs fields : List String}
    (hName : name ≠ "")
    (hEquals : '=' ∉ name.toList)
    (hTrimmed : trimmed name = name)
    (hSome : vs ≠ [])
    (hComma : ∀ v ∈ vs, ',' ∉ v.toList)
    (hValues : ∀ v ∈ vs, trimmed v = v)
    (hSize : vs.length ≤ UInt64.size)
    (hFields : fields.Nodup) :
    ∃ spec,
      parse (shortcut name vs) = .ok spec ∧
        spec.name = name ∧
        ((∃ a, spec.args.bind fields .each = .ok a) ↔
          vs.length ≤ fields.length) ∧
        (∀ a,
          spec.args.bind fields .each = .ok a →
            ∀ key v,
              a.get? key = some v ↔
                ∃ i : Nat, fields[i]? = some key ∧ vs[i]? = some v) ∧
        ((∃ e, spec.args.bind fields .gather = .error e) ↔
          fields = []) ∧
        ∀ field others,
          fields = field :: others →
            ∃ a,
              spec.args.bind fields .gather = .ok a ∧
                (vs.filter (fun v => !v.isEmpty) = [] →
                  ∃ e, a.list field = .error e) ∧
                (vs.filter (fun v => !v.isEmpty) ≠ [] →
                  a.list field =
                    .ok (vs.filter fun v => !v.isEmpty)) := by
  refine
    ⟨⟨name, numberedArguments vs⟩,
      parse_shortcut hName hEquals hTrimmed hSome hComma
        hValues,
      rfl, ?_, ?_, ?_, ?_⟩
  · rw [Arguments.bind_each hSize hSome fields]
    by_cases hMany : fields.length < vs.length
    · simp [hMany]
    · simp [hMany, Nat.not_lt.mp hMany]
  · intro a hBind
    rw [Arguments.bind_each hSize hSome fields] at hBind
    split at hBind
    · cases hBind
    · cases hBind
      exact get?_ofList_zip hFields vs
  · cases fields with
    | nil =>
        simp [Arguments.bind_gather_nil hSize hSome]
    | cons field others =>
        simp [Arguments.bind_gather hSize hSome]
  · intro field others hFirst
    rw [hFirst, Arguments.bind_gather hSize hSome]
    exact
      ⟨_, rfl,
        Arguments.list_joined hSome hComma hValues
          (Dict.get?_insert_self _ field _)⟩

/- Twelve values, one of them empty, keep their order. -/
theorem bind_shortcut_methods :
    ∃ spec,
      parse "Method=a,b,c,d,e,f,,h,i,j,k,l" = .ok spec ∧
        (∃ a,
          spec.args.bind ["methods"] .gather = .ok a ∧
            a.list "methods" =
              .ok ["a", "b", "c", "d", "e", "f", "h", "i", "j",
                "k", "l"]) ∧
        ¬∃ a, spec.args.bind ["methods"] .each = .ok a := by
  have hWritten :
      "Method=a,b,c,d,e,f,,h,i,j,k,l" =
        shortcut "Method"
          ["a", "b", "c", "d", "e", "f", "", "h", "i", "j",
            "k", "l"] := by
    rfl
  rw [hWritten]
  rcases
      @bind_shortcut "Method"
        ["a", "b", "c", "d", "e", "f", "", "h", "i", "j", "k",
          "l"]
        ["methods"] (by decide) (by decide) (by decide)
        (by decide) (by decide) (by decide) (by decide)
        (by decide) with
    ⟨spec, hParse, -, hEach, -, -, hGather⟩
  rcases hGather "methods" [] rfl with
    ⟨a, hBind, -, hList⟩
  refine
    ⟨spec, hParse, ⟨a, hBind, hList (by decide)⟩, ?_⟩
  rw [hEach]
  decide

end ComponentSpec

end Signpost
