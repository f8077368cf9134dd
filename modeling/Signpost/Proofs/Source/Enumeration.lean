import Signpost.Proofs.Sorting
import Signpost.Proofs.Source.Hosts

/-
  Whether the order in which the entries of a host table are
  added matters to what is selected for a host: exactly if
  two entries whose keys are compared as equal have
  different definitions.

  Main declarations:
    * `HostTable.SelectsAlike`
    * `HostTable.Serves.of_perm`
    * `HostTable.select_concat`
    * `HostTable.filter_mergeSort`
    * `HostTable.eq_of_find?_mergeSort`
    * `HostTable.select_cons`
    * `HostTable.selectsAlike_iff`
    * `HostTable.select_other_order`
-/

namespace Signpost

open Text

namespace HostTable

/-
  Whatever the order in which some entries are added, the
  same definitions are selected for every host.
-/
def SelectsAlike
    (hosts : List Entry)
    (fallback : List RouteDefinition) : Prop :=
  ∀ first second,
    first.Perm hosts → second.Perm hosts →
      ∀ host,
        (ofList first fallback).select host =
          (ofList second fallback).select host

variable {hosts : List Entry}
variable {fallback : List RouteDefinition}

------------------------------------------------------------
-- Keys That Agree
------------------------------------------------------------

/- What is served depends on the entries, not their order. -/
theorem Serves.of_perm
    {other : List Entry}
    {host : Option String}
    {routes : List RouteDefinition}
    (hPerm : other.Perm hosts)
    (hServes : Serves other fallback host routes) :
    Serves hosts fallback host routes := by
  have hMember : ∀ e, e ∈ hosts → e ∈ other :=
    fun e he => hPerm.mem_iff.mpr he
  cases hServes with
  | noHost => exact .noHost
  | exact member isFor =>
      exact .exact (hPerm.mem_iff.mp member) isFor
  | wildcard noExact member isFor longest =>
      exact
        .wildcard
          (fun e he => noExact e (hMember e he))
          (hPerm.mem_iff.mp member) isFor
          (fun e he => longest e (hMember e he))
  | other noExact noWildcard =>
      exact
        .other
          (fun e he => noExact e (hMember e he))
          (fun e he => noWildcard e (hMember e he))

/- So the order does not matter then. -/
theorem selectsAlike_of_keysAgree
    (hAgree : KeysAgree hosts)
    (fallback : List RouteDefinition) :
    SelectsAlike hosts fallback := by
  intro a b ha hb host
  exact
    Serves.unique hAgree
      ((serves_select a fallback host).of_perm ha)
      ((serves_select b fallback host).of_perm hb)

------------------------------------------------------------
-- The Last Entry for a Host
------------------------------------------------------------

/- An entry for a host that is added last is selected for it. -/
theorem select_concat
    {e : Entry}
    {host : String}
    (hFor : e.IsFor host) :
    (ofList (hosts ++ [e]) fallback).select (some host) =
      e.2 := by
  have hExact :
      (ofList (hosts ++ [e]) fallback).exact.get? host =
        some e.2 := by
    simp only [ofList, List.foldl_concat, add,
      parse_eq_exact_iff.mpr hFor, Dict.get?_insert_self]
  simp only [select, hExact]

------------------------------------------------------------
-- The First Entry for an Ending
------------------------------------------------------------

/- Wildcards of one ending are left in their order. -/
theorem filter_mergeSort
    (ws : List WildcardRoutes)
    (suffix : String) :
    (ws.mergeSort WildcardRoutes.precedes).filter
        (fun w => w.suffix = suffix) =
      ws.filter fun w => w.suffix = suffix := by
  apply filter_mergeSort_of_ties precedes_trans precedes_total
  intro v w hv hw
  simp [WildcardRoutes.precedes, of_decide_eq_true hv,
    of_decide_eq_true hw]

/- The wildcards that are added come after those before. -/
theorem wildcards_foldl
    (hosts : List Entry)
    (t : HostTable) :
    ∃ ws, (hosts.foldl add t).wildcards = t.wildcards ++ ws := by
  induction hosts generalizing t with
  | nil => exact ⟨[], (List.append_nil _).symm⟩
  | cons e hosts ih =>
      rcases ih (t.add e) with ⟨ws, hList⟩
      rw [List.foldl_cons, hList]
      unfold add
      split
      · exact ⟨ws, rfl⟩
      · exact ⟨_, List.append_assoc _ _ _⟩

/- The wildcard of an entry that is added first comes first. -/
theorem exists_wildcards_cons
    {e : Entry}
    {name : String}
    (hKey : keyOf e.1 = "*." ++ name)
    (hosts : List Entry)
    (fallback : List RouteDefinition) :
    ∃ ws,
      (ofList (e :: hosts) fallback).wildcards =
        (⟨"." ++ name, e.2⟩ :: ws).mergeSort
          WildcardRoutes.precedes := by
  have hParse : HostKey.parse e.1 = .ending ("." ++ name) :=
    parse_of_wildcard hKey
  have hOwn :
      (({ fallback } : HostTable).add e).wildcards =
        [⟨"." ++ name, e.2⟩] := by
    simp [add, hParse]
  rcases
      wildcards_foldl hosts (({ fallback } : HostTable).add e)
    with ⟨ws, hAdded⟩
  refine ⟨ws, ?_⟩
  simp only [ofList, List.foldl_cons, hAdded, hOwn,
    List.cons_append, List.nil_append]

/- Of the wildcards of one ending the first one is found. -/
theorem eq_of_find?_mergeSort
    {v w : WildcardRoutes}
    {ws : List WildcardRoutes}
    {host : String}
    (hFind :
      ((v :: ws).mergeSort WildcardRoutes.precedes).find?
        (fun w => w.accepts host) = some w)
    (hSuffix : w.suffix = v.suffix) :
    w = v := by
  have hAccepts := List.find?_some hFind
  rcases List.find?_eq_some_iff_append.mp hFind with
    ⟨-, before, after, hSplit, hBefore⟩
  have hNone :
      before.filter (fun w => w.suffix = v.suffix) = [] := by
    apply List.filter_eq_nil_iff.mpr
    intro u hu hSame
    have hRejects := hBefore u hu
    rw [WildcardRoutes.accepts, of_decide_eq_true hSame,
      ← hSuffix, ← WildcardRoutes.accepts, hAccepts]
      at hRejects
    cases hRejects
  have hFirst := filter_mergeSort (v :: ws) v.suffix
  rw [hSplit, List.filter_append, hNone, List.nil_append,
    List.filter_cons_of_pos (by simpa using hSuffix),
    List.filter_cons_of_pos (by simp)] at hFirst
  exact (List.cons.inj hFirst).1

/- No entry is only for a host that is longer than its key. -/
theorem get?_eq_none_of_longer
    {host : String}
    (hLonger :
      ∀ e ∈ hosts, (keyOf e.1).length < host.length) :
    (ofList hosts fallback).exact.get? host = none := by
  cases hGet : (ofList hosts fallback).exact.get? host with
  | none => rfl
  | some routes =>
      rcases (indexes_ofList hosts fallback).of_exact hGet with
        ⟨e, he, hFor, -⟩
      have hShort := hLonger e he
      rw [hFor.1] at hShort
      exact absurd hShort (Nat.lt_irrefl _)

/- Some text of one letter is longer than all keys. -/
theorem exists_longer
    (hosts : List Entry) :
    ∃ n, ∀ e ∈ hosts, (keyOf e.1).length < n := by
  induction hosts with
  | nil => exact ⟨0, by simp⟩
  | cons e hosts ih =>
      rcases ih with ⟨n, hn⟩
      refine ⟨max n ((keyOf e.1).length + 1), ?_⟩
      intro a ha
      rcases List.mem_cons.mp ha with rfl | ha
      · omega
      · have hLonger := hn a ha
        omega

/- A host with one label before an ending. -/
def labelled (n : Nat) (name : String) : String :=
  String.ofList (List.replicate n 'a') ++ ("." ++ name)

theorem toList_labelled
    (n : Nat)
    (name : String) :
    (labelled n name).toList =
      List.replicate n 'a' ++ ("." ++ name).toList := by
  simp [labelled]

theorem le_length_labelled
    (n : Nat)
    (name : String) :
    n ≤ (labelled n name).length := by
  simp only [labelled, String.length_append,
    String.length_ofList, List.length_replicate]
  omega

theorem covers_labelled
    {n : Nat}
    (hn : 0 < n)
    (name : String) :
    Covers name (labelled n name) := by
  constructor
  · rw [toList_labelled]
    exact List.suffix_append _ _
  · simp only [labelled, String.length_append,
      String.length_ofList, List.length_replicate]
    omega

/- It has no longer ending, as its label has no dots. -/
theorem length_le_of_covers_labelled
    {n : Nat}
    {name other : String}
    (hOther : Covers other (labelled n name)) :
    other.length ≤ name.length := by
  by_contra hLonger
  have hName :
      ("." ++ name).toList <:+ (labelled n name).toList := by
    rw [toList_labelled]
    exact List.suffix_append _ _
  have hInside :
      ("." ++ name).toList <:+ ("." ++ other).toList := by
    apply List.suffix_of_suffix_length_le hName hOther.1
    simp only [String.length_toList, String.length_append]
    omega
  rcases hInside with ⟨before, hSplit⟩
  have hLabel : before <:+ List.replicate n 'a' := by
    have hWhole := hOther.1
    rw [← hSplit, toList_labelled] at hWhole
    exact List.suffix_append_self_iff.mp hWhole
  cases before with
  | nil =>
      have hLength := congrArg List.length hSplit
      rw [List.nil_append, String.length_toList,
        String.length_toList, String.length_append,
        String.length_append] at hLength
      omega
  | cons c before =>
      rw [toList_dot_append other, List.cons_append] at hSplit
      have hDot : c = '.' := (List.cons.inj hSplit).1
      have hLetter : c = 'a' :=
        List.eq_of_mem_replicate
          (hLabel.mem List.mem_cons_self)
      rw [hDot] at hLetter
      exact absurd hLetter (by decide)

/- The wildcard that is found for it has the whole ending. -/
theorem suffix_of_find?_labelled
    {n : Nat}
    {name : String}
    {v w : WildcardRoutes}
    (hn : 0 < n)
    (hOwn : v.suffix = "." ++ name)
    (hMember : v ∈ (ofList hosts fallback).wildcards)
    (hFind :
      (ofList hosts fallback).wildcards.find?
        (fun w => w.accepts (labelled n name)) = some w) :
    w.suffix = "." ++ name := by
  have hCovers := covers_labelled hn name
  rcases ((indexes_ofList hosts fallback).wildcards_iff w).mp
      (List.mem_of_find?_eq_some hFind) with
    ⟨a, -, -, hEnding⟩
  rcases parse_eq_ending_iff.mp hEnding with
    ⟨other, -, hOther⟩
  have hAccepts := List.find?_some hFind
  have hOtherCovers : Covers other (labelled n name) :=
    (accepts_iff hOther).mp hAccepts
  have hSize : v.suffix.utf8ByteSize ≤ w.suffix.utf8ByteSize :=
    size_le_of_find?_mergeSort hFind
      (List.mem_mergeSort.mp hMember)
      ((accepts_iff hOwn).mpr hCovers)
  rw [hOwn, hOther] at hSize
  have hLength :=
    length_le_of_size_le hCovers.1 hOtherCovers.1 hSize
  rw [String.length_append, String.length_append] at hLength
  have hSame : other = name :=
    eq_of_covers hOtherCovers hCovers
      (Nat.le_antisymm
        (length_le_of_covers_labelled hOtherCovers)
        (Nat.le_of_add_le_add_left hLength))
  rw [hOther, hSame]

/-
  An entry for an ending that is added first is selected for
  some host, whatever entries are added after it.
-/
theorem select_cons
    {e : Entry}
    {name : String}
    (hKey : keyOf e.1 = "*." ++ name)
    {n : Nat}
    (hLonger : ∀ a ∈ e :: hosts, (keyOf a.1).length < n) :
    (ofList (e :: hosts) fallback).select
        (some (labelled n name)) =
      e.2 := by
  have hPos : 0 < n :=
    Nat.zero_lt_of_lt (hLonger e List.mem_cons_self)
  have hExact :
      (ofList (e :: hosts) fallback).exact.get?
        (labelled n name) = none := by
    apply get?_eq_none_of_longer
    intro a ha
    exact
      Nat.lt_of_lt_of_le (hLonger a ha)
        (le_length_labelled n name)
  rcases exists_wildcards_cons hKey hosts fallback with
    ⟨ws, hSorted⟩
  have hMember :
      (⟨"." ++ name, e.2⟩ : WildcardRoutes) ∈
        (ofList (e :: hosts) fallback).wildcards := by
    rw [hSorted]
    exact List.mem_mergeSort.mpr List.mem_cons_self
  cases hFind :
      (ofList (e :: hosts) fallback).wildcards.find?
        (fun w => w.accepts (labelled n name)) with
  | none =>
      have hRejects :=
        List.find?_eq_none.mp hFind _ hMember
      exact
        absurd
          ((accepts_iff rfl).mpr (covers_labelled hPos name))
          hRejects
  | some w =>
      have hSuffix :=
        suffix_of_find?_labelled hPos rfl hMember hFind
      have hEntry : w = ⟨"." ++ name, e.2⟩ := by
        rw [hSorted] at hFind
        exact eq_of_find?_mergeSort hFind hSuffix
      simp only [select, hExact, wildcard?, hFind, hEntry,
        Option.map_some, Option.getD_some]

------------------------------------------------------------
-- All Orders
------------------------------------------------------------

/-
  The order in which entries are added matters to no host if
  and only if the entries with one key, however it is
  written, have the same definitions.
-/
theorem selectsAlike_iff
    (hosts : List Entry)
    (fallback : List RouteDefinition) :
    SelectsAlike hosts fallback ↔ KeysAgree hosts := by
  refine ⟨?_, fun hAgree =>
    selectsAlike_of_keysAgree hAgree fallback⟩
  intro hAlike a ha b hb hKeys
  rcases List.append_of_mem ha with ⟨beforeA, afterA, hA⟩
  rcases List.append_of_mem hb with ⟨beforeB, afterB, hB⟩
  have hFirstA :
      (a :: (beforeA ++ afterA)).Perm hosts := by
    rw [hA]
    exact List.perm_middle.symm
  have hFirstB :
      (b :: (beforeB ++ afterB)).Perm hosts := by
    rw [hB]
    exact List.perm_middle.symm
  by_cases hWildcard : IsWildcard (keyOf a.1)
  · rcases exists_of_isWildcard hWildcard with ⟨name, hName⟩
    rcases exists_longer hosts with ⟨n, hn⟩
    have hSame := hAlike _ _ hFirstA hFirstB
      (some (labelled n name))
    rwa [
      select_cons hName
        (fun e he => hn e (hFirstA.mem_iff.mp he)),
      select_cons (hKeys.symm.trans hName)
        (fun e he => hn e (hFirstB.mem_iff.mp he))] at hSame
  · have hLastA :=
      (List.perm_append_singleton a _).trans hFirstA
    have hLastB :=
      (List.perm_append_singleton b _).trans hFirstB
    have hSame := hAlike _ _ hLastA hLastB
      (some (keyOf a.1))
    rwa [select_concat ⟨rfl, hWildcard⟩,
      select_concat ⟨hKeys.symm, hWildcard⟩] at hSame

/- Two spellings of one host with different definitions. -/
def spelledTwice : List Entry :=
  [("Shop.example", [{ id := "capital", uri := "lb://a" }]),
    ("shop.example", [{ id := "small", uri := "lb://b" }])]

theorem isFor_spelledTwice :
    ∀ e ∈ spelledTwice, e.IsFor "shop.example" := by
  have hKeys :
      ∀ e ∈ spelledTwice, keyOf e.1 = "shop.example" := by
    decide +kernel
  intro e he
  refine ⟨hKeys e he, ?_⟩
  unfold IsWildcard
  decide

/- Which of them is selected depends on which is added last. -/
theorem select_other_order :
    (spelledTwice.map Prod.fst).Nodup ∧
      spelledTwice.reverse.Perm spelledTwice ∧
      (ofList spelledTwice []).select
          (some "shop.example") ≠
        (ofList spelledTwice.reverse []).select
          (some "shop.example") := by
  refine ⟨by decide, List.reverse_perm _, ?_⟩
  have hLast :
      (ofList spelledTwice []).select (some "shop.example") =
        [{ id := "small", uri := "lb://b" }] :=
    @select_concat [_] [] _ _ (isFor_spelledTwice _
      (List.mem_cons_of_mem _ List.mem_cons_self))
  have hFirst :
      (ofList spelledTwice.reverse []).select
          (some "shop.example") =
        [{ id := "capital", uri := "lb://a" }] :=
    @select_concat [_] [] _ _
      (isFor_spelledTwice _ List.mem_cons_self)
  rw [hLast, hFirst]
  decide

end HostTable

end Signpost
