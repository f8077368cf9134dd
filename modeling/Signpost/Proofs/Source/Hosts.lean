import Signpost.Proofs.Http.RequestHost
import Signpost.Source.Hosts

/-
  The definitions that a host table lists for a request: of
  the host as it is, or else of the longest wildcard that
  covers it, or else the fallback.

  Main declarations:
    * `HostTable.keyOf`
    * `HostTable.Covers`
    * `HostTable.Serves`
    * `HostTable.Indexes` and `HostTable.indexes_foldl`
    * `HostTable.longest_of_wildcard?`
    * `HostTable.list_longest`
-/

namespace Signpost

open Text
open Http

namespace HostTable

------------------------------------------------------------
-- What a Table Is to Serve
------------------------------------------------------------

/- An entry of a table: a key and the definitions under it. -/
abbrev Entry := String × List RouteDefinition

/- A key as it is compared: trimmed and in lower case. -/
def keyOf (text : String) : String :=
  (trimmed text).toLower

/- A key is that of a wildcard. -/
def IsWildcard (key : String) : Prop :=
  "*.".toList <+: key.toList

/- A host ends with a dot and a name, and has more before. -/
def Covers (name host : String) : Prop :=
  ("." ++ name).toList <:+ host.toList ∧
    ("." ++ name).length < host.length

/- An entry is for a host as it is. -/
def Entry.IsFor (e : Entry) (host : String) : Prop :=
  keyOf e.1 = host ∧ ¬IsWildcard host

/- An entry is for the hosts that end with a name. -/
def Entry.IsForEnding
    (e : Entry)
    (name host : String) : Prop :=
  keyOf e.1 = "*." ++ name ∧ Covers name host

/-
  What is served for a host, or for none: the definitions of
  an entry for the host as it is, or else of an entry for an
  ending of it with no longer such ending, or else the
  fallback.
-/
inductive Serves
    (hosts : List Entry)
    (fallback : List RouteDefinition) :
    Option String → List RouteDefinition → Prop where
| noHost : Serves hosts fallback none fallback
| exact
    {e : Entry}
    {host : String}
    (member : e ∈ hosts)
    (isFor : e.IsFor host) :
    Serves hosts fallback (some host) e.2
| wildcard
    {e : Entry}
    {host name : String}
    (noExact : ∀ e ∈ hosts, ¬Entry.IsFor e host)
    (member : e ∈ hosts)
    (isFor : e.IsForEnding name host)
    (longest :
      ∀ e ∈ hosts, ∀ other,
        Entry.IsForEnding e other host →
          other.length ≤ name.length) :
    Serves hosts fallback (some host) e.2
| other
    {host : String}
    (noExact : ∀ e ∈ hosts, ¬Entry.IsFor e host)
    (noWildcard :
      ∀ e ∈ hosts, ∀ name, ¬Entry.IsForEnding e name host) :
    Serves hosts fallback (some host) fallback

------------------------------------------------------------
-- Keys
------------------------------------------------------------

theorem toList_star_append
    (name : String) :
    ("*." ++ name).toList = '*' :: '.' :: name.toList := by
  rw [String.toList_append]
  rfl

theorem toList_dot_append
    (name : String) :
    ("." ++ name).toList = '.' :: name.toList := by
  rw [String.toList_append]
  rfl

/- A key is read as a wildcard if it is one. -/
theorem parse_of_wildcard
    {text name : String}
    (hKey : keyOf text = "*." ++ name) :
    HostKey.parse text = .ending ("." ++ name) := by
  have hList :
      ((trimmed text).toLower).toList =
        '*' :: '.' :: name.toList := by
    rw [← toList_star_append, ← hKey]
    rfl
  simp only [HostKey.parse, hList]
  rw [← toList_dot_append, String.ofList_toList]

theorem parse_of_not_wildcard
    {text : String}
    (hKey : ¬IsWildcard (keyOf text)) :
    HostKey.parse text = .exact (keyOf text) := by
  simp only [HostKey.parse]
  split
  · rename_i rest hList
    refine absurd ?_ hKey
    rw [IsWildcard, keyOf, hList]
    exact List.prefix_append ['*', '.'] rest
  · rfl

theorem exists_of_isWildcard
    {key : String}
    (hKey : IsWildcard key) :
    ∃ name, key = "*." ++ name := by
  rcases hKey with ⟨rest, hList⟩
  refine ⟨String.ofList rest, ?_⟩
  apply String.toList_inj.mp
  rw [← hList, toList_star_append,
    String.toList_ofList (l := rest)]
  rfl

/- Exactly the keys of no wildcard are hosts as they are. -/
theorem parse_eq_exact_iff
    {text host : String} :
    HostKey.parse text = .exact host ↔
      keyOf text = host ∧ ¬IsWildcard host := by
  by_cases hKey : IsWildcard (keyOf text)
  · rcases exists_of_isWildcard hKey with ⟨name, hName⟩
    rw [parse_of_wildcard hName]
    constructor
    · intro hExact
      cases hExact
    · rintro ⟨rfl, hNot⟩
      exact absurd hKey hNot
  · rw [parse_of_not_wildcard hKey]
    constructor
    · intro hExact
      cases hExact
      exact ⟨rfl, hKey⟩
    · rintro ⟨rfl, -⟩
      rfl

/- The keys of wildcards are endings. -/
theorem parse_eq_ending_iff
    {text suffix : String} :
    HostKey.parse text = .ending suffix ↔
      ∃ name, keyOf text = "*." ++ name ∧
        suffix = "." ++ name := by
  constructor
  · intro hEnding
    by_cases hKey : IsWildcard (keyOf text)
    · rcases exists_of_isWildcard hKey with ⟨name, hName⟩
      rw [parse_of_wildcard hName] at hEnding
      cases hEnding
      exact ⟨name, hName, rfl⟩
    · rw [parse_of_not_wildcard hKey] at hEnding
      cases hEnding
  · rintro ⟨name, hName, rfl⟩
    exact parse_of_wildcard hName

------------------------------------------------------------
-- What a Table Holds
------------------------------------------------------------

/- A table holds the definitions of some entries. -/
structure Indexes
    (hosts : List Entry)
    (t : HostTable) : Prop where
  of_exact :
    ∀ {host routes}, t.exact.get? host = some routes →
      ∃ e ∈ hosts, e.IsFor host ∧ e.2 = routes
  of_no_exact :
    ∀ {host}, t.exact.get? host = none →
      ∀ e ∈ hosts, ¬Entry.IsFor e host
  wildcards_iff :
    ∀ w, w ∈ t.wildcards ↔
      ∃ e ∈ hosts, e.2 = w.routes ∧
        HostKey.parse e.1 = .ending w.suffix

section Add

variable {hosts : List Entry}
variable {t : HostTable}
variable {e : Entry}

theorem exists_mem_concat
    {P : Entry → Prop} :
    (∃ a ∈ hosts ++ [e], P a) ↔ (∃ a ∈ hosts, P a) ∨ P e := by
  simp [or_and_right, exists_or]

theorem forall_mem_concat
    {P : Entry → Prop} :
    (∀ a ∈ hosts ++ [e], P a) ↔ (∀ a ∈ hosts, P a) ∧ P e := by
  simp [or_imp, forall_and]

/- An entry for a host takes the place of one before it. -/
theorem Indexes.add_exact
    {host : String}
    (hIndexes : Indexes hosts t)
    (hHost : HostKey.parse e.1 = .exact host) :
    Indexes (hosts ++ [e])
      { t with exact := t.exact.insert host e.2 } := by
  have hFor : e.IsFor host := parse_eq_exact_iff.mp hHost
  refine ⟨?_, ?_, ?_⟩
  · intro other routes hGet
    rw [exists_mem_concat]
    by_cases hSame : other = host
    · subst hSame
      rw [Dict.get?_insert_self] at hGet
      exact Or.inr ⟨hFor, Option.some.inj hGet⟩
    · rw [Dict.get?_insert_of_ne _ hSame] at hGet
      exact Or.inl (hIndexes.of_exact hGet)
  · intro other hGet
    rw [forall_mem_concat]
    by_cases hSame : other = host
    · subst hSame
      rw [Dict.get?_insert_self] at hGet
      cases hGet
    · rw [Dict.get?_insert_of_ne _ hSame] at hGet
      refine ⟨hIndexes.of_no_exact hGet, ?_⟩
      rintro ⟨hKey, -⟩
      exact hSame (hKey.symm.trans hFor.1)
  · intro w
    rw [hIndexes.wildcards_iff, exists_mem_concat, hHost]
    simp

/- An entry for an ending is one more wildcard. -/
theorem Indexes.add_wildcard
    {suffix : String}
    (hIndexes : Indexes hosts t)
    (hSuffix : HostKey.parse e.1 = .ending suffix) :
    Indexes (hosts ++ [e])
      { t with wildcards := t.wildcards ++ [⟨suffix, e.2⟩] } := by
  refine ⟨?_, ?_, ?_⟩
  · intro host routes hGet
    rw [exists_mem_concat]
    exact Or.inl (hIndexes.of_exact hGet)
  · intro host hGet
    rw [forall_mem_concat]
    refine ⟨hIndexes.of_no_exact hGet, ?_⟩
    intro hFor
    rw [parse_eq_exact_iff.mpr hFor] at hSuffix
    cases hSuffix
  · rintro ⟨other, routes⟩
    rw [List.mem_append, List.mem_singleton,
      hIndexes.wildcards_iff, exists_mem_concat, hSuffix]
    simp [and_comm, eq_comm]

theorem Indexes.add
    (hIndexes : Indexes hosts t)
    (e : Entry) :
    Indexes (hosts ++ [e]) (t.add e) := by
  unfold HostTable.add
  split
  · rename_i host hHost
    exact hIndexes.add_exact hHost
  · rename_i suffix hSuffix
    exact hIndexes.add_wildcard hSuffix

/- So a table holds all entries that were added. -/
theorem indexes_foldl
    (hosts : List Entry)
    (fallback : List RouteDefinition) :
    Indexes hosts (hosts.foldl HostTable.add { fallback }) := by
  induction hosts using List.reverseRecOn with
  | nil =>
      refine ⟨?_, ?_, ?_⟩
      · intro host routes hGet
        cases hGet
      · intro host hGet e he
        cases he
      · simp
  | append_singleton hosts e ih =>
      rw [List.foldl_concat]
      exact ih.add e

/- The fallback is left as it is. -/
theorem fallback_foldl
    (hosts : List Entry)
    (t : HostTable) :
    (hosts.foldl HostTable.add t).fallback = t.fallback := by
  induction hosts generalizing t with
  | nil => rfl
  | cons e hosts ih =>
      rw [List.foldl_cons, ih]
      unfold HostTable.add
      split <;> rfl

end Add

/- Sorting the wildcards leaves what a table holds. -/
theorem indexes_ofList
    (hosts : List Entry)
    (fallback : List RouteDefinition) :
    Indexes hosts (ofList hosts fallback) := by
  have hIndexes := indexes_foldl hosts fallback
  refine ⟨hIndexes.of_exact, hIndexes.of_no_exact, ?_⟩
  intro w
  exact List.mem_mergeSort.trans (hIndexes.wildcards_iff w)

------------------------------------------------------------
-- Endings
------------------------------------------------------------

/-
  Of two endings of one text the one with fewer octets has
  fewer characters.
-/
theorem size_lt_iff_of_suffix
    {a b : String}
    (hSuffix : a.toList <:+ b.toList) :
    a.utf8ByteSize < b.utf8ByteSize ↔ a.length < b.length := by
  rcases hSuffix with ⟨before, hList⟩
  have hWhole : String.ofList before ++ a = b := by
    apply String.toList_inj.mp
    rw [String.toList_append, String.toList_ofList, hList]
  rw [← hWhole, String.utf8ByteSize_append,
    String.length_append]
  by_cases hNone : String.ofList before = ""
  · rw [hNone]
    simp
  · have hSize :
        (String.ofList before).utf8ByteSize ≠ 0 := by
      rwa [Ne, String.utf8ByteSize_eq_zero_iff]
    have hLength : (String.ofList before).length ≠ 0 := by
      rwa [Ne, String.length_eq_zero_iff]
    omega

theorem length_le_of_size_le
    {a b host : String}
    (ha : a.toList <:+ host.toList)
    (hb : b.toList <:+ host.toList)
    (hSize : a.utf8ByteSize ≤ b.utf8ByteSize) :
    a.length ≤ b.length := by
  by_contra hLonger
  have hLess : b.length < a.length := Nat.lt_of_not_le hLonger
  have hSuffix : b.toList <:+ a.toList := by
    apply List.suffix_of_suffix_length_le hb ha
    rw [String.length_toList, String.length_toList]
    exact Nat.le_of_lt hLess
  have hSmaller := (size_lt_iff_of_suffix hSuffix).mpr hLess
  exact absurd hSize (Nat.not_le.mpr hSmaller)

/- A wildcard accepts the hosts that it covers. -/
theorem accepts_iff
    {w : WildcardRoutes}
    {name host : String}
    (hSuffix : w.suffix = "." ++ name) :
    w.accepts host = true ↔ Covers name host := by
  rw [WildcardRoutes.accepts, Bool.and_eq_true,
    decide_eq_true_eq, List.isSuffixOf_iff_suffix, hSuffix,
    Covers, and_comm]
  exact and_congr_right size_lt_iff_of_suffix

------------------------------------------------------------
-- The Order of Wildcards
------------------------------------------------------------

theorem precedes_trans
    (a b c : WildcardRoutes)
    (hab : a.precedes b = true)
    (hbc : b.precedes c = true) :
    a.precedes c = true := by
  unfold WildcardRoutes.precedes at *
  split at hab <;> split at hbc <;> split
  all_goals
    simp only [decide_eq_true_eq] at hab hbc ⊢
  · exact String.le_trans hab hbc
  all_goals omega

theorem precedes_total
    (a b : WildcardRoutes) :
    (a.precedes b || b.precedes a) = true := by
  unfold WildcardRoutes.precedes
  by_cases hSize :
      a.suffix.utf8ByteSize = b.suffix.utf8ByteSize
  · simpa [hSize] using String.le_total a.suffix b.suffix
  · simp only [if_neg hSize, if_neg (Ne.symm hSize),
      Bool.or_eq_true, decide_eq_true_eq]
    omega

theorem size_le_of_precedes
    {a b : WildcardRoutes}
    (hPrecedes : a.precedes b = true) :
    b.suffix.utf8ByteSize ≤ a.suffix.utf8ByteSize := by
  unfold WildcardRoutes.precedes at hPrecedes
  split at hPrecedes
  · omega
  · exact Nat.le_of_lt (of_decide_eq_true hPrecedes)

/- The first wildcard that accepts a host is the largest. -/
theorem size_le_of_find?_mergeSort
    {ws : List WildcardRoutes}
    {host : String}
    {w : WildcardRoutes}
    (hFind :
      (ws.mergeSort WildcardRoutes.precedes).find?
        (fun w => w.accepts host) = some w)
    {v : WildcardRoutes}
    (hMember : v ∈ ws)
    (hAccepts : v.accepts host = true) :
    v.suffix.utf8ByteSize ≤ w.suffix.utf8ByteSize := by
  have hSorted :=
    List.pairwise_mergeSort precedes_trans precedes_total ws
  rcases List.find?_eq_some_iff_append.mp hFind with
    ⟨-, before, after, hSplit, hBefore⟩
  rw [← @List.mem_mergeSort _ WildcardRoutes.precedes,
    hSplit] at hMember
  rw [hSplit] at hSorted
  rcases List.mem_append.mp hMember with hEarlier | hLater
  · have hNot := hBefore v hEarlier
    rw [hAccepts] at hNot
    cases hNot
  · rcases List.mem_cons.mp hLater with rfl | hAfter
    · exact Nat.le_refl _
    · have hTail := (List.pairwise_append.mp hSorted).2.1
      exact
        size_le_of_precedes
          (List.rel_of_pairwise_cons hTail hAfter)

------------------------------------------------------------
-- What a Table Serves
------------------------------------------------------------

/- The wildcard that is found covers and is the longest. -/
theorem longest_of_wildcard?
    {hosts : List Entry}
    {fallback routes : List RouteDefinition}
    {host : String}
    (hFound :
      (ofList hosts fallback).wildcard? host = some routes) :
    ∃ e ∈ hosts, e.2 = routes ∧
      ∃ name, e.IsForEnding name host ∧
        ∀ e ∈ hosts, ∀ other,
          Entry.IsForEnding e other host →
            other.length ≤ name.length := by
  have hIndexes := indexes_foldl hosts fallback
  have hSorted := indexes_ofList hosts fallback
  rcases Option.map_eq_some_iff.mp hFound with
    ⟨w, hFind, rfl⟩
  rcases (hSorted.wildcards_iff w).mp
      (List.mem_of_find?_eq_some hFind) with
    ⟨e, he, hRoutes, hEnding⟩
  rcases parse_eq_ending_iff.mp hEnding with
    ⟨name, hKey, hName⟩
  have hAccepts := List.find?_some hFind
  have hCovers : Covers name host :=
    (accepts_iff hName).mp hAccepts
  refine ⟨e, he, hRoutes, name, ⟨hKey, hCovers⟩, ?_⟩
  rintro a ha other ⟨hOtherKey, hOtherCovers⟩
  -- The other entry is a wildcard of the table as well.
  have hMember :
      (⟨"." ++ other, a.2⟩ : WildcardRoutes) ∈
        (hosts.foldl HostTable.add { fallback }).wildcards :=
    (hIndexes.wildcards_iff _).mpr
      ⟨a, ha, rfl, parse_of_wildcard hOtherKey⟩
  have hSize :=
    size_le_of_find?_mergeSort hFind hMember
      ((accepts_iff rfl).mpr hOtherCovers)
  rw [hName] at hSize
  have hLength :=
    length_le_of_size_le hOtherCovers.1 hCovers.1 hSize
  rw [String.length_append, String.length_append] at hLength
  exact Nat.le_of_add_le_add_left hLength

/- Nothing is found if no wildcard covers the host. -/
theorem not_isForEnding_of_wildcard?
    {hosts : List Entry}
    {fallback : List RouteDefinition}
    {host : String}
    (hNone : (ofList hosts fallback).wildcard? host = none) :
    ∀ e ∈ hosts, ∀ name, ¬Entry.IsForEnding e name host := by
  have hSorted := indexes_ofList hosts fallback
  rintro e he name ⟨hKey, hCovers⟩
  have hRejects :=
    List.find?_eq_none.mp (Option.map_eq_none_iff.mp hNone)
  have hMember :
      (⟨"." ++ name, e.2⟩ : WildcardRoutes) ∈
        (ofList hosts fallback).wildcards :=
    (hSorted.wildcards_iff _).mpr
      ⟨e, he, rfl, parse_of_wildcard hKey⟩
  exact hRejects _ hMember ((accepts_iff rfl).mpr hCovers)

theorem serves_select
    (hosts : List Entry)
    (fallback : List RouteDefinition)
    (host : Option String) :
    Serves hosts fallback host
      ((ofList hosts fallback).select host) := by
  have hIndexes := indexes_ofList hosts fallback
  have hFallback :
      (ofList hosts fallback).fallback = fallback :=
    fallback_foldl hosts { fallback }
  unfold select
  cases host with
  | none =>
      simp only [hFallback]
      exact .noHost
  | some host =>
      cases hExact : (ofList hosts fallback).exact.get? host with
      | some routes =>
          rcases hIndexes.of_exact hExact with
            ⟨e, he, hFor, rfl⟩
          simp only [hExact]
          exact .exact he hFor
      | none =>
          have hNone := hIndexes.of_no_exact hExact
          simp only [hExact]
          cases hFound :
              (ofList hosts fallback).wildcard? host with
          | some routes =>
              rcases longest_of_wildcard? hFound with
                ⟨e, he, rfl, name, hFor, hLongest⟩
              exact .wildcard hNone he hFor hLongest
          | none =>
              rw [Option.getD_none, hFallback]
              exact
                .other hNone
                  (not_isForEnding_of_wildcard? hFound)

------------------------------------------------------------
-- One Answer
------------------------------------------------------------

/- Entries with one key have the same definitions. -/
def KeysAgree (hosts : List Entry) : Prop :=
  ∀ a ∈ hosts, ∀ b ∈ hosts, keyOf a.1 = keyOf b.1 → a.2 = b.2

/- Endings of one host that are as long are the same. -/
theorem eq_of_covers
    {name other host : String}
    (hName : Covers name host)
    (hOther : Covers other host)
    (hLength : name.length = other.length) :
    name = other := by
  have hLengths :
      ("." ++ name).toList.length =
        ("." ++ other).toList.length := by
    rw [String.length_toList, String.length_toList,
      String.length_append, String.length_append, hLength]
  have hLists :
      ("." ++ name).toList = ("." ++ other).toList :=
    (List.suffix_of_suffix_length_le hName.1 hOther.1
      (Nat.le_of_eq hLengths)).eq_of_length hLengths
  rw [toList_dot_append, toList_dot_append] at hLists
  exact String.toList_inj.mp (List.cons.inj hLists).2

/- If the keys agree only one thing can be served. -/
theorem Serves.unique
    {hosts : List Entry}
    {fallback : List RouteDefinition}
    {host : Option String}
    {a b : List RouteDefinition}
    (hAgree : KeysAgree hosts)
    (ha : Serves hosts fallback host a)
    (hb : Serves hosts fallback host b) :
    a = b := by
  cases ha with
  | noHost => cases hb; rfl
  | exact aMember aFor =>
      cases hb with
      | exact bMember bFor =>
          exact
            hAgree _ aMember _ bMember
              (aFor.1.trans bFor.1.symm)
      | wildcard noExact =>
          exact absurd aFor (noExact _ aMember)
      | other noExact => exact absurd aFor (noExact _ aMember)
  | wildcard aExact aMember aFor aLongest =>
      cases hb with
      | exact bMember bFor =>
          exact absurd bFor (aExact _ bMember)
      | wildcard _ bMember bFor bLongest =>
          have hLength :=
            Nat.le_antisymm (bLongest _ aMember _ aFor)
              (aLongest _ bMember _ bFor)
          have hName := eq_of_covers aFor.2 bFor.2 hLength
          apply hAgree _ aMember _ bMember
          rw [aFor.1, bFor.1, hName]
      | other _ noWildcard =>
          exact absurd aFor (noWildcard _ aMember _)
  | other aExact aWildcard =>
      cases hb with
      | exact bMember bFor =>
          exact absurd bFor (aExact _ bMember)
      | wildcard _ bMember bFor =>
          exact absurd bFor (aWildcard _ bMember _)
      | other => rfl

------------------------------------------------------------
-- Requests
------------------------------------------------------------

/-
  For each request a table lists the definitions of its host
  as it is, or else of the longest wildcard that covers it,
  or else the fallback.  Its host is the one that the target
  or the host field is written with, without its port and in
  lower case, as are the keys that it is compared with.
-/
theorem list_longest
    (hosts : List Entry)
    (fallback : List RouteDefinition)
    (x : Exchange) :
    (∃ l, (ofList hosts fallback).source.list x = .ok l ∧
        Serves hosts fallback x.host? l.routes) ∧
      ∀ host, x.HasHost host ↔ x.host? = host :=
  ⟨⟨_, rfl, serves_select hosts fallback x.host?⟩,
    fun _ => Exchange.hasHost_iff⟩

/- A shop, a wildcard for all others, and one within it. -/
def shopHosts : List Entry :=
  [(" Shop.Example ", [{ id := "shop", uri := "lb://shop" }]),
    ("*.example", [{ id := "any", uri := "lb://any" }]),
    ("*.shop.EXAMPLE", [{ id := "sub", uri := "lb://sub" }])]

/- A request for a site at a port. -/
def toSite (name port : String) : Exchange :=
  { uri :=
      { scheme := some "http"
        authority := some (name ++ ":" ++ port)
        path := "/"
        query := none } }

/- It has the host that it names, without the port. -/
theorem hasHost_toSite
    {name port : String}
    (hName : ∀ c ∈ name.toList, c ∉ [':', '@', '[', ']'])
    (hPort : '@' ∉ port.toList) :
    (toSite name port).HasHost (some name.toLower) := by
  have hNot :
      ∀ c ∈ [':', '@', '[', ']'], c ∉ name.toList :=
    fun c hc hMember => hName c hMember hc
  have hText :
      (name ++ ":" ++ port).toList =
        name.toList ++ ':' :: port.toList := by
    simp [String.toList_append]
  have hUser : FollowsUser (name ++ ":" ++ port).toList
      (name.toList ++ ':' :: port.toList) := by
    refine ⟨?_, .inl hText⟩
    have hHere := hNot '@' (by decide)
    simp [hHere, hPort]
  have hStarts :
      StartsWithHost (name.toList ++ ':' :: port.toList)
        name.toList := by
    refine .plain ?_ (hNot ':' (by decide)) ?_
    · intro hHead
      rw [List.head?_append] at hHead
      rcases Option.or_eq_some_iff.mp hHead with
        hFirst | ⟨-, hColon⟩
      · exact hNot '[' (by decide) (List.mem_of_head? hFirst)
      · exact absurd (Option.some.inj hColon) (by decide)
    · intro c hc
      exact (Option.some.inj hc).symm
  have hBare : Bare name.toList name.toList :=
    bare_of_not_mem (hNot '[' (by decide)) (hNot ']' (by decide))
  have hHost : (toSite name port).HasHost _ :=
    .target rfl hUser hStarts hBare
  rwa [String.ofList_toList] at hHost

theorem keys_shopHosts :
    shopHosts.map (fun e => keyOf e.1) =
      ["shop.example", "*.example", "*.shop.example"] := by
  decide +kernel

theorem keysAgree_shopHosts : KeysAgree shopHosts := by
  have hNodup : (shopHosts.map fun e => keyOf e.1).Nodup := by
    rw [keys_shopHosts]
    decide
  intro a ha b hb hKeys
  rw [List.inj_on_of_nodup_map hNodup ha hb hKeys]

theorem mem_keys_shopHosts
    {e : Entry}
    (he : e ∈ shopHosts) :
    keyOf e.1 ∈
      ["shop.example", "*.example", "*.shop.example"] := by
  rw [← keys_shopHosts]
  exact List.mem_map_of_mem he

theorem serves_shop :
    Serves shopHosts [] (some "shop.example")
      [{ id := "shop", uri := "lb://shop" }] := by
  have hKey : keyOf " Shop.Example " = "shop.example" :=
    (List.cons.inj keys_shopHosts).1
  refine .exact List.mem_cons_self ⟨hKey, ?_⟩
  unfold IsWildcard
  decide

theorem serves_sub :
    Serves shopHosts [] (some "www.shop.example")
      [{ id := "sub", uri := "lb://sub" }] := by
  have hKey : keyOf "*.shop.EXAMPLE" = "*." ++ "shop.example" :=
    (List.cons.inj
      (List.cons.inj (List.cons.inj keys_shopHosts).2).2).1
  have hLast :
      ("*.shop.EXAMPLE", [{ id := "sub", uri := "lb://sub" }]) ∈
        shopHosts := by
    simp [shopHosts]
  have hCovers : Covers "shop.example" "www.shop.example" := by
    unfold Covers
    decide
  refine .wildcard ?_ hLast ⟨hKey, hCovers⟩ ?_
  · intro e he hFor
    have hListed := mem_keys_shopHosts he
    rw [hFor.1] at hListed
    revert hListed
    decide
  · intro e he other hFor
    have hListed := mem_keys_shopHosts he
    have hLengths :
        ∀ key ∈ ["shop.example", "*.example", "*.shop.example"],
          key.length ≤ 14 := by
      decide
    have hLength := hLengths _ hListed
    rw [hFor.1, String.length_append] at hLength
    exact Nat.le_of_add_le_add_left hLength

/-
  The shop is served as it is, and what is within it by the
  longer wildcard, at any port and in any letter case.
-/
theorem list_longest_shop :
    (toSite "SHOP.example" "8080").HasHost
        (some "shop.example") ∧
      (toSite "www.Shop.Example" "8443").HasHost
        (some "www.shop.example") ∧
      (∃ l, (ofList shopHosts []).source.list
            (toSite "SHOP.example" "8080") = .ok l ∧
          l.routes = [{ id := "shop", uri := "lb://shop" }]) ∧
      ∃ l, (ofList shopHosts []).source.list
            (toSite "www.Shop.Example" "8443") = .ok l ∧
          l.routes = [{ id := "sub", uri := "lb://sub" }] := by
  have hShop :
      (toSite "SHOP.example" "8080").HasHost
        (some "shop.example") := by
    have hLower : "SHOP.example".toLower = "shop.example" := by
      cbv
    rw [← hLower]
    exact hasHost_toSite (by simp) (by simp)
  have hSub :
      (toSite "www.Shop.Example" "8443").HasHost
        (some "www.shop.example") := by
    have hLower :
        "www.Shop.Example".toLower = "www.shop.example" := by
      cbv
    rw [← hLower]
    exact hasHost_toSite (by simp) (by simp)
  rcases list_longest shopHosts []
      (toSite "SHOP.example" "8080") with
    ⟨⟨l, hList, hServes⟩, hHost⟩
  rcases list_longest shopHosts []
      (toSite "www.Shop.Example" "8443") with
    ⟨⟨k, kList, kServes⟩, kHost⟩
  rw [(hHost _).mp hShop] at hServes
  rw [(kHost _).mp hSub] at kServes
  exact
    ⟨hShop, hSub,
      ⟨l, hList,
        hServes.unique keysAgree_shopHosts serves_shop⟩,
      ⟨k, kList,
        kServes.unique keysAgree_shopHosts serves_sub⟩⟩

end HostTable

end Signpost
