import Mathlib
import Signpost.Proofs.Url.Special

/-
  Which texts are read as URLs with a host.  With the scheme
  of the web all of them are, and with most other schemes
  those that name a server after two slashes.

  Main declarations:
    * `Url.serverText`
    * `Url.host_of_special`
    * `Url.host_of_plain_iff`
    * `Url.host_isSome_iff`
-/

namespace Signpost

open Text

------------------------------------------------------------
-- Empty Hosts
------------------------------------------------------------

/- What is encoded is empty only if it was before. -/
theorem Text.percentEncode_eq_nil_iff
    {inSet : Char → Bool}
    {cs : List Char} :
    percentEncode inSet cs = [] ↔ cs = [] := by
  constructor
  · intro hNone
    cases cs with
    | nil => rfl
    | cons c cs =>
        rw [percentEncode, List.flatMap_cons,
          List.append_eq_nil_iff] at hNone
        have hHere := hNone.1
        split at hHere
        · cases hHere
        · rw [percentChar, List.flatMap_eq_nil_iff] at hHere
          have hSome : String.utf8EncodeChar c ≠ [] := by
            rw [← List.length_pos_iff,
              String.length_utf8EncodeChar]
            exact c.utf8Size_pos
          rcases List.exists_mem_of_ne_nil _ hSome with
            ⟨b, hMember⟩
          exact absurd (hHere b hMember) (by simp [percentOctet])
  · rintro rfl
    rfl

/- A host that is no domain is empty only without a text. -/
theorem Host.isEmpty_of_parsePlain
    {h : Host}
    {cs : List Char}
    (hRead : parsePlain cs = .ok h) :
    h.isEmpty = true ↔ cs = [] := by
  unfold parsePlain at hRead
  split at hRead
  · rcases exists_of_parseBracket hRead with ⟨i, rfl⟩
    simp [isEmpty]
  · split at hRead
    · cases hRead
    · cases hRead
      rw [isEmpty, String.isEmpty_iff, Url.encoded,
        String.ofList_eq_empty_iff, percentEncode_eq_nil_iff]

namespace Url

variable {cs rest : List Char}
variable {scheme s : String}
variable {u : Url}

/- A server without a host has no port either. -/
theorem eq_nil_of_cutPort
    (hHost : (cutPort false cs).1 = [])
    (hPort : (cutPort false cs).2 = none) :
    cs = [] := by
  cases cs with
  | nil => rfl
  | cons c cs =>
      unfold cutPort at hHost hPort
      split at hHost
      · rename_i hColon
        rw [if_pos hColon] at hPort
        cases hPort
      · cases hHost

/- In a plain authority the host is empty if the server is. -/
theorem isEmpty_host_iff
    (hPlain : isSpecialScheme scheme = false)
    {followed : Bool}
    {a : Authority}
    {extra : List Char}
    (hRead : authorityOf scheme followed cs = .ok (a, extra)) :
    a.host.isEmpty = true ↔ serverPart cs = [] := by
  rcases host_of_authorityOf hRead with ⟨hHost, hPort⟩
  rw [hostOf, if_neg (by simp [hPlain])] at hHost
  have hText := Host.isEmpty_of_parsePlain hHost
  constructor
  · intro hEmpty
    exact eq_nil_of_cutPort (hText.mp hEmpty) (hPort hEmpty)
  · intro hNone
    apply hText.mpr
    rw [hNone]
    rfl

------------------------------------------------------------
-- Special Schemes
------------------------------------------------------------

/- A URL of the web has a host. -/
theorem host_of_special
    (hParse : parse s = .ok u)
    (hSpecial : u.isSpecial = true)
    (hFile : u.scheme ≠ "file") :
    u.host?.isSome = true := by
  rcases place_of_parse hParse with ⟨rest, hStart, -⟩
  rcases authorityOf_of_parse hStart hSpecial hFile hParse with
    ⟨-, a, extra, hAuthority, hRead⟩
  have hHost :=
    (Authority.stable_of_authorityOf hSpecial hRead).host
  simp [host?, hAuthority, hHost.isEmpty_eq_false]

------------------------------------------------------------
-- Other Schemes
------------------------------------------------------------

/- A character that ends the authority of any other URL. -/
def endsPlainAuthority (c : Char) : Bool :=
  isSlash false c || c = '?' || c = '#'

/- The host and the port after the two slashes of a text. -/
def serverText (s : String) : List Char :=
  match schemeOf (significant s.toList) with
  | some (_, '/' :: '/' :: rest) =>
      serverPart (rest.takeWhile (!endsPlainAuthority ·))
  | _ => []

/- What is before the marks may end at a slash. -/
theorem takeWhile_plain
    (rest : List Char) :
    (cutAt '?' (cutAt '#' rest).1).1.takeWhile
        (!isSlash false ·) =
      rest.takeWhile (!endsPlainAuthority ·) := by
  rw [fst_cutAt, fst_cutAt, List.takeWhile_takeWhile,
    List.takeWhile_takeWhile]
  congr 1
  funext c
  simp [endsPlainAuthority]

/- Two slashes before the marks are two slashes at all. -/
theorem cut_slashes_iff
    {inner : List Char} :
    (cutAt '?' (cutAt '#' rest).1).1 = '/' :: '/' :: inner ↔
      ∃ more,
        rest = '/' :: '/' :: more ∧
          (cutAt '?' (cutAt '#' more).1).1 = inner := by
  simp only [fst_cutAt, List.takeWhile_takeWhile]
  constructor
  · intro hCut
    rcases hCut ▸ List.takeWhile_prefix _ with ⟨after, hRest⟩
    refine ⟨inner ++ after, hRest.symm, ?_⟩
    rw [← hRest] at hCut
    simpa using hCut
  · rintro ⟨more, rfl, rfl⟩
    simp

/- Any other URL has a host if its text names a server. -/
theorem host_of_plain_iff
    (hParse : parse s = .ok u)
    (hPlain : u.isSpecial = false) :
    u.host?.isSome = true ↔ serverText s ≠ [] := by
  rcases place_of_parse hParse with
    ⟨rest, hStart, followed, place, hPlace, hAuthority, -⟩
  have hScheme : isSpecialScheme u.scheme = false := hPlain
  have hFile : u.scheme ≠ "file" := by
    intro hFile
    rw [hFile] at hScheme
    exact absurd hScheme (by decide)
  unfold placeOf at hPlace
  rw [if_neg hFile, if_neg (by simp [hScheme])] at hPlace
  by_cases hSlashes : ∃ more, rest = '/' :: '/' :: more
  · rcases hSlashes with ⟨more, rfl⟩
    rw [cut_slashes_iff.mpr ⟨more, rfl, rfl⟩] at hPlace
    simp only at hPlace
    rcases authority_of_afterSlashes hPlace with
      ⟨a, extra, ends, hSome, hRead⟩
    rw [hScheme, takeWhile_plain] at hRead
    have hEmpty := isEmpty_host_iff hScheme hRead
    rw [serverText, hStart, host?, hAuthority, hSome]
    simp only [ne_eq, ← hEmpty]
    cases a.host.isEmpty with
    | true => simp
    | false => simp
  · have hNone : place.authority = none := by
      generalize hCut : (cutAt '?' (cutAt '#' rest).1).1 = cs
        at hPlace
      split at hPlace
      · rcases cut_slashes_iff.mp hCut with ⟨more, hRest, -⟩
        exact absurd ⟨more, hRest⟩ hSlashes
      · cases hPlace
        rfl
      · cases hPlace
        rfl
    have hText : serverText s = [] := by
      rw [serverText, hStart]
      split
      · rename_i more hSame
        cases hSame
        exact absurd ⟨more, rfl⟩ hSlashes
      · rfl
    simp [host?, hAuthority, hNone, hText]

/- A URL with a host is of the web or names a server. -/
theorem host_isSome_iff
    (hParse : parse s = .ok u)
    (hFile : u.scheme ≠ "file") :
    u.host?.isSome = true ↔
      u.isSpecial = true ∨ serverText s ≠ [] := by
  cases hScheme : u.isSpecial with
  | true => simp [host_of_special hParse hScheme hFile]
  | false => simp [host_of_plain_iff hParse hScheme]

end Url

end Signpost
