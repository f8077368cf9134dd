import Mathlib
import Signpost.Proofs.Net.Address
import Signpost.Proofs.Url.Domain

/-
  The hosts that special URLs have are read back from their
  texts, which have no characters that end a host.

  Main declarations:
    * `Host.Special`
    * `Host.special_of_parseDomain`
    * `Host.Special.mem_text`
    * `Host.Special.parseDomain_text`
-/

namespace Signpost

open Text
open Url

namespace Host

variable {h : Host}
variable {cs : List Char}

------------------------------------------------------------
-- Hosts of Special URLs
------------------------------------------------------------

/- A host that a URL with a special scheme may have. -/
inductive Special : Host → Prop where
| v6 (i : Ipv6) : Special (.v6 i)
| v4 (i : Ipv4) : Special (.v4 i)
| name
    {bs : List UInt8}
    {domain : List Char}
    (hForm : domainToAscii? bs = some domain)
    (hSome : domain ≠ [])
    (hName : endsInNumber domain = false) :
    Special (.name (String.ofList domain))

/- Between brackets there is an address. -/
theorem exists_of_parseBracket
    (hRead : parseBracket cs = .ok h) :
    ∃ i, h = .v6 i := by
  unfold parseBracket at hRead
  split at hRead
  · split at hRead
    · rename_i i _
      cases hRead
      exact ⟨i, rfl⟩
    · cases hRead
  · cases hRead

theorem special_of_parseDomain
    (hRead : parseDomain cs = .ok h) :
    Special h := by
  unfold parseDomain at hRead
  split at hRead
  · rcases exists_of_parseBracket hRead with ⟨i, rfl⟩
    exact .v6 i
  · split at hRead
    · cases hRead
    · rename_i domain hForm
      split at hRead
      · cases hRead
      · rename_i hSome
        split at hRead
        · split at hRead
          · rename_i i _
            cases hRead
            exact .v4 i
          · cases hRead
        · rename_i hName
          cases hRead
          exact
            .name hForm
              (fun hEmpty =>
                hSome (List.isEmpty_iff.mpr hEmpty))
              (Bool.not_eq_true _ ▸ hName)

------------------------------------------------------------
-- Their Texts
------------------------------------------------------------

theorem toList_text_v6
    (i : Ipv6) :
    (Host.v6 i).text.toList =
      '[' :: (i.text.toList ++ [']']) := by
  simp [text, String.toList_append]

/- Any other host has no characters that are denied. -/
theorem Special.exists_or_allowed
    (hSpecial : Special h) :
    (∃ i, h = .v6 i) ∨
      ∀ c ∈ h.text.toList, isDenied c = false := by
  cases hSpecial with
  | v6 i => exact .inl ⟨i, rfl⟩
  | v4 i =>
      right
      intro c hc
      exact (isNamePart_of_numeric (Ipv4.mem_text hc)).allowed
  | name hForm =>
      right
      rcases asciiForm?_of_domainToAscii? hForm with
        ⟨cs, hForm⟩
      rw [text, String.toList_ofList]
      exact not_isDenied_of_asciiForm? hForm

/-
  The text of a host has none but brackets, colons and
  characters that are not denied.
-/
theorem Special.mem_text
    (hSpecial : Special h)
    {c : Char}
    (hMember : c ∈ h.text.toList) :
    c = '[' ∨ c = ']' ∨ c = ':' ∨ isDenied c = false := by
  rcases hSpecial.exists_or_allowed with ⟨i, rfl⟩ | hAllowed
  · rw [toList_text_v6] at hMember
    simp only [List.mem_cons, List.mem_append,
      List.not_mem_nil, or_false] at hMember
    rcases hMember with hOpen | hInner | hClose
    · exact .inl hOpen
    · rcases Ipv6.mem_text hInner with hColon | ⟨d, hd, rfl⟩
      · exact .inr (.inr (.inl hColon))
      · have hDigits :
            ∀ d < 16, isDenied (Nat.digitChar d) = false := by
          decide +kernel
        exact .inr (.inr (.inr (hDigits d hd)))
    · exact .inr (.inl hClose)
  · exact .inr (.inr (.inr (hAllowed c hMember)))

theorem Special.text_ne_nil
    (hSpecial : Special h) :
    h.text.toList ≠ [] := by
  cases hSpecial with
  | v6 i =>
      rw [toList_text_v6]
      exact List.cons_ne_nil _ _
  | v4 i => exact i.text_ne_nil
  | name _ hSome =>
      rw [text, String.toList_ofList]
      exact hSome

/- A host that has no characters is none of them. -/
theorem Special.isEmpty_eq_false
    (hSpecial : Special h) :
    h.isEmpty = false := by
  cases hSpecial with
  | v6 i => rfl
  | v4 i => rfl
  | name _ hSome => simpa [isEmpty] using hSome

------------------------------------------------------------
-- Reading Them Back
------------------------------------------------------------

variable {domain : List Char}

/- A domain that ends in no number is a name. -/
theorem parseDomain_of_name
    (hOpen : '[' ∉ cs)
    (hForm :
      domainToAscii? (percentDecode (octetsOf cs)) =
        some domain)
    (hSome : domain ≠ [])
    (hName : endsInNumber domain = false) :
    parseDomain cs = .ok (.name (String.ofList domain)) := by
  unfold parseDomain
  split
  · exact absurd List.mem_cons_self hOpen
  · simp [hForm, hSome, hName]

end Host

end Signpost
