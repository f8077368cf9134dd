import Signpost.Http.Header
import Signpost.Proofs.Text.Octets

/-
  The value of a header field is read as the text that it was
  made from, if that is one of visible ASCII characters,
  blanks and tabs.

  Main declarations:
    * `Http.isReadable`
    * `Http.HeaderValue.readable?_of_parse?`
-/

namespace Signpost

namespace Text

/- A text in ASCII has one octet a character. -/
theorem octetsOf_of_ascii
    {cs : List Char}
    (hAscii : ∀ c ∈ cs, c.toNat < 0x80) :
    octetsOf cs = cs.map fun c => .ofNat c.toNat := by
  induction cs with
  | nil => rfl
  | cons c cs ih =>
      rcases List.forall_mem_cons.mp hAscii with ⟨hc, hRest⟩
      rw [octetsOf] at ih ⊢
      rw [List.flatMap_cons, utf8EncodeChar_of_ascii hc,
        ih hRest]
      rfl

end Text

namespace Http

open Text

/- A character that can be read in the value of a header. -/
def isReadable (c : Char) : Bool :=
  c = '\t' || (0x20 ≤ c.toNat && c.toNat < 0x7F)

theorem toNat_lt_of_isReadable
    {c : Char}
    (hReadable : isReadable c = true) :
    c.toNat < 0x7F := by
  rcases Bool.or_eq_true_iff.mp hReadable with hTab | hVisible
  · rw [of_decide_eq_true hTab]
    decide
  · exact of_decide_eq_true (Bool.and_eq_true_iff.mp hVisible).2

/- The octet of a readable character is readable. -/
theorem isReadableOctet_of_isReadable
    {c : Char}
    (hReadable : isReadable c = true) :
    isReadableOctet (.ofNat c.toNat) = true := by
  have hSmall := toNat_lt_of_isReadable hReadable
  have hOctet : (UInt8.ofNat c.toNat).toNat = c.toNat :=
    toNat_octet (by omega)
  simp only [isReadable, isReadableOctet, Bool.or_eq_true,
    Bool.and_eq_true, decide_eq_true_eq, ← UInt8.toNat_inj,
    UInt8.le_iff_toNat_le, UInt8.lt_iff_toNat_lt, hOctet,
    UInt8.reduceToNat] at hReadable ⊢
  rcases hReadable with rfl | hVisible
  · exact Or.inl rfl
  · exact Or.inr hVisible

/- A value is read as the text that it was made from. -/
theorem HeaderValue.readable?_of_parse?
    {text : String}
    {value : HeaderValue}
    (hText : ∀ c ∈ text.toList, isReadable c = true)
    (hParse : HeaderValue.parse? text = some value) :
    value.readable? = some text := by
  have hAscii : ∀ c ∈ text.toList, c.toNat < 0x80 := by
    intro c hc
    have hSmall := toNat_lt_of_isReadable (hText c hc)
    omega
  have hOctets :
      value.octets =
        text.toList.map fun c => .ofNat c.toNat := by
    rw [← octetsOf_of_ascii hAscii]
    unfold parse? ofOctets? at hParse
    split at hParse
    · cases hParse
      rfl
    · cases hParse
  have hAll : value.octets.all isReadableOctet = true := by
    rw [hOctets, List.all_map, List.all_eq_true]
    intro c hc
    exact isReadableOctet_of_isReadable (hText c hc)
  have hBack :
      value.octets.map (fun b => Char.ofNat b.toNat) =
        text.toList := by
    have hEach :
        ∀ c ∈ text.toList,
          Char.ofNat (UInt8.ofNat c.toNat).toNat = c := by
      intro c hc
      have hSmall := hAscii c hc
      rw [toNat_octet (by omega), Char.ofNat_toNat]
    rw [hOctets, List.map_map]
    exact (List.map_congr_left hEach).trans (List.map_id' _)
  rw [readable?, if_pos hAll, hBack, String.ofList_toList]

end Http

end Signpost
