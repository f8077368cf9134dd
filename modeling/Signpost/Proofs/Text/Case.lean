import Mathlib

/-
  Texts in lower and in upper case: letter case matters to
  letters only.

  Main declarations:
    * `Text.toNat_lt_of_isAlphanum_or_mark`
    * `Text.toLower_eq_iff`
    * `Text.forall_ascii`
    * `Text.mem_toLower_ofList_iff`
    * `Text.toLower_ofList_iff`
    * `Text.eq_toUpper_iff`
-/

namespace Signpost.Text

variable {c d : Char}
variable {cs word : List Char}

------------------------------------------------------------
-- Characters
------------------------------------------------------------

theorem toLower_of_not_isAlpha
    (hOther : c.isAlpha = false) :
    c.toLower = c := by
  have hUpper := (Bool.or_eq_false_iff.mp hOther).1
  exact
    Char.toLower_eq_of_not_isUpper
      (ne_true_of_eq_false hUpper)

/- A letter or a digit is in ASCII. -/
theorem toNat_lt_of_isAlphanum
    (hPlain : c.isAlphanum = true) :
    c.toNat < 0x80 := by
  simp only [Char.isAlphanum, Char.isAlpha, Char.isUpper,
    Char.isLower, Char.isDigit, Bool.or_eq_true,
    Bool.and_eq_true, decide_eq_true_eq, ge_iff_le,
    UInt32.le_iff_toNat_le] at hPlain
  rcases hPlain with (hUpper | hLower) | hDigit
  · exact Nat.lt_of_le_of_lt hUpper.2 (by decide)
  · exact Nat.lt_of_le_of_lt hLower.2 (by decide)
  · exact Nat.lt_of_le_of_lt hDigit.2 (by decide)

/- So is any of some marks in ASCII. -/
theorem toNat_lt_of_isAlphanum_or_mark
    {marks : List Char}
    (hMarks : marks.all (fun d => d.toNat < 0x80) = true)
    (hChar : (c.isAlphanum || marks.contains c) = true) :
    c.toNat < 0x80 := by
  rcases Bool.or_eq_true_iff.mp hChar with hPlain | hMark
  · exact toNat_lt_of_isAlphanum hPlain
  · have hMember := List.contains_iff_mem.mp hMark
    exact
      of_decide_eq_true (List.all_eq_true.mp hMarks c hMember)

/-
  What is true of each character in ASCII: there are few
  enough of them to try them all.
-/
theorem forall_ascii
    {p : Char → Prop}
    (hAll : ∀ n : Fin 0x80, p (Char.ofNat n)) :
    ∀ c : Char, c.toNat < 0x80 → p c := by
  intro c hAscii
  have hHere := hAll ⟨c.toNat, hAscii⟩
  rwa [Char.ofNat_toNat] at hHere

theorem toLower_eq_iff
    (hOther : d.isAlpha = false) :
    c.toLower = d ↔ c = d := by
  constructor
  · rintro rfl
    rw [Char.isAlpha_toLower_eq_isAlpha] at hOther
    exact (toLower_of_not_isAlpha hOther).symm
  · rintro rfl
    exact toLower_of_not_isAlpha hOther

------------------------------------------------------------
-- Texts
------------------------------------------------------------

theorem toList_toLower_ofList
    (cs : List Char) :
    (String.ofList cs).toLower.toList =
      cs.map Char.toLower := by
  rw [String.toLower, String.toList_map, String.toList_ofList]

/- What is no letter is in a text in either case. -/
theorem mem_toLower_ofList_iff
    (hOther : c.isAlpha = false) :
    c ∈ (String.ofList cs).toLower.toList ↔ c ∈ cs := by
  simp only [toList_toLower_ofList, List.mem_map,
    toLower_eq_iff hOther, exists_eq_right]

/- A word without letters is spelled in one way. -/
theorem toLower_ofList_iff
    (hOther : word.any Char.isAlpha = false) :
    (String.ofList cs).toLower = String.ofList word ↔
      cs = word := by
  rw [← String.toList_inj, toList_toLower_ofList,
    String.toList_ofList]
  induction cs generalizing word with
  | nil => rw [List.map_nil]
  | cons c cs ih =>
      cases word with
      | nil => simp
      | cons d word =>
          rw [List.any_cons, Bool.or_eq_false_iff] at hOther
          simp [toLower_eq_iff hOther.1, ih hOther.2]

/- In upper case is what has no letter in lower case. -/
theorem eq_toUpper_iff
    {s t : String} :
    s = t.toUpper ↔
      (∀ c ∈ s.toList, c.isLower = false) ∧
        s.toLower = t.toLower := by
  constructor
  · intro hUpper
    subst hUpper
    constructor
    · intro c hc
      rw [String.toUpper, String.toList_map, List.mem_map] at hc
      rcases hc with ⟨d, -, rfl⟩
      exact Char.isLower_toUpper_eq_false d
    · apply String.toList_inj.mp
      simp [String.toLower, String.toUpper, String.toList_map,
        Function.comp_def, Char.toLower_toUpper_eq_toLower]
  · intro hBoth
    rcases hBoth with ⟨hUpper, hSame⟩
    have hUpperSame :
        s.toList.map Char.toUpper = t.toList.map Char.toUpper := by
      have hLists := congrArg String.toList hSame
      rw [String.toLower, String.toLower, String.toList_map,
        String.toList_map] at hLists
      have hTwice := congrArg (List.map Char.toUpper) hLists
      simpa [Function.comp_def, Char.toUpper_toLower_eq_toUpper]
        using hTwice
    have hEach : ∀ c ∈ s.toList, c.toUpper = c :=
      fun c hc =>
        Char.toUpper_eq_of_not_isLower
          (ne_true_of_eq_false (hUpper c hc))
    have hSelf : s.toList.map Char.toUpper = s.toList :=
      (List.map_congr_left hEach).trans (List.map_id' _)
    apply String.toList_inj.mp
    rw [String.toUpper, String.toList_map, ← hUpperSame, hSelf]

end Signpost.Text
