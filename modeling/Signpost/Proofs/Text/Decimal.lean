import Mathlib
import Signpost.Text.Decimal

/-
  Numbers are read back from their digits, and any digits
  are read as their value.

  Main declarations:
    * `Text.exists_digitChar`
    * `Text.digitBelow?_digitChar`
    * `Text.readDigits_concat`
    * `Text.readDigits_le`
    * `Text.readDigits_toDigits`
    * `Text.readDigits_decimal_eq_ok_iff`
    * `Text.readNat_decimal_eq_ok_iff`
    * `Text.readNat_toDigits`
-/

namespace Signpost.Text

variable {base n : Nat}

theorem isDigit_of_mem_decimal
    {c : Char}
    (hMember : c ∈ Nat.toDigits 10 n) :
    c.isDigit = true :=
  Nat.isDigit_of_mem_toDigits (by decide) (by decide) hMember

/- The digits of a number are those below its base. -/
theorem exists_digitChar
    (hBase : 1 < base)
    {c : Char}
    (hMember : c ∈ Nat.toDigits base n) :
    ∃ d < base, c = Nat.digitChar d := by
  induction n using Nat.strongRecOn with
  | ind n ih =>
      by_cases hOne : n < base
      · rw [Nat.toDigits_of_lt_base hOne,
          List.mem_singleton] at hMember
        exact ⟨n, hOne, hMember⟩
      · have hSmaller : n / base < n :=
          Nat.div_lt_self (by omega) hBase
        rw [Nat.toDigits_of_base_le hBase (by omega),
          List.mem_append, List.mem_singleton] at hMember
        rcases hMember with hBefore | hLast
        · exact ih _ hSmaller hBefore
        · exact ⟨n % base, Nat.mod_lt n (by omega), hLast⟩

/- A digit is read as its value. -/
theorem digitBelow?_digitChar
    (hBase : base ≤ 16)
    {d : Nat}
    (hd : d < base) :
    digitBelow? base (Nat.digitChar d) = some d := by
  have hValues :
      ∀ d < 16, hexDigit? (Nat.digitChar d) = some d := by
    decide
  simp [digitBelow?, hValues d (by omega), hd]

/- One more digit is read after all others. -/
theorem readDigits_concat
    {limit acc m : Nat}
    {overflow : NumberError}
    {cs : List Char}
    {c : Char}
    {d : Nat}
    (hBefore : readDigits base limit overflow acc cs = .ok m)
    (hDigit : digitBelow? base c = some d)
    (hLimit : m * base + d ≤ limit) :
    readDigits base limit overflow acc (cs ++ [c]) =
      .ok (m * base + d) := by
  induction cs generalizing acc with
  | nil =>
      cases hBefore
      simp [readDigits, hDigit, hLimit]
  | cons b cs ih =>
      rw [List.cons_append]
      cases hFirst : digitBelow? base b with
      | none => simp [readDigits, hFirst] at hBefore
      | some f =>
          by_cases hFits : acc * base + f ≤ limit
          · simp only [readDigits, hFirst, if_pos hFits]
              at hBefore ⊢
            exact ih hBefore
          · simp [readDigits, hFirst, hFits] at hBefore

/- A number that is read is within the limit. -/
theorem readDigits_le
    {limit acc : Nat}
    {overflow : NumberError}
    {cs : List Char}
    (hAcc : acc ≤ limit)
    (hRead : readDigits base limit overflow acc cs = .ok n) :
    n ≤ limit := by
  induction cs generalizing acc with
  | nil =>
      cases hRead
      exact hAcc
  | cons c cs ih =>
      cases hDigit : digitBelow? base c with
      | none => simp [readDigits, hDigit] at hRead
      | some d =>
          by_cases hFits : acc * base + d ≤ limit
          · simp only [readDigits, hDigit, if_pos hFits] at hRead
            exact ih hFits hRead
          · simp [readDigits, hDigit, hFits] at hRead

/- A number within the limit is read from its digits. -/
theorem readDigits_toDigits
    {limit : Nat}
    (overflow : NumberError)
    (hTwo : 1 < base)
    (hBase : base ≤ 16)
    (hLimit : n ≤ limit) :
    readDigits base limit overflow 0 (Nat.toDigits base n) =
      .ok n := by
  induction n using Nat.strongRecOn with
  | ind n ih =>
      by_cases hOne : n < base
      · rw [Nat.toDigits_of_lt_base hOne]
        have hDigit := digitBelow?_digitChar hBase hOne
        simp [readDigits, hDigit, hLimit]
      · have hSmaller : n / base < n :=
          Nat.div_lt_self (by omega) hTwo
        have hLast : n % base < base :=
          Nat.mod_lt n (by omega)
        have hWhole : n / base * base + n % base = n :=
          Nat.div_add_mod' n base
        rw [Nat.toDigits_of_base_le hTwo (by omega),
          readDigits_concat (ih _ hSmaller (by omega))
            (digitBelow?_digitChar hBase hLast) (by omega),
          hWhole]

------------------------------------------------------------
-- Decimal Digits
------------------------------------------------------------

section Digits

variable {limit : Nat}
variable {cs : List Char}

theorem digitBelow?_of_isDigit
    {c : Char}
    (hDigit : c.isDigit = true) :
    digitBelow? 10 c = some (c.toNat - '0'.toNat) := by
  have hBounds : 48 ≤ c.toNat ∧ c.toNat ≤ 57 :=
    Char.isDigit_iff_toNat.mp hDigit
  have hZero : '0'.toNat = 48 := rfl
  have hSmall : c.toNat - '0'.toNat < 10 := by omega
  rw [digitBelow?, hexDigit?, if_pos hDigit]
  exact if_pos hSmall

/- Further digits make a number no smaller. -/
theorem le_ofDigitChars
    (cs : List Char)
    (acc : Nat) :
    acc ≤ Nat.ofDigitChars 10 cs acc := by
  rw [Nat.ofDigitChars_eq_ofDigitChars_zero]
  have hPower : 1 ≤ 10 ^ cs.length := Nat.one_le_pow' _ _
  calc
    acc = 1 * acc := (Nat.one_mul acc).symm
    _ ≤ 10 ^ cs.length * acc := Nat.mul_le_mul_right acc hPower
    _ ≤ _ := Nat.le_add_right _ _

/- Digits are read if their value is within the limit. -/
theorem readDigits_decimal_eq_ok_iff
    {overflow : NumberError}
    {acc : Nat}
    (hDigits : ∀ c ∈ cs, c.isDigit = true)
    (hAcc : acc ≤ limit) :
    readDigits 10 limit overflow acc cs = .ok n ↔
      Nat.ofDigitChars 10 cs acc = n ∧ n ≤ limit := by
  induction cs generalizing acc with
  | nil =>
      rw [readDigits, Nat.ofDigitChars_nil, Except.ok.injEq]
      constructor
      · rintro rfl
        exact ⟨rfl, hAcc⟩
      · exact fun h => h.1
  | cons c cs ih =>
      rcases List.forall_mem_cons.mp hDigits with ⟨hc, hRest⟩
      rw [readDigits, digitBelow?_of_isDigit hc,
        Nat.ofDigitChars_cons, Nat.mul_comm 10 acc]
      dsimp only
      split
      · rename_i hFits
        exact ih hRest hFits
      · rename_i hOver
        have hGrows :=
          le_ofDigitChars cs (acc * 10 + (c.toNat - '0'.toNat))
        constructor
        · intro hError
          cases hError
        · rintro ⟨rfl, hLimit⟩
          omega

/- A number that starts with a digit has no sign. -/
theorem readNat_cons_of_isDigit
    {c : Char}
    (hDigit : c.isDigit = true)
    (base limit : Nat)
    (cs : List Char) :
    readNat base limit (c :: cs) =
      readDigits base limit .tooLarge 0 (c :: cs) := by
  unfold readNat
  split
  · rename_i hNil
    cases hNil
  · rename_i hSign
    cases hSign
    cases hDigit
  · rename_i hSign
    cases hSign
    cases hDigit
  · rfl

/- A whole number has at least one digit. -/
theorem readNat_decimal_eq_ok_iff
    (hDigits : ∀ c ∈ cs, c.isDigit = true) :
    readNat 10 limit cs = .ok n ↔
      cs ≠ [] ∧ Nat.ofDigitChars 10 cs 0 = n ∧ n ≤ limit := by
  cases cs with
  | nil => simp [readNat]
  | cons c rest =>
      rw [readNat_cons_of_isDigit (hDigits c List.mem_cons_self),
        readDigits_decimal_eq_ok_iff hDigits (Nat.zero_le _)]
      simp

/- The decimal digits of a number are read as this number. -/
theorem readNat_toDigits
    (hLimit : n ≤ limit) :
    readNat 10 limit (Nat.toDigits 10 n) = .ok n :=
  (readNat_decimal_eq_ok_iff fun _ => isDigit_of_mem_decimal).mpr
    ⟨Nat.toDigits_ne_nil, Nat.ofDigitChars_ten_toDigits, hLimit⟩

end Digits

end Signpost.Text
