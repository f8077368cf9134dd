import Mathlib
import Signpost.Text.Percent

/-
  Octets of texts: a text is read back from its octets, and
  percent-decoding leaves octets that stand for themselves.

  Main declarations:
    * `Text.decodeLossy_octetsOf`
    * `Text.mem_octetsOf_iff`
    * `Text.octetsOf_eq_append`
    * `Text.percentDecode_of_not_mem`
    * `Text.percentDecode_append`
-/

namespace Signpost.Text

------------------------------------------------------------
-- Single Octets
------------------------------------------------------------

theorem toNat_octet
    {n : Nat}
    (hn : n < 256) :
    (UInt8.ofNat n).toNat = n := by
  rw [UInt8.toNat_ofNat']
  exact Nat.mod_eq_of_lt hn

/- A code point is no surrogate and not too large. -/
theorem valid_toNat
    (c : Char) :
    c.toNat < 0xD800 ∨
      (0xDFFF < c.toNat ∧ c.toNat < 0x110000) := by
  exact c.valid

section Octets

variable {v : Nat}

theorem decodeFirst_one
    (hv : v < 0x80)
    (rest : List UInt8) :
    decodeFirst (.ofNat v) rest = (Char.ofNat v, rest) := by
  have hFirst := toNat_octet (show v < 256 by omega)
  generalize UInt8.ofNat v = a at *
  simp only [decodeFirst, UInt8.lt_iff_toNat_lt, hFirst,
    UInt8.reduceToNat]
  rw [if_pos hv]

theorem decodeFirst_two
    (hLow : 0x80 ≤ v)
    (hHigh : v < 0x800)
    (rest : List UInt8) :
    decodeFirst (.ofNat (v / 64 % 32 + 192))
        (.ofNat (v % 64 + 128) :: rest) =
      (Char.ofNat v, rest) := by
  have hFirst :=
    toNat_octet (show v / 64 % 32 + 192 < 256 by omega)
  have hSecond :=
    toNat_octet (show v % 64 + 128 < 256 by omega)
  generalize UInt8.ofNat (v / 64 % 32 + 192) = a at *
  generalize UInt8.ofNat (v % 64 + 128) = b at *
  simp only [decodeFirst, isTail, tailBits,
    UInt8.lt_iff_toNat_lt, UInt8.le_iff_toNat_le,
    Bool.and_eq_true, decide_eq_true_eq, hFirst, hSecond,
    UInt8.reduceToNat]
  rw [if_neg (by omega), if_pos (by omega), if_pos (by omega)]
  congr 2
  omega

theorem decodeFirst_three
    (hLow : 0x800 ≤ v)
    (hHigh : v < 0x10000)
    (hValid : v < 0xD800 ∨ 0xDFFF < v)
    (rest : List UInt8) :
    decodeFirst (.ofNat (v / 4096 % 16 + 224))
        (.ofNat (v / 64 % 64 + 128) ::
          .ofNat (v % 64 + 128) :: rest) =
      (Char.ofNat v, rest) := by
  have hFirst :=
    toNat_octet (show v / 4096 % 16 + 224 < 256 by omega)
  have hSecond :=
    toNat_octet (show v / 64 % 64 + 128 < 256 by omega)
  have hThird :=
    toNat_octet (show v % 64 + 128 < 256 by omega)
  generalize UInt8.ofNat (v / 4096 % 16 + 224) = a at *
  generalize UInt8.ofNat (v / 64 % 64 + 128) = b at *
  generalize UInt8.ofNat (v % 64 + 128) = c at *
  have hOk : secondOk a b = true := by
    simp only [secondOk, isTail, ← UInt8.toNat_inj,
      UInt8.le_iff_toNat_le, hFirst, hSecond,
      UInt8.reduceToNat]
    split_ifs
    all_goals
      simp only [Bool.and_eq_true, decide_eq_true_eq]
      omega
  simp only [decodeFirst, hOk, isTail, tailBits,
    UInt8.lt_iff_toNat_lt, UInt8.le_iff_toNat_le,
    Bool.and_eq_true, decide_eq_true_eq, hFirst, hSecond,
    hThird, UInt8.reduceToNat, if_true]
  rw [if_neg (by omega), if_neg (by omega), if_pos (by omega),
    if_pos (by omega)]
  congr 2
  omega

theorem decodeFirst_four
    (hLow : 0x10000 ≤ v)
    (hHigh : v < 0x110000)
    (rest : List UInt8) :
    decodeFirst (.ofNat (v / 262144 % 8 + 240))
        (.ofNat (v / 4096 % 64 + 128) ::
          .ofNat (v / 64 % 64 + 128) ::
            .ofNat (v % 64 + 128) :: rest) =
      (Char.ofNat v, rest) := by
  have hFirst :=
    toNat_octet (show v / 262144 % 8 + 240 < 256 by omega)
  have hSecond :=
    toNat_octet (show v / 4096 % 64 + 128 < 256 by omega)
  have hThird :=
    toNat_octet (show v / 64 % 64 + 128 < 256 by omega)
  have hFourth :=
    toNat_octet (show v % 64 + 128 < 256 by omega)
  generalize UInt8.ofNat (v / 262144 % 8 + 240) = a at *
  generalize UInt8.ofNat (v / 4096 % 64 + 128) = b at *
  generalize UInt8.ofNat (v / 64 % 64 + 128) = c at *
  generalize UInt8.ofNat (v % 64 + 128) = d at *
  have hOk : secondOk a b = true := by
    simp only [secondOk, isTail, ← UInt8.toNat_inj,
      UInt8.le_iff_toNat_le, hFirst, hSecond,
      UInt8.reduceToNat]
    split_ifs
    all_goals
      simp only [Bool.and_eq_true, decide_eq_true_eq]
      omega
  simp only [decodeFirst, hOk, isTail, tailBits,
    UInt8.lt_iff_toNat_lt, UInt8.le_iff_toNat_le,
    Bool.and_eq_true, decide_eq_true_eq, hFirst, hSecond,
    hThird, hFourth, UInt8.reduceToNat, if_true]
  rw [if_neg (by omega), if_neg (by omega), if_neg (by omega),
    if_pos (by omega), if_pos (by omega), if_pos (by omega)]
  congr 2
  omega

end Octets

------------------------------------------------------------
-- Texts
------------------------------------------------------------

/- A character is read from its octets. -/
theorem decodeLossy_char
    (c : Char)
    (rest : List UInt8) :
    decodeLossy (String.utf8EncodeChar c ++ rest) =
      c :: decodeLossy rest := by
  have hChar : Char.ofNat c.toNat = c := Char.ofNat_toNat c
  have hValid := valid_toNat c
  have hVal : c.val.toNat = c.toNat := rfl
  rw [String.utf8EncodeChar]
  simp only [hVal]
  generalize c.toNat = v at *
  split_ifs with hOne hTwo hThree
  · rw [List.singleton_append, decodeLossy,
      decodeFirst_one (by omega), hChar]
  · rw [List.cons_append, List.singleton_append, decodeLossy,
      decodeFirst_two (by omega) (by omega), hChar]
  · rw [List.cons_append, List.cons_append,
      List.singleton_append, decodeLossy,
      decodeFirst_three (by omega) (by omega) (by omega),
      hChar]
  · rw [List.cons_append, List.cons_append,
      List.cons_append, List.singleton_append, decodeLossy,
      decodeFirst_four (by omega) (by omega), hChar]

/- A text is read from its octets. -/
theorem decodeLossy_octetsOf
    (cs : List Char) :
    decodeLossy (octetsOf cs) = cs := by
  induction cs with
  | nil => simp [octetsOf, decodeLossy]
  | cons c cs ih =>
      rw [octetsOf] at ih ⊢
      rw [List.flatMap_cons, decodeLossy_char, ih]

/- A character of ASCII is one octet. -/
theorem utf8EncodeChar_of_ascii
    {c : Char}
    (hAscii : c.toNat < 0x80) :
    String.utf8EncodeChar c = [.ofNat c.toNat] := by
  have hVal : c.val.toNat = c.toNat := rfl
  rw [String.utf8EncodeChar]
  simp only [hVal]
  rw [if_pos (by omega)]

/- An octet of ASCII is that of a character. -/
theorem mem_octetsOf_iff
    {cs : List Char}
    {n : Nat}
    (hn : n < 0x80) :
    UInt8.ofNat n ∈ octetsOf cs ↔ Char.ofNat n ∈ cs := by
  have hOctet : (UInt8.ofNat n).toNat = n :=
    toNat_octet (by omega)
  have hNumber : (Char.ofNat n).toNat = n := by
    have hValid : n.isValidChar := Or.inl (by omega)
    rw [Char.toNat_ofNat, if_pos hValid]
  rw [octetsOf, List.mem_flatMap]
  constructor
  · rintro ⟨c, hc, hMember⟩
    have hVal : c.val.toNat = c.toNat := rfl
    rw [String.utf8EncodeChar] at hMember
    simp only [hVal] at hMember
    have hSame : n = c.toNat := by
      split_ifs at hMember
      all_goals
        simp only [List.mem_cons, List.not_mem_nil, or_false,
          ← UInt8.toNat_inj, hOctet, UInt8.toNat_ofNat']
          at hMember
        omega
    rw [hSame, Char.ofNat_toNat]
    exact hc
  · intro hMember
    refine ⟨_, hMember, ?_⟩
    rw [utf8EncodeChar_of_ascii (by omega), hNumber]
    exact List.mem_singleton_self _

theorem octetsOf_concat
    (cs : List Char)
    (c : Char) :
    octetsOf (cs ++ [c]) =
      octetsOf cs ++ String.utf8EncodeChar c := by
  simp [octetsOf]

/- An octet of ASCII ends no other character than its own. -/
theorem eq_of_getLast?_utf8EncodeChar
    {c d : Char}
    (hAscii : c.toNat < 0x80)
    (hLast :
      (String.utf8EncodeChar d).getLast? =
        some (.ofNat c.toNat)) :
    d = c := by
  have hOctet : (UInt8.ofNat c.toNat).toNat = c.toNat :=
    toNat_octet (by omega)
  have hVal : d.val.toNat = d.toNat := rfl
  rw [String.utf8EncodeChar] at hLast
  simp only [hVal] at hLast
  have hSame : d.toNat = c.toNat := by
    split_ifs at hLast
    all_goals
      simp only [List.getLast?_cons_cons,
        List.getLast?_singleton, Option.some.injEq,
        ← UInt8.toNat_inj, hOctet, UInt8.toNat_ofNat'] at hLast
      omega
  rw [← Char.ofNat_toNat d, hSame, Char.ofNat_toNat]

/- The octets of a text in ASCII tell where it stands. -/
theorem octetsOf_eq_append
    {cs : List Char}
    {bs : List UInt8}
    {rest : List Char}
    (hAscii : ∀ c ∈ rest, c.toNat < 0x80)
    (hOctets : octetsOf cs = bs ++ octetsOf rest) :
    ∃ before, cs = before ++ rest := by
  induction rest using List.reverseRecOn generalizing cs with
  | nil => exact ⟨cs, by simp⟩
  | append_singleton rest c ih =>
      have hc : c.toNat < 0x80 := hAscii c (by simp)
      have hRest : ∀ d ∈ rest, d.toNat < 0x80 :=
        fun d hd => hAscii d (List.mem_append_left _ hd)
      rw [octetsOf_concat, utf8EncodeChar_of_ascii hc,
        ← List.append_assoc] at hOctets
      rcases List.eq_nil_or_concat' cs with rfl | ⟨cs, d, rfl⟩
      · simp [octetsOf] at hOctets
      · rw [octetsOf_concat] at hOctets
        have hEnd := congrArg List.getLast? hOctets
        rw [List.getLast?_concat, List.getLast?_append,
          List.getLast?_eq_some_getLast
            (String.utf8EncodeChar_ne_nil (c := d)),
          Option.some_or, ← List.getLast?_eq_some_getLast]
          at hEnd
        have hSame := eq_of_getLast?_utf8EncodeChar hc hEnd
        rw [hSame, utf8EncodeChar_of_ascii hc] at hOctets
        rcases ih hRest (List.append_cancel_right hOctets) with
          ⟨before, hBefore⟩
        exact ⟨before, by simp [hBefore, hSame]⟩

------------------------------------------------------------
-- Percent-Encoded Octets
------------------------------------------------------------

variable {bs : List UInt8}

/- Without percent signs nothing is decoded. -/
theorem percentDecode_of_not_mem
    (hNone : 0x25 ∉ bs) :
    percentDecode bs = bs := by
  induction bs with
  | nil => rfl
  | cons b bs ih =>
      rcases not_or.mp (hNone ∘ List.mem_cons.mpr) with
        ⟨hb, hRest⟩
      unfold percentDecode
      rw [if_neg (Ne.symm hb), ih hRest]

/-
  An octet that is no digit is left, and so is what follows
  it, if that has no percent signs.
-/
theorem percentDecode_append
    {b : UInt8}
    (hDigit : hexOctet? b = none)
    (hPercent : b ≠ 0x25)
    (bs : List UInt8)
    {ds : List UInt8}
    (hNone : 0x25 ∉ ds) :
    percentDecode (bs ++ b :: ds) =
      percentDecode bs ++ b :: ds := by
  have hEnd : percentDecode (b :: ds) = b :: ds := by
    apply percentDecode_of_not_mem
    simp [Ne.symm hPercent, hNone]
  fun_induction percentDecode bs with
  | case1 => exact hEnd
  | case2 h l rest x y hl hh ih =>
      rw [List.cons_append, percentDecode.eq_def]
      simp [hl, hh, ih]
  | case3 h l rest hOther ih =>
      rw [List.cons_append, percentDecode.eq_def]
      simp only [if_true, List.cons_append]
      exact congrArg (0x25 :: ·) ih
  | case4 rest hShort ih =>
      -- At most one octet stands before `b`, which is no digit.
      rcases rest with - | ⟨h, - | ⟨l, more⟩⟩
      · cases ds with
        | nil => simp [percentDecode, hPercent]
        | cons d ds =>
            rw [List.singleton_append, percentDecode.eq_def]
            simp [hDigit, hEnd, percentDecode]
      · rw [List.cons_append, List.singleton_append,
          percentDecode.eq_def]
        rw [List.singleton_append] at ih
        simp [hDigit, ih]
      · exact (hShort h l more rfl).elim
  | case5 c rest hc ih =>
      rw [List.cons_append, percentDecode.eq_def]
      simp [hc, ih]

end Signpost.Text
