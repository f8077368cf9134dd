import Mathlib
import Signpost.Duration
import Signpost.Proofs.Text.Blank
import Signpost.Proofs.Text.Decimal

/-
  Which texts are spans of time.  A text is read if it is
  spelled with a number and a unit, and as just this number
  of them.

  Main declarations:
    * `Duration.WrittenUnit`
    * `Duration.Spells`
    * `Duration.spells_iff`
    * `Duration.unit?_rest_eq_some_iff`
    * `Duration.parse_eq_ok_iff`
    * `Duration.parse_iff_spelled`
-/

namespace Signpost

open Text

namespace Duration

------------------------------------------------------------
-- Units
------------------------------------------------------------

/- A unit behind a number, or none. -/
inductive WrittenUnit where
| bare
| millis
| seconds
| minutes
deriving DecidableEq, Repr

namespace WrittenUnit

/- What is written for a unit. -/
def word : WrittenUnit → List Char
| .bare => []
| .millis => ['m', 's']
| .seconds => ['s']
| .minutes => ['m']

/- The milliseconds of one unit. -/
def size : WrittenUnit → Nat
| .bare => 1
| .millis => 1
| .seconds => 1000
| .minutes => 60000

/- What a number of units is multiplied by in a word. -/
def factor : WrittenUnit → Nat
| .bare => 1
| .millis => 1
| .seconds => 1
| .minutes => 60

/- A unit is made of letters, which no blank or digit is. -/
theorem of_mem_word
    {u : WrittenUnit}
    {c : Char}
    (hMember : c ∈ u.word) :
    c.isDigit = false ∧ isBlank c = false := by
  have hLetter : c = 'm' ∨ c = 's' := by
    cases u with
    | bare => cases hMember
    | millis => simpa [WrittenUnit.word] using hMember
    | seconds => exact .inr (List.mem_singleton.mp hMember)
    | minutes => exact .inl (List.mem_singleton.mp hMember)
  rcases hLetter with rfl | rfl
  · decide
  · decide

end WrittenUnit

/- A text that is no word of a unit is no unit. -/
theorem unit?_eq_some_iff
    {cs : List Char}
    {m : Nat} :
    unit? (String.ofList cs) = some m ↔
      ∃ u : WrittenUnit, u ≠ .bare ∧ cs = u.word ∧ m = u.size := by
  have hWord :
      ∀ {s : String} (u : WrittenUnit), s.toList = u.word →
        (String.ofList cs = s ↔ cs = u.word) := by
    intro s u hs
    rw [← String.toList_inj, String.toList_ofList, hs]
  have hMillis := @hWord "ms" .millis rfl
  have hSeconds := @hWord "s" .seconds rfl
  have hMinutes := @hWord "m" .minutes rfl
  constructor
  · intro hUnit
    unfold unit? at hUnit
    split at hUnit
    · rename_i hText
      cases hUnit
      exact ⟨.millis, nofun, hMillis.mp hText, rfl⟩
    · split at hUnit
      · rename_i hText
        cases hUnit
        exact ⟨.seconds, nofun, hSeconds.mp hText, rfl⟩
      · split at hUnit
        · rename_i hText
          cases hUnit
          exact ⟨.minutes, nofun, hMinutes.mp hText, rfl⟩
        · cases hUnit
  · rintro ⟨u, hSome, rfl, rfl⟩
    cases u with
    | bare => exact absurd rfl hSome
    | millis => rfl
    | seconds => rfl
    | minutes => rfl

------------------------------------------------------------
-- Spellings
------------------------------------------------------------

/- White space and the word of a unit, or nothing at all. -/
def SpellsUnit (rest : List Char) (u : WrittenUnit) : Prop :=
  ∃ gap,
    rest = gap ++ u.word ∧
      (∀ c ∈ gap, isBlank c = true) ∧
      (u = .bare → gap = [])

/-
  A text spells a number of units: there are digits with the
  value of the number, and the unit is behind them.
-/
def Spells
    (cs : List Char)
    (n : Nat)
    (u : WrittenUnit) : Prop :=
  ∃ digits rest,
    cs = digits ++ rest ∧
      digits ≠ [] ∧
      (∀ c ∈ digits, c.isDigit = true) ∧
      Nat.ofDigitChars 10 digits 0 = n ∧
      SpellsUnit rest u

section Spells

variable {cs rest : List Char}
variable {n m : Nat}
variable {u : WrittenUnit}

theorem not_isBlank_of_isDigit
    {c : Char}
    (hDigit : c.isDigit = true) :
    isBlank c = false := by
  have hBounds : 48 ≤ c.toNat ∧ c.toNat ≤ 57 :=
    Char.isDigit_iff_toNat.mp hDigit
  exact isBlank_of_visible (by omega) (by omega)

/- No digit is in a unit or in the white space before it. -/
theorem SpellsUnit.not_isDigit
    (hUnit : SpellsUnit rest u) :
    ∀ c ∈ rest, ¬c.isDigit = true := by
  rcases hUnit with ⟨gap, rfl, hGap, -⟩
  intro c hMember hDigit
  rcases List.mem_append.mp hMember with hBlank | hWord
  · have hNot := not_isBlank_of_isDigit hDigit
    rw [hGap c hBlank] at hNot
    cases hNot
  · rw [(WrittenUnit.of_mem_word hWord).1] at hDigit
    cases hDigit

/- So the number is as long as there are digits. -/
theorem spells_iff :
    Spells cs n u ↔
      cs.takeWhile Char.isDigit ≠ [] ∧
        Nat.ofDigitChars 10 (cs.takeWhile Char.isDigit) 0 = n ∧
        SpellsUnit (cs.dropWhile Char.isDigit) u := by
  constructor
  · rintro ⟨digits, rest, rfl, hSome, hDigits, hValue, hUnit⟩
    have hNext := hUnit.not_isDigit
    have hTake : rest.takeWhile Char.isDigit = [] :=
      List.takeWhile_eq_nil_iff.mpr fun _ =>
        hNext _ (List.get_mem _ _)
    have hDrop : rest.dropWhile Char.isDigit = rest :=
      List.dropWhile_eq_self_iff.mpr fun _ =>
        hNext _ (List.getElem_mem _)
    rw [List.takeWhile_append_of_pos hDigits,
      List.dropWhile_append_of_pos hDigits, hTake, hDrop,
      List.append_nil]
    exact ⟨hSome, hValue, hUnit⟩
  · rintro ⟨hSome, hValue, hUnit⟩
    exact
      ⟨_, _, List.takeWhile_append_dropWhile.symm, hSome,
        fun c hc => List.mem_takeWhile_imp hc, hValue, hUnit⟩

/- The word of a unit is left when it is trimmed. -/
theorem trim_unit
    {gap : List Char}
    (hGap : ∀ c ∈ gap, isBlank c = true) :
    trim (gap ++ u.word) = u.word := by
  have hWord : ∀ c ∈ u.word, isBlank c = false :=
    fun c hc => (WrittenUnit.of_mem_word hc).2
  have hAround :=
    @trim_around_of_forall gap u.word [] hGap (by simp) hWord
  rwa [List.append_nil] at hAround

/- What is behind the digits of a trimmed text. -/
theorem unit?_rest_eq_some_iff
    (hLast : ∀ c, rest.getLast? = some c → isBlank c = false) :
    unit?
        (if rest.isEmpty then "ms"
        else String.ofList (trim rest)) = some m ↔
      ∃ u, SpellsUnit rest u ∧ m = u.size := by
  cases rest with
  | nil =>
      constructor
      · intro hUnit
        cases hUnit
        exact ⟨.bare, ⟨[], rfl, by simp, fun _ => rfl⟩, rfl⟩
      · rintro ⟨u, ⟨gap, hNone, -⟩, rfl⟩
        cases u with
        | bare => rfl
        | _ => simp [WrittenUnit.word] at hNone
  | cons c cs =>
      rw [if_neg (by simp), unit?_eq_some_iff]
      constructor
      · rintro ⟨u, hSome, hWord, rfl⟩
        refine ⟨u, ⟨(c :: cs).takeWhile isBlank, ?_, ?_, ?_⟩, rfl⟩
        · rw [← hWord, takeWhile_append_trim hLast]
        · exact fun c hc => List.mem_takeWhile_imp hc
        · exact fun hNone => absurd hNone hSome
      · rintro ⟨u, ⟨gap, hRest, hGap, hNone⟩, rfl⟩
        refine ⟨u, ?_, ?_, rfl⟩
        · rintro rfl
          rw [hNone rfl] at hRest
          cases hRest
        · rw [hRest, trim_unit hGap]

/- A text is read as it is spelled. -/
theorem parse_eq_ok_iff
    {s : String}
    {d : Duration} :
    parse s = .ok d ↔
      ∃ n u,
        Spells (trim s.toList) n u ∧ n < UInt64.size ∧
          d = ⟨n * u.size⟩ := by
  have hDigits :
      ∀ c ∈ (trim s.toList).takeWhile Char.isDigit,
        c.isDigit = true :=
    fun c hc => List.mem_takeWhile_imp hc
  have hLast :
      ∀ c,
        ((trim s.toList).dropWhile Char.isDigit).getLast? =
            some c →
          isBlank c = false :=
    fun c hc => getLast?_trim s.toList c (getLast?_of_dropWhile hc)
  simp only [spells_iff]
  constructor
  · intro hParse
    unfold parse at hParse
    dsimp only at hParse
    split at hParse
    · cases hParse
    · rename_i n hRead
      split at hParse
      · rename_i m hUnit
        cases hParse
        rcases (readNat_decimal_eq_ok_iff hDigits).mp hRead with
          ⟨hSome, hValue, hLimit⟩
        rcases (unit?_rest_eq_some_iff hLast).mp hUnit with
          ⟨u, hSpells, rfl⟩
        exact
          ⟨n, u, ⟨hSome, hValue, hSpells⟩,
            Nat.lt_of_le_sub_one (by decide) hLimit, rfl⟩
      · cases hParse
  · rintro ⟨n, u, ⟨hSome, hValue, hSpells⟩, hSize, rfl⟩
    have hRead :=
      (readNat_decimal_eq_ok_iff hDigits).mpr
        ⟨hSome, hValue, Nat.le_sub_one_of_lt hSize⟩
    have hUnit :=
      (unit?_rest_eq_some_iff hLast).mpr ⟨u, hSpells, rfl⟩
    simp only [parse, hRead, hUnit]

------------------------------------------------------------
-- Reading Spans
------------------------------------------------------------

/- There is no white space around a spelling. -/
theorem Spells.trim_eq
    (hSpells : Spells cs n u) :
    trim cs = cs := by
  rcases hSpells with
    ⟨digits, rest, rfl, hSome, hDigits, -, gap, rfl, -, hNone⟩
  have hDigit : ∀ c ∈ digits, isBlank c = false :=
    fun c hc => not_isBlank_of_isDigit (hDigits c hc)
  have hFirst :
      ∀ c, (digits ++ (gap ++ u.word)).head? = some c →
        isBlank c = false := by
    intro c hc
    cases digits with
    | nil => exact absurd rfl hSome
    | cons d digits =>
        cases hc
        exact hDigit _ List.mem_cons_self
  have hLast :
      ∀ c, (digits ++ (gap ++ u.word)).getLast? = some c →
        isBlank c = false := by
    intro c hc
    rw [List.getLast?_append, List.getLast?_append] at hc
    cases hWord : u.word.getLast? with
    | some d =>
        rw [hWord] at hc
        cases hc
        exact (WrittenUnit.of_mem_word (List.mem_of_getLast? hWord)).2
    | none =>
        have hUnit : u = .bare := by
          cases u with
          | bare => rfl
          | _ => cases hWord
        rw [hWord, hNone hUnit] at hc
        exact hDigit c (List.mem_of_getLast? hc)
  exact trim_eq_self hFirst hLast

/- A number before the word of a unit spells so many of it. -/
theorem parse_toDigits
    {s : String}
    (hSize : n < UInt64.size)
    (u : WrittenUnit)
    (hText : s.toList = Nat.toDigits 10 n ++ u.word) :
    parse s = .ok ⟨n * u.size⟩ := by
  have hSpells : Spells s.toList n u :=
    ⟨Nat.toDigits 10 n, u.word, hText, Nat.toDigits_ne_nil,
      fun _ => isDigit_of_mem_decimal,
      Nat.ofDigitChars_ten_toDigits, [], rfl, by simp,
      fun _ => rfl⟩
  apply parse_eq_ok_iff.mpr
  rw [hSpells.trim_eq]
  exact ⟨n, u, hSpells, hSize, rfl⟩

/- Only in minutes can a number of units be too large itself. -/
theorem lt_size_iff_of_minutes
    (hMinutes :
      u = .minutes → n < UInt64.size → n * 60 < UInt64.size) :
    n < UInt64.size ↔ n * u.factor < UInt64.size := by
  cases u with
  | minutes =>
      constructor
      · exact hMinutes rfl
      · intro hSeconds
        have hFactor : n * 60 < UInt64.size := hSeconds
        omega
  | _ => simp only [WrittenUnit.factor, Nat.mul_one]

/-
  A text is read exactly if without outer white space it
  spells a number of units that fits in a word, and as just
  this number of them.  Texts with so many minutes that
  their seconds do not fit in a word are left aside.  So a
  number in a word is read back alone, as milliseconds, and
  with the words of milliseconds and of seconds.
-/
theorem parse_iff_spelled :
    (∀ s : String,
      (∀ n < UInt64.size,
        Spells (trim s.toList) n .minutes →
          n * 60 < UInt64.size) →
      ∀ d,
        parse s = .ok d ↔
          ∃ n u,
            Spells (trim s.toList) n u ∧
              n * u.factor < UInt64.size ∧
              d = ⟨n * u.size⟩) ∧
      ∀ n < UInt64.size,
        parse (toString n) = .ok ⟨n⟩ ∧
          parse (toString n ++ "ms") = .ok ⟨n⟩ ∧
          parse (toString n ++ "s") = .ok ⟨n * 1000⟩ := by
  constructor
  · intro s hMinutes d
    have hFits :
        ∀ n u, Spells (trim s.toList) n u →
          (n < UInt64.size ↔ n * u.factor < UInt64.size) := by
      intro n u hSpells
      apply lt_size_iff_of_minutes
      rintro rfl hSize
      exact hMinutes n hSize hSpells
    rw [parse_eq_ok_iff]
    constructor
    · rintro ⟨n, u, hSpells, hSize, hd⟩
      exact ⟨n, u, hSpells, (hFits n u hSpells).mp hSize, hd⟩
    · rintro ⟨n, u, hSpells, hSize, hd⟩
      exact ⟨n, u, hSpells, (hFits n u hSpells).mpr hSize, hd⟩
  · intro n hSize
    have hAlone :=
      @parse_toDigits n (toString n) hSize .bare
        (by simp [WrittenUnit.word])
    have hMillis :=
      @parse_toDigits n (toString n ++ "ms") hSize .millis
        (by simp [WrittenUnit.word])
    have hSeconds :=
      @parse_toDigits n (toString n ++ "s") hSize .seconds
        (by simp [WrittenUnit.word])
    simp only [WrittenUnit.size, Nat.mul_one]
      at hAlone hMillis hSeconds
    exact ⟨hAlone, hMillis, hSeconds⟩

end Spells

/- White space is left out around a text and in its middle. -/
theorem parse_iff_spelled_minutes :
    (∀ n < UInt64.size,
      Spells (trim "\u00a0090 m\n".toList) n .minutes →
        n * 60 < UInt64.size) ∧
      parse "\u00a0090 m\n" = .ok ⟨5400000⟩ := by
  have hTrim :
      trim "\u00a0090 m\n".toList = "090 m".toList := by
    decide
  have hMinutes :
      ∀ n < UInt64.size,
        Spells (trim "\u00a0090 m\n".toList) n .minutes →
          n * 60 < UInt64.size := by
    intro n _ hSpells
    rw [hTrim] at hSpells
    have hValue := (spells_iff.mp hSpells).2.1
    have hNinety :
        Nat.ofDigitChars 10
            ("090 m".toList.takeWhile Char.isDigit) 0 = 90 := by
      decide
    rw [← hValue, hNinety]
    decide
  refine ⟨hMinutes, ?_⟩
  apply (parse_iff_spelled.1 _ hMinutes _).mpr
  refine ⟨90, .minutes, ?_, by decide, rfl⟩
  rw [hTrim]
  exact
    ⟨"090".toList, [' ', 'm'], by decide, by decide,
      List.all_eq_true.mp (by decide), by decide, [' '], rfl,
      List.forall_mem_singleton.mpr (by decide), nofun⟩

end Duration

end Signpost
