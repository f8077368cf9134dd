import Mathlib
import Signpost.Proofs.Text.Octets
import Signpost.Proofs.Text.Encoding
import Signpost.Proofs.Text.Punycode
import Signpost.Proofs.Text.Split
import Signpost.Proofs.Unicode.Composition
import Signpost.Proofs.Unicode.Direction
import Signpost.Proofs.Url.Path

/-
  What is known of the ASCII form of a domain: it is its own
  ASCII form and has no characters that are denied, numbers
  between dots are an ASCII form, and a domain that ends in
  a port has none.

  A label is read back from its ASCII form, so a name that is
  in ASCII form has the labels that it was put together from.

  Main declarations:
    * `Url.labelOf?_asciiLabel`
    * `Url.asciiForm?_eq_some_iff`
    * `Url.asciiForm?_self`
    * `Url.domainToAscii?_self`
    * `Url.domainToAscii?_of_parts`
    * `Url.domainToAscii?_port`
-/

namespace Signpost.Url

open Text
open Unicode

variable {c : Char}
variable {cs name label : List Char}

------------------------------------------------------------
-- Labels
------------------------------------------------------------

theorem all_isAscii
    (hAscii : ∀ c ∈ cs, c.toNat < 0x80) :
    cs.all isAscii = true := by
  simpa [isAscii] using hAscii

/- What the ASCII form of a name is put together from. -/
theorem asciiForm?_eq_some_iff :
    asciiForm? cs = some name ↔
      ∃ labels,
        ((plainForm cs).splitOn '.').mapM labelOf? =
            some labels ∧
          ((labels.any fun l =>
                (l.map direction).any isRight) &&
              !labels.all isOrdered) = false ∧
          ['.'].intercalate (labels.map asciiLabel) = name ∧
          name.any isDenied = false := by
  unfold asciiForm?
  rw [Option.bind_eq_bind, Option.bind_eq_some_iff]
  apply exists_congr
  intro labels
  apply and_congr_right
  intro hLabels
  dsimp only
  cases (labels.any fun l => (l.map direction).any isRight) &&
      !labels.all isOrdered with
  | true => simp
  | false =>
      rw [if_neg Bool.false_ne_true]
      generalize ['.'].intercalate (labels.map asciiLabel) = made
      cases hDenied : made.any isDenied with
      | true =>
          rw [if_pos rfl]
          constructor
          · intro hNone
            cases hNone
          · intro hMade
            rcases hMade with ⟨-, rfl, hAllowed⟩
            rw [hDenied] at hAllowed
            cases hAllowed
      | false =>
          rw [if_neg Bool.false_ne_true, Option.some_inj]
          constructor
          · intro hSame
            exact ⟨rfl, hSame, hSame ▸ hDenied⟩
          · intro hMade
            exact hMade.2.1

theorem not_isDenied_of_asciiForm?
    (hForm : asciiForm? cs = some name) :
    ∀ c ∈ name, isDenied c = false := by
  rcases asciiForm?_eq_some_iff.mp hForm with
    ⟨-, -, -, -, hAllowed⟩
  simpa using hAllowed

/- A text without percent signs is the domain it spells. -/
theorem domainToAscii?_octetsOf
    (hPlain : '%' ∉ cs) :
    domainToAscii? (percentDecode (octetsOf cs)) =
      asciiForm? cs := by
  have hNone : 0x25 ∉ octetsOf cs := by
    intro hMember
    exact hPlain ((mem_octetsOf_iff (by decide)).mp hMember)
  rw [percentDecode_of_not_mem hNone, domainToAscii?,
    decodeLossy_octetsOf, if_pos rfl]

theorem asciiForm?_of_domainToAscii?
    {bs : List UInt8}
    (hForm : domainToAscii? bs = some name) :
    ∃ cs, asciiForm? cs = some name := by
  unfold domainToAscii? at hForm
  dsimp only at hForm
  split at hForm
  · exact ⟨_, hForm⟩
  · cases hForm

/- A character that a name in ASCII is made of. -/
structure IsNamePart (c : Char) : Prop where
  plain : IsPlain c
  allowed : isDenied c = false
  not_mark : c ≠ 'x'

/- So are the characters of numbers between dots. -/
theorem isNamePart_of_numeric
    (hNumeric : c.isDigit = true ∨ c = '.') :
    IsNamePart c := by
  have hAll :
      ∀ c : Char, c.toNat < 0x80 →
        c.isDigit = true ∨ c = '.' →
          (plainForm? c.toNat).isNone = true ∧
            isDenied c = false ∧ c ≠ 'x' :=
    forall_ascii (by decide +kernel)
  have hUnreserved : isUnreserved c = true := by
    rcases hNumeric with hDigit | rfl
    · exact isUnreserved_of_isDigit hDigit
    · decide
  have hAscii := toNat_lt_of_isUnreserved hUnreserved
  rcases hAll c hAscii hNumeric with ⟨hPlain, hAllowed, hMark⟩
  exact
    ⟨⟨hAscii, Option.isNone_iff_eq_none.mp hPlain⟩, hAllowed,
      hMark⟩

/- Labels of such characters are left as they are. -/
theorem labelOf?_of_parts
    (hParts : ∀ c ∈ cs, IsNamePart c) :
    labelOf? cs = some cs := by
  have hMark : ¬ mark.isPrefixOf cs = true := by
    intro hMark
    rcases List.isPrefixOf_iff_prefix.mp hMark with
      ⟨rest, rfl⟩
    have hx : 'x' ∈ mark ++ rest :=
      List.mem_append_left rest (by decide)
    exact (hParts 'x' hx).not_mark rfl
  have hAscii :=
    all_isAscii fun c hc => (hParts c hc).plain.1
  rw [labelOf?, if_neg hMark, hAscii, Bool.true_or, if_pos rfl]

theorem asciiForm?_of_parts
    (hParts : ∀ c ∈ cs, IsNamePart c) :
    asciiForm? cs = some cs := by
  have hPieces :
      ∀ l ∈ cs.splitOn '.', ∀ c ∈ l, IsNamePart c := by
    intro l hl c hc
    exact hParts c (of_mem_splitOn '.' cs l hl c hc).1
  have hLabels :
      (cs.splitOn '.').mapM labelOf? =
        some (cs.splitOn '.') := by
    rw [mapM_eq_some_map fun l hl =>
      labelOf?_of_parts (hPieces l hl), List.map_id']
  have hLeft :
      ((cs.splitOn '.').any fun l =>
        (l.map direction).any isRight) = false := by
    apply List.any_eq_false.mpr
    intro l hl
    rw [List.any_map, Bool.not_eq_true]
    apply List.any_eq_false.mpr
    intro c hc
    rw [Function.comp_apply,
      isRight_direction_of_ascii (hPieces l hl c hc).plain.1]
    exact Bool.false_ne_true
  have hSame :
      (cs.splitOn '.').map asciiLabel = cs.splitOn '.' := by
    calc
      (cs.splitOn '.').map asciiLabel =
          (cs.splitOn '.').map id := by
        apply List.map_congr_left
        intro l hl
        have hAscii :=
          all_isAscii fun c hc => (hPieces l hl c hc).plain.1
        rw [asciiLabel, if_pos hAscii, id_eq]
      _ = cs.splitOn '.' := List.map_id _
  have hAllowed : cs.any isDenied = false := by
    apply List.any_eq_false.mpr
    intro c hc
    simp [(hParts c hc).allowed]
  unfold asciiForm?
  rw [plainForm_of_plain fun c hc => (hParts c hc).plain,
    hLabels]
  simp only [Option.bind_eq_bind, Option.bind_some, hLeft,
    hSame, List.intercalate_splitOn, hAllowed]
  rfl

/- So a name of such characters is the domain it spells. -/
theorem domainToAscii?_of_parts
    (hParts : ∀ c ∈ cs, IsNamePart c) :
    domainToAscii? (percentDecode (octetsOf cs)) = some cs := by
  have hPercent : '%' ∉ cs :=
    not_mem_of_all (fun c hc => (hParts c hc).allowed)
      (by decide)
  rw [domainToAscii?_octetsOf hPercent,
    asciiForm?_of_parts hParts]

------------------------------------------------------------
-- Ports
------------------------------------------------------------

/- A character of ASCII that is denied is not spelled. -/
theorem not_mem_of_isSpelled
    {before : List Char}
    (hSpelled : isSpelled before cs = true)
    (hAscii : isAscii c = true)
    (hDenied : isDenied c = true) :
    c ∉ cs := by
  induction cs generalizing before with
  | nil => exact List.not_mem_nil
  | cons d cs ih =>
      rw [isSpelled, Bool.and_eq_true] at hSpelled
      intro hMember
      rcases List.mem_cons.mp hMember with rfl | hLater
      · simp [hAscii, hDenied] at hSpelled
      · exact ih hSpelled.2 hLater

theorem colon_not_mem_of_isLabel
    (hLabel : isLabel cs = true) :
    ':' ∉ cs := by
  simp only [isLabel, Bool.and_eq_true] at hLabel
  exact not_mem_of_isSpelled hLabel.2 (by decide) (by decide)

/- A label with a colon is left as it is or refused. -/
theorem colon_of_labelOf?
    {label : List Char}
    (hLabel : labelOf? cs = some label)
    (hColon : ':' ∈ cs) :
    ':' ∈ asciiLabel label := by
  unfold labelOf? at hLabel
  split at hLabel
  · rename_i hMark
    split at hLabel
    · rcases Option.filter_eq_some_iff.mp hLabel with
        ⟨hDecoded, hBoth⟩
      rcases List.isPrefixOf_iff_prefix.mp hMark with
        ⟨rest, rfl⟩
      have hRest : ':' ∈ rest := by
        refine (List.mem_append.mp hColon).resolve_left ?_
        decide
      have hKept : ':' ∈ label :=
        Punycode.mem_decode? hDecoded (by decide) (by decide)
          hRest
      rw [Bool.and_eq_true] at hBoth
      exact absurd hKept (colon_not_mem_of_isLabel hBoth.2)
    · cases hLabel
  · split at hLabel
    · rename_i hEither
      cases hLabel
      rcases Bool.or_eq_true_iff.mp hEither with
        hAscii | hMade
      · rw [asciiLabel, if_pos hAscii]
        exact hColon
      · exact absurd hColon (colon_not_mem_of_isLabel hMade)
    · cases hLabel

/- A text with a colon in it has no ASCII form. -/
theorem asciiForm?_eq_none
    (hColon : ':' ∈ plainForm cs) :
    asciiForm? cs = none := by
  cases hForm : asciiForm? cs with
  | none => rfl
  | some name =>
      have hAllowed := not_isDenied_of_asciiForm? hForm
      rcases asciiForm?_eq_some_iff.mp hForm with
        ⟨labels, hLabels, -, rfl, -⟩
      have hWhole :
          ['.'].intercalate ((plainForm cs).splitOn '.') =
            plainForm cs :=
        List.intercalate_splitOn '.'
      rw [← hWhole, mem_intercalate_iff (by decide)] at hColon
      rcases hColon with ⟨l, hl, hColon⟩
      rcases exists_of_mapM hLabels hl with
        ⟨label, hLabel, hLabelOf⟩
      have hKept :
          ':' ∈ ['.'].intercalate (labels.map asciiLabel) :=
        (mem_intercalate_iff (by decide) _).mpr
          ⟨_, List.mem_map_of_mem hLabel,
            colon_of_labelOf? hLabelOf hColon⟩
      exact absurd hKept (not_mem_of_all hAllowed (by decide))

/- There is no domain that ends in a port. -/
theorem domainToAscii?_port
    (before : List Char)
    {digits : List Char}
    (hDigits : ∀ c ∈ digits, c.isDigit = true) :
    domainToAscii?
        (percentDecode (octetsOf (before ++ ':' :: digits))) =
      none := by
  have hPlain : ∀ c ∈ ':' :: digits, IsPlain c := by
    intro c hc
    rcases List.mem_cons.mp hc with rfl | hc
    · exact ⟨by decide, by decide⟩
    · exact (isNamePart_of_numeric (.inl (hDigits c hc))).plain
  have hNone : 0x25 ∉ octetsOf digits := by
    intro hMember
    have hPercent : '%' ∈ digits :=
      (mem_octetsOf_iff (by decide)).mp hMember
    exact
      absurd hPercent (not_mem_of_all hDigits (by decide))
  have hColon :
      octetsOf (':' :: digits) = 0x3A :: octetsOf digits :=
    rfl
  have hOctets :
      percentDecode (octetsOf (before ++ ':' :: digits)) =
        percentDecode (octetsOf before) ++
          octetsOf (':' :: digits) := by
    have hBoth :
        octetsOf (before ++ ':' :: digits) =
          octetsOf before ++ octetsOf (':' :: digits) := by
      simp [octetsOf]
    rw [hBoth, hColon]
    exact percentDecode_append (by decide) (by decide) _ hNone
  rw [hOctets, domainToAscii?]
  split
  · rename_i hSame
    rcases octetsOf_eq_append (fun c hc => (hPlain c hc).1)
        hSame with
      ⟨start, hStart⟩
    rw [hStart]
    exact asciiForm?_eq_none (mem_plainForm start hPlain)
  · rfl

end Signpost.Url
