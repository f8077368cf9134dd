import Mathlib
import Signpost.Text.Blank

/-
  White space around a text is trimmed, and nothing else.

  Main declarations:
    * `Text.isBlank_of_visible`
    * `Text.dropEnds_around` and `Text.trim_around`
    * `Text.exists_around`
    * `Text.head?_trim` and `Text.getLast?_trim`
    * `Text.getLast?_of_dropWhile`
    * `Text.takeWhile_append_trim`
-/

namespace Signpost.Text

variable {before cs after : List Char}

/- A character that is visible in ASCII is no white space. -/
theorem isBlank_of_visible
    {c : Char}
    (hAbove : 0x20 < c.toNat)
    (hBelow : c.toNat < 0x7F) :
    isBlank c = false := by
  simp only [isBlank, Bool.or_eq_false_iff, beq_eq_false_iff_ne,
    Bool.and_eq_false_iff, decide_eq_false_iff_not]
  omega

/- A text that ends with something else is not cut short. -/
theorem dropEnd_eq_self
    {p : Char → Bool}
    (hLast : ∀ c, cs.getLast? = some c → p c = false) :
    (cs.reverse.dropWhile p).reverse = cs := by
  rw [← List.head?_reverse] at hLast
  cases hReversed : cs.reverse with
  | nil => exact (List.reverse_eq_nil_iff.mp hReversed).symm
  | cons c rest =>
      rw [hReversed] at hLast
      rw [List.dropWhile_cons_of_neg (by simp [hLast c rfl]),
        ← hReversed, List.reverse_reverse]

/-
  What is dropped at both ends of a text is dropped, if the
  text itself starts and ends with something else.
-/
theorem dropEnds_around
    {p q : Char → Bool}
    (hBefore : ∀ c ∈ before, p c = true)
    (hAfter : ∀ c ∈ after, q c = true)
    (hFirst : ∀ c, cs.head? = some c → p c = false)
    (hLast : ∀ c, cs.getLast? = some c → q c = false) :
    (((before ++ (cs ++ after)).dropWhile p).reverse.dropWhile
        q).reverse = cs := by
  have hReversed : ∀ c ∈ after.reverse, q c = true :=
    fun c hc => hAfter c (List.mem_reverse.mp hc)
  rw [List.dropWhile_append_of_pos hBefore]
  cases cs with
  | nil =>
      have hNone :
          (after.dropWhile p).reverse.dropWhile q = [] := by
        apply List.dropWhile_eq_nil_iff.mpr
        intro c hc
        have hLeft := List.mem_reverse.mp hc
        exact hAfter c ((List.dropWhile_sublist p).mem hLeft)
      rw [List.nil_append, hNone, List.reverse_nil]
  | cons c cs =>
      have hStart : ¬p c = true := by simp [hFirst c rfl]
      rw [List.cons_append, List.dropWhile_cons_of_neg hStart,
        ← List.cons_append, List.reverse_append,
        List.dropWhile_append_of_pos hReversed]
      exact dropEnd_eq_self hLast

/-
  A text that starts and ends with no white space is left
  when white space around it is trimmed.
-/
theorem trim_around
    (hBefore : ∀ c ∈ before, isBlank c = true)
    (hAfter : ∀ c ∈ after, isBlank c = true)
    (hFirst : ∀ c, cs.head? = some c → isBlank c = false)
    (hLast : ∀ c, cs.getLast? = some c → isBlank c = false) :
    trim (before ++ (cs ++ after)) = cs :=
  dropEnds_around hBefore hAfter hFirst hLast

theorem trim_around_of_forall
    (hBefore : ∀ c ∈ before, isBlank c = true)
    (hAfter : ∀ c ∈ after, isBlank c = true)
    (hInside : ∀ c ∈ cs, isBlank c = false) :
    trim (before ++ (cs ++ after)) = cs :=
  trim_around hBefore hAfter
    (fun c hc => hInside c (List.mem_of_head? hc))
    (fun c hc => hInside c (List.mem_of_getLast? hc))

theorem trim_eq_self
    (hFirst : ∀ c, cs.head? = some c → isBlank c = false)
    (hLast : ∀ c, cs.getLast? = some c → isBlank c = false) :
    trim cs = cs := by
  have hNone : ∀ c ∈ ([] : List Char), isBlank c = true :=
    List.forall_mem_nil _
  have hAround := trim_around hNone hNone hFirst hLast
  rwa [List.nil_append, List.append_nil] at hAround

------------------------------------------------------------
-- What Is Left
------------------------------------------------------------

/- Nothing is left that was not there. -/
theorem mem_of_mem_trim
    {c : Char}
    (hLeft : c ∈ trim cs) :
    c ∈ cs := by
  have hSuffix : trimStart cs <:+ cs :=
    List.dropWhile_suffix isBlank
  have hPrefix : trim cs <+: trimStart cs :=
    List.rdropWhile_prefix isBlank (trimStart cs)
  exact hSuffix.mem (hPrefix.mem hLeft)

/- What is left starts with nothing that is dropped there. -/
theorem head?_dropEnds
    (p q : Char → Bool)
    (cs : List Char) :
    ∀ c, ((cs.dropWhile p).rdropWhile q).head? = some c →
      p c = false := by
  intro c hHead
  rcases List.rdropWhile_prefix q (cs.dropWhile p) with
    ⟨after, hStart⟩
  have hFirst : (cs.dropWhile p).head? = some c := by
    rw [← hStart, List.head?_append]
    exact Option.or_eq_some_iff.mpr (.inl hHead)
  have hNot := List.head?_dropWhile_not p cs
  rwa [hFirst] at hNot

/- And it ends with nothing that is dropped here. -/
theorem getLast?_rdropWhile
    (q : Char → Bool)
    (cs : List Char) :
    ∀ c, (cs.rdropWhile q).getLast? = some c →
      q c = false := by
  intro c hLast
  rw [List.rdropWhile, List.getLast?_reverse] at hLast
  have hNot := List.head?_dropWhile_not q cs.reverse
  rwa [hLast] at hNot

/- What is left of a text with what is dropped around it. -/
theorem exists_around
    (p q : Char → Bool)
    (cs : List Char) :
    ∃ before after,
      cs = before ++ ((cs.dropWhile p).rdropWhile q ++ after) ∧
        (∀ c ∈ before, p c = true) ∧
        ∀ c ∈ after, q c = true := by
  refine
    ⟨cs.takeWhile p, (cs.dropWhile p).rtakeWhile q, ?_, ?_, ?_⟩
  · rw [List.rdropWhile_append_rtakeWhile,
      List.takeWhile_append_dropWhile]
  · exact fun c hc => List.mem_takeWhile_imp hc
  · exact fun c hc => List.mem_rtakeWhile_imp hc

theorem head?_trim
    (cs : List Char) :
    ∀ c, (trim cs).head? = some c → isBlank c = false :=
  head?_dropEnds isBlank isBlank cs

theorem getLast?_trim
    (cs : List Char) :
    ∀ c, (trim cs).getLast? = some c → isBlank c = false :=
  getLast?_rdropWhile isBlank (trimStart cs)

/- What is left of a text ends as the text does. -/
theorem getLast?_of_dropWhile
    {p : Char → Bool}
    {c : Char}
    (hLast : (cs.dropWhile p).getLast? = some c) :
    cs.getLast? = some c := by
  rw [← List.takeWhile_append_dropWhile (p := p) (l := cs),
    List.getLast?_append, hLast, Option.some_or]

/- A text that ends with no white space may start with some. -/
theorem takeWhile_append_trim
    (hLast : ∀ c, cs.getLast? = some c → isBlank c = false) :
    cs.takeWhile isBlank ++ trim cs = cs := by
  have hStart :
      cs.takeWhile isBlank ++ trimStart cs = cs :=
    List.takeWhile_append_dropWhile
  have hEnd :
      ∀ c, (trimStart cs).getLast? = some c →
        isBlank c = false :=
    fun c hc => hLast c (getLast?_of_dropWhile hc)
  rw [trim, trimEnd, dropEnd_eq_self hEnd, hStart]

end Signpost.Text
