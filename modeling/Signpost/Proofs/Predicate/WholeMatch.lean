import Signpost.Predicate.Fields
import Signpost.Proofs.Regex.Reading

/-
  The patterns of headers, cookies and query parameters mean
  whole values, unless they close the group that is put
  around them.

  Main declarations:
    * `Regex.fits_of_enclosed`
    * `MeansWhole` and `Compares`
    * `wholeMatch_whole_iff`
    * `wholeMatch_unopened`
-/

namespace Signpost

open Http
open Text

------------------------------------------------------------
-- Sizes
------------------------------------------------------------

namespace Regex

variable {sizeOf : CharSet → Size}

/- One size is no more than another in both directions. -/
def Size.AtMost (a b : Size) : Prop :=
  a.forwards ≤ b.forwards ∧ a.backwards ≤ b.backwards

theorem Size.isAllowed_of_atMost
    {a b : Size}
    (hAtMost : a.AtMost b)
    (hAllowed : b.isAllowed = true) :
    a.isAllowed = true := by
  unfold Size.isAllowed at hAllowed ⊢
  rw [Bool.and_eq_true, decide_eq_true_eq,
    decide_eq_true_eq] at hAllowed ⊢
  exact
    ⟨hAtMost.1.trans hAllowed.1, hAtMost.2.trans hAllowed.2⟩

theorem Extent.times_eq_nothing
    {a : Extent}
    {least : Nat}
    {most : Option Nat}
    (hInner : a.isEmpty = true → a = .nothing)
    (hEmpty : (a.times sizeOf least most).isEmpty = true) :
    a.times sizeOf least most = .nothing := by
  unfold times at hEmpty ⊢
  generalize
    (if a.isAlwaysEmpty then
      (min least 1, some (min (most.getD 1) 1))
    else (least, most)) = bounds at hEmpty ⊢
  rcases bounds with ⟨least, most⟩
  simp only at hEmpty ⊢
  split at hEmpty
  · rename_i hNone
    rw [if_pos hNone]
  · rename_i hSome
    split at hEmpty
    · rename_i hOnce
      rw [if_neg hSome, if_pos hOnce]
      exact hInner hEmpty
    · cases hEmpty

/- What counts as empty is no larger than nothing. -/
theorem extent_eq_nothing
    {r : Regex}
    (hEmpty : (r.extent sizeOf).isEmpty = true) :
    r.extent sizeOf = .nothing := by
  induction r with
  | empty => rfl
  | chars s => cases hEmpty
  | look l => cases hEmpty
  | cat a b iha ihb =>
      simp only [extent, Extent.cat] at hEmpty ⊢
      split at hEmpty
      · rename_i ha
        rw [if_pos ha]
        exact ihb hEmpty
      · rename_i ha
        split at hEmpty
        · exact absurd hEmpty ha
        · cases hEmpty
  | alt a b iha ihb =>
      simp only [extent, Extent.alt] at hEmpty ⊢
      split at hEmpty
      · rename_i s t hSet _
        rw [iha hEmpty] at hSet
        cases hSet
      · cases hEmpty
  | times a least most ih =>
      exact Extent.times_eq_nothing ih hEmpty
  | group a ih => cases hEmpty

/- An expression is no larger than between two places. -/
theorem size_atMost_enclosed
    (sizeOf : CharSet → Size)
    (r : Regex) :
    (r.size sizeOf).AtMost (r.enclosed.size sizeOf) := by
  by_cases hEmpty : (r.extent sizeOf).isEmpty = true
  · simp only [size, enclosed, extent, extent_eq_nothing hEmpty]
    constructor <;> exact Nat.le_of_ble_eq_true rfl
  · have hBetween :
        (r.enclosed.extent sizeOf).whole sizeOf =
          (Size.both stateSize).plus
            (((r.extent sizeOf).whole sizeOf).plus
              (.both stateSize)) := by
      rw [Bool.not_eq_true] at hEmpty
      simp only [enclosed, extent, Extent.cat, hEmpty]
      rfl
    rw [size, size, hBetween]
    generalize (r.extent sizeOf).whole sizeOf = a
    simp only [Size.AtMost, Size.plus, Size.more, Size.both]
    omega

/- Room enough for whole texts is room enough alone. -/
theorem fits_of_enclosed
    {r : Regex}
    (hFits : r.enclosed.fits = true) :
    r.fits = true := by
  unfold fits at hFits ⊢
  rw [Bool.or_eq_true] at hFits ⊢
  exact
    hFits.imp
      (Size.isAllowed_of_atMost (size_atMost_enclosed _ r))
      (Size.isAllowed_of_atMost (size_atMost_enclosed _ r))

end Regex

------------------------------------------------------------
-- Whole Values
------------------------------------------------------------

/-
  An expression matches just the values that are as a whole
  in the language of a pattern, which is a pattern alone.
-/
def MeansWhole (pattern : String) (w : Regex) : Prop :=
  ∃ r, Regex.parse? pattern = some r ∧ r.fits = true ∧
    ∀ v, w.isMatch v = true ↔ r.Accepts v

/- The patterns that close a group they have not opened. -/
def ClosesOuter (pattern : String) : Prop :=
  Regex.Reading.Unopened {} pattern.toList

/- Such a pattern cannot be read alone. -/
theorem ClosesOuter.parse?_eq_none
    {pattern : String}
    (hCloses : ClosesOuter pattern) :
    Regex.parse? pattern = none := by
  unfold Regex.parse?
  rw [Regex.Reading.Unopened.run_eq_none hCloses]
  rfl

theorem wholeMatch_eq_ok_iff
    {pattern : String}
    {w : Regex} :
    wholeMatch pattern = .ok w ↔
      Regex.whole? pattern = some w ∧ w.fits = true := by
  unfold wholeMatch
  constructor
  · intro hOk
    split at hOk
    · rename_i r hWhole
      split at hOk
      · rename_i hFits
        cases hOk
        exact ⟨hWhole, hFits⟩
      · cases hOk
    · cases hOk
  · rintro ⟨hWhole, hFits⟩
    rw [hWhole]
    exact if_pos hFits

theorem meansWhole_iff
    {pattern : String}
    {w : Regex}
    (hAccepted : wholeMatch pattern = .ok w) :
    MeansWhole pattern w ↔ ¬ClosesOuter pattern := by
  rcases wholeMatch_eq_ok_iff.mp hAccepted with ⟨hWhole, hFits⟩
  constructor
  · rintro ⟨r, hParse, -⟩ hCloses
    rw [hCloses.parse?_eq_none] at hParse
    cases hParse
  · intro hInside
    rcases Regex.whole?_eq_some hWhole with
      ⟨r, hParse, hProper, rfl⟩ | hCloses
    · exact
        ⟨r, hParse, Regex.fits_of_enclosed hFits,
          Regex.isMatch_enclosed_iff hProper⟩
    · exact absurd hCloses hInside

------------------------------------------------------------
-- Predicates
------------------------------------------------------------

/-
  A predicate was made to compare certain values of requests
  with a pattern.
-/
inductive Compares :
    Predicate → String → (Exchange → List String) → Prop where
| header
    {a : Arguments}
    {p : Predicate}
    {raw pattern : String}
    {name : HeaderName}
    (make : headerFactory.make a = .ok p)
    (asked : a.required "header" = .ok raw)
    (named : headerName raw = .ok name)
    (regexp : a.optional "regexp" = some pattern) :
    Compares p pattern fun x => x.headerValues name.text
| cookie
    {a : Arguments}
    {p : Predicate}
    {name pattern : String}
    (make : cookieFactory.make a = .ok p)
    (asked : a.required "name" = .ok name)
    (regexp : cookiePattern a = .ok pattern) :
    Compares p pattern fun x => x.cookieValues name
| query
    {a : Arguments}
    {p : Predicate}
    {param pattern : String}
    (make : queryFactory.make a = .ok p)
    (asked : a.required "param" = .ok param)
    (regexp : a.optional "regexp" = some pattern) :
    Compares p pattern fun x => x.queryValues param

theorem optionalMatch_eq_ok
    {a : Arguments}
    {key pattern : String}
    {o : Option Regex}
    (hOptional : a.optional key = some pattern)
    (hOk : optionalMatch a key = .ok o) :
    ∃ w, wholeMatch pattern = .ok w ∧ o = some w := by
  rw [optionalMatch, hOptional] at hOk
  change (wholeMatch pattern).map some = .ok o at hOk
  cases hw : wholeMatch pattern with
  | error e =>
      rw [hw] at hOk
      cases hOk
  | ok w =>
      rw [hw] at hOk
      cases hOk
      exact ⟨w, rfl, rfl⟩

/- It holds if the expression matches one of the values. -/
theorem Compares.evaluate
    {p : Predicate}
    {pattern : String}
    {values : Exchange → List String}
    (hCompares : Compares p pattern values) :
    ∃ w, wholeMatch pattern = .ok w ∧
      ∀ x, p.evaluate x = .now ((values x).any w.isMatch) := by
  cases hCompares with
  | header hMake hAsked hNamed hRegexp =>
      simp only [headerFactory, hAsked, hNamed, bind,
        Except.bind] at hMake
      split at hMake
      · cases hMake
      · rename_i o hOk
        rcases optionalMatch_eq_ok hRegexp hOk with ⟨w, hw, rfl⟩
        cases hMake
        exact ⟨w, hw, fun x => rfl⟩
  | cookie hMake hAsked hRegexp =>
      simp only [cookieFactory, hAsked, hRegexp, bind,
        Except.bind] at hMake
      split at hMake
      · cases hMake
      · rename_i w hw
        cases hMake
        exact ⟨w, hw, fun x => rfl⟩
  | query hMake hAsked hRegexp =>
      simp only [queryFactory, hAsked, bind, Except.bind]
        at hMake
      split at hMake
      · cases hMake
      · rename_i o hOk
        rcases optionalMatch_eq_ok hRegexp hOk with ⟨w, hw, rfl⟩
        cases hMake
        exact ⟨w, hw, fun x => rfl⟩

/-
  A predicate asks for a value that is as a whole in the
  language of a pattern, which is a pattern alone.
-/
def AsksWhole
    (p : Predicate)
    (pattern : String)
    (values : Exchange → List String) : Prop :=
  ∃ r, Regex.parse? pattern = some r ∧
    ∀ x, ∃ b, p.evaluate x = .now b ∧
      (b = true ↔ ∃ v ∈ values x, r.Accepts v)

/- A pattern that is accepted makes a predicate. -/
theorem exists_compares_query
    {a : Arguments}
    {param pattern : String}
    {w : Regex}
    (hAsked : a.required "param" = .ok param)
    (hRegexp : a.optional "regexp" = some pattern)
    (hAccepted : wholeMatch pattern = .ok w) :
    ∃ p, Compares p pattern fun x => x.queryValues param := by
  have hOptional : optionalMatch a "regexp" = .ok (some w) := by
    rw [optionalMatch, hRegexp]
    change (wholeMatch pattern).map some = _
    rw [hAccepted]
    rfl
  have hMake : ∃ p, queryFactory.make a = .ok p := by
    simp only [queryFactory, hAsked, hOptional, bind,
      Except.bind]
    exact ⟨_, rfl⟩
  rcases hMake with ⟨p, hMake⟩
  exact ⟨p, .query hMake hAsked hRegexp⟩

theorem Compares.asksWhole_iff
    {p : Predicate}
    {pattern : String}
    {values : Exchange → List String}
    (hCompares : Compares p pattern values) :
    AsksWhole p pattern values ↔ ¬ClosesOuter pattern := by
  rcases hCompares.evaluate with ⟨w, hAccepted, hEvaluate⟩
  constructor
  · rintro ⟨r, hParse, -⟩ hCloses
    rw [hCloses.parse?_eq_none] at hParse
    cases hParse
  · intro hInside
    rcases (meansWhole_iff hAccepted).mpr hInside with
      ⟨r, hParse, -, hMeans⟩
    refine ⟨r, hParse, ?_⟩
    intro x
    refine ⟨(values x).any w.isMatch, hEvaluate x, ?_⟩
    rw [List.any_eq_true]
    constructor
    · rintro ⟨v, hv, hMatch⟩
      exact ⟨v, hv, (hMeans v).mp hMatch⟩
    · rintro ⟨v, hv, hAccepts⟩
      exact ⟨v, hv, (hMeans v).mpr hAccepts⟩

/-
  A pattern that is accepted for whole values is accepted
  alone and means just the whole values of its language, in
  the predicates as well, unless it closes the group that is
  put around it.
-/
theorem wholeMatch_whole_iff
    {pattern : String}
    {w : Regex}
    (hAccepted : wholeMatch pattern = .ok w) :
    (MeansWhole pattern w ↔ ¬ClosesOuter pattern) ∧
      ∀ p values, Compares p pattern values →
        (AsksWhole p pattern values ↔ ¬ClosesOuter pattern) :=
  ⟨meansWhole_iff hAccepted,
    fun _ _ hCompares => hCompares.asksWhole_iff⟩

theorem wholeMatch_whole_iff_chip :
    ∃ w, wholeMatch "ch.p" = .ok w ∧ MeansWhole "ch.p" w ∧
      w.isMatch "chip" = true ∧ w.isMatch "chips" = false ∧
      ∃ p, Compares p "ch.p" (·.queryValues "q") ∧
        AsksWhole p "ch.p" (·.queryValues "q") := by
  have hWhole :
      ((Regex.whole? "ch.p").any fun w =>
        w.fits && w.isMatch "chip" && !w.isMatch "chips") =
        true := by
    decide +kernel
  have hAlone : (Regex.parse? "ch.p").isSome = true := by
    decide +kernel
  have hInside : ¬ClosesOuter "ch.p" := by
    intro hCloses
    rw [hCloses.parse?_eq_none] at hAlone
    cases hAlone
  rcases (Option.any_eq_true _ _).mp hWhole with
    ⟨w, hw, hFacts⟩
  simp only [Bool.and_eq_true, Bool.not_eq_true'] at hFacts
  rcases hFacts with ⟨⟨hFits, hChip⟩, hChips⟩
  have hAccepted := wholeMatch_eq_ok_iff.mpr ⟨hw, hFits⟩
  rcases wholeMatch_whole_iff hAccepted with ⟨hMeans, hAsks⟩
  rcases
      exists_compares_query
        (a := Dict.ofList [("param", "q"), ("regexp", "ch.p")])
        rfl rfl hAccepted with
    ⟨p, hCompares⟩
  exact
    ⟨w, hAccepted, hMeans.mpr hInside, hChip, hChips, p,
      hCompares, (hAsks p _ hCompares).mpr hInside⟩

/-
  A pattern that closes the group around it and opens another
  one is accepted for whole values although it is no pattern
  alone, and it matches values that start or end with what
  its halves match.
-/
theorem wholeMatch_unopened :
    ClosesOuter "a)|(?:b" ∧
      Regex.parse? "a)|(?:b" = none ∧
      ∃ w, wholeMatch "a)|(?:b" = .ok w ∧
        w.isMatch "ax" = true ∧ w.isMatch "xb" = true ∧
        ∃ p, Compares p "a)|(?:b" (·.queryValues "q") ∧
          ∀ x, x.queryValues "q" = ["ax"] →
            p.evaluate x = .now true := by
  have hWhole :
      ((Regex.whole? "a)|(?:b").any fun w =>
        w.fits && w.isMatch "ax" && w.isMatch "xb") =
        true := by
    decide +kernel
  have hAlone : Regex.parse? "a)|(?:b" = none := by
    decide +kernel
  rcases (Option.any_eq_true _ _).mp hWhole with
    ⟨w, hw, hFacts⟩
  simp only [Bool.and_eq_true] at hFacts
  rcases hFacts with ⟨⟨hFits, hStart⟩, hEnd⟩
  have hAccepted := wholeMatch_eq_ok_iff.mpr ⟨hw, hFits⟩
  have hCloses : ClosesOuter "a)|(?:b" := by
    rcases Regex.whole?_eq_some hw with
      ⟨r, hParse, -⟩ | hCloses
    · rw [hAlone] at hParse
      cases hParse
    · exact hCloses
  rcases
      exists_compares_query
        (a := Dict.ofList [("param", "q"), ("regexp", "a)|(?:b")])
        rfl rfl hAccepted with
    ⟨p, hCompares⟩
  refine
    ⟨hCloses, hAlone, w, hAccepted, hStart, hEnd, p,
      hCompares, ?_⟩
  intro x hx
  rcases hCompares.evaluate with ⟨w', hAccepted', hEvaluate⟩
  rw [hAccepted] at hAccepted'
  cases hAccepted'
  rw [hEvaluate, hx, List.any_cons, hStart, Bool.true_or]

end Signpost
