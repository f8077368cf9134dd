import Mathlib.Data.List.Infix
import Signpost.Predicate.Glob

/-
  Matching the segments of a pattern row by row agrees with
  the plain reading of the pattern, segment by segment.

  Main declarations:
    * `Glob.covers`
    * `Glob.getElem?_advance_rest`
    * `Glob.getElem?_advance_of_ne_rest`
    * `Glob.reaches_iff`
    * `Glob.matchSegments_eq_covers`
-/

namespace Signpost

namespace Glob

------------------------------------------------------------
-- The Plain Reading
------------------------------------------------------------

/-
  The plain reading of a pattern.  No segments cover only no
  parts, `**` gives up any number of parts, and every other
  segment gives up one part that it accepts.
-/
def covers : List Segment → List String → Bool
| [], parts => parts.isEmpty
| .rest :: ss, parts => parts.tails.any (covers ss)
| s :: ss, part :: parts => s.accepts part && covers ss parts
| _ :: _, [] => false

theorem covers_nil_iff
    (parts : List String) :
    covers [] parts = true ↔ parts = [] := by
  simp [covers]

/- After `**` the parts may go on at any place. -/
theorem covers_rest_iff
    (ss : List Segment)
    (parts : List String) :
    covers (.rest :: ss) parts = true ↔
      ∃ k, k ≤ parts.length ∧
        covers ss (parts.drop k) = true := by
  simp only [covers, List.any_eq_true, List.mem_tails]
  constructor
  · rintro ⟨suffix, hSuffix, hCovers⟩
    rw [List.suffix_iff_eq_drop] at hSuffix
    refine ⟨parts.length - suffix.length, by omega, ?_⟩
    rwa [← hSuffix]
  · rintro ⟨k, _, hCovers⟩
    exact ⟨parts.drop k, List.drop_suffix k parts, hCovers⟩

/- Every other segment takes exactly one part. -/
theorem covers_cons_iff
    {s : Segment}
    (hRest : s ≠ .rest)
    (ss : List Segment)
    (parts : List String) :
    covers (s :: ss) parts = true ↔
      ∃ part, parts[0]? = some part ∧
        s.accepts part = true ∧
        covers ss (parts.drop 1) = true := by
  cases parts with
  | nil => cases s <;> simp_all [covers]
  | cons part parts => cases s <;> simp_all [covers]

------------------------------------------------------------
-- Rows
------------------------------------------------------------

@[simp] theorem length_running
    (seen : Bool)
    (row : List Bool) :
    (running seen row).length = row.length := by
  induction row generalizing seen with
  | nil => rfl
  | cons b row ih => simp [running, ih]

/- A place is seen if it or one before it has held. -/
theorem getElem?_running
    (seen : Bool)
    (row : List Bool)
    (k : Nat) :
    (running seen row)[k]? = some true ↔
      k < row.length ∧
        (seen = true ∨
          ∃ j, j ≤ k ∧ row[j]? = some true) := by
  induction row generalizing seen k with
  | nil => simp [running]
  | cons b row ih =>
      cases k with
      | zero => simp [running]
      | succ k =>
          rw [running, List.getElem?_cons_succ, ih]
          constructor
          · rintro ⟨hLength, hSeen | ⟨j, hj, hRow⟩⟩
            · refine ⟨by simpa using hLength, ?_⟩
              have hOr : seen = true ∨ b = true := by
                simpa using hSeen
              rcases hOr with hSeen | hHere
              · exact Or.inl hSeen
              · exact Or.inr ⟨0, by omega, by simp [hHere]⟩
            · refine ⟨by simpa using hLength, Or.inr ?_⟩
              exact ⟨j + 1, by omega, by simpa using hRow⟩
          · rintro ⟨hLength, hSeen | ⟨j, hj, hRow⟩⟩
            · exact
                ⟨by simpa using hLength,
                  Or.inl (by simp [hSeen])⟩
            · refine ⟨by simpa using hLength, ?_⟩
              cases j with
              | zero =>
                  have hHere : b = true := by
                    simpa using hRow
                  exact Or.inl (by simp [hHere])
              | succ j =>
                  exact Or.inr
                    ⟨j, by omega, by simpa using hRow⟩

/- After `**` all places from the first one on hold. -/
theorem getElem?_advance_rest
    (parts : List String)
    (row : List Bool)
    (k : Nat) :
    (advance parts row .rest)[k]? = some true ↔
      k < row.length ∧ ∃ j, j ≤ k ∧ row[j]? = some true := by
  simp [advance, getElem?_running]

/- Every other segment moves on by one part it accepts. -/
theorem getElem?_advance_of_ne_rest
    {s : Segment}
    (hRest : s ≠ .rest)
    (parts : List String)
    (row : List Bool)
    (k : Nat) :
    (advance parts row s)[k]? = some true ↔
      ∃ j part, k = j + 1 ∧ row[j]? = some true ∧
        parts[j]? = some part ∧ s.accepts part = true := by
  have hAdvance :
      advance parts row s =
        false ::
          List.zipWith
            (fun here part => here && s.accepts part)
            row parts := by
    cases s <;> first | rfl | exact absurd rfl hRest
  rw [hAdvance]
  cases k with
  | zero => simp
  | succ k =>
      simp only [List.getElem?_cons_succ,
        List.getElem?_zipWith, Nat.add_right_cancel_iff]
      constructor
      · intro hNext
        cases hRow : row[k]? with
        | none => simp [hRow] at hNext
        | some here =>
            cases hPart : parts[k]? with
            | none => simp [hRow, hPart] at hNext
            | some part =>
                simp only [hRow, hPart, Option.some.injEq,
                  Bool.and_eq_true] at hNext
                exact
                  ⟨k, part, rfl, by rw [hRow, hNext.1],
                    hPart, hNext.2⟩
      · rintro ⟨j, part, rfl, hRow, hPart, hAccepts⟩
        simp [hRow, hPart, hAccepts]

/- A row keeps a place for each number of parts. -/
theorem length_advance
    {parts : List String}
    {row : List Bool}
    (hLength : row.length = parts.length + 1)
    (s : Segment) :
    (advance parts row s).length = parts.length + 1 := by
  cases s <;> simp [advance, hLength]

/-
  Moving a row on by one segment and going on from there
  comes to the same as going on with that segment.
-/
theorem exists_advance_iff
    {parts : List String}
    {row : List Bool}
    (hLength : row.length = parts.length + 1)
    (s : Segment)
    (ss : List Segment) :
    (∃ k, (advance parts row s)[k]? = some true ∧
        covers ss (parts.drop k) = true) ↔
      ∃ j, row[j]? = some true ∧
        covers (s :: ss) (parts.drop j) = true := by
  by_cases hRest : s = .rest
  · subst hRest
    simp only [getElem?_advance_rest, covers_rest_iff,
      List.drop_drop, List.length_drop]
    constructor
    · rintro ⟨k, ⟨hk, j, hj, hRow⟩, hCovers⟩
      refine ⟨j, hRow, k - j, by omega, ?_⟩
      rwa [Nat.add_sub_cancel' hj]
    · rintro ⟨j, hRow, k, hk, hCovers⟩
      obtain ⟨hj, -⟩ := List.getElem?_eq_some_iff.mp hRow
      exact ⟨j + k, ⟨by omega, j, by omega, hRow⟩, hCovers⟩
  · simp only [getElem?_advance_of_ne_rest hRest,
      covers_cons_iff hRest, List.getElem?_drop,
      List.drop_drop, Nat.add_zero]
    constructor
    · rintro ⟨_, ⟨j, part, rfl, hRow, hPart, hAccepts⟩,
        hCovers⟩
      exact ⟨j, hRow, part, hPart, hAccepts, hCovers⟩
    · rintro ⟨j, hRow, part, hPart, hAccepts, hCovers⟩
      exact
        ⟨j + 1, ⟨j, part, rfl, hRow, hPart, hAccepts⟩,
          hCovers⟩

------------------------------------------------------------
-- Agreement
------------------------------------------------------------

/-
  A row leads to the end exactly if the segments that are
  left cover the parts from one of the places that hold.
  The induction is on these segments, for all rows.
-/
theorem reaches_iff
    (parts : List String)
    (pattern : List Segment)
    {row : List Bool}
    (hLength : row.length = parts.length + 1) :
    reaches parts pattern row = true ↔
      ∃ j, row[j]? = some true ∧
        covers pattern (parts.drop j) = true := by
  induction pattern generalizing row with
  | nil =>
      simp only [reaches, decide_eq_true_eq, covers_nil_iff,
        List.getLast?_eq_getElem?, hLength,
        Nat.add_sub_cancel, List.drop_eq_nil_iff]
      constructor
      · intro hRow
        exact ⟨parts.length, hRow, Nat.le_refl _⟩
      · rintro ⟨j, hRow, hj⟩
        obtain ⟨hBound, -⟩ :=
          List.getElem?_eq_some_iff.mp hRow
        have hEnd : j = parts.length := by omega
        rwa [← hEnd]
  | cons s ss ih =>
      rw [← exists_advance_iff hLength, reaches]
      by_cases hNext :
          (advance parts row s).contains true = true
      · rw [if_pos hNext]
        exact ih (length_advance hLength s)
      · rw [if_neg hNext]
        -- Nothing holds any more, so the early end is right.
        have hNone :
            ∀ k : Nat,
              (advance parts row s)[k]? ≠ some true := by
          intro k hk
          apply hNext
          rw [List.contains_iff_mem]
          exact List.mem_of_getElem? hk
        simp [hNone]

/-
  Matching row by row agrees with the plain reading, for all
  patterns and all parts.
-/
theorem matchSegments_eq_covers
    (pattern : List Segment)
    (parts : List String) :
    matchSegments pattern parts = covers pattern parts := by
  have hLength :
      (true :: parts.map fun _ => false).length =
        parts.length + 1 := by
    simp
  rw [Bool.eq_iff_iff, matchSegments,
    reaches_iff parts pattern hLength]
  constructor
  · rintro ⟨j, hRow, hCovers⟩
    cases j with
    | zero => simpa using hCovers
    | succ j => simp [List.getElem?_replicate] at hRow
  · intro hCovers
    exact ⟨0, by simp, by simpa using hCovers⟩

/- Two `**` around a segment find it at any place. -/
example :
    matchSegments [.rest, .literal "b", .rest]
      ["a", "b", "c"] = true := by
  decide

end Glob

end Signpost
