import Mathlib.Data.List.Forall2

/-
  Computations of several steps that may fail, and which
  step it is that is reported.

  Main declarations:
    * `bind_eq_ok_iff` and `bind_eq_error_iff`
    * `mapM_eq_ok_iff` and `exists_mem_mapM_iff`
    * `FailsFirst` and `failsFirst_append_iff`
    * `ReportsFirst` and `ReportsFirst.bind`
-/

namespace Signpost

variable {ε α β : Type}

------------------------------------------------------------
-- Results
------------------------------------------------------------

/- A mapped result is one that was there before. -/
theorem map_eq_ok_iff
    {f : α → β}
    {result : Except ε α}
    {b : β} :
    result.map f = .ok b ↔ ∃ a, result = .ok a ∧ f a = b := by
  cases result <;> simp [Except.map]

/- A result in two steps is one that both of them have. -/
theorem bind_eq_ok_iff
    {result : Except ε α}
    {next : α → Except ε β}
    {b : β} :
    (result >>= next) = .ok b ↔
      ∃ a, result = .ok a ∧ next a = .ok b := by
  cases result <;> simp [Bind.bind, Except.bind]

/- Two steps go wrong if the first does or else the second. -/
theorem bind_eq_error_iff
    {result : Except ε α}
    {next : α → Except ε β}
    {e : ε} :
    (result >>= next) = .error e ↔
      result = .error e ∨
        ∃ a, result = .ok a ∧ next a = .error e := by
  cases result <;> simp [Bind.bind, Except.bind]

/- If nothing goes wrong there is a result for each element. -/
theorem mapM_eq_ok_iff
    {f : α → Except ε β}
    {xs : List α}
    {ys : List β} :
    xs.mapM f = .ok ys ↔
      List.Forall₂ (fun a b => f a = .ok b) xs ys := by
  induction xs generalizing ys with
  | nil =>
      rw [List.forall₂_nil_left_iff]
      simp [pure, Except.pure, eq_comm]
  | cons a xs ih =>
      rw [List.mapM_cons, List.forall₂_cons_left_iff]
      simp only [← ih]
      cases hHere : f a with
      | error e => simp [Bind.bind, Except.bind]
      | ok b =>
          cases hRest : xs.mapM f with
          | error e => simp [Bind.bind, Except.bind]
          | ok bs =>
              simp [Bind.bind, Except.bind, pure, Except.pure,
                eq_comm]

/- There is a result exactly if there is one for each. -/
theorem exists_mapM_iff
    {f : α → Except ε β}
    {xs : List α} :
    (∃ ys, xs.mapM f = .ok ys) ↔ ∀ a ∈ xs, ∃ b, f a = .ok b := by
  simp only [mapM_eq_ok_iff]
  induction xs with
  | nil => simp
  | cons a xs ih =>
      rw [List.forall_mem_cons, ← ih]
      constructor
      · intro hAll
        rcases hAll with ⟨_, hAll⟩
        cases hAll with
        | cons hHere hRest => exact ⟨⟨_, hHere⟩, _, hRest⟩
      · intro hAll
        rcases hAll with ⟨⟨b, hHere⟩, bs, hRest⟩
        exact ⟨b :: bs, .cons hHere hRest⟩

/- What holds of some result holds of what some element gives. -/
theorem exists_mem_mapM_iff
    {f : α → Except ε β}
    {xs : List α}
    {ys : List β}
    (hResults : xs.mapM f = .ok ys)
    (q : β → Prop) :
    (∃ b ∈ ys, q b) ↔ ∃ a ∈ xs, ∃ b, f a = .ok b ∧ q b := by
  rw [mapM_eq_ok_iff] at hResults
  induction hResults with
  | nil => simp
  | cons hHere hRest ih =>
      rw [List.exists_mem_cons_iff, List.exists_mem_cons_iff, ih,
        hHere]
      simp

------------------------------------------------------------
-- The First Failure
------------------------------------------------------------

variable {σ : Type}
variable {fails : σ → ε → Prop}
variable {s : σ}
variable {ss ts : List σ}
variable {e : ε}

/- A step fails with an error, and none before it fails. -/
def FailsFirst
    (fails : σ → ε → Prop)
    (steps : List σ)
    (e : ε) : Prop :=
  ∃ before s after,
    steps = before ++ s :: after ∧
      (∀ t ∈ before, ∀ e, ¬ fails t e) ∧ fails s e

theorem not_failsFirst_nil : ¬ FailsFirst fails [] e := by
  rintro ⟨before, s, after, hSteps, -⟩
  simp at hSteps

/- The first step fails, or it does not and a later one does. -/
theorem failsFirst_cons_iff :
    FailsFirst fails (s :: ss) e ↔
      fails s e ∨
        (∀ e, ¬ fails s e) ∧ FailsFirst fails ss e := by
  constructor
  · rintro ⟨before, t, after, hSteps, hBefore, hFails⟩
    cases before with
    | nil =>
        cases hSteps
        exact Or.inl hFails
    | cons b before =>
        cases hSteps
        rcases List.forall_mem_cons.mp hBefore with
          ⟨hFirst, hBefore⟩
        exact
          Or.inr ⟨hFirst, before, t, after, rfl, hBefore, hFails⟩
  · rintro (hFails | ⟨hFirst, before, t, after, rfl, hRest⟩)
    · exact ⟨[], s, ss, rfl, by simp, hFails⟩
    · exact
        ⟨s :: before, t, after, rfl,
          List.forall_mem_cons.mpr ⟨hFirst, hRest.1⟩, hRest.2⟩

/- Some step fails first if and only if some step fails. -/
theorem exists_failsFirst_iff :
    (∃ e, FailsFirst fails ss e) ↔ ∃ s ∈ ss, ∃ e, fails s e := by
  induction ss with
  | nil => simp [not_failsFirst_nil]
  | cons s ss ih =>
      simp only [failsFirst_cons_iff, exists_or,
        exists_and_left, ih, List.exists_mem_cons_iff]
      by_cases hFirst : ∃ e, fails s e
      · simp [hFirst]
      · simp [not_exists.mp hFirst]

/- Later steps count if no step before them fails. -/
theorem failsFirst_append_iff :
    FailsFirst fails (ss ++ ts) e ↔
      FailsFirst fails ss e ∨
        (∀ e, ¬ FailsFirst fails ss e) ∧
          FailsFirst fails ts e := by
  induction ss with
  | nil => simp [not_failsFirst_nil]
  | cons s ss ih =>
      simp only [List.cons_append, failsFirst_cons_iff, ih]
      by_cases hFirst : ∃ e, fails s e
      · rcases hFirst with ⟨e', hFirst⟩
        have hSome : ¬ ∀ e, ¬ fails s e :=
          fun hNone => hNone e' hFirst
        simp [hSome]
      · have hNone := not_exists.mp hFirst
        simp [hNone]

theorem failsFirst_map_iff
    {steps : List α}
    {step : α → σ} :
    FailsFirst fails (steps.map step) e ↔
      FailsFirst (fun a => fails (step a)) steps e := by
  induction steps with
  | nil => simp [not_failsFirst_nil]
  | cons a steps ih =>
      simp only [List.map_cons, failsFirst_cons_iff, ih]

------------------------------------------------------------
-- Reporting It
------------------------------------------------------------

/-
  A computation goes wrong exactly if one of its steps does,
  and then with the error of the first step that does.
-/
def ReportsFirst
    (fails : σ → ε → Prop)
    (steps : List σ)
    (result : Except ε α) : Prop :=
  ∀ e, result = .error e ↔ FailsFirst fails steps e

theorem reportsFirst_pure
    (a : α) :
    ReportsFirst fails [] (pure a : Except ε α) := by
  intro e
  simp [not_failsFirst_nil, pure, Except.pure]

/-
  The steps of a computation come before those of what is
  done with its result.
-/
theorem ReportsFirst.bind
    {result : Except ε α}
    {next : α → Except ε β}
    (hResult : ReportsFirst fails ss result)
    (hNext : ∀ a, ReportsFirst fails ts (next a)) :
    ReportsFirst fails (ss ++ ts) (result >>= next) := by
  intro e
  rw [failsFirst_append_iff, ← hResult e]
  simp only [← hResult _]
  cases result with
  | error e' => simp [Bind.bind, Except.bind]
  | ok a => simpa [Bind.bind, Except.bind] using hNext a e

/- What is made of a result adds no steps. -/
theorem ReportsFirst.map
    {result : Except ε α}
    (hResult : ReportsFirst fails ss result)
    (f : α → β) :
    ReportsFirst fails ss (result.map f) := by
  intro e
  rw [← hResult e]
  cases result <;> simp [Except.map]

/- A list is gone through from left to right. -/
theorem reportsFirst_mapM
    (f : α → Except ε β)
    (xs : List α) :
    ReportsFirst (fun a e => f a = .error e) xs
      (xs.mapM f) := by
  induction xs with
  | nil => exact reportsFirst_pure []
  | cons a xs ih =>
      intro e
      rw [List.mapM_cons, failsFirst_cons_iff, ← ih e]
      cases f a with
      | error e' => simp [Bind.bind, Except.bind]
      | ok b =>
          cases xs.mapM f <;>
            simp [Bind.bind, Except.bind, pure, Except.pure]

end Signpost
