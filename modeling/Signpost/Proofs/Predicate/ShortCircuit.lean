import Mathlib.Data.List.Basic
import Signpost.Predicate.Conjunction

/-
  The predicates of a route are asked one after the other up
  to the first that does not count as true, and each of them
  has the whole timeout to itself.

  Main declarations:
    * `Conjunction.counted` and `Conjunction.cost`
    * `Conjunction.asked`
    * `Conjunction.spent`
    * `Conjunction.started`
    * `Conjunction.test_until_fails`
-/

namespace Signpost

namespace Conjunction

variable (timeout : Option Duration)
variable (x : Exchange)

------------------------------------------------------------
-- What Is Asked
------------------------------------------------------------

/-
  What a predicate counts as: its own outcome, or an error
  under its name if it takes longer than it may.
-/
def counted (p : Predicate) : Except EvaluationError Bool :=
  match timeout with
  | none => (p.evaluate x).outcome
  | some limit =>
      if limit.millis < (p.evaluate x).delay.millis then
        .error
          { predicate := p.name
            reason :=
              "evaluation timed out after " ++ limit.text }
      else (p.evaluate x).outcome

/- The milliseconds that are waited for a predicate. -/
def cost (p : Predicate) : Nat :=
  match timeout with
  | none => (p.evaluate x).delay.millis
  | some limit =>
      min (p.evaluate x).delay.millis limit.millis

/- A predicate counts as true. -/
def holds (p : Predicate) : Bool :=
  match counted timeout x p with
  | .ok b => b
  | .error _ => false

/- The first predicate that does not count as true. -/
def failing? (ps : List Predicate) : Option Predicate :=
  ps.find? fun p => !holds timeout x p

/-
  The predicates up to the first that does not count as
  true, or all of them.
-/
def asked (ps : List Predicate) : List Predicate :=
  ps.take ((ps.findIdx fun p => !holds timeout x p) + 1)

/- The milliseconds that predicates take one by one. -/
def spent (ps : List Predicate) : Nat :=
  ps.foldr (fun p t => cost timeout x p + t) 0

/- Each predicate is started when those before it are done. -/
def started (ps : List Predicate) : List (Nat × String) :=
  ps.mapIdx fun i p => (spent timeout x (ps.take i), p.name)

------------------------------------------------------------
-- One Predicate
------------------------------------------------------------

variable {timeout : Option Duration}
variable {x : Exchange}
variable {p : Predicate}

theorem outcome_within
    (timeout : Option Duration)
    (x : Exchange)
    (p : Predicate) :
    ((p.evaluate x).within p.name timeout).outcome =
      counted timeout x p := by
  cases timeout with
  | none => rfl
  | some limit =>
      unfold Evaluation.within counted
      by_cases hLate :
          limit.millis < (p.evaluate x).delay.millis
      · simp only [if_pos hLate,
          if_neg (Nat.not_le.mpr hLate)]
        rfl
      · simp only [if_neg hLate, if_pos (Nat.not_lt.mp hLate)]

theorem delay_within
    (timeout : Option Duration)
    (x : Exchange)
    (p : Predicate) :
    ((p.evaluate x).within p.name timeout).delay.millis =
      cost timeout x p := by
  cases timeout with
  | none => rfl
  | some limit =>
      unfold Evaluation.within cost
      by_cases hInTime :
          (p.evaluate x).delay.millis ≤ limit.millis
      · simp only [if_pos hInTime, Nat.min_eq_left hInTime]
      · have hLate := Nat.le_of_not_le hInTime
        simp only [if_neg hInTime, Nat.min_eq_right hLate]

theorem holds_of_counted
    (hCounted : counted timeout x p = .ok true) :
    holds timeout x p = true := by
  simp [holds, hCounted]

theorem not_holds_of_counted
    (hCounted : counted timeout x p ≠ .ok true) :
    holds timeout x p = false := by
  unfold holds
  cases hCase : counted timeout x p with
  | error e => rfl
  | ok b =>
      cases b with
      | false => rfl
      | true => exact absurd hCase hCounted

------------------------------------------------------------
-- One Predicate before Others
------------------------------------------------------------

/- After a predicate that holds the others are asked. -/
theorem asked_cons_of_holds
    (hHolds : holds timeout x p = true)
    (ps : List Predicate) :
    asked timeout x (p :: ps) = p :: asked timeout x ps := by
  simp [asked, List.findIdx_cons, hHolds]

/- After one that does not hold nothing is asked. -/
theorem asked_cons_of_not_holds
    (hHolds : holds timeout x p = false)
    (ps : List Predicate) :
    asked timeout x (p :: ps) = [p] := by
  simp [asked, List.findIdx_cons, hHolds]

@[simp] theorem spent_cons
    (timeout : Option Duration)
    (x : Exchange)
    (p : Predicate)
    (ps : List Predicate) :
    spent timeout x (p :: ps) =
      cost timeout x p + spent timeout x ps := rfl

/- The others are started later by what the first takes. -/
theorem started_cons
    (timeout : Option Duration)
    (x : Exchange)
    (p : Predicate)
    (ps : List Predicate) :
    started timeout x (p :: ps) =
      (0, p.name) ::
        (started timeout x ps).map fun s =>
          (cost timeout x p + s.1, s.2) := by
  rw [started, List.mapIdx_cons, started]
  congr 1
  apply List.ext_getElem?
  intro i
  simp only [List.getElem?_mapIdx, List.getElem?_map,
    Option.map_map, List.take_succ_cons, spent_cons]
  rfl

------------------------------------------------------------
-- All Predicates
------------------------------------------------------------

/- A test that ends with the first predicate. -/
theorem testAll_cons_of_counted_ne
    (hCounted : counted timeout x p ≠ .ok true)
    (ps : List Predicate) :
    testAll timeout x (p :: ps) =
      { verdict := counted timeout x p
        elapsed := cost timeout x p
        started := [(0, p.name)] } := by
  rw [testAll]
  simp only [outcome_within, delay_within]
  cases hCase : counted timeout x p with
  | error e => rfl
  | ok b =>
      cases b with
      | false => rfl
      | true => exact absurd hCase hCounted

/- A test that goes on after the first predicate. -/
theorem testAll_cons_of_counted
    (hCounted : counted timeout x p = .ok true)
    (ps : List Predicate) :
    testAll timeout x (p :: ps) =
      { verdict := (testAll timeout x ps).verdict
        elapsed :=
          cost timeout x p + (testAll timeout x ps).elapsed
        started :=
          (0, p.name) ::
            (testAll timeout x ps).started.map fun s =>
              (cost timeout x p + s.1, s.2) } := by
  rw [testAll]
  simp only [outcome_within, hCounted, Trial.after,
    delay_within]

/- A predicate that answers at once is never late. -/
theorem counted_immediate
    (timeout : Option Duration)
    (x : Exchange)
    (name : String)
    (question : Exchange → Bool) :
    counted timeout x (.immediate name question) =
      .ok (question x) := by
  cases timeout with
  | none => rfl
  | some limit =>
      simp [counted, Predicate.immediate, Evaluation.now]

/- Alone it decides. -/
theorem verdict_immediate
    (timeout : Option Duration)
    (x : Exchange)
    {name : String}
    {question : Exchange → Bool} :
    (testAll timeout x
        [.immediate name question]).verdict =
      .ok (question x) := by
  have hCounted := counted_immediate timeout x name question
  cases hAnswer : question x with
  | false =>
      rw [hAnswer] at hCounted
      rw [testAll_cons_of_counted_ne (by simp [hCounted])]
      exact hCounted
  | true =>
      rw [hAnswer] at hCounted
      rw [testAll_cons_of_counted hCounted]
      simp only [testAll]

/-
  The predicates are asked from left to right, one at a
  time, up to the first that does not count as true, which
  decides.  A predicate that takes longer than the timeout
  counts as an error, so the timeout bounds what each of
  them takes and not what they take together.
-/
theorem test_until_fails
    (c : Conjunction)
    (x : Exchange) :
    c.test x =
      { verdict :=
          ((failing? c.timeout x c.predicates).map
            (counted c.timeout x)).getD (.ok true)
        elapsed :=
          spent c.timeout x (asked c.timeout x c.predicates)
        started :=
          started c.timeout x
            (asked c.timeout x c.predicates) } := by
  obtain ⟨ps, timeout⟩ := c
  simp only [test]
  induction ps with
  | nil => rfl
  | cons p ps ih =>
      by_cases hCounted : counted timeout x p = .ok true
      · have hHolds := holds_of_counted hCounted
        rw [testAll_cons_of_counted hCounted, ih,
          asked_cons_of_holds hHolds, spent_cons, started_cons]
        simp [failing?, hHolds]
      · have hHolds := not_holds_of_counted hCounted
        rw [testAll_cons_of_counted_ne hCounted,
          asked_cons_of_not_holds hHolds]
        simp [failing?, hHolds, spent, started]

/- No predicates hold at once. -/
example (x : Exchange) :
    always.test x = ⟨.ok true, 0, []⟩ := by
  rfl

end Conjunction

end Signpost
