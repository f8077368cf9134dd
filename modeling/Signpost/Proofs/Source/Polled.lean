import Mathlib.Data.List.Basic
import Signpost.Source.Polled

/-
  What a source that loads its definitions again and again
  serves, how often it loads, and which lines it leaves, told
  from what its loader gives.

  Main declarations:
    * `RouteLoader.latest?` and `RouteLoader.successes`
    * `PolledRoutes.Action` and `PolledRoutes.run`
    * `PolledRoutes.Serves`
    * `PolledRoutes.due` and `PolledRoutes.loads_run`
    * `PolledRoutes.begin_serves`
-/

namespace Signpost

------------------------------------------------------------
-- Loads
------------------------------------------------------------

namespace RouteLoader

variable {loader : RouteLoader}
variable {n : Nat}

/- A load does not fail. -/
def succeeds (loader : RouteLoader) (n : Nat) : Bool :=
  match loader n with
  | .ok _ => true
  | .error _ => false

/-
  The definitions of the last one of a number of loads that
  did not fail.
-/
def latest? (loader : RouteLoader) :
    Nat → Option (List RouteDefinition)
| 0 => none
| n + 1 =>
    match loader n with
    | .ok routes => some routes
    | .error _ => latest? loader n

/- The definitions that are served after a number of loads. -/
def served
    (loader : RouteLoader)
    (n : Nat) : List RouteDefinition :=
  (loader.latest? n).getD []

/- How many of a number of loads did not fail. -/
def successes (loader : RouteLoader) (n : Nat) : Nat :=
  (List.range n).countP loader.succeeds

/-
  The line about a load that fails, which names the number of
  definitions that are kept.
-/
def failure?
    (loader : RouteLoader)
    (n : Nat) : Option LogLine :=
  match loader n with
  | .ok _ => none
  | .error e =>
      some (PolledRoutes.failureLine (loader.served n).length e)

/- The lines that a number of loads leave. -/
def failures (loader : RouteLoader) (n : Nat) : List LogLine :=
  (List.range n).filterMap loader.failure?

/- After one load more, as that load says. -/
theorem latest?_succ_of_ok
    {routes : List RouteDefinition}
    (hLoad : loader n = .ok routes) :
    loader.latest? (n + 1) = some routes := by
  simp only [latest?, hLoad]

theorem latest?_succ_of_error
    {e : GatewayError}
    (hLoad : loader n = .error e) :
    loader.latest? (n + 1) = loader.latest? n := by
  simp only [latest?, hLoad]

theorem successes_succ
    (loader : RouteLoader)
    (n : Nat) :
    loader.successes (n + 1) =
      loader.successes n +
        if loader.succeeds n then 1 else 0 := by
  rw [successes, List.range_succ, List.countP_append,
    List.countP_singleton]
  rfl

theorem failures_succ
    (loader : RouteLoader)
    (n : Nat) :
    loader.failures (n + 1) =
      loader.failures n ++ (loader.failure? n).toList := by
  rw [failures, List.range_succ, List.filterMap_append]
  rfl

/-
  The definitions served are those of the last success.  The
  induction is on the number of loads, by what the newest one
  gave.
-/
theorem latest?_eq_some_iff
    {routes : List RouteDefinition} :
    loader.latest? n = some routes ↔
      ∃ k < n, loader k = .ok routes ∧
        ∀ m, k < m → m < n → loader.succeeds m = false := by
  induction n with
  | zero =>
      constructor
      · intro hNone
        cases hNone
      · rintro ⟨k, hk, -⟩
        exact absurd hk (Nat.not_lt_zero k)
  | succ n ih =>
      cases hLoad : loader n with
      | ok newest =>
          rw [latest?_succ_of_ok hLoad]
          constructor
          · rintro ⟨⟩
            refine ⟨n, Nat.lt_succ_self n, hLoad, ?_⟩
            intro m hn hm
            omega
          · rintro ⟨k, hk, hOk, hLater⟩
            rcases Nat.lt_succ_iff_lt_or_eq.mp hk with hk | rfl
            · have hFails := hLater n hk (Nat.lt_succ_self n)
              simp [succeeds, hLoad] at hFails
            · rw [hLoad] at hOk
              cases hOk
              rfl
      | error e =>
          rw [latest?_succ_of_error hLoad, ih]
          constructor
          · rintro ⟨k, hk, hOk, hLater⟩
            refine ⟨k, Nat.lt_succ_of_lt hk, hOk, ?_⟩
            intro m hkm hm
            rcases Nat.lt_succ_iff_lt_or_eq.mp hm with hm | rfl
            · exact hLater m hkm hm
            · simp [succeeds, hLoad]
          · rintro ⟨k, hk, hOk, hLater⟩
            rcases Nat.lt_succ_iff_lt_or_eq.mp hk with hk | rfl
            · refine ⟨k, hk, hOk, ?_⟩
              intro m hkm hm
              exact hLater m hkm (Nat.lt_succ_of_lt hm)
            · rw [hLoad] at hOk
              cases hOk

/- Without a success there is nothing to serve. -/
theorem latest?_eq_none
    (hFails : ∀ k < n, loader.succeeds k = false) :
    loader.latest? n = none := by
  cases hLatest : loader.latest? n with
  | none => rfl
  | some routes =>
      rcases latest?_eq_some_iff.mp hLatest with
        ⟨k, hk, hOk, -⟩
      have hFail := hFails k hk
      simp [succeeds, hOk] at hFail

end RouteLoader

------------------------------------------------------------
-- Runs
------------------------------------------------------------

namespace PolledRoutes

/- What can happen to a source after its start. -/
inductive Action where
| advance (ms : Nat)
| refresh
| stop
deriving DecidableEq, Repr

/- The source after an action, and the lines it leaves. -/
def perform
    (loader : RouteLoader)
    (p : PolledRoutes) : Action → PolledRoutes × List LogLine
| .advance ms => p.advance loader ms
| .refresh => ((p.refresh loader).1, (p.refresh loader).2.1)
| .stop => (p.stop, [])

/- The source after some actions, and the lines they leave. -/
def run
    (loader : RouteLoader) :
    PolledRoutes → List Action → PolledRoutes × List LogLine
| p, [] => (p, [])
| p, a :: as =>
    let first := p.perform loader a
    let rest := run loader first.1 as
    (rest.1, first.2 ++ rest.2)

/- Start a source, and let some actions happen to it. -/
def begin
    (loader : RouteLoader)
    (interval : Nat)
    (as : List Action) : PolledRoutes × List LogLine :=
  let first := start loader interval
  let rest := run loader first.1 as
  (rest.1, first.2 ++ rest.2)

/- The milliseconds that go by before the first stop. -/
def timeRunning : List Action → Nat
| [] => 0
| .advance ms :: as => ms + timeRunning as
| .refresh :: as => timeRunning as
| .stop :: _ => 0

/- How often a load is asked for. -/
def refreshes (as : List Action) : Nat :=
  as.count .refresh

variable {loader : RouteLoader}
variable {p : PolledRoutes}
variable {lines : List LogLine}

------------------------------------------------------------
-- What Is Served
------------------------------------------------------------

/-
  A source has published what its loads so far gave, and the
  lines are those of the loads that failed.
-/
structure Serves
    (loader : RouteLoader)
    (p : PolledRoutes)
    (lines : List LogLine) : Prop where
  listing :
    p.published.listing =
      ⟨loader.successes p.loads, loader.served p.loads⟩
  lines : lines = loader.failures p.loads

/- One load keeps it so. -/
theorem Serves.load
    (hServes : Serves loader p lines) :
    Serves loader (p.load loader).1
      (lines ++ (p.load loader).2.1) := by
  rcases hServes with ⟨hListing, rfl⟩
  cases hLoad : loader p.loads with
  | ok routes =>
      have hSucceeds : loader.succeeds p.loads = true := by
        simp [RouteLoader.succeeds, hLoad]
      simp only [PolledRoutes.load, hLoad]
      constructor
      · rw [RouteLoader.successes_succ, hSucceeds,
          RouteLoader.served,
          RouteLoader.latest?_succ_of_ok hLoad]
        simp only [PublishedRoutes.publish, hListing]
        rfl
      · rw [RouteLoader.failures_succ]
        simp [RouteLoader.failure?, hLoad]
  | error e =>
      have hFails : loader.succeeds p.loads = false := by
        simp [RouteLoader.succeeds, hLoad]
      simp only [PolledRoutes.load, hLoad]
      constructor
      · rw [RouteLoader.successes_succ, hFails,
          RouteLoader.served,
          RouteLoader.latest?_succ_of_error hLoad]
        exact hListing
      · rw [RouteLoader.failures_succ]
        simp [RouteLoader.failure?, hLoad,
          PublishedRoutes.current, hListing]

theorem Serves.loadTimes
    (hServes : Serves loader p lines)
    (n : Nat) :
    Serves loader (p.loadTimes loader n).1
      (lines ++ (p.loadTimes loader n).2) := by
  induction n generalizing p lines with
  | zero =>
      rw [PolledRoutes.loadTimes, List.append_nil]
      exact hServes
  | succ n ih =>
      have hRest := ih hServes.load
      rw [List.append_assoc] at hRest
      exact hRest

/- So does every action. -/
theorem Serves.perform
    (hServes : Serves loader p lines)
    (a : Action) :
    Serves loader (p.perform loader a).1
      (lines ++ (p.perform loader a).2) := by
  cases a with
  | advance ms =>
      simp only [PolledRoutes.perform, advance]
      split
      · have hWaited :
            Serves loader
              { p with
                waited := (p.waited + ms) % p.interval } lines :=
          ⟨hServes.listing, hServes.lines⟩
        exact hWaited.loadTimes _
      · rw [List.append_nil]
        exact hServes
  | refresh => exact hServes.load
  | stop =>
      simp only [PolledRoutes.perform, List.append_nil]
      exact ⟨hServes.listing, hServes.lines⟩

/- And every run. -/
theorem Serves.run
    (hServes : Serves loader p lines)
    (as : List Action) :
    Serves loader (p.run loader as).1
      (lines ++ (p.run loader as).2) := by
  induction as generalizing p lines with
  | nil =>
      rw [PolledRoutes.run, List.append_nil]
      exact hServes
  | cons a as ih =>
      have hRest := ih (hServes.perform a)
      rw [List.append_assoc] at hRest
      exact hRest

theorem serves_begin
    (loader : RouteLoader)
    (interval : Nat)
    (as : List Action) :
    Serves loader (begin loader interval as).1
      (begin loader interval as).2 := by
  have hNothing : Serves loader { interval } [] := ⟨rfl, rfl⟩
  exact hNothing.load.run as

------------------------------------------------------------
-- How Often Loads Happen
------------------------------------------------------------

/- A load is counted, and does not touch the clock. -/
theorem clock_load
    (loader : RouteLoader)
    (p : PolledRoutes) :
    (p.load loader).1.loads = p.loads + 1 ∧
      (p.load loader).1.interval = p.interval ∧
      (p.load loader).1.waited = p.waited ∧
      (p.load loader).1.running = p.running := by
  unfold load
  split <;> exact ⟨rfl, rfl, rfl, rfl⟩

theorem clock_loadTimes
    (loader : RouteLoader)
    (n : Nat)
    (p : PolledRoutes) :
    (p.loadTimes loader n).1.loads = p.loads + n ∧
      (p.loadTimes loader n).1.interval = p.interval ∧
      (p.loadTimes loader n).1.waited = p.waited ∧
      (p.loadTimes loader n).1.running = p.running := by
  induction n generalizing p with
  | zero => exact ⟨rfl, rfl, rfl, rfl⟩
  | succ n ih =>
      rcases ih (p.load loader).1 with
        ⟨hLoads, hInterval, hWaited, hRunning⟩
      rcases clock_load loader p with
        ⟨hLoads', hInterval', hWaited', hRunning'⟩
      refine
        ⟨?_, hInterval.trans hInterval', hWaited.trans hWaited',
          hRunning.trans hRunning'⟩
      rw [loadTimes, hLoads, hLoads', Nat.add_assoc,
        Nat.add_comm 1 n]

/- The loads that fall due in some time. -/
def due (p : PolledRoutes) (ms : Nat) : Nat :=
  if p.running then (p.waited + ms) / p.interval else 0

/- None falls due before the next interval ends. -/
theorem due_zero
    (hWaited : p.waited < p.interval) :
    p.due 0 = 0 := by
  unfold due
  split
  · exact Nat.div_eq_of_lt hWaited
  · rfl

/-
  Letting time go by loads what falls due, and what falls due
  later is what falls due in all the time together.
-/
theorem due_advance
    (loader : RouteLoader)
    (hWaited : p.waited < p.interval)
    (ms later : Nat) :
    let q := (p.advance loader ms).1
    q.waited < q.interval ∧
      q.loads + q.due later = p.loads + p.due (ms + later) := by
  intro q
  by_cases hRunning : p.running = true
  · rcases
        clock_loadTimes loader
          ((p.waited + ms) / p.interval)
          { p with waited := (p.waited + ms) % p.interval } with
      ⟨hLoads, hInterval, hLeft, hStill⟩
    have hPositive : 0 < p.interval := by omega
    have hSplit := Nat.div_add_mod (p.waited + ms) p.interval
    have hSum :
        p.waited + (ms + later) =
          p.interval * ((p.waited + ms) / p.interval) +
            ((p.waited + ms) % p.interval + later) := by
      omega
    simp only [q, advance, due, if_pos hRunning, hLoads,
      hInterval, hLeft, hStill]
    refine ⟨Nat.mod_lt _ hPositive, ?_⟩
    rw [hSum, Nat.mul_add_div hPositive, Nat.add_assoc]
  · simp only [q, advance, due, if_neg hRunning]
    exact ⟨hWaited, trivial⟩

/- Loading at will does not move the other loads. -/
theorem due_refresh
    (loader : RouteLoader)
    (hWaited : p.waited < p.interval)
    (later : Nat) :
    let q := (p.refresh loader).1
    q.waited < q.interval ∧
      q.loads + q.due later = p.loads + p.due later + 1 := by
  rcases clock_load loader p with
    ⟨hLoads, hInterval, hLeft, hRunning⟩
  simp only [refresh, due, hLoads, hInterval, hLeft, hRunning]
  exact ⟨hWaited, Nat.add_right_comm _ _ _⟩

/-
  After a run a source has loaded once for each interval that
  ended before it was stopped, and once for each time that
  this was asked for.
-/
theorem loads_run
    (loader : RouteLoader)
    (as : List Action)
    (hWaited : p.waited < p.interval) :
    (p.run loader as).1.loads =
      p.loads + p.due (timeRunning as) + refreshes as := by
  induction as generalizing p with
  | nil =>
      rw [timeRunning, due_zero hWaited]
      rfl
  | cons a as ih =>
      cases a with
      | advance ms =>
          rcases
              due_advance loader hWaited ms (timeRunning as) with
            ⟨hNext, hDue⟩
          have hRest := ih hNext
          rw [hDue] at hRest
          exact hRest
      | refresh =>
          rcases due_refresh loader hWaited (timeRunning as) with
            ⟨hNext, hDue⟩
          have hRest := ih hNext
          rw [hDue] at hRest
          rw [refreshes, List.count_cons_self,
            ← Nat.add_assoc, Nat.add_right_comm]
          exact hRest
      | stop =>
          have hRest := ih (p := p.stop) hWaited
          rw [timeRunning, due_zero hWaited]
          exact hRest

/- A stopped source stays stopped. -/
theorem running_run
    (loader : RouteLoader)
    (as : List Action)
    (hStopped : p.running = false ∨ .stop ∈ as) :
    (p.run loader as).1.running = false := by
  induction as generalizing p with
  | nil => exact hStopped.resolve_right List.not_mem_nil
  | cons a as ih =>
      apply ih (p := (p.perform loader a).1)
      cases a with
      | advance ms =>
          refine hStopped.imp ?_ fun hMem => by simpa using hMem
          intro hRunning
          simp only [perform, advance, hRunning,
            Bool.false_eq_true, if_false]
      | refresh =>
          refine hStopped.imp ?_ fun hMem => by simpa using hMem
          intro hRunning
          exact (clock_load loader p).2.2.2.trans hRunning
      | stop => exact Or.inl rfl

------------------------------------------------------------
-- Loading at Will
------------------------------------------------------------

/- The answer says whether this very load went well. -/
theorem answer_refresh
    (loader : RouteLoader)
    (p : PolledRoutes) :
    (p.refresh loader).2.2 = loader.succeeds p.loads := by
  cases hLoad : loader p.loads <;>
    simp [refresh, load, RouteLoader.succeeds, hLoad]

/-
  After any run of a source it serves what the last load that
  did not fail gave, or nothing if all of them failed.  Every
  success makes a listing of its own, which failures leave as
  it is, and each failure leaves one error that names the
  number of definitions that are kept.  It has loaded once at
  the start, once for each interval that ended before it was
  stopped, and once for each refresh, and no time that goes
  by after a stop changes anything.  A refresh loads once, and
  its answer is whether this load did not fail.
-/
theorem begin_serves
    (loader : RouteLoader)
    {interval : Nat}
    (hInterval : 0 < interval)
    (as : List Action) :
    let p := (begin loader interval as).1
    let lines := (begin loader interval as).2
    (∀ k < p.loads, ∀ routes, loader k = .ok routes →
        (∀ m, k < m → m < p.loads → loader.succeeds m = false) →
          p.current = routes) ∧
      ((∀ k < p.loads, loader.succeeds k = false) →
        p.current = []) ∧
      p.published.listing.version = loader.successes p.loads ∧
      lines = loader.failures p.loads ∧
      (∀ line ∈ lines, line.severity = .error) ∧
      p.loads = 1 + timeRunning as / interval + refreshes as ∧
      (.stop ∈ as → ∀ ms, p.advance loader ms = (p, [])) ∧
      (p.refresh loader).1.loads = p.loads + 1 ∧
      (p.refresh loader).2.2 = loader.succeeds p.loads ∧
      ∀ e, loader p.loads = .error e →
        (p.refresh loader).1.published = p.published ∧
          (p.refresh loader).2.1 =
            [failureLine p.current.length e] := by
  intro p lines
  rcases serves_begin loader interval as with ⟨hListing, hLines⟩
  rcases clock_load loader { interval } with
    ⟨hLoads, hInterval', hWaited, hRunning⟩
  have hCurrent : p.current = loader.served p.loads :=
    congrArg Listing.routes hListing
  refine
    ⟨?_, ?_, congrArg Listing.version hListing, hLines, ?_, ?_,
      ?_, (clock_load loader p).1, answer_refresh loader p, ?_⟩
  · intro k hk routes hOk hLater
    rw [hCurrent, RouteLoader.served,
      RouteLoader.latest?_eq_some_iff.mpr ⟨k, hk, hOk, hLater⟩]
    rfl
  · intro hFails
    rw [hCurrent, RouteLoader.served,
      RouteLoader.latest?_eq_none hFails]
    rfl
  · intro line hLine
    have hLine : line ∈ loader.failures p.loads :=
      hLines ▸ hLine
    rcases List.mem_filterMap.mp hLine with ⟨k, -, hFailure⟩
    unfold RouteLoader.failure? at hFailure
    split at hFailure
    · cases hFailure
    · cases hFailure
      rfl
  · have hRun :=
      loads_run loader as
        (p := (start loader interval).1)
        (by rw [start, hWaited, hInterval']; exact hInterval)
    rw [due, start, hRunning, if_pos rfl, hLoads, hWaited,
      hInterval', Nat.zero_add, Nat.zero_add] at hRun
    exact hRun
  · intro hStop ms
    have hStopped : p.running = false :=
      running_run loader as (Or.inr hStop)
    rw [advance, if_neg (by simp [hStopped])]
  · intro e hError
    simp only [refresh, load, hError]
    exact ⟨trivial, rfl⟩

/- A loader whose second load fails. -/
def flakyLoader : RouteLoader
| 0 => .ok [{ id := "a", uri := "lb://svc" }]
| 1 =>
    .error
      { code := .internalError, message := "store unavailable" }
| _ =>
    .ok
      [{ id := "a", uri := "lb://svc" },
        { id := "b", uri := "lb://svc" }]

/- The first routes are kept until the third load. -/
theorem begin_serves_flaky :
    let as : List Action :=
      [.advance 5100, .advance 5000, .stop, .advance 60000,
        .refresh]
    let p := (begin flakyLoader 5000 as).1
    0 < 5000 ∧ p.loads = 4 ∧
      p.current.map RouteDefinition.id = ["a", "b"] ∧
      p.published.listing.version = 3 ∧
      (begin flakyLoader 5000 as).2 =
        [failureLine 1
          { code := .internalError
            message := "store unavailable" }] := by
  intro as p
  have hInterval : 0 < 5000 := by decide
  rcases begin_serves flakyLoader hInterval as with
    ⟨hCurrent, -, hVersion, hLines, -, hLoads, -⟩
  have hFour : p.loads = 4 := hLoads.trans (by decide)
  refine ⟨hInterval, hFour, ?_, ?_, ?_⟩
  · have hLast :=
      hCurrent 3 (by rw [hFour]; decide) _ rfl
        (by
          intro m hThree hBefore
          rw [hFour] at hBefore
          omega)
    rw [hLast]
    rfl
  · rw [hVersion, hFour]
    rfl
  · rw [hLines, hFour]
    rfl

end PolledRoutes

end Signpost
