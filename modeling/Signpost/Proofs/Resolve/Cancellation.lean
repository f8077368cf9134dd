import Signpost.Proofs.Resolve.Laziness
import Signpost.Proofs.Resolve.SharedCache

/-
  What a request that is cancelled at some time comes to,
  told from the same request without a cancellation.

  Main declarations:
    * `Conjunction.started_le_elapsed`
    * `time_visit`
    * `walk_of_finish_le` and `walk_of_lt_finish`
    * `Resolver.firstUnless_never`
    * `ResolverGroup.Call` and `ResolverGroup.runCalls`
    * `ResolverGroup.InStep.runCalls`
    * `ResolverGroup.firstUnless_in_time`
-/

namespace Signpost

open RouteCache (Carries Coherent)

variable {compile :
  RouteDefinition → Except CompilationError Route}
variable {c : RouteCache}
variable {d : RouteDefinition}
variable {x : Exchange}

------------------------------------------------------------
-- Effects up to a Time
------------------------------------------------------------

namespace Trace

@[simp] theorem upTo_append
    (limit : Nat)
    (s t : Trace) :
    (s ++ t).upTo limit = s.upTo limit ++ t.upTo limit :=
  List.filter_append s t

/- Effects that are early enough are all there. -/
theorem upTo_eq_self
    {limit : Nat}
    {t : Trace}
    (hEarly : ∀ e ∈ t, e.1 ≤ limit) :
    t.upTo limit = t := by
  apply List.filter_eq_self.mpr
  intro e hMember
  exact decide_eq_true (hEarly e hMember)

/- Effects that are too late are not there. -/
theorem upTo_eq_nil
    {limit : Nat}
    {t : Trace}
    (hLate : ∀ e ∈ t, limit < e.1) :
    t.upTo limit = [] := by
  apply List.filter_eq_nil_iff.mpr
  intro e hMember
  have hTime := hLate e hMember
  simpa using hTime

theorem le_of_mem_upTo
    {limit : Nat}
    {t : Trace}
    {e : Nat × Effect}
    (hMember : e ∈ t.upTo limit) :
    e.1 ≤ limit :=
  of_decide_eq_true (List.mem_filter.mp hMember).2

end Trace

------------------------------------------------------------
-- The Times of Visits and Walks
------------------------------------------------------------

/- All predicates are started before a test has ended. -/
theorem Conjunction.started_le_elapsed
    (timeout : Option Duration)
    (x : Exchange)
    (ps : List Predicate) :
    ∀ s ∈ (testAll timeout x ps).started,
      s.1 ≤ (testAll timeout x ps).elapsed := by
  induction ps with
  | nil => simp [testAll]
  | cons p ps ih =>
      intro s hMember
      rw [testAll] at hMember ⊢
      cases hOutcome :
          ((p.evaluate x).within p.name timeout).outcome with
      | error r =>
          simp only [hOutcome, List.mem_singleton] at hMember
          simp [hMember]
      | ok holds =>
          cases holds with
          | false =>
              simp only [hOutcome, List.mem_singleton]
                at hMember
              simp [hMember]
          | true =>
              simp only [hOutcome, Trial.after] at hMember ⊢
              rcases List.mem_cons.mp hMember with
                rfl | hLater
              · exact Nat.zero_le _
              · rcases List.mem_map.mp hLater with ⟨t, ht, rfl⟩
                exact Nat.add_le_add_left (ih t ht) _

/- A compilation takes no time. -/
theorem Visit.time_compilation
    {now : Nat}
    {e : Nat × Effect}
    (hEffect : e ∈ Visit.compilation c now d) :
    e.1 = now := by
  unfold Visit.compilation at hEffect
  split at hEffect
  · cases hEffect
  · rw [List.mem_singleton.mp hEffect]

/- Testing has its effects from its start to its end. -/
theorem Visit.time_testing
    {now : Nat}
    {id : String}
    {t : Trial}
    (hStarted : ∀ s ∈ t.started, s.1 ≤ t.elapsed)
    {e : Nat × Effect}
    (hEffect : e ∈ Visit.testing now id t) :
    now ≤ e.1 ∧ e.1 ≤ now + t.elapsed := by
  have hStarts :
      ∀ e ∈ t.started.map
          (fun s => (now + s.1, Effect.started s.2)),
        now ≤ e.1 ∧ e.1 ≤ now + t.elapsed := by
    intro e hMember
    rcases List.mem_map.mp hMember with ⟨s, hs, rfl⟩
    exact
      ⟨Nat.le_add_right now s.1,
        Nat.add_le_add_left (hStarted s hs) now⟩
  unfold Visit.testing at hEffect
  cases hVerdict : t.verdict with
  | ok holds =>
      rw [hVerdict] at hEffect
      exact hStarts e hEffect
  | error r =>
      rw [hVerdict] at hEffect
      rcases List.mem_append.mp hEffect with hStart | hLine
      · exact hStarts e hStart
      · rw [List.mem_singleton.mp hLine]
        exact ⟨Nat.le_add_right now _, Nat.le_refl _⟩

/- A visit does not end before it begins. -/
theorem le_finish_visit
    (now : Nat) :
    now ≤ (visit compile x now c d).finish := by
  unfold visit
  split
  · exact Nat.le_refl now
  · exact Nat.le_add_right now _

/- A visit has its effects from its start to its end. -/
theorem time_visit
    {now : Nat}
    {e : Nat × Effect}
    (hEffect : e ∈ (visit compile x now c d).trace) :
    now ≤ e.1 ∧ e.1 ≤ (visit compile x now c d).finish := by
  unfold visit at hEffect ⊢
  cases hFetch : c.fetch compile d with
  | mk after result =>
      cases result with
      | error r =>
          simp only [hFetch] at hEffect ⊢
          rcases List.mem_append.mp hEffect with hFirst | hLine
          · have hTime := Visit.time_compilation hFirst
            omega
          · rw [List.mem_singleton.mp hLine]
            exact ⟨Nat.le_refl now, Nat.le_refl now⟩
      | ok r =>
          simp only [hFetch] at hEffect ⊢
          rcases List.mem_append.mp hEffect with hFirst | hTest
          · have hTime := Visit.time_compilation hFirst
            omega
          · exact
              Visit.time_testing
                (Conjunction.started_le_elapsed _ x _) hTest

/- A walk has no effects before it begins. -/
theorem le_time_walk
    {ds : List RouteDefinition}
    {wanted now : Nat}
    {e : Nat × Effect}
    (hEffect :
      e ∈ (walk compile x none ds wanted now c).trace) :
    now ≤ e.1 := by
  induction ds generalizing wanted now c with
  | nil => cases hEffect
  | cons d ds ih =>
      cases wanted with
      | zero => cases hEffect
      | succ wanted =>
          rw [walk_cons] at hEffect
          rcases List.mem_append.mp hEffect with hHere | hLater
          · exact (time_visit hHere).1
          · exact
              Nat.le_trans (le_finish_visit now) (ih hLater)

/- Neither does it end then. -/
theorem le_finish_walk
    {ds : List RouteDefinition}
    {wanted now t : Nat}
    (hFinish :
      (walk compile x none ds wanted now c).finish = some t) :
    now ≤ t := by
  induction ds generalizing wanted now c with
  | nil => exact Nat.le_of_eq (Option.some.inj hFinish)
  | cons d ds ih =>
      cases wanted with
      | zero => exact Nat.le_of_eq (Option.some.inj hFinish)
      | succ wanted =>
          rw [walk_cons] at hFinish
          exact
            Nat.le_trans (le_finish_visit now) (ih hFinish)

------------------------------------------------------------
-- Walks With a Deadline
------------------------------------------------------------

/- A deadline does not change a visit that ends in time. -/
theorem walk_cons_of_le
    {limit now : Nat}
    (hInTime : (visit compile x now c d).finish ≤ limit)
    (ds : List RouteDefinition)
    (wanted : Nat) :
    walk compile x (some limit) (d :: ds) (wanted + 1) now c =
      (walk compile x (some limit) ds
        (if (visit compile x now c d).found.isSome then wanted
          else wanted + 1)
        (visit compile x now c d).finish
        (visit compile x now c d).cache).after
        (visit compile x now c d) := by
  have hPassed :
      passed? (some limit) (visit compile x now c d).finish =
        none := by
    simpa [passed?] using hInTime
  simp only [walk, hPassed]

/- But it cuts off a visit that does not. -/
theorem walk_cons_of_lt
    {limit now : Nat}
    (hLate : limit < (visit compile x now c d).finish)
    (ds : List RouteDefinition)
    (wanted : Nat) :
    walk compile x (some limit) (d :: ds) (wanted + 1) now c =
      .cut limit (visit compile x now c d) := by
  have hPassed :
      passed? (some limit) (visit compile x now c d).finish =
        some limit := by
    simpa [passed?] using hLate
  simp only [walk, hPassed]

/- A walk that ends in time comes to the same with a deadline. -/
theorem walk_of_finish_le
    {limit t : Nat}
    (hInTime : t ≤ limit)
    {ds : List RouteDefinition}
    {wanted now : Nat}
    (hFinish :
      (walk compile x none ds wanted now c).finish = some t) :
    walk compile x (some limit) ds wanted now c =
      walk compile x none ds wanted now c := by
  induction ds generalizing wanted now c with
  | nil => rfl
  | cons d ds ih =>
      cases wanted with
      | zero => rfl
      | succ wanted =>
          rw [walk_cons] at hFinish
          have hVisit :
              (visit compile x now c d).finish ≤ limit :=
            Nat.le_trans (le_finish_walk hFinish) hInTime
          rw [walk_cons, walk_cons_of_le hVisit, ih hFinish]

/-
  A walk that would end after the deadline does not end.  It
  has the effects that it would have had up to the deadline.
-/
theorem walk_of_lt_finish
    {limit t : Nat}
    (hLate : limit < t)
    {ds : List RouteDefinition}
    {wanted now : Nat}
    (hNow : now ≤ limit)
    (hFinish :
      (walk compile x none ds wanted now c).finish = some t) :
    (walk compile x (some limit) ds wanted now c).finish =
        none ∧
      (walk compile x (some limit) ds wanted now c).trace =
        (walk compile x none ds wanted now c).trace.upTo
          limit := by
  induction ds generalizing wanted now c with
  | nil =>
      have hEnd := Option.some.inj hFinish
      omega
  | cons d ds ih =>
      cases wanted with
      | zero =>
          have hEnd := Option.some.inj hFinish
          omega
      | succ wanted =>
          rw [walk_cons] at hFinish
          rw [walk_cons]
          rcases Nat.lt_or_ge limit
              (visit compile x now c d).finish with
            hCut | hInTime
          · -- What would have followed is too late.
            have hNothing :
                Trace.upTo limit
                    (walk compile x none ds
                      (if (visit compile x now c d).found.isSome
                        then wanted else wanted + 1)
                      (visit compile x now c d).finish
                      (visit compile x now c d).cache).trace =
                  [] := by
              apply Trace.upTo_eq_nil
              intro e hEffect
              exact Nat.lt_of_lt_of_le hCut (le_time_walk hEffect)
            rw [walk_cons_of_lt hCut]
            refine ⟨rfl, ?_⟩
            rw [Walk.after, Trace.upTo_append, hNothing,
              List.append_nil, Walk.cut]
          · obtain ⟨hNone, hTrace⟩ := ih hInTime hFinish
            have hAll :
                Trace.upTo limit
                    (visit compile x now c d).trace =
                  (visit compile x now c d).trace := by
              apply Trace.upTo_eq_self
              intro e hEffect
              exact Nat.le_trans (time_visit hEffect).2 hInTime
            rw [walk_cons_of_le hInTime]
            refine ⟨hNone, ?_⟩
            rw [Walk.after, Walk.after, Trace.upTo_append, hAll,
              hTrace]

------------------------------------------------------------
-- Resolutions With a Deadline
------------------------------------------------------------

namespace Resolver

variable {r : Resolver}
variable {s : ResolverState}
variable {wanted : Option Nat}
variable {limit t : Nat}

/- A deadline does not change a resolution that ends in time. -/
theorem resolve_of_finish_le
    (hInTime : t ≤ limit)
    (hFinish : (r.resolve x none wanted s).finish = some t) :
    r.resolve x (some limit) wanted s =
      r.resolve x none wanted s := by
  by_cases hWanted : wanted = some 0
  · simp [resolve, hWanted]
  · cases hList : r.source.list x with
    | error e =>
        rw [resolve_of_error hWanted hList,
          resolve_of_error hWanted hList]
    | ok l =>
        rw [resolve_of_ok hWanted hList] at hFinish
        rw [resolve_of_ok hWanted hList,
          resolve_of_ok hWanted hList]
        simp only [resolveListing,
          walk_of_finish_le hInTime hFinish]

/-
  A resolution that would end after the deadline does not
  end, and has no effects from then on.
-/
theorem resolve_of_lt_finish
    (hLate : limit < t)
    (hFinish : (r.resolve x none wanted s).finish = some t) :
    (r.resolve x (some limit) wanted s).finish = none ∧
      (r.resolve x (some limit) wanted s).trace =
        (r.resolve x none wanted s).trace.upTo limit := by
  by_cases hWanted : wanted = some 0
  · rw [resolve, if_pos hWanted] at hFinish
    have hEnd := Option.some.inj hFinish
    omega
  · cases hList : r.source.list x with
    | error e =>
        rw [resolve_of_error hWanted hList] at hFinish
        have hEnd := Option.some.inj hFinish
        omega
    | ok l =>
        rw [resolve_of_ok hWanted hList] at hFinish
        rw [resolve_of_ok hWanted hList,
          resolve_of_ok hWanted hList]
        obtain ⟨hNone, hTrace⟩ :=
          walk_of_lt_finish hLate (Nat.zero_le limit) hFinish
        have hOpening :
            Trace.upTo limit (opening l) = opening l := by
          apply Trace.upTo_eq_self
          intro e hEffect
          rcases List.mem_cons.mp hEffect with rfl | hLine
          · exact Nat.zero_le limit
          · rcases List.mem_map.mp hLine with ⟨line, -, rfl⟩
            exact Nat.zero_le limit
        refine ⟨hNone, ?_⟩
        calc (r.resolveListing x (some limit) _ l s).trace
            = opening l ++ _ := rfl
          _ = opening l ++ Trace.upTo limit _ := by rw [hTrace]
          _ = Trace.upTo limit (opening l ++ _) := by
              rw [Trace.upTo_append, hOpening]

/- An answer is given if the resolution has ended. -/
theorem answer_of_finish
    {n : Resolution}
    (hFinish : n.finish.isSome = true) :
    answer x n = .ok n.found.head? := by
  unfold answer
  cases hEnd : n.finish with
  | some t => rfl
  | none => simp [hEnd] at hFinish

/- Without a cancellation there is always an answer. -/
theorem firstUnless_never
    (r : Resolver)
    (x : Exchange)
    (s : ResolverState) :
    r.firstUnless x .never s =
      (r.first x s, .ok (r.first x s).found.head?) := by
  have hAnswer :
      answer x (r.first x s) =
        .ok (r.first x s).found.head? :=
    answer_of_finish (r.finish_resolve x (some 1) s)
  rw [← hAnswer]
  rfl

/- So there is if the cancellation comes too late. -/
theorem firstUnless_of_finish_le
    (hInTime : t ≤ limit)
    (hFinish : (r.first x s).finish = some t) :
    r.firstUnless x (.after limit) s =
      (r.first x s, .ok (r.first x s).found.head?) := by
  have hResolve :
      r.resolve x (some limit) (some 1) s = r.first x s :=
    resolve_of_finish_le hInTime hFinish
  have hAnswer :
      answer x (r.first x s) =
        .ok (r.first x s).found.head? :=
    answer_of_finish (r.finish_resolve x (some 1) s)
  rw [← hAnswer, ← hResolve]
  rfl

/- There is none if it comes before the end. -/
theorem firstUnless_of_lt_finish
    (hLate : limit < t)
    (hFinish : (r.first x s).finish = some t) :
    (r.firstUnless x (.after limit) s).2 =
        .error (cancelled x) ∧
      (r.firstUnless x (.after limit) s).1.trace =
        (r.first x s).trace.upTo limit := by
  obtain ⟨hNone, hTrace⟩ := resolve_of_lt_finish hLate hFinish
  refine ⟨?_, hTrace⟩
  show answer x (r.resolve x (some limit) (some 1) s) = _
  rw [answer, hNone]

/- A request keeps the cache coherent, cancelled or not. -/
theorem coherent_firstUnless
    (hCarries : Carries r.compile)
    (x : Exchange)
    (cancel : Cancellation)
    (hCoherent : Coherent r.compile s.cache) :
    Coherent r.compile
      (r.firstUnless x cancel s).1.state.cache := by
  cases cancel with
  | before => exact hCoherent
  | never =>
      exact coherent_resolve hCarries x none (some 1) hCoherent
  | after limit =>
      exact
        coherent_resolve hCarries x (some limit) (some 1)
          hCoherent

/- A request is answered by what a definition compiles to. -/
theorem compile_of_firstUnless
    {cancel : Cancellation}
    {found : CompiledRoute}
    (hCoherent : Coherent r.compile s.cache)
    (hFound :
      (r.firstUnless x cancel s).2 = .ok (some found)) :
    ∃ d, r.compile d = .ok found.route := by
  have hResolved :
      ∀ deadline,
        answer x (r.resolve x deadline (some 1) s) =
            .ok (some found) →
          ∃ d, r.compile d = .ok found.route := by
    intro deadline hAnswer
    unfold answer at hAnswer
    split at hAnswer
    · have hHead := Except.ok.inj hAnswer
      have hMember :
          found.route ∈
            (r.resolve x deadline (some 1)
              s).observation.found :=
        List.mem_map_of_mem (List.mem_of_head? hHead)
      rw [observation_of_coherent x deadline _ hCoherent]
        at hMember
      rcases compile_of_mem_observe hMember with
        ⟨-, -, d, -, hCompile⟩
      exact ⟨d, hCompile⟩
    · cases hAnswer
  cases cancel with
  | before => cases hFound
  | never => exact hResolved none hFound
  | after limit => exact hResolved (some limit) hFound

/- What can be observed of a request and its answer. -/
def observedAnswer
    (a :
      Resolution × Except GatewayError (Option CompiledRoute)) :
    Observation × Except GatewayError (Option Route) :=
  (a.1.observation, a.2.map (Option.map CompiledRoute.route))

/- An answer shows no more than its resolution does. -/
theorem observedAnswer_answer
    (x : Exchange)
    (n : Resolution) :
    observedAnswer (n, answer x n) =
      (n.observation,
        match n.observation.finish with
        | some _ => .ok n.observation.found.head?
        | none => .error (cancelled x)) := by
  unfold observedAnswer answer
  congr 1
  show _ = match n.finish with | some _ => _ | none => _
  cases n.finish with
  | none => rfl
  | some t =>
      simp [Except.map, Resolution.observation,
        List.head?_map]

/- With coherent caches answers look the same. -/
theorem observedAnswer_of_coherent
    (x : Exchange)
    (cancel : Cancellation)
    (s s' : ResolverState)
    (hCoherent : Coherent r.compile s.cache)
    (hCoherent' : Coherent r.compile s'.cache) :
    observedAnswer (r.firstUnless x cancel s) =
      observedAnswer (r.firstUnless x cancel s') := by
  have hSame :
      ∀ deadline,
        (r.resolve x deadline (some 1) s).observation =
          (r.resolve x deadline (some 1) s').observation := by
    intro deadline
    rw [observation_of_coherent x deadline _ hCoherent,
      observation_of_coherent x deadline _ hCoherent']
  cases cancel with
  | before => rfl
  | never =>
      simp only [firstUnless, observedAnswer_answer, hSame]
  | after limit =>
      simp only [firstUnless, observedAnswer_answer, hSame]

end Resolver

------------------------------------------------------------
-- Runs With Cancelled Requests
------------------------------------------------------------

namespace ResolverGroup

/-
  What can happen to a group when requests may be cancelled:
  an action, or a request to a member for the first route
  that is cancelled or not.
-/
inductive Call where
| action (a : Action)
| firstUnless (member : Nat) (x : Exchange) (c : Cancellation)

/- The group after a call. -/
def call (g : ResolverGroup) : Call → ResolverGroup
| .action a => g.perform a
| .firstUnless i x c => (g.firstUnless i x c).1

/- The group after some calls. -/
def runCalls
    (g : ResolverGroup)
    (calls : List Call) : ResolverGroup :=
  calls.foldl call g

/- The sources of the members after a call. -/
def Call.sources
    (sources : List RouteSource) : Call → List RouteSource
| .action a => a.sources sources
| .firstUnless _ _ _ => sources

variable {sources : List RouteSource}
variable {g g' : ResolverGroup}

/- A request keeps a group in step, cancelled or not. -/
theorem InStep.firstUnless
    (hCarries : Carries compile)
    (hStep : InStep compile sources g)
    (i : Nat)
    (x : Exchange)
    (cancel : Cancellation) :
    InStep compile sources (g.firstUnless i x cancel).1 := by
  unfold ResolverGroup.firstUnless
  cases hMember : g.members[i]? with
  | none => exact hStep
  | some m =>
      apply hStep.remember hMember
      rcases hStep with ⟨rfl, -, hCoherent⟩
      exact
        Resolver.coherent_firstUnless
          (r := g.resolver m) (s := g.state m)
          hCarries x cancel hCoherent

/- So does every call. -/
theorem InStep.call
    (hCarries : Carries compile)
    (hStep : InStep compile sources g)
    (c : Call) :
    InStep compile (c.sources sources) (g.call c) := by
  cases c with
  | action a => exact hStep.perform hCarries a
  | firstUnless i x cancel =>
      exact hStep.firstUnless hCarries i x cancel

/- And every run of calls. -/
theorem InStep.runCalls
    (hCarries : Carries compile)
    (hStep : InStep compile sources g)
    (calls : List Call) :
    InStep compile (calls.foldl Call.sources sources)
      (g.runCalls calls) := by
  induction calls generalizing sources g with
  | nil => exact hStep
  | cons c calls ih => exact ih (hStep.call hCarries c)

/- Groups in step with the same sources find the same. -/
theorem InStep.resolve_eq
    (hStep : InStep compile sources g)
    (hStep' : InStep compile sources g')
    (i : Nat)
    (x : Exchange)
    (wanted : Option Nat) :
    (g.resolve i x wanted).2.map Resolution.observation =
      (g'.resolve i x wanted).2.map
        Resolution.observation := by
  cases hSource : sources[i]? with
  | none =>
      have hMember := hSource
      have hMember' := hSource
      rw [hStep.source_eq, Option.map_eq_none_iff] at hMember
      rw [hStep'.source_eq, Option.map_eq_none_iff]
        at hMember'
      simp [ResolverGroup.resolve, hMember, hMember']
  | some source =>
      rcases hStep.observation_resolve hSource x wanted with
        ⟨n, hAnswer, hObserved⟩
      rcases hStep'.observation_resolve hSource x wanted with
        ⟨n', hAnswer', hObserved'⟩
      rw [hAnswer, hAnswer', Option.map_some, Option.map_some,
        hObserved, hObserved']

/- And they give the same answers. -/
theorem InStep.firstUnless_eq
    (hStep : InStep compile sources g)
    (hStep' : InStep compile sources g')
    (i : Nat)
    (x : Exchange)
    (cancel : Cancellation) :
    (g.firstUnless i x cancel).2.map Resolver.observedAnswer =
      (g'.firstUnless i x cancel).2.map
        Resolver.observedAnswer := by
  have hSource := hStep.source_eq i
  rw [hStep'.source_eq i] at hSource
  rcases hStep with ⟨rfl, -, hCoherent⟩
  rcases hStep' with ⟨hCompile, -, hCoherent'⟩
  unfold ResolverGroup.firstUnless
  cases hMember : g.members[i]? with
  | none =>
      rw [hMember, Option.map_none, Option.map_eq_none_iff]
        at hSource
      simp [hSource]
  | some m =>
      rw [hMember, Option.map_some, Option.map_eq_some_iff]
        at hSource
      rcases hSource with ⟨m', hMember', hSame⟩
      have hResolver : g'.resolver m' = g.resolver m := by
        simp only [resolver, hSame, hCompile]
      rw [hMember']
      simp only [Option.map_some, hResolver]
      congr 1
      exact
        Resolver.observedAnswer_of_coherent
          (r := g.resolver m) x cancel (g.state m)
          (g'.state m') hCoherent hCoherent'

/-
  Let a request for the first route end at some time.  If it
  is cancelled before that time it gets an error, and its
  effects are those that it would have had until then.  If
  it is cancelled later, or not at all, this makes no
  difference.  If it is cancelled beforehand it has no
  effects.  After any run that request, cancelled or not,
  makes no difference to what later ones find and answer.
-/
theorem firstUnless_in_time
    (hCarries : Carries compile)
    (x : Exchange) :
    (∀ (source : RouteSource) (s : ResolverState),
      let r : Resolver := { source, compile }
      let plain := r.first x s
      (∃ t, plain.finish = some t ∧
        ∀ limit,
          let n := r.firstUnless x (.after limit) s
          (limit < t →
              n.2 = .error (Resolver.cancelled x) ∧
                n.1.trace = plain.trace.upTo limit ∧
                ∀ e ∈ n.1.trace, e.1 ≤ limit) ∧
            (t < limit → n = (plain, .ok plain.found.head?))) ∧
        r.firstUnless x .never s =
            (plain, .ok plain.found.head?) ∧
        (r.firstUnless x .before s).2 =
            .error (Resolver.cancelled x) ∧
        (r.firstUnless x .before s).1.trace = [] ∧
        (r.firstUnless x .before s).1.state = s) ∧
      (Resolver.cancelled x).code = .resolveCancelled ∧
      ∀ (sources : List RouteSource) (before after : List Call)
          (i : Nat) (cancel : Cancellation),
        let g := (ofSources compile sources).runCalls before
        let without := g.runCalls after
        let later := (g.firstUnless i x cancel).1.runCalls after
        ∀ (j : Nat) (y : Exchange),
          (∀ wanted,
            (later.resolve j y wanted).2.map
                Resolution.observation =
              (without.resolve j y wanted).2.map
                Resolution.observation) ∧
            ∀ cancel',
              (later.firstUnless j y cancel').2.map
                  Resolver.observedAnswer =
                (without.firstUnless j y cancel').2.map
                  Resolver.observedAnswer := by
  refine ⟨?_, rfl, ?_⟩
  · intro source s r plain
    rcases Option.isSome_iff_exists.mp
        (r.finish_resolve x (some 1) s) with
      ⟨t, hFinish⟩
    refine
      ⟨⟨t, hFinish, ?_⟩, r.firstUnless_never x s, rfl, rfl,
        rfl⟩
    intro limit n
    refine ⟨?_, ?_⟩
    · intro hLate
      rcases Resolver.firstUnless_of_lt_finish hLate hFinish
        with ⟨hError, hTrace⟩
      refine ⟨hError, hTrace, ?_⟩
      intro e hEffect
      rw [hTrace] at hEffect
      exact Trace.le_of_mem_upTo hEffect
    · intro hInTime
      exact
        Resolver.firstUnless_of_finish_le
          (Nat.le_of_lt hInTime) hFinish
  · intro sources before after i cancel g without later j y
    have hBefore :
        InStep compile (before.foldl Call.sources sources) g :=
      (inStep_ofSources compile sources).runCalls hCarries
        before
    have hWithout := hBefore.runCalls hCarries after
    have hLater :=
      (hBefore.firstUnless hCarries i x cancel).runCalls
        hCarries after
    exact
      ⟨hLater.resolve_eq hWithout j y,
        hLater.firstUnless_eq hWithout j y⟩

/- A compiler of routes that take their time to accept. -/
def slowCompiler
    (d : RouteDefinition) : Except CompilationError Route :=
  .ok
    { definition := d
      predicate :=
        { predicates :=
            [⟨"Slow", fun _ => ⟨⟨20⟩, .ok true⟩⟩] }
      filters := .ofList []
      destination :=
        .direct
          { scheme := "http"
            authority := none
            path := .segments [""] } }

/-
  A request that takes 20 ms gets an error if it is
  cancelled after 10 ms, and its route if after 30 ms.
-/
theorem firstUnless_in_time_slow :
    Carries slowCompiler ∧
      let r : Resolver :=
        { source := .fixed [{ id := "a", uri := "http://a" }]
          compile := slowCompiler }
      (r.firstUnless {} (.after 10) {}).2 =
          .error (Resolver.cancelled {}) ∧
        ∃ found,
          (r.firstUnless {} (.after 30) {}).2 = .ok found ∧
            found.map CompiledRoute.id = some "a" := by
  have hCarries : Carries slowCompiler := by
    intro d route hCompile
    cases hCompile
    rfl
  refine ⟨hCarries, ?_⟩
  intro r
  rcases (firstUnless_in_time hCarries {}).1 r.source {} with
    ⟨⟨t, hFinish, hTimes⟩, -⟩
  have hEnd : (r.first {} {}).finish = some 20 := by
    decide +kernel
  have hTime : t = 20 :=
    Option.some.inj (hFinish.symm.trans hEnd)
  subst hTime
  refine
    ⟨((hTimes 10).1 (by decide)).1,
      (r.first {} {}).found.head?, ?_, by decide +kernel⟩
  exact congrArg Prod.snd ((hTimes 30).2 (by decide))

end ResolverGroup

end Signpost
