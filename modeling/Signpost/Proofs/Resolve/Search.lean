import Mathlib.Data.List.Nodup
import Signpost.Proofs.Route.Cache
import Signpost.Resolve.Walk

/-
  Trying candidates without any cache, and the proof that a
  walk with an honest cache comes to the same.

  Main declarations:
    * `accepted?` and `warning?`
    * `attempt` and `search`
    * `attempt_visit`
    * `observation_walk`
    * `search_eq_filterMap`
    * `coherent_walk`
-/

namespace Signpost

open RouteCache (Carries Coherent Honest)

------------------------------------------------------------
-- Effects Without Compilations
------------------------------------------------------------

/- A definition is compiled. -/
def Effect.isCompilation : Effect → Bool
| .compiled _ => true
| _ => false

namespace Trace

/- The effects that are no compilations. -/
def plain (t : Trace) : Trace :=
  t.filter fun e => !e.2.isCompilation

@[simp] theorem plain_nil :
    plain [] = [] := rfl

@[simp] theorem plain_append
    (s t : Trace) :
    plain (s ++ t) = s.plain ++ t.plain :=
  List.filter_append s t

@[simp] theorem lines_append
    (s t : Trace) :
    lines (s ++ t) = s.lines ++ t.lines :=
  List.filterMap_append

/- Compilations leave no lines. -/
@[simp] theorem lines_plain
    (t : Trace) :
    t.plain.lines = t.lines := by
  induction t with
  | nil => rfl
  | cons e t ih =>
      obtain ⟨time, effect⟩ := e
      cases effect <;>
        simp_all [plain, lines, Effect.isCompilation,
          Effect.line?]

theorem plain_upTo
    (limit : Nat)
    (t : Trace) :
    (t.upTo limit).plain = t.plain.upTo limit := by
  simp [plain, upTo, Bool.and_comm]

end Trace

------------------------------------------------------------
-- One Candidate
------------------------------------------------------------

variable {compile :
  RouteDefinition → Except CompilationError Route}
variable {c : RouteCache}
variable {d : RouteDefinition}
variable {x : Exchange}

/- The route of a definition, if it accepts a request. -/
def accepted?
    (compile :
      RouteDefinition → Except CompilationError Route)
    (x : Exchange)
    (d : RouteDefinition) : Option Route :=
  match compile d with
  | .error _ => none
  | .ok route =>
      match (route.predicate.test x).verdict with
      | .ok true => some route
      | _ => none

/-
  The line about a definition that cannot be compiled or
  whose predicate fails.
-/
def warning?
    (compile :
      RouteDefinition → Except CompilationError Route)
    (x : Exchange)
    (d : RouteDefinition) : Option LogLine :=
  match compile d with
  | .error e => some (Visit.brokenLine d.id e)
  | .ok route =>
      match (route.predicate.test x).verdict with
      | .ok _ => none
      | .error e => some (Visit.failedLine route.id e)

/- A warning is what it says. -/
theorem severity_of_warning?
    {line : LogLine}
    (hWarning : warning? compile x d = some line) :
    line.severity = .warn := by
  unfold warning? at hWarning
  split at hWarning
  · cases hWarning
    rfl
  · split at hWarning
    · cases hWarning
    · cases hWarning
      rfl

/- What trying a candidate comes to without a cache. -/
structure Attempt where
  trace : Trace
  finish : Nat
  found : Option Route

/- Try one candidate at some time, without a cache. -/
def attempt
    (compile :
      RouteDefinition → Except CompilationError Route)
    (x : Exchange)
    (now : Nat)
    (d : RouteDefinition) : Attempt :=
  match compile d with
  | .error e =>
      { trace := [(now, .logged (Visit.brokenLine d.id e))]
        finish := now
        found := none }
  | .ok route =>
      let t := route.predicate.test x
      { trace := Visit.testing now route.id t
        finish := now + t.elapsed
        found := accepted? compile x d }

/- A visit but for compilations and their numbers. -/
def Visit.attempt (v : Visit) : Attempt :=
  { trace := v.trace.plain
    finish := v.finish
    found := v.found.map CompiledRoute.route }

@[simp] theorem Visit.plain_compilation
    (now : Nat) :
    (Visit.compilation c now d).plain = [] := by
  unfold Visit.compilation
  split <;> rfl

@[simp] theorem Visit.plain_testing
    (now : Nat)
    (id : String)
    (t : Trial) :
    (Visit.testing now id t).plain =
      Visit.testing now id t := by
  have hStarts :
      Trace.plain
          (t.started.map fun s =>
            (now + s.1, Effect.started s.2)) =
        t.started.map fun s =>
          (now + s.1, Effect.started s.2) := by
    apply List.filter_eq_self.mpr
    intro e he
    rcases List.mem_map.mp he with ⟨s, -, rfl⟩
    rfl
  unfold Visit.testing
  cases t.verdict with
  | ok b => exact hStarts
  | error e =>
      simp only [Trace.plain_append, hStarts]
      rfl

/- A visit leaves the cache as fetching does. -/
theorem cache_visit
    (now : Nat) :
    (visit compile x now c d).cache =
      (c.fetch compile d).1 := by
  unfold visit
  split <;> simp_all

/-
  With an honest cache a visit comes to the same as an
  attempt without one.
-/
theorem attempt_visit
    (now : Nat)
    (hHonest : Honest compile c d) :
    (visit compile x now c d).attempt =
      attempt compile x now d := by
  have hRoute := RouteCache.route_fetch hHonest
  unfold visit attempt
  cases hFetch : c.fetch compile d with
  | mk after result =>
      rw [hFetch] at hRoute
      cases result with
      | error e =>
          have hCompile : compile d = .error e := hRoute.symm
          simp only [hCompile, Visit.attempt,
            Trace.plain_append, Visit.plain_compilation]
          rfl
      | ok r =>
          have hCompile : compile d = .ok r.route :=
            hRoute.symm
          simp only [hCompile, Visit.attempt,
            Trace.plain_append, Visit.plain_compilation,
            Visit.plain_testing, accepted?,
            CompiledRoute.id]
          unfold Visit.matched
          cases hVerdict :
              (r.route.predicate.test x).verdict with
          | error e => rfl
          | ok b => cases b <;> rfl

theorem found_attempt
    (now : Nat) :
    (attempt compile x now d).found =
      accepted? compile x d := by
  unfold attempt
  split
  · simp_all [accepted?]
  · rfl

/- The lines of an attempt do not depend on its time. -/
theorem lines_attempt
    (now : Nat) :
    (attempt compile x now d).trace.lines =
      (warning? compile x d).toList := by
  have hStarts :
      ∀ starts : List (Nat × String),
        Trace.lines
          (starts.map fun s =>
            (now + s.1, Effect.started s.2)) = [] := by
    intro starts
    apply List.filterMap_eq_nil_iff.mpr
    intro e he
    rcases List.mem_map.mp he with ⟨s, -, rfl⟩
    rfl
  unfold attempt warning?
  cases compile d with
  | error e => rfl
  | ok route =>
      simp only [Visit.testing]
      cases (route.predicate.test x).verdict with
      | ok b => exact hStarts _
      | error e =>
          simp only [Trace.lines_append, hStarts]
          rfl

------------------------------------------------------------
-- Several Candidates
------------------------------------------------------------

/-
  What can be observed of a search but for compilations:
  the routes found, the other effects, and when it ended.
-/
structure Observation where
  found : List Route
  trace : Trace
  finish : Option Nat

namespace Observation

/- A search that has ended before it begins. -/
def ended (now : Nat) : Observation :=
  ⟨[], [], some now⟩

/- A search that ends with an attempt that is cut off. -/
def cut (limit : Nat) (a : Attempt) : Observation :=
  ⟨[], a.trace.upTo limit, none⟩

/- A search that follows an attempt. -/
def after (a : Attempt) (o : Observation) : Observation :=
  { o with
    found := a.found.toList ++ o.found
    trace := a.trace ++ o.trace }

end Observation

/- Try candidates one after the other, without a cache. -/
def search
    (compile :
      RouteDefinition → Except CompilationError Route)
    (x : Exchange)
    (deadline : Option Nat) :
    List RouteDefinition → Nat → Nat → Observation
| [], _, now => .ended now
| _ :: _, 0, now => .ended now
| d :: ds, wanted + 1, now =>
    let a := attempt compile x now d
    match passed? deadline a.finish with
    | some limit => .cut limit a
    | none =>
        let wanted :=
          if a.found.isSome then wanted else wanted + 1
        (search compile x deadline ds wanted a.finish).after a

namespace Walk

/- What can be observed of a walk. -/
def observation (w : Walk) : Observation :=
  { found := w.found.map CompiledRoute.route
    trace := w.trace.plain
    finish := w.finish }

@[simp] theorem observation_ended
    (now : Nat)
    (c : RouteCache) :
    (Walk.ended now c).observation = .ended now := rfl

@[simp] theorem observation_cut
    (limit : Nat)
    (v : Visit) :
    (Walk.cut limit v).observation =
      .cut limit v.attempt := by
  simp [Walk.cut, observation, Observation.cut,
    Visit.attempt, Trace.plain_upTo]

@[simp] theorem observation_after
    (v : Visit)
    (w : Walk) :
    (w.after v).observation =
      w.observation.after v.attempt := by
  simp [Walk.after, observation, Observation.after,
    Visit.attempt, Option.toList_map]

end Walk

/-
  A walk through candidates of different names comes to the
  same as a search, if the cache is honest about all of
  them.  The induction keeps the cache honest about those
  that are left, since no visit touches their names.
-/
theorem observation_walk
    (deadline : Option Nat)
    {ds : List RouteDefinition}
    (wanted now : Nat)
    (hNames : (ds.map RouteDefinition.id).Nodup)
    (hHonest : ∀ d ∈ ds, Honest compile c d) :
    (walk compile x deadline ds wanted now c).observation =
      search compile x deadline ds wanted now := by
  induction ds generalizing wanted now c with
  | nil => rfl
  | cons d ds ih =>
      cases wanted with
      | zero => rfl
      | succ wanted =>
          obtain ⟨hName, hNames⟩ := List.nodup_cons.mp hNames
          have hTail :
              ∀ d' ∈ ds,
                Honest compile
                  (visit compile x now c d).cache d' := by
            intro d' hMember
            have hOther : d'.id ≠ d.id := by
              intro hEq
              apply hName
              rw [← hEq]
              exact List.mem_map_of_mem hMember
            have hBefore :=
              hHonest d' (List.mem_cons_of_mem d hMember)
            rw [cache_visit]
            exact hBefore.fetch hOther
          have hVisit :=
            attempt_visit (x := x) now
              (hHonest d List.mem_cons_self)
          have hFinish :
              (attempt compile x now d).finish =
                (visit compile x now c d).finish := by
            rw [← hVisit, Visit.attempt]
          have hFound :
              (attempt compile x now d).found.isSome =
                (visit compile x now c d).found.isSome := by
            rw [← hVisit, Visit.attempt, Option.isSome_map]
          simp only [walk, search, hFinish, hFound]
          cases passed? deadline
              (visit compile x now c d).finish with
          | some limit =>
              rw [Walk.observation_cut, hVisit]
          | none =>
              rw [Walk.observation_after, hVisit,
                ih _ _ hNames hTail]

/- What fetching candidates keeps is kept by a walk. -/
theorem cache_walk_keeps
    {P : RouteCache → Prop}
    {ds : List RouteDefinition}
    (hFetch : ∀ d ∈ ds, ∀ c, P c → P (c.fetch compile d).1)
    (deadline : Option Nat)
    (wanted now : Nat)
    (hc : P c) :
    P (walk compile x deadline ds wanted now c).cache := by
  induction ds generalizing wanted now c with
  | nil => exact hc
  | cons d ds ih =>
      cases wanted with
      | zero => exact hc
      | succ wanted =>
          have hVisit : P (visit compile x now c d).cache := by
            rw [cache_visit]
            exact hFetch d List.mem_cons_self c hc
          have hTail :
              ∀ d ∈ ds, ∀ c, P c → P (c.fetch compile d).1 :=
            fun d hd => hFetch d (List.mem_cons_of_mem _ hd)
          simp only [walk]
          split
          · exact hVisit
          · exact ih hTail _ _ hVisit

/- A walk keeps a cache coherent. -/
theorem coherent_walk
    (hCarries : Carries compile)
    (deadline : Option Nat)
    (ds : List RouteDefinition)
    (wanted now : Nat)
    (hCoherent : Coherent compile c) :
    Coherent compile
      (walk compile x deadline ds wanted now c).cache :=
  cache_walk_keeps
    (fun d _ _ hCoherent => hCoherent.fetch hCarries d)
    deadline wanted now hCoherent

/-
  A search for all routes goes through all candidates: it
  finds what they accept and warns about what is wrong with
  them.
-/
theorem search_eq_filterMap
    (compile :
      RouteDefinition → Except CompilationError Route)
    (x : Exchange)
    {ds : List RouteDefinition}
    {wanted : Nat}
    (hWanted : ds.length ≤ wanted)
    (now : Nat) :
    (search compile x none ds wanted now).found =
        ds.filterMap (accepted? compile x) ∧
      (search compile x none ds wanted now).trace.lines =
        ds.filterMap (warning? compile x) ∧
      (search compile x none ds wanted now).finish.isSome =
        true := by
  induction ds generalizing wanted now with
  | nil => exact ⟨rfl, rfl, rfl⟩
  | cons d ds ih =>
      cases wanted with
      | zero => simp at hWanted
      | succ wanted =>
          have hEnough :
              ds.length ≤
                if (attempt compile x now d).found.isSome
                  then wanted else wanted + 1 := by
            simp only [List.length_cons] at hWanted
            split <;> omega
          obtain ⟨hFound, hLines, hFinish⟩ :=
            ih hEnough (attempt compile x now d).finish
          simp only [search, passed?, Option.filter_none,
            Observation.after]
          refine ⟨?_, ?_, hFinish⟩
          · rw [hFound, found_attempt]
            cases hHead : accepted? compile x d <;>
              simp [hHead]
          · rw [Trace.lines_append, hLines, lines_attempt]
            cases hHead : warning? compile x d <;>
              simp [hHead]

end Signpost
