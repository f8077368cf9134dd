import Signpost.Proofs.Resolve.Candidates
import Signpost.Proofs.Resolve.Search
import Signpost.Resolve.Basic

/-
  Resolving a request without any cache, and what it comes
  to when all routes are asked for.

  Main declarations:
    * `Resolver.observe`
    * `Resolver.observation_resolve`
    * `Resolver.observation_of_coherent`
    * `Resolver.coherent_resolve`
    * `Resolver.all_of_no_entries`
-/

namespace Signpost

open RouteCache (Carries Coherent Honest)
open Text

------------------------------------------------------------
-- Clearing the Cache
------------------------------------------------------------

namespace ResolverState

/- Pruning leaves the cache or retains what is listed. -/
theorem cache_pruneFor
    (source : RouteSource)
    (l : Listing)
    (s : ResolverState) :
    (s.pruneFor source l).cache = s.cache ∨
      (s.pruneFor source l).cache = s.cache.retain l.ids := by
  unfold pruneFor prune
  split
  · split
    · exact Or.inl rfl
    · exact Or.inr rfl
  · exact Or.inl rfl

/- Pruning adds nothing to a cache. -/
theorem get?_pruneFor_eq_none
    {s : ResolverState}
    {k : String}
    (source : RouteSource)
    (l : Listing)
    (hGet : s.cache.entries.get? k = none) :
    (s.pruneFor source l).cache.entries.get? k = none := by
  rcases cache_pruneFor source l s with hCache | hCache
  · rw [hCache, hGet]
  · rw [hCache, RouteCache.retain, Dict.get?_keep, hGet,
      ite_self]

/- Pruning keeps a cache coherent. -/
theorem coherent_pruneFor
    {compile :
      RouteDefinition → Except CompilationError Route}
    {s : ResolverState}
    (source : RouteSource)
    (l : Listing)
    (hCoherent : Coherent compile s.cache) :
    Coherent compile (s.pruneFor source l).cache := by
  rcases cache_pruneFor source l s with hCache | hCache
  · rw [hCache]
    exact hCoherent
  · rw [hCache]
    exact hCoherent.retain l.ids

end ResolverState

------------------------------------------------------------
-- Resolution Without a Cache
------------------------------------------------------------

/- What can be observed of a resolution. -/
def Resolution.observation (n : Resolution) : Observation :=
  { found := n.found.map CompiledRoute.route
    trace := n.trace.plain
    finish := n.finish }

namespace Resolver

/- Resolve a request without a cache. -/
def observe
    (r : Resolver)
    (x : Exchange)
    (deadline : Option Nat)
    (wanted : Option Nat) : Observation :=
  if wanted = some 0 then .ended 0
  else
    match r.source.list x with
    | .error e =>
        { found := []
          trace :=
            [(0, .listed), (0, .logged (listingLine x e))]
          finish := some 0 }
    | .ok l =>
        let candidates := Candidates.ofList l.routes
        let lines :=
          candidates.lines.map fun l => (0, Effect.logged l)
        let o :=
          search r.compile x deadline candidates.kept
            (wanted.getD l.routes.length) 0
        { o with trace := (0, .listed) :: lines ++ o.trace }

/- Listing and logging are no compilations. -/
private theorem plain_listed
    (lines : List LogLine) :
    Trace.plain
        ((0, .listed) ::
          lines.map fun l => (0, Effect.logged l)) =
      (0, .listed) ::
        lines.map fun l => (0, Effect.logged l) := by
  apply List.filter_eq_self.mpr
  intro e he
  rcases List.mem_cons.mp he with rfl | he
  · rfl
  · rcases List.mem_map.mp he with ⟨l, -, rfl⟩
    rfl

/-
  A resolution comes to the same as one without a cache, if
  the cache is honest about the candidates once it has been
  pruned.
-/
theorem observation_resolve
    {r : Resolver}
    {x : Exchange}
    {s : ResolverState}
    (deadline wanted : Option Nat)
    (hHonest :
      ∀ l, r.source.list x = .ok l →
        ∀ d ∈ (Candidates.ofList l.routes).kept,
          Honest r.compile
            (s.pruneFor r.source l).cache d) :
    (r.resolve x deadline wanted s).observation =
      r.observe x deadline wanted := by
  unfold resolve observe
  by_cases hWanted : wanted = some 0
  · rw [if_pos hWanted, if_pos hWanted]
    rfl
  · rw [if_neg hWanted, if_neg hWanted]
    cases hList : r.source.list x with
    | error e => rfl
    | ok l =>
        have hWalk :=
          observation_walk (x := x) deadline
            (wanted.getD l.routes.length) 0
            (Candidates.nodup_ids_kept l.routes)
            (hHonest l hList)
        simp only [← hWalk]
        unfold resolveListing Resolution.observation
        simp only [Trace.plain_append, plain_listed,
          Walk.observation]

/- A coherent cache makes no difference. -/
theorem observation_of_coherent
    {r : Resolver}
    {s : ResolverState}
    (x : Exchange)
    (deadline wanted : Option Nat)
    (hCoherent : Coherent r.compile s.cache) :
    (r.resolve x deadline wanted s).observation =
      r.observe x deadline wanted := by
  apply observation_resolve
  intro l _ d _
  exact
    (ResolverState.coherent_pruneFor r.source l
      hCoherent).honest d

/- A resolution keeps the cache coherent. -/
theorem coherent_resolve
    {r : Resolver}
    {s : ResolverState}
    (hCarries : Carries r.compile)
    (x : Exchange)
    (deadline wanted : Option Nat)
    (hCoherent : Coherent r.compile s.cache) :
    Coherent r.compile
      (r.resolve x deadline wanted s).state.cache := by
  unfold resolve
  split
  · exact hCoherent
  · split
    · exact hCoherent
    · rename_i l _
      exact
        coherent_walk hCarries deadline _ _ 0
          (ResolverState.coherent_pruneFor r.source l
            hCoherent)

------------------------------------------------------------
-- All Routes
------------------------------------------------------------

/- A source that fails leaves one line and no routes. -/
theorem observe_of_error
    {r : Resolver}
    {x : Exchange}
    {e : GatewayError}
    (hList : r.source.list x = .error e) :
    (r.observe x none none).found = [] ∧
      (r.observe x none none).trace.lines =
        [listingLine x e] ∧
      (r.observe x none none).finish.isSome = true := by
  simp [observe, hList, Trace.lines, Effect.line?]

/-
  All routes that accept a request are found, in the order
  of the candidates, and a line is left for each duplicate
  and then for each candidate with something wrong.
-/
theorem observe_of_ok
    {r : Resolver}
    {x : Exchange}
    {l : Listing}
    (hList : r.source.list x = .ok l) :
    (r.observe x none none).found =
        (Candidates.ofList l.routes).kept.filterMap
          (accepted? r.compile x) ∧
      (r.observe x none none).trace.lines =
        (Candidates.ofList l.routes).lines ++
          (Candidates.ofList l.routes).kept.filterMap
            (warning? r.compile x) ∧
      (r.observe x none none).finish.isSome = true := by
  have hLogged :
      ∀ lines : List LogLine,
        Trace.lines
          (lines.map fun l => (0, Effect.logged l)) =
            lines := by
    intro lines
    rw [Trace.lines, List.filterMap_map]
    exact List.filterMap_some
  obtain ⟨hFound, hLines, hFinish⟩ :=
    search_eq_filterMap r.compile x
      (Candidates.length_kept_le l.routes) 0
  simp only [observe, hList, reduceCtorEq, if_false,
    Option.getD_none]
  refine ⟨hFound, ?_, hFinish⟩
  rw [Trace.lines_append, hLines]
  congr 1
  exact hLogged _

/-
  With an empty cache all routes are found by putting the
  listed definitions in ascending order with ties in place,
  keeping the first definition of each name, and keeping
  those that compile and accept the request.  There is a
  warning for each duplicate, in this order, and then for
  each candidate that cannot be compiled or whose predicate
  fails.  A source that fails leaves one error and no route.
-/
theorem all_of_no_entries
    (r : Resolver)
    (x : Exchange)
    (count : Nat)
    (pruned : Option Listing) :
    let n :=
      r.all x { cache := { compilations := count }, pruned }
    n.finish.isSome = true ∧
      match r.source.list x with
      | .error e =>
          n.found = [] ∧
            n.trace.lines = [listingLine x e] ∧
            (listingLine x e).severity = .error
      | .ok l =>
          ∃ ordered,
            StablySorted l.routes ordered ∧
            (∀ other,
              StablySorted l.routes other →
                other = ordered) ∧
            n.found.map CompiledRoute.route =
              (Distinct.firsts RouteDefinition.id
                ordered).filterMap
                  (accepted? r.compile x) ∧
            n.trace.lines =
              (Distinct.repeats RouteDefinition.id
                ordered).map Candidates.duplicateLine ++
              (Distinct.firsts RouteDefinition.id
                ordered).filterMap
                  (warning? r.compile x) ∧
            ∀ line ∈ n.trace.lines,
              line.severity = .warn := by
  intro n
  have hObserved :
      n.observation = r.observe x none none := by
    apply observation_resolve
    intro l _ d _
    exact
      RouteCache.honest_of_get?_eq_none
        (ResolverState.get?_pruneFor_eq_none r.source l rfl)
  have hFinish :
      n.finish = (r.observe x none none).finish := by
    rw [← hObserved, Resolution.observation]
  have hFound :
      n.found.map CompiledRoute.route =
        (r.observe x none none).found := by
    rw [← hObserved, Resolution.observation]
  have hLines :
      n.trace.lines =
        (r.observe x none none).trace.lines := by
    rw [← hObserved, Resolution.observation,
      Trace.lines_plain]
  rw [hFinish]
  cases hList : r.source.list x with
  | error e =>
      obtain ⟨hNone, hLine, hEnd⟩ := observe_of_error hList
      refine ⟨hEnd, ?_, ?_, rfl⟩
      · exact List.map_eq_nil_iff.mp (hFound.trans hNone)
      · exact hLines.trans hLine
  | ok l =>
      obtain ⟨hRoutes, hText, hEnd⟩ := observe_of_ok hList
      have hSorted :=
        Candidates.stablySorted_sorted l.routes
      rw [Candidates.ofList, Distinct.kept_ofList] at hRoutes
      rw [Candidates.lines, Candidates.ofList,
        Distinct.kept_ofList,
        Distinct.dropped_ofList] at hText
      refine
        ⟨hEnd, Candidates.sorted l.routes, hSorted, ?_,
          hFound.trans hRoutes, hLines.trans hText, ?_⟩
      · intro other hOther
        exact hOther.unique hSorted
      · intro line hLine
        rw [hLines, hText] at hLine
        rcases List.mem_append.mp hLine with
          hRepeat | hWarning
        · rcases List.mem_map.mp hRepeat with ⟨d, -, rfl⟩
          rfl
        · rcases List.mem_filterMap.mp hWarning with
            ⟨d, -, hWarning⟩
          exact severity_of_warning? hWarning

end Resolver

end Signpost
