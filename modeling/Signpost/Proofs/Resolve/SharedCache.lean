import Signpost.Predicate.Standard
import Signpost.Proofs.Resolve.Resolution
import Signpost.Resolve.Group

/-
  Resolvers that share a cache answer as if each request met
  an empty one, whatever was done before.

  Main declarations:
    * `ResolverGroup.Action` and `ResolverGroup.run`
    * `ResolverGroup.sourcesAfter`
    * `ResolverGroup.InStep`
    * `ResolverGroup.InStep.run`
    * `ResolverGroup.resolve_run`
-/

namespace Signpost

open RouteCache (Carries Coherent)

------------------------------------------------------------
-- What Can Be Found
------------------------------------------------------------

/- A route is accepted only as it is compiled. -/
theorem compile_of_accepted?
    {compile :
      RouteDefinition → Except CompilationError Route}
    {x : Exchange}
    {d : RouteDefinition}
    {route : Route}
    (hAccepted : accepted? compile x d = some route) :
    compile d = .ok route := by
  unfold accepted? at hAccepted
  split at hAccepted
  · cases hAccepted
  · split at hAccepted
    · cases hAccepted
      assumption
    · cases hAccepted

/- A search finds only what some candidate accepts. -/
theorem accepted?_of_mem_search
    {compile :
      RouteDefinition → Except CompilationError Route}
    {x : Exchange}
    {deadline : Option Nat}
    {ds : List RouteDefinition}
    {wanted now : Nat}
    {route : Route}
    (hFound :
      route ∈
        (search compile x deadline ds wanted now).found) :
    ∃ d ∈ ds, accepted? compile x d = some route := by
  induction ds generalizing wanted now with
  | nil => simp [search, Observation.ended] at hFound
  | cons d ds ih =>
      cases wanted with
      | zero => simp [search, Observation.ended] at hFound
      | succ wanted =>
          simp only [search] at hFound
          split at hFound
          · simp [Observation.cut] at hFound
          · rcases List.mem_append.mp hFound with
              hHere | hRest
            · rw [found_attempt] at hHere
              exact
                ⟨d, List.mem_cons_self,
                  Option.mem_toList.mp hHere⟩
            · rcases ih hRest with ⟨d', hMember, hAccepted⟩
              exact
                ⟨d', List.mem_cons_of_mem d hMember,
                  hAccepted⟩

/-
  Without a cache a resolution finds only what compiling a
  candidate of the present listing gives.
-/
theorem Resolver.compile_of_mem_observe
    {r : Resolver}
    {x : Exchange}
    {deadline wanted : Option Nat}
    {route : Route}
    (hFound :
      route ∈ (r.observe x deadline wanted).found) :
    ∃ l, r.source.list x = .ok l ∧
      ∃ d ∈ (Candidates.ofList l.routes).kept,
        r.compile d = .ok route := by
  unfold observe at hFound
  split at hFound
  · simp [Observation.ended] at hFound
  · split at hFound
    · simp at hFound
    · rename_i l hList
      rcases accepted?_of_mem_search hFound with
        ⟨d, hMember, hAccepted⟩
      exact
        ⟨l, hList, d, hMember,
          compile_of_accepted? hAccepted⟩

------------------------------------------------------------
-- Runs of a Group
------------------------------------------------------------

namespace ResolverGroup

/-
  What can happen to a group: a member finds all routes for
  a request or up to a number of them, the source of a
  member changes, as it does when new routes are published,
  or something is done to the cache.
-/
inductive Action where
| resolve (member : Nat) (x : Exchange) (wanted : Option Nat)
| setSource (member : Nat) (source : RouteSource)
| manage (action : CacheAction)

/- The group after an action. -/
def perform (g : ResolverGroup) : Action → ResolverGroup
| .resolve i x wanted => (g.resolve i x wanted).1
| .setSource i source => g.setSource i source
| .manage a => g.manage a

/- The group after some actions. -/
def run (g : ResolverGroup) (as : List Action) : ResolverGroup :=
  as.foldl perform g

/- The sources of the members after an action. -/
def Action.sources
    (sources : List RouteSource) : Action → List RouteSource
| .setSource i source => sources.set i source
| _ => sources

/- The sources of the members after some actions. -/
def sourcesAfter
    (sources : List RouteSource)
    (as : List Action) : List RouteSource :=
  as.foldl Action.sources sources

/-
  A group has certain sources, still compiles as it did at
  first, and holds nothing that compiling would not give.
-/
structure InStep
    (compile :
      RouteDefinition → Except CompilationError Route)
    (sources : List RouteSource)
    (g : ResolverGroup) : Prop where
  compile_eq : g.compile = compile
  sources_eq : g.members.map Member.source = sources
  coherent : Coherent compile g.cache

variable {compile :
  RouteDefinition → Except CompilationError Route}
variable {sources : List RouteSource}
variable {g : ResolverGroup}

theorem inStep_ofSources
    (compile :
      RouteDefinition → Except CompilationError Route)
    (sources : List RouteSource) :
    InStep compile sources (ofSources compile sources) := by
  refine ⟨rfl, ?_, RouteCache.coherent_of_empty 0⟩
  simp only [ofSources, List.map_map]
  exact List.map_id sources

/- The source of a member of a group in step. -/
theorem InStep.source_eq
    (hStep : InStep compile sources g)
    (i : Nat) :
    sources[i]? = (g.members[i]?).map Member.source := by
  rw [← hStep.sources_eq, List.getElem?_map]

/- A member that remembers what is coherent stays in step. -/
theorem InStep.remember
    (hStep : InStep compile sources g)
    {i : Nat}
    {m : Member}
    (hMember : g.members[i]? = some m)
    {s : ResolverState}
    (hCoherent : Coherent compile s.cache) :
    InStep compile sources (g.remember i m s) := by
  obtain ⟨rfl, rfl, -⟩ := hStep
  refine ⟨rfl, ?_, hCoherent⟩
  apply List.ext_getElem?
  intro j
  obtain ⟨hBound, hEq⟩ :=
    List.getElem?_eq_some_iff.mp hMember
  simp only [ResolverGroup.remember, List.getElem?_map,
    List.getElem?_set]
  by_cases hij : i = j
  · subst hij
    simp [hBound, hEq]
  · simp [hij]

theorem InStep.resolve
    (hCarries : Carries compile)
    (hStep : InStep compile sources g)
    (i : Nat)
    (x : Exchange)
    (wanted : Option Nat) :
    InStep compile sources (g.resolve i x wanted).1 := by
  unfold ResolverGroup.resolve
  cases hMember : g.members[i]? with
  | none => exact hStep
  | some m =>
      apply hStep.remember hMember
      obtain ⟨rfl, -, hCoherent⟩ := hStep
      exact
        Resolver.coherent_resolve
          (r := g.resolver m) (s := g.state m)
          hCarries x none wanted hCoherent

theorem InStep.setSource
    (hStep : InStep compile sources g)
    (i : Nat)
    (source : RouteSource) :
    InStep compile (sources.set i source)
      (g.setSource i source) := by
  obtain ⟨rfl, rfl, hCoherent⟩ := hStep
  refine ⟨rfl, ?_, hCoherent⟩
  simp only [ResolverGroup.setSource]
  apply List.ext_getElem?
  intro j
  simp only [List.getElem?_map, List.getElem?_modify,
    List.getElem?_set, List.length_map]
  by_cases hij : i = j
  · subst hij
    cases hMember : g.members[i]? with
    | none =>
        have hBound := List.getElem?_eq_none_iff.mp hMember
        simp [Nat.not_lt.mpr hBound]
    | some m =>
        have hBound :=
          (List.getElem?_eq_some_iff.mp hMember).1
        simp [hBound]
  · simp [hij]

theorem InStep.manage
    (hStep : InStep compile sources g)
    (a : CacheAction) :
    InStep compile sources (g.manage a) := by
  obtain ⟨rfl, rfl, hCoherent⟩ := hStep
  refine ⟨rfl, rfl, ?_⟩
  cases a with
  | invalidate id => exact hCoherent.invalidate id
  | clear => exact RouteCache.coherent_clear
  | retain ids => exact hCoherent.retain ids

/- Every action keeps a group in step. -/
theorem InStep.perform
    (hCarries : Carries compile)
    (hStep : InStep compile sources g)
    (a : Action) :
    InStep compile (a.sources sources) (g.perform a) := by
  cases a with
  | resolve i x wanted => exact hStep.resolve hCarries i x wanted
  | setSource i source => exact hStep.setSource i source
  | manage a => exact hStep.manage a

/- So does every run. -/
theorem InStep.run
    (hCarries : Carries compile)
    (hStep : InStep compile sources g)
    (as : List Action) :
    InStep compile (sourcesAfter sources as) (g.run as) := by
  induction as generalizing sources g with
  | nil => exact hStep
  | cons a as ih => exact ih (hStep.perform hCarries a)

/-
  In a group that is in step a member's resolution can be
  observed as one without a cache.
-/
theorem InStep.observation_resolve
    (hStep : InStep compile sources g)
    {i : Nat}
    {source : RouteSource}
    (hSource : sources[i]? = some source)
    (x : Exchange)
    (wanted : Option Nat) :
    ∃ n, (g.resolve i x wanted).2 = some n ∧
      n.observation =
        Resolver.observe ⟨source, compile⟩ x none wanted := by
  rw [hStep.source_eq] at hSource
  obtain ⟨m, hMember, rfl⟩ :=
    Option.map_eq_some_iff.mp hSource
  obtain ⟨rfl, rfl, hCoherent⟩ := hStep
  refine
    ⟨(g.resolver m).resolve x none wanted (g.state m),
      ?_, ?_⟩
  · simp [ResolverGroup.resolve, hMember]
  · exact
      Resolver.observation_of_coherent
        (r := g.resolver m) (s := g.state m)
        x none wanted hCoherent

/-
  After any run of a group whose cache was empty at first, a
  member finds the same routes and leaves the same lines as
  a resolver of the same source with a new cache.  A route
  that is found was compiled from the candidate that its
  source lists now, and never from what a name stood for
  before or in another source.
-/
theorem resolve_run
    (hCarries : Carries compile)
    (sources : List RouteSource)
    (as : List Action)
    (i : Nat)
    (x : Exchange)
    (wanted : Option Nat) :
    let g := (ofSources compile sources).run as
    match (sourcesAfter sources as)[i]? with
    | none => (g.resolve i x wanted).2 = none
    | some source =>
        let fresh :=
          Resolver.resolve ⟨source, compile⟩ x none wanted {}
        ∃ n, (g.resolve i x wanted).2 = some n ∧
          n.found.map CompiledRoute.route =
            fresh.found.map CompiledRoute.route ∧
          n.trace.lines = fresh.trace.lines ∧
          n.finish = fresh.finish ∧
          ∀ r ∈ n.found,
            ∃ l, source.list x = .ok l ∧
              r.definition ∈
                (Candidates.ofList l.routes).kept ∧
              compile r.definition = .ok r.route := by
  intro g
  have hStep :
      InStep compile (sourcesAfter sources as) g :=
    (inStep_ofSources compile sources).run hCarries as
  split
  · rename_i hSource
    rw [hStep.source_eq, Option.map_eq_none_iff] at hSource
    simp [ResolverGroup.resolve, hSource]
  · rename_i source hSource
    intro fresh
    have hFresh :
        fresh.observation =
          Resolver.observe ⟨source, compile⟩ x none
            wanted :=
      Resolver.observation_of_coherent x none wanted
        (RouteCache.coherent_of_empty 0)
    obtain ⟨n, hAnswer, hObserved⟩ :=
      hStep.observation_resolve hSource x wanted
    have hSame := hObserved.trans hFresh.symm
    refine
      ⟨n, hAnswer, congrArg Observation.found hSame,
        ?_, congrArg Observation.finish hSame, ?_⟩
    · rw [← Trace.lines_plain n.trace,
        ← Trace.lines_plain fresh.trace]
      exact
        congrArg (fun o => o.trace.lines) hSame
    · intro r hFound
      have hRoute :
          r.route ∈
            (Resolver.observe ⟨source, compile⟩ x none
              wanted).found := by
        rw [← hObserved]
        exact List.mem_map_of_mem hFound
      obtain ⟨l, hList, d, hCandidate, hCompile⟩ :=
        Resolver.compile_of_mem_observe hRoute
      have hDefinition : r.definition = d :=
        hCarries d r.route hCompile
      rw [hDefinition]
      exact ⟨l, hList, hCandidate, hCompile⟩

/- Two sources that list different routes of one name. -/
def rivals : List RouteSource :=
  [.fixed [{ id := "a", uri := "lb://blue" }],
    .fixed [{ id := "a", uri := "lb://green" }]]

/- A compiler without any filters. -/
def standardCompiler : RouteCompiler :=
  { predicates := standardPredicates, filters := .empty }

/-
  The first source's route is found again although the
  second one's has taken its place in the cache.
-/
theorem resolve_run_rivals :
    Carries standardCompiler.compile ∧
      ∃ n,
        (resolve 0 {} none
          ((ofSources standardCompiler.compile rivals).run
            [.resolve 0 {} none, .resolve 1 {} none])).2 =
            some n ∧
          n.found.map CompiledRoute.definition =
            [{ id := "a", uri := "lb://blue" }] := by
  have hCarries := standardCompiler.carries_compile
  obtain ⟨n, hAnswer, hFound, -⟩ :=
    resolve_run hCarries rivals
      [.resolve 0 {} none, .resolve 1 {} none] 0 {} none
  refine ⟨hCarries, n, hAnswer, ?_⟩
  have hDefinitions :=
    congrArg (List.map Route.definition) hFound
  rw [List.map_map, List.map_map] at hDefinitions
  exact hDefinitions.trans (by decide +kernel)

/- A compiler whose routes carry their texts in lower case. -/
def lowering
    (d : RouteDefinition) : Except CompilationError Route :=
  (standardCompiler.compile d).map fun route =>
    { route with definition := { d with uri := d.uri.toLower } }

/- Two sources that list one route, in capitals and not. -/
def spellings : List RouteSource :=
  [.fixed [{ id := "a", uri := "lb://BLUE" }],
    .fixed [{ id := "a", uri := "lb://blue" }]]

/-
  If routes carry other definitions than those they were
  compiled from, the second source is served with the route
  of the first one, and a new cache makes a difference.
-/
theorem resolve_run_lowering :
    ∃ n source,
      (sourcesAfter spellings [.resolve 0 {} none])[1]? =
          some source ∧
        (resolve 1 {} none
          ((ofSources lowering spellings).run
            [.resolve 0 {} none])).2 = some n ∧
        n.found.map (fun r => r.route.destination.service?) =
          [some "BLUE"] ∧
        (Resolver.resolve ⟨source, lowering⟩ {} none none
            {}).found.map
            (fun r => r.route.destination.service?) =
          [some "blue"] := by
  refine ⟨_, _, rfl, rfl, ?_, ?_⟩
  · decide +kernel
  · decide +kernel

end ResolverGroup

end Signpost
