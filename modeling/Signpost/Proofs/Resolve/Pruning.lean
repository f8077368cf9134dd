import Mathlib.Data.List.Dedup
import Mathlib.Data.List.Nodup
import Mathlib.Data.List.Perm.Subperm
import Signpost.Predicate.Standard
import Signpost.Proofs.Resolve.Candidates
import Signpost.Proofs.Resolve.Laziness
import Signpost.Proofs.Resolve.SharedCache

/-
  The requests to a resolver while its source changes, and
  what its cache holds after each of them: no more than the
  routes of the last listing, each under its own name.

  Main declarations:
    * `ResolverSession` and `ResolverSession.history`
    * `ResolverState.Bounded`
    * `ResolverState.Bounded.resolveListing`
    * `ResolverSession.bounded_history`
-/

namespace Signpost

open RouteCache (Carries)
open Text

------------------------------------------------------------
-- Sessions
------------------------------------------------------------

/- A resolver with all that it remembers. -/
structure ResolverSession where
  resolver : Resolver
  state : ResolverState := {}

namespace ResolverSession

/-
  What can happen to a resolver: its source changes, as it
  does when routes are published, or it is asked for all
  routes, for a number of them, or for the first one unless
  this is cancelled.
-/
inductive Event where
| update (source : RouteSource)
| resolve (x : Exchange) (wanted : Option Nat)
| firstUnless (x : Exchange) (c : Cancellation)

/-
  A request for routes: what was remembered before, what the
  source listed if it was asked, and what resolving came to.
-/
structure Request where
  before : ResolverState
  listed : Option (Except GatewayError Listing)
  resolution : Resolution

/- The request that an event makes, if it makes one. -/
def request? (s : ResolverSession) : Event → Option Request
| .update _ => none
| .resolve x wanted =>
    some
      { before := s.state
        listed :=
          if wanted = some 0 then none
          else some (s.resolver.source.list x)
        resolution := s.resolver.resolve x none wanted s.state }
| .firstUnless x c =>
    some
      { before := s.state
        listed :=
          if c = .before then none
          else some (s.resolver.source.list x)
        resolution := (s.resolver.firstUnless x c s.state).1 }

/- The session after an event. -/
def perform (s : ResolverSession) : Event → ResolverSession
| .update source =>
    { s with resolver := { s.resolver with source } }
| e =>
    { s with
      state :=
        match s.request? e with
        | none => s.state
        | some q => q.resolution.state }

/- The requests that some events make, in order. -/
def history (s : ResolverSession) : List Event → List Request
| [] => []
| e :: es => (s.request? e).toList ++ (s.perform e).history es

------------------------------------------------------------
-- What Requests Come To
------------------------------------------------------------

/-
  A request of a resolver has no effects at all, or finds
  that the source fails, or tries the candidates of a
  listing.
-/
inductive Request.Outcome (r : Resolver) (q : Request) : Prop where
| idle
    (listed : q.listed = none)
    (state : q.resolution.state = q.before)
    (trace : q.resolution.trace = [])
    (found : q.resolution.found = [])
| failed
    {x : Exchange}
    {e : GatewayError}
    (listed : q.listed = some (.error e))
    (resolution :
      q.resolution = Resolver.unlisted x e q.before)
| tried
    {x : Exchange}
    {deadline : Option Nat}
    {wanted : Nat}
    {l : Listing}
    (listed : q.listed = some (.ok l))
    (resolution :
      q.resolution =
        r.resolveListing x deadline wanted l q.before)

/- Resolving that is no use without a listing asks for it. -/
theorem outcome_resolve
    (r : Resolver)
    (s : ResolverState)
    (x : Exchange)
    (deadline wanted : Option Nat) :
    Request.Outcome r
      { before := s
        listed :=
          if wanted = some 0 then none
          else some (r.source.list x)
        resolution := r.resolve x deadline wanted s } := by
  by_cases hWanted : wanted = some 0
  · subst hWanted
    exact .idle rfl rfl rfl rfl
  · rw [if_neg hWanted]
    cases hList : r.source.list x with
    | error e =>
        rw [Resolver.resolve_of_error hWanted hList]
        exact .failed rfl rfl
    | ok l =>
        rw [Resolver.resolve_of_ok hWanted hList]
        exact .tried rfl rfl

theorem outcome_request?
    {s : ResolverSession}
    {e : Event}
    {q : Request}
    (hRequest : s.request? e = some q) :
    q.before = s.state ∧ q.Outcome s.resolver := by
  cases e with
  | update source => cases hRequest
  | resolve x wanted =>
      cases hRequest
      exact ⟨rfl, outcome_resolve _ _ x none wanted⟩
  | firstUnless x c =>
      cases hRequest
      refine ⟨rfl, ?_⟩
      cases c with
      | before => exact .idle rfl rfl rfl rfl
      | never => exact outcome_resolve _ _ x none (some 1)
      | after limit =>
          exact outcome_resolve _ _ x (some limit) (some 1)

/- The source is asked just if this is an effect. -/
theorem Request.Outcome.isSome_listed_iff
    {r : Resolver}
    {q : Request}
    (hOutcome : q.Outcome r) :
    q.listed.isSome = true ↔
      (0, .listed) ∈ q.resolution.trace := by
  cases hOutcome with
  | idle hListed hState hTrace hFound =>
      rw [hListed, hTrace]
      exact ⟨fun h => absurd h (by decide), fun h => by cases h⟩
  | failed hListed hResolution =>
      rw [hListed, hResolution]
      exact ⟨fun _ => List.mem_cons_self, fun _ => rfl⟩
  | tried hListed hResolution =>
      rw [hListed, hResolution]
      exact ⟨fun _ => List.mem_cons_self, fun _ => rfl⟩

/-
  Requests that follow one another: each remembers what the
  one before it has left.
-/
def Follows
    (P : Resolver → Prop) :
    ResolverState → List Request → Prop
| _, [] => True
| s, q :: qs =>
    q.before = s ∧ (∃ r, P r ∧ q.Outcome r) ∧
      Follows P q.resolution.state qs

/- The requests of a session follow one another. -/
theorem follows_history
    {P : Resolver → Prop}
    {s : ResolverSession}
    {es : List Event}
    (hResolver : P s.resolver)
    (hUpdates :
      ∀ source, .update source ∈ es →
        ∀ r, P r → P { r with source }) :
    Follows P s.state (s.history es) := by
  induction es generalizing s with
  | nil => trivial
  | cons e es ih =>
      have hRest :
          ∀ source, Event.update source ∈ es →
            ∀ r, P r → P { r with source } :=
        fun source hMem =>
          hUpdates source (List.mem_cons_of_mem e hMem)
      rw [history]
      cases hRequest : s.request? e with
      | none =>
          cases e with
          | update source =>
              have hNext :=
                hUpdates source List.mem_cons_self _ hResolver
              exact ih (s := s.perform (.update source)) hNext hRest
          | resolve x wanted => cases hRequest
          | firstUnless x c => cases hRequest
      | some q =>
          rcases outcome_request? hRequest with
            ⟨hBefore, hOutcome⟩
          refine ⟨hBefore, ⟨_, hResolver, hOutcome⟩, ?_⟩
          have hPerform :
              s.perform e =
                { s with state := q.resolution.state } := by
            cases e with
            | update source => cases hRequest
            | resolve x wanted => cases hRequest; rfl
            | firstUnless x c => cases hRequest; rfl
          rw [hPerform]
          exact
            ih (s := { s with state := q.resolution.state })
              hResolver hRest

end ResolverSession

------------------------------------------------------------
-- Bounded Caches
------------------------------------------------------------

/-
  Every route that is held is held under its own name, which
  is in the listing that the cache was last cleared for.
-/
structure ResolverState.Bounded (s : ResolverState) : Prop where
  filed :
    ∀ k r, s.cache.entries.get? k = some r →
      r.definition.id = k
  listed :
    ∀ k r, s.cache.entries.get? k = some r →
      ∃ l, s.pruned = some l ∧ k ∈ l.ids

namespace ResolverState

variable {compile :
  RouteDefinition → Except CompilationError Route}
variable {s : ResolverState}
variable {l : Listing}

theorem bounded_start :
    Bounded {} where
  filed := by
    intro k r hGet
    cases hGet
  listed := by
    intro k r hGet
    cases hGet

/-
  Once a cache is cleared for a listing it holds no more than
  is listed, also if it was cleared for this listing before.
-/
theorem Bounded.prune
    (hBounded : s.Bounded)
    (l : Listing) :
    (s.prune l).Bounded ∧ (s.prune l).pruned = some l := by
  unfold ResolverState.prune
  split
  · rename_i hSame
    exact ⟨hBounded, hSame⟩
  · refine ⟨⟨?_, ?_⟩, rfl⟩
    · intro k r hGet
      rw [RouteCache.retain, Dict.get?_keep] at hGet
      split at hGet
      · exact hBounded.filed k r hGet
      · cases hGet
    · intro k r hGet
      rw [RouteCache.retain, Dict.get?_keep] at hGet
      split at hGet
      · rename_i hListed
        exact ⟨l, rfl, List.contains_iff_mem.mp hListed⟩
      · cases hGet

/- A listed definition that is fetched is listed. -/
theorem Bounded.fetch
    (hCarries : Carries compile)
    (hBounded : s.Bounded)
    (hPruned : s.pruned = some l)
    {d : RouteDefinition}
    (hListed : d.id ∈ l.ids) :
    ({ s with cache := (s.cache.fetch compile d).1 } :
      ResolverState).Bounded := by
  cases hHit : s.cache.hit? d with
  | some r =>
      rw [RouteCache.fetch_of_hit hHit]
      exact hBounded
  | none =>
      cases hCompile : compile d with
      | error e =>
          rw [RouteCache.fetch_of_error hHit hCompile]
          exact ⟨hBounded.filed, hBounded.listed⟩
      | ok route =>
          rw [RouteCache.fetch_of_ok hHit hCompile]
          constructor
          · intro k r hGet
            by_cases hName : k = d.id
            · subst hName
              rw [Dict.get?_insert_self] at hGet
              cases hGet
              rw [CompiledRoute.definition,
                hCarries d route hCompile]
            · rw [Dict.get?_insert_of_ne _ hName] at hGet
              exact hBounded.filed k r hGet
          · intro k r hGet
            by_cases hName : k = d.id
            · subst hName
              exact ⟨l, hPruned, hListed⟩
            · rw [Dict.get?_insert_of_ne _ hName] at hGet
              exact hBounded.listed k r hGet

/- Trying the candidates of a listing keeps its bound. -/
theorem Bounded.resolveListing
    {r : Resolver}
    (hCarries : Carries r.compile)
    (hAll : r.source.listsAll = true)
    (hBounded : s.Bounded)
    (x : Exchange)
    (deadline : Option Nat)
    (wanted : Nat)
    (l : Listing) :
    let n := r.resolveListing x deadline wanted l s
    n.state.Bounded ∧ n.state.pruned = some l := by
  rcases hBounded.prune l with ⟨hPrune, hPruned⟩
  have hPruneFor : s.pruneFor r.source l = s.prune l := by
    rw [pruneFor, if_pos hAll]
  intro n
  simp only [n, Resolver.resolveListing, hPruneFor]
  refine ⟨?_, hPruned⟩
  apply cache_walk_keeps
    (P := fun c => ({ s.prune l with cache := c } :
      ResolverState).Bounded)
  · intro d hd c hc
    have hListed : d.id ∈ l.ids :=
      List.mem_map_of_mem (Candidates.mem_of_mem_kept hd)
    exact hc.fetch hCarries hPruned hListed
  · exact hPrune

/- A bounded cache has at most one route for each name. -/
theorem Bounded.size_le
    (hBounded : s.Bounded)
    (hPruned : s.pruned = some l) :
    s.cache.entries.keys ⊆ l.ids ∧
      s.cache.size ≤ l.ids.dedup.length := by
  have hKeys : s.cache.entries.keys ⊆ l.ids := by
    intro k hk
    rw [Dict.mem_keys_iff, Option.isSome_iff_exists] at hk
    rcases hk with ⟨r, hGet⟩
    rcases hBounded.listed k r hGet with ⟨l', hSame, hListed⟩
    rw [hPruned] at hSame
    cases hSame
    exact hListed
  refine ⟨hKeys, ?_⟩
  calc s.cache.size
      = s.cache.entries.keys.length :=
        (Dict.length_keys _).symm
    _ ≤ l.ids.dedup.length :=
        ((Dict.nodup_keys _).subperm fun k hk =>
          List.mem_dedup.mpr (hKeys hk)).length_le

end ResolverState

namespace ResolverSession

variable {compile :
  RouteDefinition → Except CompilationError Route}

/- The cache after a request, which may have been cleared. -/
def Request.Pruned (q : Request) : Prop :=
  match q.listed with
  | some (.ok l) => q.resolution.state.pruned = some l
  | _ => q.resolution.state = q.before

/- A request keeps a bounded cache bounded. -/
theorem Request.Outcome.bounded
    {r : Resolver}
    {q : Request}
    (hCarries : Carries r.compile)
    (hAll : r.source.listsAll = true)
    (hOutcome : q.Outcome r)
    (hBounded : q.before.Bounded) :
    q.resolution.state.Bounded ∧ q.Pruned := by
  unfold Pruned
  cases hOutcome with
  | idle hListed hState =>
      rw [hListed, hState]
      exact ⟨hBounded, rfl⟩
  | failed hListed hResolution =>
      rw [hListed, hResolution]
      exact ⟨hBounded, rfl⟩
  | tried hListed hResolution =>
      rw [hListed, hResolution]
      exact hBounded.resolveListing hCarries hAll _ _ _ _

/- So all requests that follow one another do. -/
theorem Follows.bounded
    {s : ResolverState}
    {qs : List Request}
    (hCarries : Carries compile)
    (hFollows :
      Follows
        (fun r =>
          r.compile = compile ∧ r.source.listsAll = true)
        s qs)
    (hBounded : s.Bounded) :
    ∀ q ∈ qs,
      q.resolution.state.Bounded ∧ q.Pruned ∧
        (q.listed.isSome = true ↔
          (0, .listed) ∈ q.resolution.trace) := by
  induction qs generalizing s with
  | nil => exact List.forall_mem_nil _
  | cons q qs ih =>
      rcases hFollows with
        ⟨rfl, ⟨r, ⟨rfl, hAll⟩, hOutcome⟩, hRest⟩
      rcases hOutcome.bounded hCarries hAll hBounded with
        ⟨hHere, hPruned⟩
      exact
        List.forall_mem_cons.mpr
          ⟨⟨hHere, hPruned, hOutcome.isSome_listed_iff⟩,
            ih hRest hHere⟩

/-
  Of a resolver with a cache of its own whose sources list
  all definitions: after each request that listed the source
  the cache holds routes of listed names only, each of them
  under the name of its own definition, and so no more than
  there are names.  A request that does not list the source,
  which its effects show, leaves everything as it was, and so
  does one that the source fails.
-/
theorem bounded_history
    {source : RouteSource}
    {es : List Event}
    (hCarries : Carries compile)
    (hAll : source.listsAll = true)
    (hUpdates :
      ∀ source', .update source' ∈ es →
        source'.listsAll = true) :
    ∀ q ∈ history { resolver := ⟨source, compile⟩ } es,
      (q.listed.isSome = true ↔
          (0, .listed) ∈ q.resolution.trace) ∧
        match q.listed with
        | some (.ok l) =>
            let cache := q.resolution.state.cache
            cache.entries.keys ⊆ l.ids ∧
              (∀ k r, cache.entries.get? k = some r →
                r.definition.id = k) ∧
              cache.size ≤ l.ids.dedup.length
        | _ => q.resolution.state = q.before := by
  intro q hq
  have hFollows :
      Follows
        (fun r =>
          r.compile = compile ∧ r.source.listsAll = true)
        {} (history { resolver := ⟨source, compile⟩ } es) :=
    follows_history (s := { resolver := ⟨source, compile⟩ })
      ⟨rfl, hAll⟩
      fun source' hMem r hr => ⟨hr.1, hUpdates source' hMem⟩
  rcases
      hFollows.bounded hCarries ResolverState.bounded_start q hq with
    ⟨hBounded, hPruned, hListing⟩
  unfold Request.Pruned at hPruned
  refine ⟨hListing, ?_⟩
  split
  · rename_i l hListed
    rw [hListed] at hPruned
    rcases hBounded.size_le hPruned with ⟨hKeys, hSize⟩
    exact ⟨hKeys, hBounded.filed, hSize⟩
  · rename_i hOther
    split at hPruned
    · rename_i l hListed
      exact absurd hListed (hOther l)
    · exact hPruned

/- A route is published in place of another one. -/
def replacement : List Event :=
  [.resolve {} none,
    .update
      ((PublishedRoutes.ofList
        [{ id := "a", uri := "lb://blue" }]).publish
          [{ id := "b", uri := "lb://green" }]).source,
    .firstUnless {} (.after 5)]

/- The route that was replaced is gone from the cache. -/
theorem bounded_history_replacement :
    let routes : List RouteDefinition :=
      [{ id := "a", uri := "lb://blue" }]
    let source := (PublishedRoutes.ofList routes).source
    let compile := ResolverGroup.standardCompiler.compile
    Carries compile ∧ source.listsAll = true ∧
      (∀ source', .update source' ∈ replacement →
        source'.listsAll = true) ∧
      ∃ q ∈ history { resolver := ⟨source, compile⟩ }
          replacement,
        q.before.cache.entries.keys = ["a"] ∧
          q.listed =
            some (.ok ⟨1, [{ id := "b", uri := "lb://green" }]⟩) ∧
          q.resolution.state.cache.entries.keys ⊆ ["b"] ∧
          q.resolution.state.cache.size ≤ 1 := by
  intro routes source compile
  have hCarries : Carries compile :=
    ResolverGroup.standardCompiler.carries_compile
  have hUpdates :
      ∀ source', .update source' ∈ replacement →
        source'.listsAll = true := by
    intro source' hMem
    simp only [replacement, List.mem_cons, reduceCtorEq,
      Event.update.injEq, List.not_mem_nil, or_false,
      false_or] at hMem
    rw [hMem]
    rfl
  have hAll : source.listsAll = true := rfl
  have hBounded := bounded_history hCarries hAll hUpdates
  refine ⟨hCarries, hAll, hUpdates, ?_⟩
  have hHistory :
      history { resolver := ⟨source, compile⟩ } replacement =
        [_, _] := rfl
  rw [hHistory] at hBounded ⊢
  have hLast :=
    (hBounded _ (List.mem_cons_of_mem _ List.mem_cons_self)).2
  refine
    ⟨_, List.mem_cons_of_mem _ List.mem_cons_self, ?_, rfl,
      hLast.1, hLast.2.2⟩
  decide +kernel

end ResolverSession

end Signpost
