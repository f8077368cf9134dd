import Signpost.Proofs.Route.Compilation
import Signpost.Route.Cache

/-
  What the cache of compiled routes hands out, and when this
  is what compiling would give.

  Main declarations:
    * `RouteCache.hit?_eq_some_iff`
    * `RouteCache.Honest` and `RouteCache.route_fetch`
    * `RouteCache.Carries`
    * `RouteCache.Coherent` and `RouteCache.Coherent.fetch`
    * `RouteCompiler.carries_compile`
-/

namespace Signpost

open Text

namespace RouteCache

variable {compile :
  RouteDefinition → Except CompilationError Route}
variable {c : RouteCache}
variable {d : RouteDefinition}
variable {r : CompiledRoute}

------------------------------------------------------------
-- Looking Up
------------------------------------------------------------

/-
  A route is used again if it is held under the name of the
  definition and was made from exactly that definition.
-/
theorem hit?_eq_some_iff :
    c.hit? d = some r ↔
      c.entries.get? d.id = some r ∧ r.definition = d := by
  simp [hit?, Option.filter_eq_some_iff]

theorem hit?_eq_none_of_get?_eq_none
    (hGet : c.entries.get? d.id = none) :
    c.hit? d = none := by
  simp [hit?, hGet]

/- A hit changes nothing. -/
theorem fetch_of_hit
    (hHit : c.hit? d = some r) :
    c.fetch compile d = (c, .ok r) := by
  simp [fetch, hHit]

/- A failed compilation is counted, and that is all. -/
theorem fetch_of_error
    {e : CompilationError}
    (hMiss : c.hit? d = none)
    (hCompile : compile d = .error e) :
    c.fetch compile d =
      (⟨c.entries, c.compilations + 1⟩, .error e) := by
  simp [fetch, hMiss, hCompile]

/- A new route takes the place under its name. -/
theorem fetch_of_ok
    {route : Route}
    (hMiss : c.hit? d = none)
    (hCompile : compile d = .ok route) :
    c.fetch compile d =
      (⟨c.entries.insert d.id ⟨c.compilations, route⟩,
          c.compilations + 1⟩,
        .ok ⟨c.compilations, route⟩) := by
  simp [fetch, hMiss, hCompile]

/- Fetching leaves the routes of other names alone. -/
theorem get?_fetch_of_ne
    {k : String}
    (hName : k ≠ d.id) :
    (c.fetch compile d).1.entries.get? k =
      c.entries.get? k := by
  cases hHit : c.hit? d with
  | some r => rw [fetch_of_hit hHit]
  | none =>
      cases hCompile : compile d with
      | error e => rw [fetch_of_error hHit hCompile]
      | ok route =>
          rw [fetch_of_ok hHit hCompile]
          exact c.entries.get?_insert_of_ne hName _

------------------------------------------------------------
-- Honest Hits
------------------------------------------------------------

/-
  What is held for a definition, if anything, is what
  compiling it would give.
-/
def Honest
    (compile :
      RouteDefinition → Except CompilationError Route)
    (c : RouteCache)
    (d : RouteDefinition) : Prop :=
  ∀ r, c.hit? d = some r → compile d = .ok r.route

/- Nothing that is held is nothing wrong. -/
theorem honest_of_get?_eq_none
    (hGet : c.entries.get? d.id = none) :
    Honest compile c d := by
  intro r hHit
  rw [hit?_eq_none_of_get?_eq_none hGet] at hHit
  exact absurd hHit (by simp)

/- An honest cache hands out what compiling gives. -/
theorem route_fetch
    (hHonest : Honest compile c d) :
    (c.fetch compile d).2.map CompiledRoute.route =
      compile d := by
  cases hHit : c.hit? d with
  | some r =>
      rw [fetch_of_hit hHit, hHonest r hHit]
      rfl
  | none =>
      cases hCompile : compile d with
      | error e =>
          rw [fetch_of_error hHit hCompile]
          rfl
      | ok route =>
          rw [fetch_of_ok hHit hCompile]
          rfl

/- Fetching is harmless to definitions of other names. -/
theorem Honest.fetch
    {d' : RouteDefinition}
    (hHonest : Honest compile c d')
    (hName : d'.id ≠ d.id) :
    Honest compile (c.fetch compile d).1 d' := by
  intro r hHit
  apply hHonest r
  rw [hit?_eq_some_iff] at hHit ⊢
  rwa [get?_fetch_of_ne hName] at hHit

------------------------------------------------------------
-- Coherent Caches
------------------------------------------------------------

/-
  Routes carry the definition they were compiled from, which
  is all that a cache knows them by.
-/
def Carries
    (compile :
      RouteDefinition → Except CompilationError Route) :
    Prop :=
  ∀ d route, compile d = .ok route → route.definition = d

/-
  Every route that is held, under whatever name, is what
  compiling its own definition gives.
-/
def Coherent
    (compile :
      RouteDefinition → Except CompilationError Route)
    (c : RouteCache) : Prop :=
  ∀ k r, c.entries.get? k = some r →
    compile r.definition = .ok r.route

theorem coherent_of_empty
    (n : Nat) :
    Coherent compile { compilations := n } := by
  intro k r hGet
  simp at hGet

/- A coherent cache is honest about all definitions. -/
theorem Coherent.honest
    (hCoherent : Coherent compile c)
    (d : RouteDefinition) :
    Honest compile c d := by
  intro r hHit
  obtain ⟨hGet, hDefinition⟩ := hit?_eq_some_iff.mp hHit
  rw [← hDefinition]
  exact hCoherent d.id r hGet

/-
  Fetching keeps a cache coherent.  Here the new route has
  to carry its definition.
-/
theorem Coherent.fetch
    (hCarries : Carries compile)
    (hCoherent : Coherent compile c)
    (d : RouteDefinition) :
    Coherent compile (c.fetch compile d).1 := by
  cases hHit : c.hit? d with
  | some r =>
      rw [fetch_of_hit hHit]
      exact hCoherent
  | none =>
      cases hCompile : compile d with
      | error e =>
          rw [fetch_of_error hHit hCompile]
          exact hCoherent
      | ok route =>
          rw [fetch_of_ok hHit hCompile]
          intro k r hGet
          by_cases hName : k = d.id
          · subst hName
            rw [Dict.get?_insert_self] at hGet
            cases hGet
            rw [CompiledRoute.definition,
              hCarries d route hCompile]
            exact hCompile
          · rw [Dict.get?_insert_of_ne _ hName] at hGet
            exact hCoherent k r hGet

/- Forgetting routes keeps a cache coherent. -/
theorem Coherent.retain
    (hCoherent : Coherent compile c)
    (ids : List String) :
    Coherent compile (c.retain ids) := by
  intro k r hGet
  rw [RouteCache.retain, Dict.get?_keep] at hGet
  split at hGet
  · exact hCoherent k r hGet
  · cases hGet

theorem Coherent.invalidate
    (hCoherent : Coherent compile c)
    (id : String) :
    Coherent compile (c.invalidate id) := by
  intro k r hGet
  rw [RouteCache.invalidate, Dict.get?_erase] at hGet
  split at hGet
  · cases hGet
  · exact hCoherent k r hGet

theorem coherent_clear :
    Coherent compile c.clear :=
  coherent_of_empty c.compilations

end RouteCache

------------------------------------------------------------
-- The Compiler
------------------------------------------------------------

/- Compiled routes carry their definition. -/
theorem RouteCompiler.carries_compile
    (c : RouteCompiler) :
    RouteCache.Carries c.compile := by
  intro d route hCompile
  exact ((c.compile_eq_ok_iff d).mp hCompile).1

end Signpost
