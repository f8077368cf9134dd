import Signpost.Route.Basic

/-
  This file defines the cache of compiled routes.

  Under a name the cache holds the last definition that was
  compiled for it, with the route made from it.  A route is
  used again as long as its definition does not change.  A
  definition that cannot be compiled changes nothing.

  Key definitions include:
    * `CompiledRoute`
    * `RouteCache`
    * `RouteCache.fetch`
    * `RouteCache.retain`
-/

namespace Signpost

open Text

------------------------------------------------------------
-- Compiled Routes
------------------------------------------------------------

/-
  A route with the number of the compilation that made it.
  Two compilations never make the same route, even of the
  same definition.
-/
structure CompiledRoute where
  serial : Nat
  route : Route

namespace CompiledRoute

/- The name of a compiled route. -/
def id (r : CompiledRoute) : String :=
  r.route.id

/- What a compiled route was made from. -/
def definition (r : CompiledRoute) : RouteDefinition :=
  r.route.definition

end CompiledRoute

------------------------------------------------------------
-- Caches
------------------------------------------------------------

/-
  Compiled routes by name, and how many compilations were
  asked for, failed ones included.
-/
structure RouteCache where
  entries : Dict CompiledRoute := .empty
  compilations : Nat := 0

namespace RouteCache

/- The number of routes that are held. -/
def size (c : RouteCache) : Nat :=
  c.entries.size

/- No routes are held. -/
def isEmpty (c : RouteCache) : Bool :=
  c.entries.isEmpty

/- The route that is held for exactly this definition. -/
def hit?
    (c : RouteCache)
    (d : RouteDefinition) : Option CompiledRoute :=
  (c.entries.get? d.id).filter fun r => r.definition = d

/- The route of a definition, compiled if need be. -/
def fetch
    (compile : RouteDefinition → Except CompilationError Route)
    (d : RouteDefinition)
    (c : RouteCache) :
    RouteCache × Except CompilationError CompiledRoute :=
  match c.hit? d with
  | some r => (c, .ok r)
  | none =>
      let count := c.compilations + 1
      match compile d with
      | .error e => ({ c with compilations := count }, .error e)
      | .ok route =>
          let r := ⟨c.compilations, route⟩
          (⟨c.entries.insert d.id r, count⟩, .ok r)

/- Forget all routes but those with certain names. -/
def retain (ids : List String) (c : RouteCache) : RouteCache :=
  { c with entries := c.entries.keep fun k => ids.contains k }

/- The number of routes that retaining some names forgets. -/
def evicted (ids : List String) (c : RouteCache) : Nat :=
  c.size - (c.retain ids).size

/- Forget the route with a name. -/
def invalidate (id : String) (c : RouteCache) : RouteCache :=
  { c with entries := c.entries.erase id }

/- Forget all routes. -/
def clear (c : RouteCache) : RouteCache :=
  { c with entries := .empty }

end RouteCache

end Signpost
