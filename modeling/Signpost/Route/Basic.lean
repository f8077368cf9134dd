import Signpost.Filter.Basic
import Signpost.Predicate.Conjunction
import Signpost.Route.Definition
import Signpost.Route.Destination

/-
  This file defines routes and how they are compiled from
  their definitions.

  The destination is read first, then the predicates are
  made, then the filters that all routes have, and the
  route's own filters last.  The first part that is wrong
  decides the error.

  Key definitions include:
    * `Route`
    * `RouteCompiler`
    * `RouteCompiler.compile`
-/

namespace Signpost

open Text

------------------------------------------------------------
-- Routes
------------------------------------------------------------

/- A route that is ready for use. -/
structure Route where
  definition : RouteDefinition
  predicate : Conjunction
  filters : FilterChain
  destination : Destination

namespace Route

/- The name of a route. -/
def id (r : Route) : String :=
  r.definition.id

/- The place of a route among the others. -/
def order (r : Route) : Int32 :=
  r.definition.order

/- The text that shows what a route is made of. -/
def text (r : Route) : String :=
  "CompiledRoute \x7b id: " ++ quoted r.id ++
    ", order: " ++ toString r.order.toInt ++
    ", upstream: " ++ quoted r.destination.text ++
    ", predicate: " ++ r.predicate.text ++
    ", filters: " ++ r.filters.text ++ " \x7d"

end Route

------------------------------------------------------------
-- Compilation
------------------------------------------------------------

/-
  What routes are compiled with: the factories that can be
  asked for, the time a predicate may take, and the filters
  that all routes have.
-/
structure RouteCompiler where
  predicates : Registry PredicateFactory
  filters : Registry FilterFactory
  timeout : Option Duration := none
  defaultFilters : List ComponentSpec := []

namespace RouteCompiler

/- Read where a definition sends its requests. -/
def destination
    (d : RouteDefinition) :
    Except CompilationError Destination :=
  match Destination.parse d.uri with
  | .ok t => .ok t
  | .error e => .error ⟨d.id, d.uri, .destination e⟩

/- Compile a definition. -/
def compile
    (c : RouteCompiler)
    (d : RouteDefinition) : Except CompilationError Route := do
  let destination ← destination d
  let predicate ←
    Conjunction.compile c.predicates c.timeout d.id
      d.predicates
  let filters ←
    components .filter c.filters d.id
      (c.defaultFilters ++ d.filters)
  return {
    definition := d
    predicate
    filters := .ofList filters
    destination }

end RouteCompiler

end Signpost
