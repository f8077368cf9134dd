import Signpost.Balance.Selector
import Signpost.Config.Basic
import Signpost.Gateway.Target
import Signpost.Predicate.Standard
import Signpost.Resolve.Basic
import Signpost.Source.Hosts

/-
  This file defines gateways, which find the route for a
  request, an instance to serve it, and where to send it.

  A gateway is made of a configuration and of what can be
  plugged in.  An instance is selected as soon as a route to
  a service is found, so its turn is taken even if there is
  no url for it.

  Key definitions include:
    * `Extensions`
    * `Gateway`
    * `Gateway.start`
    * `Gateway.route`
    * `Gateway.routes`
-/

namespace Signpost

------------------------------------------------------------
-- Gateways
------------------------------------------------------------

/-
  What is plugged into a gateway: predicates, filters and
  policies by name, and a source to use in place of the
  configured routes.
-/
structure Extensions where
  predicates : Registry PredicateFactory := standardPredicates
  filters : Registry FilterFactory := .empty
  policies : Registry Balancer := standardPolicies
  source : Option RouteSource := none

/- A gateway and all that it remembers between requests. -/
structure Gateway where
  configuration : Configuration
  resolver : Resolver
  state : ResolverState := {}
  selector : InstanceSelector

/- Where a request goes, by which route, to which instance. -/
structure Forward where
  route : CompiledRoute
  chosen : Option ServiceInstance
  target : Url

namespace Configuration

/- The source of the configured routes. -/
def source (c : Configuration) : RouteSource :=
  if c.hostRoutes.isEmpty then .fixed c.routes
  else (HostTable.ofList c.hostRoutes.toList c.routes).source

/- The compiler of the configured routes. -/
def compiler
    (c : Configuration)
    (e : Extensions) : RouteCompiler :=
  { predicates := e.predicates
    filters := e.filters
    timeout := c.predicateTimeout
    defaultFilters := c.defaultFilters }

end Configuration

namespace Gateway

/-
  Start a gateway, if there is a balancer for its policy.
  There is a line for each configured instance that is
  dropped.
-/
def start
    (e : Extensions)
    (c : Configuration) :
    Except GatewayError (Gateway × List LogLine) := do
  let balancer ← newBalancer e.policies c.policy
  let (configured, lines) := InstanceTable.ofDict c.services
  let g : Gateway :=
    { configuration := c
      resolver :=
        { source := e.source.getD c.source
          compile := (c.compiler e).compile }
      selector := { configured, balancer } }
  return (g, lines)

------------------------------------------------------------
-- Requests
------------------------------------------------------------

/- Select an instance of a service. -/
def select
    (service : String)
    (g : Gateway) :
    Gateway × Except GatewayError ServiceInstance :=
  let (selector, r) := g.selector.select service
  ({ g with selector }, r)

/- Select an instance, if a route leads to a service. -/
def selectFor
    (d : Destination)
    (g : Gateway) :
    Gateway × Except GatewayError (Option ServiceInstance) :=
  match d.service? with
  | none => (g, .ok none)
  | some service =>
      let (g, r) := g.select service
      (g, r.map some)

/- Forward a request by a route that was found for it. -/
def forward
    (r : CompiledRoute)
    (x : Exchange)
    (g : Gateway) : Gateway × Except GatewayError Forward :=
  let d := r.route.destination
  match g.selectFor d with
  | (g, .error e) => (g, .error e)
  | (g, .ok i) =>
      (g, (d.target i x).map fun target => ⟨r, i, target⟩)

/-
  Find where a request goes, if there is a route for it, and
  unless the request is cancelled.
-/
def route
    (x : Exchange)
    (c : Cancellation)
    (g : Gateway) :
    Gateway × Trace × Except GatewayError (Option Forward) :=
  let (n, answer) := g.resolver.firstUnless x c g.state
  let g := { g with state := n.state }
  match answer with
  | .error e => (g, n.trace, .error e)
  | .ok none => (g, n.trace, .ok none)
  | .ok (some r) =>
      let (g, f) := g.forward r x
      (g, n.trace, f.map some)

/- Find all routes for a request, without taking a turn. -/
def routes
    (x : Exchange)
    (g : Gateway) : Gateway × Resolution :=
  let n := g.resolver.all x g.state
  ({ g with state := n.state }, n)

------------------------------------------------------------
-- Changes
------------------------------------------------------------

/- Set the discovered instances of a service. -/
def update
    (service : String)
    (is : List ServiceInstance)
    (g : Gateway) : Gateway × List LogLine :=
  let (selector, lines) := g.selector.update service is
  ({ g with selector }, lines)

/- Forget the discovered instances of a service. -/
def remove (service : String) (g : Gateway) : Gateway :=
  { g with selector := g.selector.remove service }

/- Let routes come from a source as it is now. -/
def setSource (source : RouteSource) (g : Gateway) : Gateway :=
  { g with resolver := { g.resolver with source } }

end Gateway

end Signpost
