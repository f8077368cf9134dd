import Signpost.Gateway.Basic
import Signpost.Proofs.Balance.Selector
import Signpost.Proofs.Failure
import Signpost.Proofs.Resolve.Cancellation

/-
  A gateway forwards a request by the first of the routes
  that it lists for it, and takes a turn of a service only
  when it forwards to one of its instances.

  Main declarations:
    * `Gateway.Action` and `Gateway.run`
    * `Gateway.InService`
    * `Gateway.InService.run`
    * `Gateway.TakesTurn` and `Gateway.Dispatched`
    * `Gateway.forward_of_direct`
    * `Gateway.forward_of_unavailable`
    * `Gateway.forward_of_available`
    * `Gateway.route_in_turn`
-/

namespace Signpost

open RouteCache (Carries Coherent)
open Text

------------------------------------------------------------
-- Instances to Choose From
------------------------------------------------------------

namespace InstanceSelector

/- A service is available if it is discovered or configured. -/
theorem available_eq_nil_iff
    (s : InstanceSelector)
    (service : String) :
    s.available service = [] ↔
      s.discovered.instances service = [] ∧
        s.configured.instances service = [] := by
  unfold available
  cases s.discovered.instances service with
  | nil => simp
  | cons i is => simp

end InstanceSelector

namespace Gateway

variable {g : Gateway}
variable {r : CompiledRoute}

------------------------------------------------------------
-- Forwarding
------------------------------------------------------------

/- A route to a fixed address needs no instance. -/
theorem forward_of_direct
    (hDirect : r.route.destination.service? = none)
    (x : Exchange)
    (g : Gateway) :
    g.forward r x =
      (g,
        .ok
          ⟨r, none,
            (r.route.destination.uri.withPath
              x.path).withQuery x.query?⟩) := by
  simp [forward, selectFor, hDirect, Destination.target,
    Destination.base, Except.map]

/- A route to a service without instances leads nowhere. -/
theorem forward_of_unavailable
    {service : String}
    (hService :
      r.route.destination.service? = some service)
    (hNone : g.selector.available service = [])
    (x : Exchange) :
    g.forward r x = (g, .error (.noInstances service)) := by
  simp [forward, selectFor, hService, select,
    InstanceSelector.select_of_available_eq_nil hNone,
    Except.map]

/-
  A route to a service with instances takes a turn of it, and
  leads to the instance whose turn it is.  The turn is taken
  even if there is no url for this instance.
-/
theorem forward_of_available
    {service : String}
    (hService :
      r.route.destination.service? = some service)
    (hSome : g.selector.available service ≠ [])
    (x : Exchange) :
    ∃ i,
      (g.selector.available service)[
          g.selector.balancer.place service %
            (g.selector.available service).length]? =
          some i ∧
        g.forward r x =
          ({ g with
              selector :=
                { g.selector with
                  balancer :=
                    g.selector.balancer.taken service } },
            i.url.map fun u =>
              ⟨r, some i,
                (u.withPath x.path).withQuery x.query?⟩) := by
  rcases InstanceSelector.select_of_available_ne_nil hSome with
    ⟨i, hPlace, hSelect⟩
  refine ⟨i, hPlace, ?_⟩
  simp only [forward, selectFor, hService, select, hSelect,
    Except.map, Destination.target, Destination.base]
  cases i.url with
  | error e => rfl
  | ok u => rfl

/- Forwarding selects an instance or does nothing. -/
theorem fst_forward
    (r : CompiledRoute)
    (x : Exchange)
    (g : Gateway) :
    (g.forward r x).1 =
      match r.route.destination.service? with
      | none => g
      | some service => (g.select service).1 := by
  cases hTo : r.route.destination.service? with
  | none => simp [forward, selectFor, hTo]
  | some service =>
      cases hSelect : g.select service with
      | mk after answer =>
          cases answer with
          | error e =>
              simp [forward, selectFor, hTo, hSelect, Except.map]
          | ok i =>
              simp [forward, selectFor, hTo, hSelect, Except.map]

------------------------------------------------------------
-- The First Route
------------------------------------------------------------

/- The first route is the first of all routes. -/
theorem found_first_eq
    (x : Exchange)
    (g : Gateway) :
    (g.resolver.first x g.state).found.head? =
      (g.routes x).2.found.head? := by
  have hTake := g.resolver.found_take x 1 g.state
  calc (g.resolver.first x g.state).found.head?
      = ((g.resolver.all x g.state).found.take 1).head? := by
        rw [← hTake]
        rfl
    _ = (g.routes x).2.found.head? := by
        simp [List.head?_take, routes]

/- Without a route a request leads nowhere. -/
theorem route_of_found_eq_none
    {x : Exchange}
    (hNone :
      (g.resolver.first x g.state).found.head? = none) :
    g.route x .never =
      ({ g with state := (g.resolver.first x g.state).state },
        (g.resolver.first x g.state).trace, .ok none) := by
  simp [route, Resolver.firstUnless_never, hNone]

/- With one the request is forwarded by it. -/
theorem route_of_found_eq_some
    {x : Exchange}
    (hSome :
      (g.resolver.first x g.state).found.head? = some r) :
    g.route x .never =
      let found :=
        { g with state := (g.resolver.first x g.state).state }
      ((found.forward r x).1,
        (g.resolver.first x g.state).trace,
        (found.forward r x).2.map some) := by
  simp [route, Resolver.firstUnless_never, hSome]

/- Neither changes how routes are found. -/
theorem resolver_route
    (x : Exchange)
    (g : Gateway) :
    (g.route x .never).1.resolver = g.resolver := by
  cases hRoute : (g.resolver.first x g.state).found.head? with
  | none => rw [route_of_found_eq_none hRoute]
  | some r =>
      rw [route_of_found_eq_some hRoute, fst_forward]
      cases r.route.destination.service? with
      | none => rfl
      | some service => rfl

------------------------------------------------------------
-- Runs of a Gateway
------------------------------------------------------------

/-
  What can happen to a gateway: a request is forwarded, or
  its routes are listed, an instance is selected, the
  instances of one or of all services are discovered, a
  service is forgotten, or new routes are published.
-/
inductive Action where
| route (x : Exchange)
| routes (x : Exchange)
| select (service : String)
| update (service : String) (is : List ServiceInstance)
| remove (service : String)
| replace (services : Dict (List ServiceInstance))
| setSource (source : RouteSource)

/- The gateway after an action. -/
def perform (g : Gateway) : Action → Gateway
| .route x => (g.route x .never).1
| .routes x => (g.routes x).1
| .select service => (g.select service).1
| .update service is => (g.update service is).1
| .remove service => g.remove service
| .replace services =>
    { g with selector := (g.selector.replace services).1 }
| .setSource source => g.setSource source

/- The gateway after some actions. -/
def run (g : Gateway) (as : List Action) : Gateway :=
  as.foldl perform g

/-
  A gateway in service takes turns, still compiles as it did
  at first, and holds nothing that compiling would not give.
-/
structure InService
    (compile :
      RouteDefinition → Except CompilationError Route)
    (g : Gateway) : Prop where
  compile_eq : g.resolver.compile = compile
  coherent : Coherent compile g.state.cache
  turns : ∃ counts, g.selector.balancer = .turns counts

section Run

variable {compile :
  RouteDefinition → Except CompilationError Route}

/- A choice leaves a balancer that takes turns one. -/
theorem InService.choose
    (hService : InService compile g)
    (service : String)
    (is : List ServiceInstance) :
    ∃ counts,
      (g.selector.balancer.choose service is).1 =
        .turns counts := by
  rcases hService.turns with ⟨counts, hTurns⟩
  rw [hTurns, Balancer.choose]
  split
  · exact ⟨_, rfl⟩
  · exact ⟨counts, rfl⟩

theorem InService.select
    (hService : InService compile g)
    (service : String) :
    InService compile (g.select service).1 :=
  ⟨hService.compile_eq, hService.coherent,
    hService.choose service (g.selector.available service)⟩

theorem InService.forward
    (hService : InService compile g)
    (r : CompiledRoute)
    (x : Exchange) :
    InService compile (g.forward r x).1 := by
  rw [fst_forward]
  cases r.route.destination.service? with
  | none => exact hService
  | some service => exact hService.select service

/- Finding the first route keeps a gateway in service. -/
theorem InService.first
    (hService : InService compile g)
    (hCarries : Carries compile)
    (x : Exchange) :
    InService compile
      { g with
        state := (g.resolver.first x g.state).state } := by
  rcases hService with ⟨rfl, hCoherent, hTurns⟩
  exact
    ⟨rfl,
      Resolver.coherent_resolve hCarries x none (some 1)
        hCoherent,
      hTurns⟩

theorem InService.route
    (hService : InService compile g)
    (hCarries : Carries compile)
    (x : Exchange) :
    InService compile (g.route x .never).1 := by
  have hFirst := hService.first hCarries x
  cases hRoute : (g.resolver.first x g.state).found.head? with
  | none => rwa [route_of_found_eq_none hRoute]
  | some r =>
      rw [route_of_found_eq_some hRoute]
      exact hFirst.forward r x

/- So does finding all routes. -/
theorem InService.routes
    (hService : InService compile g)
    (hCarries : Carries compile)
    (x : Exchange) :
    InService compile (g.routes x).1 := by
  rcases hService with ⟨rfl, hCoherent, hTurns⟩
  exact
    ⟨rfl,
      Resolver.coherent_resolve hCarries x none none hCoherent,
      hTurns⟩

/- Every action keeps a gateway in service. -/
theorem InService.perform
    (hService : InService compile g)
    (hCarries : Carries compile)
    (a : Action) :
    InService compile (g.perform a) := by
  cases a with
  | route x => exact hService.route hCarries x
  | routes x => exact hService.routes hCarries x
  | select service => exact hService.select service
  | _ =>
      -- No other action finds a route or takes a turn.
      exact
        ⟨hService.compile_eq, hService.coherent,
          hService.turns⟩

/- So does every run. -/
theorem InService.run
    (hService : InService compile g)
    (hCarries : Carries compile)
    (as : List Action) :
    InService compile (g.run as) := by
  induction as generalizing g with
  | nil => exact hService
  | cons a as ih => exact ih (hService.perform hCarries a)

/-
  Gateways in service that resolve alike list the same
  routes, whatever they have been asked before.
-/
theorem InService.routes_eq
    (hService : InService compile g)
    {after : Gateway}
    (hAfter : InService compile after)
    (hResolver : after.resolver = g.resolver)
    (x : Exchange) :
    (after.routes x).2.found.map CompiledRoute.route =
      (g.routes x).2.found.map CompiledRoute.route := by
  rcases hService with ⟨rfl, hCoherent, -⟩
  rcases hAfter with ⟨-, hCoherentAfter, -⟩
  have hObserved :=
    Resolver.observation_of_coherent x none none hCoherent
  have hObservedAfter :=
    Resolver.observation_of_coherent x none none
      hCoherentAfter
  have hFound :=
    congrArg Observation.found
      (hObservedAfter.trans hObserved.symm)
  rw [Gateway.routes, Gateway.routes, hResolver]
  exact hFound

end Run

------------------------------------------------------------
-- Dispatching
------------------------------------------------------------

/- A gateway that takes turns, before any request. -/
def fresh (e : Extensions) (c : Configuration) : Gateway :=
  { configuration := c
    resolver :=
      { source := e.source.getD c.source
        compile := (c.compiler e).compile }
    selector := .fresh c.services }

/- This is how a gateway with such a policy starts. -/
theorem start_of_turns
    {e : Extensions}
    {c : Configuration}
    (hTurns :
      newBalancer e.policies c.policy = .ok (.turns .empty)) :
    start e c =
      .ok (fresh e c, (InstanceTable.ofDict c.services).2) := by
  rw [start, hTurns]
  rfl

theorem inService_fresh
    (e : Extensions)
    (c : Configuration) :
    InService (c.compiler e).compile (fresh e c) :=
  ⟨rfl, RouteCache.coherent_of_empty 0, .empty, rfl⟩

/-
  A selector takes one turn of a service, which is counted,
  and nothing else changes.
-/
def TakesTurn
    (service : String)
    (before after : InstanceSelector) : Prop :=
  ∃ counts counts',
    before.balancer = .turns counts ∧
      after = { before with balancer := .turns counts' } ∧
      ∀ other,
        Balancer.count counts' other =
          if other = service then
            Balancer.count counts service + 1
          else Balancer.count counts other

/- A balancer that takes turns counts them. -/
theorem InService.takesTurn
    {compile :
      RouteDefinition → Except CompilationError Route}
    (hService : InService compile g)
    (service : String) :
    TakesTurn service g.selector
      { g.selector with
        balancer := g.selector.balancer.taken service } := by
  rcases hService.turns with ⟨counts, hTurns⟩
  refine
    ⟨counts, _, hTurns, by rw [hTurns, Balancer.taken], ?_⟩
  exact Balancer.count_taken counts service

/-
  What a request comes to by a route, with the selector
  before and after it is forwarded.  A turn is taken only of
  a service that has an instance, and also if there is no
  url for the instance whose turn it is.
-/
def Dispatched
    (r : CompiledRoute)
    (x : Exchange)
    (before after : InstanceSelector)
    (answer : Except GatewayError (Option Forward)) : Prop :=
  match r.route.destination.service? with
  | none =>
      after = before ∧
        answer =
          .ok
            (some
              ⟨r, none,
                (r.route.destination.uri.withPath
                  x.path).withQuery x.query?⟩)
  | some service =>
      if before.discovered.instances service = [] ∧
          before.configured.instances service = [] then
        after = before ∧
          ∃ e, answer = .error e ∧
            e.code = .noInstancesAvailable ∧
            e.service = some service
      else
        TakesTurn service before after ∧
          ∃ i,
            (before.available service)[
                before.balancer.place service %
                  (before.available service).length]? =
                some i ∧
              answer =
                i.url.map fun u =>
                  some
                    ⟨r, some i,
                      (u.withPath x.path).withQuery
                        x.query?⟩

/- A route that is found dispatches its request. -/
theorem InService.dispatched
    {compile :
      RouteDefinition → Except CompilationError Route}
    (hService : InService compile g)
    (r : CompiledRoute)
    (x : Exchange) :
    Dispatched r x g.selector (g.forward r x).1.selector
      ((g.forward r x).2.map some) := by
  unfold Dispatched
  cases hTo : r.route.destination.service? with
  | none =>
      rw [forward_of_direct hTo]
      exact ⟨rfl, rfl⟩
  | some service =>
      simp only
      split
      · rename_i hNone
        rw [← InstanceSelector.available_eq_nil_iff] at hNone
        rw [forward_of_unavailable hTo hNone]
        exact ⟨rfl, _, rfl, rfl, rfl⟩
      · rename_i hSome
        rw [← InstanceSelector.available_eq_nil_iff] at hSome
        rcases forward_of_available hTo hSome x with
          ⟨i, hPlace, hForward⟩
        rw [hForward]
        refine ⟨hService.takesTurn service, i, hPlace, ?_⟩
        cases i.url with
        | error e => rfl
        | ok u => rfl

/- The first route dispatches a request. -/
theorem InService.dispatched_route
    {compile :
      RouteDefinition → Except CompilationError Route}
    (hService : InService compile g)
    (hCarries : Carries compile)
    {x : Exchange}
    (hSome : (g.routes x).2.found.head? = some r) :
    (g.route x .never).2.2 ≠ .ok none ∧
      Dispatched r x g.selector
        (g.route x .never).1.selector
        (g.route x .never).2.2 := by
  rw [← found_first_eq] at hSome
  rw [route_of_found_eq_some hSome]
  refine ⟨?_, (hService.first hCarries x).dispatched r x⟩
  intro hAnswer
  rcases map_eq_ok_iff.mp hAnswer with ⟨f, -, hNone⟩
  cases hNone

/- Without a first route nothing happens to a request. -/
theorem selector_route
    {x : Exchange}
    (hNone : (g.routes x).2.found.head? = none) :
    (g.route x .never).2.2 = .ok none ∧
      (g.route x .never).1.selector = g.selector := by
  rw [← found_first_eq] at hNone
  rw [route_of_found_eq_none hNone]
  exact ⟨rfl, rfl⟩

/-
  After any run of a gateway that takes turns, finding all
  routes of a request takes no turn.  The request is
  forwarded by the first of these routes, or nowhere if
  there are none.  Finding them again gives the same.
-/
theorem route_in_turn
    {e : Extensions}
    {c : Configuration}
    (hPolicies :
      e.policies.resolve? "roundRobin" =
        some (.turns .empty))
    (hPolicy : c.policy = "roundRobin") :
    ∃ start lines, Gateway.start e c = .ok (start, lines) ∧
      ∀ (as : List Action) (x : Exchange),
        let g := start.run as
        let listed := (g.routes x).2.found
        let after := (g.route x .never).1
        let answer := (g.route x .never).2.2
        (g.routes x).1.selector = g.selector ∧
          (answer = .ok none ↔ listed = []) ∧
          (match listed with
            | [] => after.selector = g.selector
            | r :: _ =>
                Dispatched r x g.selector after.selector
                  answer) ∧
          (after.routes x).2.found.map CompiledRoute.route =
            listed.map CompiledRoute.route := by
  have hTurns :
      newBalancer e.policies c.policy = .ok (.turns .empty) := by
    simp [newBalancer, hPolicy, hPolicies]
  refine ⟨fresh e c, _, start_of_turns hTurns, ?_⟩
  intro as x g listed after answer
  have hCarries : Carries (c.compiler e).compile :=
    (c.compiler e).carries_compile
  have hRun : InService (c.compiler e).compile g :=
    (inService_fresh e c).run hCarries as
  have hAfter : InService (c.compiler e).compile after :=
    hRun.route hCarries x
  have hAgain :=
    hRun.routes_eq hAfter (resolver_route x g) x
  refine ⟨rfl, and_assoc.mp ⟨?_, hAgain⟩⟩
  cases hListed : listed with
  | nil =>
      have hNone : (g.routes x).2.found.head? = none :=
        congrArg List.head? hListed
      rcases selector_route hNone with ⟨hAnswer, hSelector⟩
      exact ⟨iff_of_true hAnswer rfl, hSelector⟩
  | cons r rs =>
      have hSome : (g.routes x).2.found.head? = some r :=
        congrArg List.head? hListed
      rcases hRun.dispatched_route hCarries hSome with
        ⟨hAnswer, hDispatched⟩
      exact
        ⟨iff_of_false hAnswer (List.cons_ne_nil r rs),
          hDispatched⟩

/- A route to a service of one instance. -/
def webConfiguration : Configuration :=
  { routes := [{ id := "web", uri := "lb://web" }]
    services :=
      Dict.empty.insert "web"
        [{ service := "web"
           id := "web-1"
           host := "10.0.0.1"
           port := 8080 }] }

/- The gateway that it starts. -/
def webGateway : Gateway := fresh {} webConfiguration

/- A turn that was taken, and routes that were listed. -/
def webActions : List Action := [.select "web", .routes {}]

/- A request takes another turn after these. -/
theorem route_in_turn_web :
    standardPolicies.resolve? "roundRobin" =
        some (.turns .empty) ∧
      webConfiguration.policy = "roundRobin" ∧
      start {} webConfiguration = .ok (webGateway, []) ∧
      TakesTurn "web" (webGateway.run webActions).selector
        ((webGateway.run webActions).route {}
          .never).1.selector := by
  have hPolicies :
      standardPolicies.resolve? "roundRobin" =
        some (.turns .empty) := by
    rfl
  have hStarted :
      start {} webConfiguration = .ok (webGateway, []) := by
    rfl
  rcases route_in_turn (e := {}) (c := webConfiguration)
      hPolicies rfl with
    ⟨started, lines, hStart, hRuns⟩
  cases hStarted.symm.trans hStart
  refine ⟨hPolicies, rfl, hStarted, ?_⟩
  rcases hRuns webActions {} with ⟨-, -, hDispatched, -⟩
  have hServices :
      ((webGateway.run webActions).routes {}).2.found.map
          (fun r => r.route.destination.service?) =
        [some "web"] := by
    decide +kernel
  have hConfigured :
      (webGateway.run webActions).selector.configured.instances
          "web" ≠ [] := by
    decide +kernel
  cases hListed :
      ((webGateway.run webActions).routes {}).2.found with
  | nil => simp [hListed] at hServices
  | cons r rs =>
      have hTo : r.route.destination.service? = some "web" := by
        rw [hListed] at hServices
        exact (List.cons.inj hServices).1
      simp only [hListed, Dispatched, hTo] at hDispatched
      rw [if_neg (fun hNone => hConfigured hNone.2)]
        at hDispatched
      exact hDispatched.1

end Gateway

end Signpost
