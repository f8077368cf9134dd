import Mathlib
import Signpost.Proofs.Gateway.Address
import Signpost.Proofs.Url.Server

/-
  Which requests are forwarded to a URL that has a host.
  Those by a route to a service or to an address of the web
  are, and those by a route to any other address are if the
  text of its URI names a server.

  Main declarations:
    * `Gateway.Started`
    * `Gateway.Started.compiles`
    * `Gateway.target_host_iff`
-/

namespace Signpost

open RouteCache (Carries Coherent)
open Text

------------------------------------------------------------
-- Gateways That Were Started
------------------------------------------------------------

namespace Gateway

variable {g : Gateway}
variable {x : Exchange}
variable {cancel : Cancellation}
variable {f : Forward}

/-
  A gateway after any requests, cancelled or not, and any
  other actions since it was started.
-/
inductive Started
    (e : Extensions)
    (c : Configuration) : Gateway → Prop where
| start
    {g : Gateway}
    {lines : List LogLine}
    (hStart : Gateway.start e c = .ok (g, lines)) :
    Started e c g
| route
    {g : Gateway}
    (hStarted : Started e c g)
    (x : Exchange)
    (cancel : Cancellation) :
    Started e c (g.route x cancel).1
| perform
    {g : Gateway}
    (hStarted : Started e c g)
    (a : Action) :
    Started e c (g.perform a)

/- All routes that a gateway holds are of its compiler. -/
structure Compiles
    (c : RouteCompiler)
    (g : Gateway) : Prop where
  compile_eq : g.resolver.compile = c.compile
  coherent : Coherent g.resolver.compile g.state.cache

/- Forwarding does not change which routes are held. -/
theorem state_forward
    (r : CompiledRoute)
    (x : Exchange)
    (g : Gateway) :
    (g.forward r x).1.resolver = g.resolver ∧
      (g.forward r x).1.state = g.state := by
  rw [fst_forward]
  cases r.route.destination.service? with
  | none => exact ⟨rfl, rfl⟩
  | some service => exact ⟨rfl, rfl⟩

/- A request leaves what was held when a route was found. -/
theorem state_route
    (x : Exchange)
    (cancel : Cancellation)
    (g : Gateway) :
    (g.route x cancel).1.resolver = g.resolver ∧
      (g.route x cancel).1.state =
        (g.resolver.firstUnless x cancel g.state).1.state := by
  unfold route
  cases hAnswer : g.resolver.firstUnless x cancel g.state with
  | mk n answer =>
      cases answer with
      | error e => exact ⟨rfl, rfl⟩
      | ok found =>
          cases found with
          | none => exact ⟨rfl, rfl⟩
          | some r => exact state_forward r x _

section Compiles

variable {c : RouteCompiler}

theorem Compiles.carries
    (hCompiles : Compiles c g) :
    Carries g.resolver.compile :=
  hCompiles.compile_eq ▸ c.carries_compile

theorem Compiles.route
    (hCompiles : Compiles c g)
    (x : Exchange)
    (cancel : Cancellation) :
    Compiles c (g.route x cancel).1 := by
  rcases state_route x cancel g with ⟨hResolver, hState⟩
  constructor
  · rw [hResolver]
    exact hCompiles.compile_eq
  · rw [hResolver, hState]
    exact
      Resolver.coherent_firstUnless hCompiles.carries x cancel
        hCompiles.coherent

theorem Compiles.routes
    (hCompiles : Compiles c g)
    (x : Exchange) :
    Compiles c (g.routes x).1 :=
  ⟨hCompiles.compile_eq,
    Resolver.coherent_resolve hCompiles.carries x none none
      hCompiles.coherent⟩

theorem Compiles.perform
    (hCompiles : Compiles c g)
    (a : Action) :
    Compiles c (g.perform a) := by
  cases a with
  | route x => exact hCompiles.route x .never
  | routes x => exact hCompiles.routes x
  | _ =>
      -- No other action compiles or forgets a route.
      exact ⟨hCompiles.compile_eq, hCompiles.coherent⟩

/- So at any time there is nothing else in the cache. -/
theorem Started.compiles
    {e : Extensions}
    {c : Configuration}
    (hStarted : Started e c g) :
    Compiles (c.compiler e) g := by
  induction hStarted with
  | start hStart =>
      rcases bind_eq_ok_iff.mp hStart with ⟨balancer, -, hMade⟩
      cases hMade
      exact ⟨rfl, RouteCache.coherent_of_empty 0⟩
  | route _ x cancel ih => exact ih.route x cancel
  | perform _ a ih => exact ih.perform a

/- The destination of a route is read from its definition. -/
theorem Compiles.destination
    (hCompiles : Compiles c g)
    (hRoute : (g.route x cancel).2.2 = .ok (some f)) :
    Destination.parse f.route.route.definition.uri =
      .ok f.route.route.destination := by
  rcases forward_of_route hRoute with
    ⟨found, r, hFirst, hForward⟩
  have hSame : f.route = r := route_of_forward hForward
  rcases
      Resolver.compile_of_firstUnless hCompiles.coherent
        hFirst with
    ⟨d, hCompile⟩
  rw [hCompiles.compile_eq] at hCompile
  rcases (c.compile_eq_ok_iff d).mp hCompile with
    ⟨hDefinition, hParse, -⟩
  rw [hSame, hDefinition]
  exact hParse

end Compiles

------------------------------------------------------------
-- The Host of a Target
------------------------------------------------------------

/- A path and a query do not change the host. -/
theorem host_target
    (u : Url)
    (path : String)
    (query : Option String) :
    ((u.withPath path).withQuery query).host? = u.host? := rfl

/- An instance of a service has a host. -/
theorem host_of_balanced
    {r : CompiledRoute}
    {service : String}
    (hTo : r.route.destination.service? = some service)
    (hForward : (g.forward r x).2 = .ok f) :
    f.target.host?.isSome = true := by
  rcases target_of_forward hTo hForward with
    ⟨i, base, -, hBase, hTarget⟩
  rcases i.special_scheme with ⟨hSpecial, hFile⟩
  rw [← i.scheme_of_parse_uri hBase] at hSpecial hFile
  rw [hTarget, host_target]
  exact Url.host_of_special hBase hSpecial hFile

/-
  Whatever happened to a gateway since it was started, the
  definition of a route that forwards a request is read as a
  URL, and the target has a host if and only if this URL has
  one.  Unless it is that of a file, this is so if and only
  if its scheme is special or its text names a server.
-/
theorem target_host_iff
    {e : Extensions}
    {c : Configuration}
    (hStarted : Started e c g)
    (hRoute : (g.route x cancel).2.2 = .ok (some f)) :
    let uri := trimmed f.route.route.definition.uri
    ∃ u,
      Url.parse uri = .ok u ∧
        (f.target.host?.isSome = true ↔
          u.host?.isSome = true) ∧
        (u.scheme ≠ "file" →
          (f.target.host?.isSome = true ↔
            u.isSpecial = true ∨ Url.serverText uri ≠ [])) := by
  intro uri
  have hRead := hStarted.compiles.destination hRoute
  rcases Destination.url_of_parse hRead with
    ⟨hParse, hService⟩
  rcases forward_of_route hRoute with
    ⟨found, r, -, hForward⟩
  have hSame : f.route = r := route_of_forward hForward
  have hHost :
      f.target.host?.isSome = true ↔
        f.route.route.destination.uri.host?.isSome = true := by
    cases hTo : r.route.destination.service? with
    | none =>
        rw [forward_of_direct hTo] at hForward
        cases hForward
        rw [host_target]
    | some service =>
        rw [hSame] at hService ⊢
        simp [host_of_balanced hTo hForward,
          hService service hTo]
  refine ⟨_, hParse, hHost, ?_⟩
  intro hFile
  rw [hHost]
  exact Url.host_isSome_iff hParse hFile

theorem started_filesGateway :
    Started {} filesConfiguration filesGateway :=
  .start (start_of_turns rfl)

/- The instances of a service have a host. -/
theorem target_host_iff_files :
    let x := requestFor "/public/a.txt" none
    ∃ f, (filesGateway.route x .never).2.2 = .ok (some f) ∧
      f.route.route.definition.uri = "lb://files" ∧
      f.target.host?.isSome = true := by
  intro x
  have hFound :
      (filesGateway.forwarded? x).map
          (fun f => f.route.route.definition.uri) =
        some "lb://files" := by
    decide +kernel
  rcases Option.map_eq_some_iff.mp hFound with
    ⟨f, hForwarded, hUri⟩
  have hRoute := route_of_forwarded? hForwarded
  have hService :
      (Url.parse (trimmed "lb://files")).map Url.scheme =
          .ok "lb" ∧
        Url.serverText (trimmed "lb://files") ≠ [] := by
    decide +kernel
  rcases target_host_iff started_filesGateway hRoute with
    ⟨u, hParse, -, hHost⟩
  rw [hUri] at hParse hHost
  rw [hParse] at hService
  have hScheme : u.scheme = "lb" := Except.ok.inj hService.1
  refine
    ⟨f, hRoute, hUri,
      (hHost (by rw [hScheme]; decide)).mpr (.inr hService.2)⟩

/- A route to a host and a port without a scheme. -/
def bareConfiguration : Configuration :=
  { routes :=
      [{ id := "red"
         uri := "web:8080"
         predicates :=
           [{ name := "Path"
              args :=
                ComponentSpec.numberedArguments
                  ["/red/**"] }] }] }

/- The gateway that it starts. -/
def bareGateway : Gateway := fresh {} bareConfiguration

/-
  The host is read as a scheme and the port as a path, so
  there is a route, but the target of its requests has no
  host.
-/
theorem target_host_bare :
    start {} bareConfiguration = .ok (bareGateway, []) ∧
      ∃ x f,
        Http.Uri.parse? "/red/1" = some x.uri ∧
          (bareGateway.route x .never).2.2 = .ok (some f) ∧
          f.target.text = "web:%2Fred/1" ∧
          f.target.host? = none := by
  have hFound :
      (bareGateway.forwarded? (requestFor "/red/1" none)).map
          (fun f => (f.target.text, f.target.host?)) =
        some ("web:%2Fred/1", none) := by
    decide +kernel
  rcases Option.map_eq_some_iff.mp hFound with
    ⟨f, hForwarded, hTarget⟩
  rcases Prod.mk.inj hTarget with ⟨hText, hHost⟩
  exact
    ⟨rfl, requestFor "/red/1" none, f, by decide +kernel,
      route_of_forwarded? hForwarded, hText, hHost⟩

end Gateway

end Signpost
