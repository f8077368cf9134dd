import Signpost.Proofs.Gateway.Dispatch
import Signpost.Proofs.Url.Special

/-
  What of a request's path and query is in the target that
  it is forwarded to.

  Main declarations:
    * `ServiceInstance.scheme_of_parse_uri`
    * `ServiceInstance.url_eq_ok_iff`
    * `Gateway.target_of_forward`
    * `Gateway.target_path_iff`
-/

namespace Signpost

open Text

------------------------------------------------------------
-- Instances
------------------------------------------------------------

namespace ServiceInstance

/- The scheme of an instance is special and not of a file. -/
theorem special_scheme
    (i : ServiceInstance) :
    Url.isSpecialScheme i.scheme = true ∧
      i.scheme ≠ "file" := by
  unfold scheme
  cases i.secure with
  | true => decide
  | false => decide

/- The url of an instance has its scheme. -/
theorem scheme_of_parse_uri
    {i : ServiceInstance}
    {u : Url}
    (hParse : Url.parse i.uri = .ok u) :
    u.scheme = i.scheme := by
  have hSpecial := i.special_scheme.1
  have hText :
      i.uri.toList =
        i.scheme.toList ++
          ':' :: ([] ++ ("//" ++ i.address).toList) := by
    simp [uri, String.toList_append]
  rcases Url.significant_special hSpecial [] rfl
      ("//" ++ i.address).toList with
    ⟨kept, hSignificant⟩
  rcases Url.place_of_parse hParse with ⟨rest, hScheme, -⟩
  rw [hText, hSignificant, Url.schemeOf_special hSpecial]
    at hScheme
  exact (congrArg Prod.fst (Option.some.inj hScheme)).symm

/- The url of an instance is what is read from its uri. -/
theorem url_eq_ok_iff
    {i : ServiceInstance}
    {u : Url} :
    i.url = .ok u ↔ Url.parse i.uri = .ok u := by
  unfold url
  cases Url.parse i.uri with
  | error e => simp [Except.mapError]
  | ok v => simp [Except.mapError]

end ServiceInstance

------------------------------------------------------------
-- Targets
------------------------------------------------------------

namespace Gateway

variable {g : Gateway}
variable {x : Exchange}
variable {f : Forward}

/- What is forwarded tells the route that it is by. -/
theorem route_of_forward
    {r : CompiledRoute}
    (hForward : (g.forward r x).2 = .ok f) :
    f.route = r := by
  unfold forward at hForward
  simp only at hForward
  split at hForward
  · cases hForward
  · rcases map_eq_ok_iff.mp hForward with ⟨target, -, rfl⟩
    rfl

/- The target of a request by a route to a service. -/
theorem target_of_forward
    {r : CompiledRoute}
    {service : String}
    (hTo : r.route.destination.service? = some service)
    (hForward : (g.forward r x).2 = .ok f) :
    ∃ (i : ServiceInstance) (base : Url),
      f.chosen = some i ∧
        Url.parse i.uri = .ok base ∧
        f.target =
          (base.withPath x.path).withQuery x.query? := by
  by_cases hNone : g.selector.available service = []
  · rw [forward_of_unavailable hTo hNone] at hForward
    cases hForward
  · rcases forward_of_available hTo hNone x with
      ⟨i, -, hAnswer⟩
    rw [hAnswer] at hForward
    rcases map_eq_ok_iff.mp hForward with
      ⟨base, hBase, rfl⟩
    exact
      ⟨i, base, rfl, ServiceInstance.url_eq_ok_iff.mp hBase,
        rfl⟩

/- An answer comes from forwarding by the route found first. -/
theorem forward_of_route
    {cancel : Cancellation}
    (hRoute : (g.route x cancel).2.2 = .ok (some f)) :
    ∃ (found : Gateway) (r : CompiledRoute),
      (g.resolver.firstUnless x cancel g.state).2 =
          .ok (some r) ∧
        (found.forward r x).2 = .ok f := by
  unfold route at hRoute
  cases hAnswer : g.resolver.firstUnless x cancel g.state with
  | mk n answer =>
      simp only [hAnswer] at hRoute
      split at hRoute
      · cases hRoute
      · cases hRoute
      · rename_i r
        rcases map_eq_ok_iff.mp hRoute with
          ⟨f', hForward, hSome⟩
        cases hSome
        exact ⟨_, r, rfl, hForward⟩

/-
  A request for a service whose path and query are made of
  plain characters is forwarded with its query.  It is
  forwarded with its path if and only if no segment of the
  path is one or two dots.
-/
theorem target_path_iff
    {cancel : Cancellation}
    (hRoute : (g.route x cancel).2.2 = .ok (some f))
    (hBalanced : f.route.route.destination.isBalanced = true)
    (hStart : x.path.toList.head? = some '/')
    (hPath :
      ∀ c ∈ x.path.toList, c = '/' ∨ Url.isUnreserved c = true)
    (hQuery :
      ∀ q, x.query? = some q →
        ∀ c ∈ q.toList,
          Url.isUnreserved c = true ∨ c = '=' ∨ c = '&') :
    f.target.query = x.query? ∧
      (f.target.path.text = x.path ↔
        ∀ segment ∈ x.path.toList.splitOn '/',
          segment ≠ ['.'] ∧ segment ≠ ['.', '.']) := by
  rcases forward_of_route hRoute with
    ⟨found, r, -, hForward⟩
  have hSame : f.route = r := route_of_forward hForward
  rw [Destination.isBalanced, Option.isSome_iff_exists, hSame]
    at hBalanced
  rcases hBalanced with ⟨service, hTo⟩
  rcases target_of_forward hTo hForward with
    ⟨i, base, -, hParse, hTarget⟩
  have hScheme := i.scheme_of_parse_uri hParse
  rcases i.special_scheme with ⟨hSpecial, hFile⟩
  rw [← hScheme] at hSpecial hFile
  rcases Url.path_of_parse hParse hSpecial hFile with
    ⟨ss, hSegments⟩
  rw [hTarget]
  refine ⟨Url.query_withQuery hSpecial hQuery, ?_⟩
  exact
    Url.text_withPath_iff hSpecial hFile hSegments hStart
      hPath

/- A route to some files that are public. -/
def filesConfiguration : Configuration :=
  { routes :=
      [{ id := "public"
         uri := "lb://files"
         predicates :=
           [{ name := "Path"
              args :=
                ComponentSpec.numberedArguments
                  ["/public/**"] }] }]
    services :=
      Dict.empty.insert "files"
        [{ service := "files"
           id := "f1"
           host := "::1"
           port := 8080 }] }

/- The gateway that it starts. -/
def filesGateway : Gateway := fresh {} filesConfiguration

/- A request with a path and, if need be, a query. -/
def requestFor
    (path : String)
    (query : Option String) : Exchange :=
  { uri :=
      { scheme := none, authority := none, path, query } }

/- What is found at last was found. -/
theorem eq_ok_of_join
    {ε α : Type}
    {answer : Except ε (Option α)}
    {a : α}
    (hFound : answer.toOption.join = some a) :
    answer = .ok (some a) := by
  cases answer with
  | error e => simp [Except.toOption] at hFound
  | ok found => simpa [Except.toOption] using hFound

/- What a request is forwarded as, if it is. -/
def forwarded?
    (x : Exchange)
    (g : Gateway) : Option Forward :=
  (g.route x .never).2.2.toOption.join

theorem route_of_forwarded?
    (hForwarded : g.forwarded? x = some f) :
    (g.route x .never).2.2 = .ok (some f) :=
  eq_ok_of_join hForwarded

/- A path without dots is forwarded as it is. -/
theorem target_path_iff_plain :
    let x := requestFor "/public/a.txt" (some "v=1&w")
    ∃ f, (filesGateway.route x .never).2.2 = .ok (some f) ∧
      f.route.route.destination.isBalanced = true ∧
      f.target.query = some "v=1&w" ∧
      f.target.path.text = "/public/a.txt" := by
  intro x
  have hFound :
      (filesGateway.forwarded?
          (requestFor "/public/a.txt" (some "v=1&w"))).map
        (fun f => f.route.route.destination.isBalanced) =
        some true := by
    decide +kernel
  rcases Option.map_eq_some_iff.mp hFound with
    ⟨f, hForwarded, hBalanced⟩
  have hRoute := route_of_forwarded? hForwarded
  have hPath :
      ∀ c ∈ x.path.toList,
        c = '/' ∨ Url.isUnreserved c = true :=
    Url.all_isPathPlain_iff.mp (by decide)
  have hQuery :
      ∀ q, x.query? = some q →
        ∀ c ∈ q.toList,
          Url.isUnreserved c = true ∨ c = '=' ∨ c = '&' := by
    rintro q ⟨⟩
    have hKept :
        "v=1&w".toList.all (fun c =>
          Url.isUnreserved c || c = '=' || c = '&') =
          true := by
      decide
    simpa [or_assoc] using hKept
  have hNoDots :
      (x.path.toList.splitOn '/').all (fun segment =>
        segment ≠ ['.'] && segment ≠ ['.', '.']) = true := by
    decide
  rcases target_path_iff hRoute hBalanced rfl hPath hQuery with
    ⟨hTarget, hText⟩
  exact
    ⟨f, hRoute, hBalanced, hTarget,
      hText.mpr (by simpa using hNoDots)⟩

/-
  A path that leads out of a directory is forwarded as
  another path, although the route was found for it as it
  is, and no route is found for the other path.
-/
theorem target_path_dots :
    start {} filesConfiguration = .ok (filesGateway, []) ∧
      ∃ x f,
        Http.Uri.parse? "/public/../admin" = some x.uri ∧
          (filesGateway.route x .never).2.2 =
            .ok (some f) ∧
          f.route.route.destination.isBalanced = true ∧
          x.path.toList.head? = some '/' ∧
          (∀ c ∈ x.path.toList,
            c = '/' ∨ Url.isUnreserved c = true) ∧
          x.query? = none ∧
          f.target.path.text ≠ x.path ∧
          (filesGateway.route
              (requestFor f.target.path.text none)
              .never).2.2 =
            .ok none := by
  have hFound :
      (filesGateway.forwarded?
          (requestFor "/public/../admin" none)).map
        (fun f =>
          (f.route.route.destination.isBalanced,
            f.target.path.text)) =
        some (true, "/admin") := by
    decide +kernel
  have hNowhere :
      (filesGateway.routes
          (requestFor "/admin" none)).2.found.map
        CompiledRoute.id = [] := by
    decide +kernel
  rcases Option.map_eq_some_iff.mp hFound with
    ⟨f, hForwarded, hFacts⟩
  rcases Prod.mk.inj hFacts with ⟨hBalanced, hPath⟩
  refine
    ⟨rfl, requestFor "/public/../admin" none, f,
      by decide +kernel, route_of_forwarded? hForwarded,
      hBalanced, rfl,
      Url.all_isPathPlain_iff.mp (by decide), rfl, ?_, ?_⟩
  · rw [hPath]
    decide +kernel
  · rw [hPath]
    apply (selector_route _).1
    rw [List.map_eq_nil_iff.mp hNowhere]
    rfl

end Gateway

end Signpost
