import Signpost.Resolve.Walk

/-
  This file defines how the routes for a request are found.

  The source is listed, the cache is cleared of what is no
  longer listed, and the candidates are tried.  If the
  source fails there are no candidates.  If no routes are
  wanted not even the source is listed.

  Key definitions include:
    * `Resolver`
    * `ResolverState`
    * `Resolution`
    * `Resolver.take`
    * `Resolver.all`
    * `Resolver.first`
    * `Cancellation`
    * `Resolver.firstUnless`
-/

namespace Signpost

------------------------------------------------------------
-- Resolvers
------------------------------------------------------------

/- Where definitions come from and how they are compiled. -/
structure Resolver where
  source : RouteSource
  compile : RouteDefinition → Except CompilationError Route

/-
  What is remembered between requests: the compiled routes,
  and the listing that the cache was last cleared for.
-/
structure ResolverState where
  cache : RouteCache := {}
  pruned : Option Listing := none

/- What resolving a request comes to. -/
structure Resolution where
  state : ResolverState
  found : List CompiledRoute := []
  trace : Trace := []
  finish : Option Nat := some 0

namespace ResolverState

/- Forget the routes that are not listed any more. -/
def prune (l : Listing) (s : ResolverState) : ResolverState :=
  if s.pruned = some l then s
  else ⟨s.cache.retain l.ids, some l⟩

/- Forget what is not listed if all definitions are. -/
def pruneFor
    (source : RouteSource)
    (l : Listing)
    (s : ResolverState) : ResolverState :=
  if source.listsAll then s.prune l else s

end ResolverState

------------------------------------------------------------
-- Resolution
------------------------------------------------------------

namespace Resolver

/- The line about a source that failed. -/
def listingLine (x : Exchange) (e : GatewayError) : LogLine :=
  .routingError
    ("fail to list route definitions for " ++ x.path ++ ": " ++
      e.text)

/- Try candidates after the source was listed. -/
def resolveListing
    (r : Resolver)
    (x : Exchange)
    (deadline : Option Nat)
    (wanted : Nat)
    (l : Listing)
    (s : ResolverState) : Resolution :=
  let s := s.pruneFor r.source l
  let candidates := Candidates.ofList l.routes
  let lines := candidates.lines.map fun l => (0, Effect.logged l)
  let w :=
    walk r.compile x deadline candidates.kept wanted 0 s.cache
  { state := { s with cache := w.cache }
    found := w.found
    trace := (0, .listed) :: lines ++ w.trace
    finish := w.finish }

/- The source failed, so there is nothing to try. -/
def unlisted
    (x : Exchange)
    (e : GatewayError)
    (s : ResolverState) : Resolution :=
  { state := s
    trace := [(0, .listed), (0, .logged (listingLine x e))] }

/-
  Find all routes, or up to a number, and stop once a
  deadline has passed.
-/
def resolve
    (r : Resolver)
    (x : Exchange)
    (deadline : Option Nat)
    (wanted : Option Nat)
    (s : ResolverState) : Resolution :=
  if wanted = some 0 then { state := s }
  else
    match r.source.list x with
    | .error e => unlisted x e s
    | .ok l =>
        r.resolveListing x deadline
          (wanted.getD l.routes.length) l s

/- Find up to a number of routes. -/
def take
    (r : Resolver)
    (x : Exchange)
    (wanted : Nat)
    (s : ResolverState) : Resolution :=
  r.resolve x none (some wanted) s

/- Find all routes. -/
def all
    (r : Resolver)
    (x : Exchange)
    (s : ResolverState) : Resolution :=
  r.resolve x none none s

/- Find the first route. -/
def first
    (r : Resolver)
    (x : Exchange)
    (s : ResolverState) : Resolution :=
  r.take x 1 s

------------------------------------------------------------
-- Cancellation
------------------------------------------------------------

end Resolver

/- When the wish for an answer is taken back. -/
inductive Cancellation where
| never
| before
| after (ms : Nat)
deriving DecidableEq, Repr

/- The time from which on there is no answer any more. -/
def Cancellation.deadline : Cancellation → Option Nat
| .after ms => some ms
| _ => none

namespace Resolver

/- The request was cancelled before a route was found. -/
def cancelled (x : Exchange) : GatewayError :=
  { code := .resolveCancelled
    message :=
      "route resolution for " ++ x.method.name ++ " " ++
        x.path ++ " cancelled" }

/- The answer of a resolution that a deadline may cut off. -/
def answer
    (x : Exchange)
    (n : Resolution) :
    Except GatewayError (Option CompiledRoute) :=
  match n.finish with
  | some _ => .ok n.found.head?
  | none => .error (cancelled x)

/-
  Find the first route unless the request is cancelled.  A
  request that was cancelled before has no effects at all.
-/
def firstUnless
    (r : Resolver)
    (x : Exchange)
    (c : Cancellation)
    (s : ResolverState) :
    Resolution × Except GatewayError (Option CompiledRoute) :=
  match c with
  | .before =>
      ({ state := s, finish := none }, .error (cancelled x))
  | _ =>
      let n := r.resolve x c.deadline (some 1) s
      (n, answer x n)

end Resolver

end Signpost
