import Signpost.Resolve.Candidates

/-
  This file defines how candidates are tried one after the
  other until enough routes are found.

  A candidate is compiled when its turn comes, and then its
  predicates are tested.  A definition that cannot be
  compiled and a predicate that fails leave a line and do
  not match.  Testing takes time, and a deadline may pass
  while it goes on.

  Key definitions include:
    * `Effect`
    * `Visit`
    * `visit`
    * `Walk`
    * `walk`
-/

namespace Signpost

------------------------------------------------------------
-- Effects
------------------------------------------------------------

/- What can be noticed of resolving a request. -/
inductive Effect where
| listed
| compiled (route : String)
| started (predicate : String)
| logged (line : LogLine)
deriving DecidableEq, Repr

/- The line that an effect leaves. -/
def Effect.line? : Effect → Option LogLine
| .logged l => some l
| _ => none

/- Effects with the milliseconds that went by before them. -/
abbrev Trace := List (Nat × Effect)

namespace Trace

/- The lines that are left, in order. -/
def lines (t : Trace) : List LogLine :=
  t.filterMap fun e => e.2.line?

/- The effects up to a time. -/
def upTo (limit : Nat) (t : Trace) : Trace :=
  t.filter fun e => e.1 ≤ limit

/- The number of effects of a kind. -/
def count (p : Effect → Bool) (t : Trace) : Nat :=
  (t.filter fun e => p e.2).length

end Trace

------------------------------------------------------------
-- Visits
------------------------------------------------------------

/-
  What trying one candidate comes to: the cache afterwards,
  what was noticed, when it ended, and the route if it
  matched.
-/
structure Visit where
  cache : RouteCache
  trace : Trace
  finish : Nat
  found : Option CompiledRoute

namespace Visit

/- The line about a definition that cannot be compiled. -/
def brokenLine (id : String) (e : CompilationError) : LogLine :=
  .routingWarn
    ("route definition " ++ id ++
      " will be ignored, definition has invalid configs: " ++
      e.message)

/- The line about a predicate that failed. -/
def failedLine (id : String) (e : EvaluationError) : LogLine :=
  .routingWarn
    ("route " ++ id ++ " treated as not matched, predicate " ++
      "evaluation error: " ++ e.message)

/- The definition is compiled, unless its route is held. -/
def compilation
    (cache : RouteCache)
    (now : Nat)
    (d : RouteDefinition) : Trace :=
  if (cache.hit? d).isSome then [] else [(now, .compiled d.id)]

/- The predicates are tested. -/
def testing (now : Nat) (id : String) (t : Trial) : Trace :=
  let starts := t.started.map fun (n, p) =>
    (now + n, Effect.started p)
  match t.verdict with
  | .ok _ => starts
  | .error e =>
      starts ++
        [(now + t.elapsed, .logged (failedLine id e))]

/- The route, if the request is accepted. -/
def matched
    (r : CompiledRoute)
    (t : Trial) : Option CompiledRoute :=
  match t.verdict with
  | .ok true => some r
  | _ => none

end Visit

/- Try one candidate at some time. -/
def visit
    (compile : RouteDefinition → Except CompilationError Route)
    (x : Exchange)
    (now : Nat)
    (cache : RouteCache)
    (d : RouteDefinition) : Visit :=
  let first := Visit.compilation cache now d
  match cache.fetch compile d with
  | (after, .error e) =>
      { cache := after
        trace :=
          first ++ [(now, .logged (Visit.brokenLine d.id e))]
        finish := now
        found := none }
  | (after, .ok r) =>
      let t := r.route.predicate.test x
      { cache := after
        trace := first ++ Visit.testing now r.id t
        finish := now + t.elapsed
        found := Visit.matched r t }

------------------------------------------------------------
-- Walks
------------------------------------------------------------

/-
  What trying candidates comes to.  There is no finish if
  the deadline passed before.
-/
structure Walk where
  found : List CompiledRoute
  cache : RouteCache
  trace : Trace
  finish : Option Nat

namespace Walk

/- A walk that has ended before it begins. -/
def ended (now : Nat) (cache : RouteCache) : Walk :=
  ⟨[], cache, [], some now⟩

/- A walk that ends with a visit the deadline cuts off. -/
def cut (limit : Nat) (v : Visit) : Walk :=
  ⟨[], v.cache, v.trace.upTo limit, none⟩

/- A walk that follows a visit. -/
def after (v : Visit) (w : Walk) : Walk :=
  { w with
    found := v.found.toList ++ w.found
    trace := v.trace ++ w.trace }

end Walk

/- The deadline that passes before a time. -/
def passed? (deadline : Option Nat) (time : Nat) : Option Nat :=
  deadline.filter fun limit => limit < time

/- Try candidates until a number of routes is found. -/
def walk
    (compile : RouteDefinition → Except CompilationError Route)
    (x : Exchange)
    (deadline : Option Nat) :
    List RouteDefinition → Nat → Nat → RouteCache → Walk
| [], _, now, cache => .ended now cache
| _ :: _, 0, now, cache => .ended now cache
| d :: ds, wanted + 1, now, cache =>
    let v := visit compile x now cache d
    match passed? deadline v.finish with
    | some limit => .cut limit v
    | none =>
        let wanted :=
          if v.found.isSome then wanted else wanted + 1
        (walk compile x deadline ds wanted v.finish
          v.cache).after v

end Signpost
