import Signpost.Log
import Signpost.Source.Basic

/-
  This file defines the source that loads its definitions
  again and again, once in every interval.

  A load that fails leaves the definitions of the last one
  that did not.  Loading at will does not move the times of
  the other loads, and there are none after a stop.

  Key definitions include:
    * `RouteLoader`
    * `PolledRoutes`
    * `PolledRoutes.start`
    * `PolledRoutes.advance`
    * `PolledRoutes.refresh`
    * `PolledRoutes.stop`
-/

namespace Signpost

------------------------------------------------------------
-- Loaders
------------------------------------------------------------

/- What each load gives, counted from zero. -/
abbrev RouteLoader :=
  Nat → Except GatewayError (List RouteDefinition)

------------------------------------------------------------
-- Polled Routes
------------------------------------------------------------

/-
  The state of a source that loads its definitions: the
  milliseconds between loads and since the last one that was
  due, the number of loads so far, and what they left.
-/
structure PolledRoutes where
  interval : Nat
  waited : Nat := 0
  running : Bool := true
  loads : Nat := 0
  published : PublishedRoutes := {}

namespace PolledRoutes

/- The line about a load that failed. -/
def failureLine (count : Nat) (e : GatewayError) : LogLine :=
  .routingError
    ("reload route definitions fail, keep previous " ++
      toString count ++ " routes: " ++ e.text)

/-
  Load once: the definitions that are left, the line if this
  fails, and whether it went well.
-/
def load
    (loader : RouteLoader)
    (p : PolledRoutes) : PolledRoutes × List LogLine × Bool :=
  let next := { p with loads := p.loads + 1 }
  match loader p.loads with
  | .ok routes =>
      ({ next with published := p.published.publish routes },
        [], true)
  | .error e =>
      (next, [failureLine p.published.current.length e], false)

/- Load several times. -/
def loadTimes
    (loader : RouteLoader) :
    Nat → PolledRoutes → PolledRoutes × List LogLine
| 0, p => (p, [])
| n + 1, p =>
    let (q, first, _) := p.load loader
    let (r, others) := loadTimes loader n q
    (r, first ++ others)

/- Start with a first load. -/
def start
    (loader : RouteLoader)
    (interval : Nat) : PolledRoutes × List LogLine :=
  let (p, lines, _) := load loader { interval }
  (p, lines)

/- Let milliseconds go by, with the loads that fall due. -/
def advance
    (loader : RouteLoader)
    (ms : Nat)
    (p : PolledRoutes) : PolledRoutes × List LogLine :=
  if p.running then
    let time := p.waited + ms
    loadTimes loader (time / p.interval)
      { p with waited := time % p.interval }
  else (p, [])

/- Load now; the answer says whether that went well. -/
def refresh
    (loader : RouteLoader)
    (p : PolledRoutes) : PolledRoutes × List LogLine × Bool :=
  p.load loader

/- Load no more at intervals. -/
def stop (p : PolledRoutes) : PolledRoutes :=
  { p with running := false }

/- The definitions of the last load that did not fail. -/
def current (p : PolledRoutes) : List RouteDefinition :=
  p.published.current

/- The source that lists the current definitions. -/
def source (p : PolledRoutes) : RouteSource :=
  p.published.source

end PolledRoutes

end Signpost
