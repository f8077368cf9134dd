import Signpost.Predicate.Basic
import Signpost.Route.CompilationError

/-
  This file defines the predicates of a route together.

  They are evaluated from left to right, one at a time, up
  to the first one that does not hold.  A predicate that
  takes longer than the timeout counts as failed.

  Key definitions include:
    * `Trial`
    * `Conjunction`
    * `Conjunction.test`
    * `Conjunction.text`
    * `Conjunction.compile`
-/

namespace Signpost

------------------------------------------------------------
-- Trials
------------------------------------------------------------

/-
  What testing a request gave, how many milliseconds it
  took, and which predicates were started, each with the
  time of its start.
-/
structure Trial where
  verdict : Except EvaluationError Bool
  elapsed : Nat
  started : List (Nat × String)

namespace Trial

/- A trial that is preceded by a predicate that held. -/
def after
    (name : String)
    (delay : Duration)
    (t : Trial) : Trial :=
  { verdict := t.verdict
    elapsed := delay.millis + t.elapsed
    started :=
      (0, name) ::
        t.started.map fun (n, s) => (delay.millis + n, s) }

end Trial

------------------------------------------------------------
-- Timeouts
------------------------------------------------------------

/- A predicate took longer than it may. -/
def EvaluationError.timedOut
    (name : String)
    (limit : Duration) : EvaluationError :=
  ⟨name, "evaluation timed out after " ++ limit.text⟩

/- An evaluation that fails once the limit has passed. -/
def Evaluation.within
    (name : String)
    (e : Evaluation) : Option Duration → Evaluation
| none => e
| some limit =>
    if e.delay.millis ≤ limit.millis then e
    else ⟨limit, .error (.timedOut name limit)⟩

------------------------------------------------------------
-- Conjunctions
------------------------------------------------------------

/- Predicates that must all hold, and the time each may take. -/
structure Conjunction where
  predicates : List Predicate := []
  timeout : Option Duration := none

namespace Conjunction

/- The conjunction of no predicates, which always holds. -/
def always : Conjunction := {}

/- There are no predicates, so all requests are accepted. -/
def isCatchAll (c : Conjunction) : Bool :=
  c.predicates.isEmpty

/- Test predicates one after the other. -/
def testAll
    (timeout : Option Duration)
    (x : Exchange) : List Predicate → Trial
| [] => ⟨.ok true, 0, []⟩
| p :: ps =>
    let e := (p.evaluate x).within p.name timeout
    match e.outcome with
    | .ok true => (testAll timeout x ps).after p.name e.delay
    | .ok false => ⟨.ok false, e.delay.millis, [(0, p.name)]⟩
    | .error r => ⟨.error r, e.delay.millis, [(0, p.name)]⟩

/- Test a request. -/
def test (c : Conjunction) (x : Exchange) : Trial :=
  testAll c.timeout x c.predicates

/- The names of the predicates with a conjunction sign. -/
def text (c : Conjunction) : String :=
  if c.isCatchAll then "Always"
  else Text.joined " && " (c.predicates.map Predicate.name)

------------------------------------------------------------
-- Compilation
------------------------------------------------------------

/- Make the predicates that specifications ask for. -/
def compile
    (registry : Registry PredicateFactory)
    (timeout : Option Duration)
    (route : String)
    (specs : List ComponentSpec) :
    Except CompilationError Conjunction :=
  (components .predicate registry route specs).map
    fun predicates => { predicates, timeout }

end Conjunction

end Signpost
