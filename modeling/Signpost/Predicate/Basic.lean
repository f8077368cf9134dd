import Signpost.Component.Factory
import Signpost.Duration
import Signpost.Exchange

/-
  This file defines predicates, which a route asks of a
  request, and the factories that make them.

  Evaluating a predicate takes some time and gives a truth
  value or fails.

  Key definitions include:
    * `EvaluationError`
    * `Evaluation`
    * `Predicate`
    * `PredicateFactory`
-/

namespace Signpost

------------------------------------------------------------
-- Evaluations
------------------------------------------------------------

/- A predicate that failed, and why it did. -/
structure EvaluationError where
  predicate : String
  reason : String
deriving DecidableEq, Repr

namespace EvaluationError

/- The wording of an evaluation error. -/
def message (e : EvaluationError) : String :=
  "predicate " ++ e.predicate ++ " failed: " ++ e.reason

/- An evaluation error as an answer of the gateway. -/
def toGatewayError (e : EvaluationError) : GatewayError :=
  { code := .predicateEvalError, message := e.message }

end EvaluationError

/- What a predicate gives, and how long it takes to do so. -/
structure Evaluation where
  delay : Duration
  outcome : Except EvaluationError Bool

/- A truth value that is there at once. -/
def Evaluation.now (b : Bool) : Evaluation :=
  ⟨⟨0⟩, .ok b⟩

------------------------------------------------------------
-- Predicates
------------------------------------------------------------

/- A named question about a request. -/
structure Predicate where
  name : String
  evaluate : Exchange → Evaluation

/- A predicate that always gives an answer at once. -/
def Predicate.immediate
    (name : String)
    (test : Exchange → Bool) : Predicate :=
  ⟨name, fun x => .now (test x)⟩

/- A maker of predicates. -/
abbrev PredicateFactory := Factory Predicate

end Signpost
