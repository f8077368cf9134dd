import Signpost.Component.Plugin
import Signpost.Instance.Basic

/-
  This file defines balancers, which choose one instance of
  a service for each request.

  Taking turns counts the choices made for each service, so
  that a change of the instances does not begin anew.  If
  there is nothing to choose from no turn is taken.

  The places that are left to chance are drawn by somebody
  else, so a balancer is given all of them, in their order.

  Key definitions include:
    * `Balancer`
    * `Balancer.choose`
    * `Balancer.reset`
    * `policiesWith` and `standardPolicies`
    * `newBalancer`
-/

namespace Signpost

open Text

------------------------------------------------------------
-- Balancers
------------------------------------------------------------

/-
  A balancer: one that takes turns, with the number of
  choices made for each service, and one that leaves it to
  chance, with the places that are drawn for it.
-/
inductive Balancer where
| turns (counts : Dict UInt64)
| chance (draws : Nat → Nat)

namespace Balancer

/- The name of a balancer. -/
def name : Balancer → String
| .turns _ => "roundRobin"
| .chance _ => "random"

/- The instance at a place, counting around. -/
def around
    (place : Nat)
    (is : List ServiceInstance) : Option ServiceInstance :=
  is[place % is.length]?

/- The number of choices made for a service. -/
def count (counts : Dict UInt64) (service : String) : UInt64 :=
  (counts.get? service).getD 0

/- The place that a balancer takes next for a service. -/
def place (service : String) : Balancer → Nat
| .turns counts => (count counts service).toNat
| .chance draws => draws 0

/- A balancer after it has taken a place for a service. -/
def taken (service : String) : Balancer → Balancer
| .turns counts =>
    .turns (counts.insert service (count counts service + 1))
| .chance draws => .chance fun k => draws (k + 1)

/- Choose one of the instances of a service. -/
def choose
    (service : String)
    (is : List ServiceInstance)
    (b : Balancer) :
    Balancer × Except GatewayError ServiceInstance :=
  match around (b.place service) is with
  | some i => (b.taken service, .ok i)
  | none => (b, .error (.noInstances service))

/- Forget all choices that were made. -/
def reset : Balancer → Balancer
| .turns _ => .turns .empty
| .chance draws => .chance draws

end Balancer

------------------------------------------------------------
-- Policies
------------------------------------------------------------

/-
  The balancers that can be asked for, before any choice,
  with the places that are drawn for one of them.
-/
def policiesWith (draws : Nat → Nat) : Registry Balancer :=
  .ofList
    ([.turns .empty, .chance draws].map fun (b : Balancer) =>
      (b.name, b))

/- These balancers, if the first place is drawn always. -/
def standardPolicies : Registry Balancer :=
  policiesWith fun _ => 0

/- A balancer with a name. -/
def newBalancer
    (policies : Registry Balancer)
    (name : String) : Except GatewayError Balancer :=
  match policies.resolve? name with
  | some b => .ok b
  | none => .error (PluginKind.loadBalance.missing name)

end Signpost
