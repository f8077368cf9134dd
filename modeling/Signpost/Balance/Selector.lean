import Signpost.Balance.Balancer
import Signpost.Instance.Table

/-
  This file defines how an instance is selected for a
  service: among those discovered, or else among those
  configured.

  Key definitions include:
    * `InstanceSelector`
    * `InstanceSelector.available`
    * `InstanceSelector.select`
-/

namespace Signpost

------------------------------------------------------------
-- Selectors
------------------------------------------------------------

/- The instances of all services and how one is chosen. -/
structure InstanceSelector where
  discovered : InstanceTable := .empty
  configured : InstanceTable := .empty
  balancer : Balancer

namespace InstanceSelector

/- The instances that a service can be served by. -/
def available
    (s : InstanceSelector)
    (service : String) : List ServiceInstance :=
  match s.discovered.instances service with
  | [] => s.configured.instances service
  | is => is

/- Select an instance of a service. -/
def select
    (service : String)
    (s : InstanceSelector) :
    InstanceSelector × Except GatewayError ServiceInstance :=
  let (balancer, r) :=
    s.balancer.choose service (s.available service)
  ({ s with balancer }, r)

/- Set the discovered instances of a service. -/
def update
    (service : String)
    (is : List ServiceInstance)
    (s : InstanceSelector) : InstanceSelector × List LogLine :=
  let (discovered, lines) := s.discovered.update service is
  ({ s with discovered }, lines)

/- Forget the discovered instances of a service. -/
def remove
    (service : String)
    (s : InstanceSelector) : InstanceSelector :=
  { s with discovered := s.discovered.remove service }

/- Set the discovered instances of all services. -/
def replace
    (services : Text.Dict (List ServiceInstance))
    (s : InstanceSelector) : InstanceSelector × List LogLine :=
  let (discovered, lines) := InstanceTable.ofDict services
  ({ s with discovered }, lines)

/- Forget the choices that were made. -/
def reset (s : InstanceSelector) : InstanceSelector :=
  { s with balancer := s.balancer.reset }

end InstanceSelector

end Signpost
