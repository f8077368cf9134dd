/-
  This file defines service instances: the places that the
  requests for a service can be sent to.

  Key definitions include:
    * `ServiceInstance`
    * `ServiceInstance.address`
    * `ServiceInstance.uri`
-/

namespace Signpost

------------------------------------------------------------
-- Instances
------------------------------------------------------------

/- One place that serves a service, with a name of its own. -/
structure ServiceInstance where
  service : String
  id : String
  host : String
  port : UInt16
  secure : Bool := false
deriving DecidableEq, Repr

namespace ServiceInstance

/- The scheme of the connections to an instance. -/
def scheme (i : ServiceInstance) : String :=
  if i.secure then "https" else "http"

/- The host is in brackets if it has a colon. -/
def bracketedHost (i : ServiceInstance) : String :=
  if i.host.toList.contains ':' then "[" ++ i.host ++ "]"
  else i.host

/- The host and the port of an instance. -/
def address (i : ServiceInstance) : String :=
  i.bracketedHost ++ ":" ++ toString i.port.toNat

/- The uri that requests are sent to. -/
def uri (i : ServiceInstance) : String :=
  i.scheme ++ "://" ++ i.address

end ServiceInstance

end Signpost
