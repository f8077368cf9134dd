import Signpost.Exchange
import Signpost.Instance.Basic
import Signpost.Route.Destination
import Signpost.Url.Reader

/-
  This file defines the url that a request is forwarded to.

  It is that of an instance, or that of the destination if
  no instance was selected, with the path and the query of
  the request.

  Key definitions include:
    * `ServiceInstance.url`
    * `Destination.target`
-/

namespace Signpost

------------------------------------------------------------
-- Targets
------------------------------------------------------------

/- An instance whose address makes no url. -/
def ServiceInstance.invalidAddress
    (i : ServiceInstance)
    (e : UrlError) : GatewayError :=
  { code := .internalError
    message :=
      "instance " ++ i.id ++ " has invalid address: " ++
        e.message }

/- The url of an instance. -/
def ServiceInstance.url
    (i : ServiceInstance) : Except GatewayError Url :=
  (Url.parse i.uri).mapError i.invalidAddress

namespace Destination

/- The url of an instance, or that of the destination. -/
def base
    (d : Destination) :
    Option ServiceInstance → Except GatewayError Url
| some i => i.url
| none => .ok d.uri

/- The url that a request is forwarded to. -/
def target
    (d : Destination)
    (i : Option ServiceInstance)
    (x : Exchange) : Except GatewayError Url :=
  (d.base i).map fun u =>
    (u.withPath x.path).withQuery x.query?

end Destination

end Signpost
