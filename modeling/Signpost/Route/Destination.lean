import Signpost.Route.CompilationError
import Signpost.Text.Blank
import Signpost.Url.Reader

/-
  This file defines where a route sends its requests: to the
  instances of a service, or to a fixed address.

  Key definitions include:
    * `Destination`
    * `Destination.parse`
    * `Destination.service?`
-/

namespace Signpost

open Text

------------------------------------------------------------
-- Destinations
------------------------------------------------------------

/- Where requests go. -/
inductive Destination where
| service (name : String) (uri : Url)
| direct (uri : Url)
deriving DecidableEq, Repr

namespace Destination

/- The scheme of URLs that name a service. -/
def serviceScheme : String := "lb"

/- The URL that a destination is written as. -/
def uri : Destination → Url
| .service _ u => u
| .direct u => u

/- The service whose instances get the requests. -/
def service? : Destination → Option String
| .service name _ => some name
| .direct _ => none

/- Requests are spread over the instances of a service. -/
def isBalanced (d : Destination) : Bool :=
  d.service?.isSome

/- The text of a destination. -/
def text (d : Destination) : String :=
  d.uri.text

/- Read a destination from a text with white space around it. -/
def parse (s : String) : Except DestinationError Destination :=
  let s := trimmed s
  if s.isEmpty then .error .empty
  else
    match Url.parse s with
    | .error e => .error (.malformed e)
    | .ok u =>
        if u.scheme = serviceScheme then
          match u.host? with
          | some name => .ok (.service name u)
          | none => .error (.noService s)
        else .ok (.direct u)

end Destination

end Signpost
