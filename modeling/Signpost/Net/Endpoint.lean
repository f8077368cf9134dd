import Signpost.Net.Ipv6

/-
  This file defines the endpoints of connections: an address
  and a port.

  Key definitions include:
    * `Endpoint`
    * `Endpoint.parse?`
    * `Endpoint.text`
-/

namespace Signpost

open Text

------------------------------------------------------------
-- Endpoints
------------------------------------------------------------

/-
  An address with a port.  An address of version six may
  have the number of the zone that it belongs to.
-/
inductive Endpoint where
| v4 (address : Ipv4) (port : UInt16)
| v6 (address : Ipv6) (zone : UInt32) (port : UInt16)
deriving DecidableEq, Repr

namespace Endpoint

/- One or more decimal digits of at most the limit. -/
def number?
    (limit : Nat)
    (cs : List Char) : Option Nat :=
  if cs.isEmpty then none
  else (readDigits 10 limit .tooLarge 0 cs).toOption

/- A port after its colon. -/
def port? : List Char → Option UInt16
| ':' :: cs => (number? 0xFFFF cs).map .ofNat
| _ => none

/- An address of version six with its zone, if any. -/
def zoned? (cs : List Char) : Option (Ipv6 × UInt32) :=
  match cutList '%' cs with
  | none => (Ipv6.parse? cs).map fun i => (i, 0)
  | some (address, zone) => do
      let i ← Ipv6.parse? address
      let z ← number? 0xFFFFFFFF zone
      return (i, .ofNat z)

/- Read an endpoint. -/
def parse? : List Char → Option Endpoint
| '[' :: cs => do
    let (inner, rest) ← cutList ']' cs
    let (i, z) ← zoned? inner
    return .v6 i z (← port? rest)
| cs => do
    let (address, port) ← cutList ':' cs
    return .v4 (← Ipv4.parse? address)
      (← port? (':' :: port))

/- The text of an endpoint. -/
def text : Endpoint → String
| .v4 i p => i.text ++ ":" ++ toString p.toNat
| .v6 i z p =>
    "[" ++ i.mixedText ++
      (if z = 0 then "" else "%" ++ toString z.toNat) ++
      "]:" ++ toString p.toNat

end Endpoint

end Signpost
