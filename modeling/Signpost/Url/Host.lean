import Signpost.Net.Ipv6
import Signpost.Url.Domain
import Signpost.Url.Encode
import Signpost.Url.Error

/-
  This file defines the hosts of URLs.

  In a URL with a special scheme a host is a domain in its
  ASCII form or an address, and a domain that ends in a
  number has to be an address of version four.  In any other
  URL a host that is no address is kept as it is written.

  Key definitions include:
    * `Host`
    * `Host.text`
    * `ipv4Number?`
    * `endsInNumber`
    * `Host.parseDomain`
    * `Host.parsePlain`
-/

namespace Signpost

open Text

namespace Url

------------------------------------------------------------
-- Numbers in Addresses
------------------------------------------------------------

/- Some digits of a base as a number, if they are ones. -/
def numberOf? (base : Nat) (cs : List Char) : Option Nat :=
  cs.foldlM
    (fun n c => (digitBelow? base c).map (n * base + ·)) 0

/-
  A number in an address: hexadecimal after `0x`, octal
  after `0`, and decimal otherwise.
-/
def ipv4Number? : List Char → Option Nat
| [] => none
| '0' :: 'x' :: cs => numberOf? 16 cs
| '0' :: 'X' :: cs => numberOf? 16 cs
| '0' :: c :: cs => numberOf? 8 (c :: cs)
| cs => numberOf? 10 cs

/- The parts of a domain, without an empty one at its end. -/
def domainParts (cs : List Char) : List (List Char) :=
  let parts := cs.splitOn '.'
  if 1 < parts.length ∧ parts.getLast? = some [] then
    parts.dropLast
  else parts

/- The last part of a domain is a number. -/
def endsInNumber (cs : List Char) : Bool :=
  match (domainParts cs).getLast? with
  | none => false
  | some last =>
      (!last.isEmpty && last.all Char.isDigit) ||
        (ipv4Number? last).isSome

/-
  The address that some numbers give: one octet each, and
  the last one all octets that are left.
-/
def ipv4OfNumbers? (ns : List Nat) : Option Ipv4 :=
  match ns.reverse with
  | [] => none
  | last :: before =>
      let k := before.length
      if 3 < k || before.any (255 < ·) ||
          Nat.pow 256 (4 - k) ≤ last then none
      else
        some (.ofNat
          (before.reverse.foldl (fun n d => n * 256 + d) 0 *
            Nat.pow 256 (4 - k) + last))

/- The address that a domain spells. -/
def ipv4OfDomain? (cs : List Char) : Option Ipv4 := do
  ipv4OfNumbers? (← (domainParts cs).mapM ipv4Number?)

end Url

------------------------------------------------------------
-- Hosts
------------------------------------------------------------

open Url

/- A host: a name or an address. -/
inductive Host where
| name (text : String)
| v4 (address : Ipv4)
| v6 (address : Ipv6)
deriving DecidableEq, Repr

namespace Host

/- The host that has no characters. -/
def empty : Host := .name ""

/- A host is the one that has no characters. -/
def isEmpty : Host → Bool
| .name s => s.isEmpty
| _ => false

/- The text of a host. -/
def text : Host → String
| .name s => s
| .v4 i => i.text
| .v6 i => "[" ++ i.text ++ "]"

/- Read an address after its opening bracket. -/
def parseBracket (cs : List Char) : Except UrlError Host :=
  if cs.getLast? = some ']' then
    match Ipv6.parse? cs.dropLast with
    | some i => .ok (.v6 i)
    | none => .error .invalidIpv6
  else .error .invalidIpv6

/- Read the host of a URL with a special scheme. -/
def parseDomain : List Char → Except UrlError Host
| '[' :: cs => parseBracket cs
| cs =>
    match domainToAscii? (percentDecode (octetsOf cs)) with
    | none => .error .idna
    | some domain =>
        if domain.isEmpty then .error .emptyHost
        else if endsInNumber domain then
          match ipv4OfDomain? domain with
          | some i => .ok (.v4 i)
          | none => .error .invalidIpv4
        else .ok (.name (String.ofList domain))

/- A character that no host can have. -/
def isForbidden (c : Char) : Bool :=
  "\x00\t\n\r #/:<>?@[\\]^|".toList.contains c

/- Read the host of any other URL. -/
def parsePlain : List Char → Except UrlError Host
| '[' :: cs => parseBracket cs
| cs =>
    if cs.any isForbidden then
      .error .invalidDomainCharacter
    else .ok (.name (encoded isControl cs))

end Host

end Signpost
