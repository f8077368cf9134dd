import Signpost.Hash.Sip
import Signpost.Route.Definition
import Signpost.Text.Octets

/-
  This file defines the octets that stand for the content of
  a route definition, and the name made from their hash for
  a definition that has none.

  A text is its octets in UTF-8 and one octet that no text
  contains.  A list and a dictionary are their length before
  their elements.

  Key definitions include:
    * `Fingerprint.ofText`
    * `Fingerprint.ofList`
    * `RouteContent`
    * `RouteContent.octets`
    * `RouteContent.derivedId`
-/

namespace Signpost

open Text

------------------------------------------------------------
-- Octets of Values
------------------------------------------------------------

namespace Fingerprint

/- A whole number in eight octets, the least first. -/
def ofNat (n : Nat) : List UInt8 :=
  Hash.octetsOfNat 8 n

/- A text and an octet that ends it. -/
def ofText (s : String) : List UInt8 :=
  Text.octets s ++ [0xFF]

/- A list after its length. -/
def ofList
    {α : Type}
    (f : α → List UInt8)
    (xs : List α) : List UInt8 :=
  ofNat xs.length ++ xs.flatMap f

/- A dictionary in the order of its keys. -/
def ofDict (d : Dict String) : List UInt8 :=
  ofList (fun e => ofText e.1 ++ ofText e.2) d.toList

/- A specification: its name before its arguments. -/
def ofSpec (s : ComponentSpec) : List UInt8 :=
  ofText s.name ++ ofDict s.args

/- An order in four octets, the least first. -/
def ofOrder (n : Int32) : List UInt8 :=
  Hash.octetsOfNat 4 n.toUInt32.toNat

end Fingerprint

------------------------------------------------------------
-- Content of Definitions
------------------------------------------------------------

/- All of a definition but its name. -/
structure RouteContent where
  uri : String
  predicates : List ComponentSpec := []
  filters : List ComponentSpec := []
  order : Int32 := 0
  metadata : Dict String := .empty
deriving DecidableEq, Repr

namespace RouteContent

/- The octets of a content.  A zero says that it has no name. -/
def octets (c : RouteContent) : List UInt8 :=
  Fingerprint.ofNat 0 ++ Fingerprint.ofText c.uri ++
    Fingerprint.ofList Fingerprint.ofSpec c.predicates ++
    Fingerprint.ofList Fingerprint.ofSpec c.filters ++
    Fingerprint.ofOrder c.order ++
    Fingerprint.ofDict c.metadata

/- The name that the hash of a content gives. -/
def derivedId (c : RouteContent) : String :=
  let digits :=
    Nat.toDigits 16 (Hash.sip13 c.octets).toNat
  "route-" ++
    String.ofList
      (List.replicate (16 - digits.length) '0' ++ digits)

/- The definition of a name and a content. -/
def named (c : RouteContent) (id : String) : RouteDefinition :=
  { id
    uri := c.uri
    order := c.order
    predicates := c.predicates
    filters := c.filters
    metadata := c.metadata }

/- The definition of a content whose name may be missing. -/
def define
    (c : RouteContent)
    (id : Option String) : RouteDefinition :=
  c.named (id.getD c.derivedId)

end RouteContent

end Signpost
