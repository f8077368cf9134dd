import Signpost.Duration
import Signpost.Instance.Basic
import Signpost.Route.Fingerprint
import Signpost.Yaml.Value

/-
  This file defines how spans of time, specifications, route
  definitions and instances are written in a document.

  A span is a number of milliseconds or a text with a unit.
  A specification is a text in the shortcut notation, or a
  mapping of its name and its arguments.

  Key definitions include:
    * `Duration.decoder`
    * `ComponentSpec.decoder`
    * `RouteDefinition.decoder`
    * `ServiceInstance.decoder`
-/

namespace Signpost

open Text
open Yaml
open Yaml.Decoder

------------------------------------------------------------
-- Spans of Time
------------------------------------------------------------

namespace Duration

/- The span that a value gives. -/
def ofValue? : Value → Option (Except String Duration)
| .integer n => if 0 ≤ n then some (.ok ⟨n.toNat⟩) else none
| .text s => some ((parse s).mapError DurationError.message)
| _ => none

/- Take a span of time. -/
def decoder : Decoder Duration :=
  choice "RawDuration" ofValue?

end Duration

------------------------------------------------------------
-- Specifications
------------------------------------------------------------

namespace ComponentSpec

/- What was taken of a specification so far. -/
structure Draft where
  name : Option String := none
  args : Option Arguments := none

/- The field that a key names, by its name or its place. -/
def fieldOf? : Value → Option String
| .text s => some s
| .integer n =>
    if n = 0 then some "name"
    else if n = 1 then some "args"
    else if 0 < n then some ""
    else none
| _ => none

/- Take one entry of a specification. -/
def Draft.add
    (d : Draft)
    (e : Value × Value) : Option Draft := do
  let field ← fieldOf? e.1
  if field = "name" then
    if d.name.isSome then none
    else return { d with name := some (← e.2.text?) }
  else if field = "args" then
    if d.args.isSome then none
    else return { d with args := some (← e.2.texts?) }
  else return d

/- The specification that some entries make up. -/
def ofEntries? (es : List (Value × Value)) :
    Option ComponentSpec := do
  let d ← es.foldlM Draft.add {}
  return { name := ← d.name, args := d.args.getD .empty }

/- The specification that a value gives. -/
def ofValue? : Value → Option (Except String ComponentSpec)
| .text s => some ((parse s).mapError SpecError.message)
| .entries es => (ofEntries? es).map Except.ok
| _ => none

/- Take a specification. -/
def decoder : Decoder ComponentSpec :=
  choice "RawSpec" ofValue?

end ComponentSpec

------------------------------------------------------------
-- Definitions
------------------------------------------------------------

namespace RouteDefinition

/- What was taken of a definition so far. -/
structure Draft where
  id : Option String := none
  uri : Option String := none
  content : RouteContent := { uri := "" }

/- The shape of a definition. -/
def shape : Shape :=
  { expected := "struct RawRouteDefinition"
    fields :=
      ["id", "uri", "predicates", "filters", "order",
        "metadata"] }

/- Take a field of a definition. -/
def readField
    (field : String)
    (d : Draft) : Decoder Draft :=
  fun s n => do
    let c := d.content
    let specs := list ComponentSpec.decoder
    match field with
    | "id" => return { d with id := ← optional text s n }
    | "uri" => return { d with uri := some (← text s n) }
    | "predicates" =>
        return { d with
          content := { c with predicates := ← specs s n } }
    | "filters" =>
        return { d with
          content := { c with filters := ← specs s n } }
    | "order" =>
        return { d with
          content := { c with order := ← int32 s n } }
    | _ =>
        return { d with
          content := { c with metadata := ← dict text s n } }

/- The definition, named after its content if need be. -/
def Draft.finish
    (d : Draft) : Except DecodeCause RouteDefinition := do
  let uri ← needed "uri" d.uri
  return { d.content with uri }.define d.id

/- Take a definition. -/
def decoder : Decoder RouteDefinition :=
  record shape {} readField Draft.finish

end RouteDefinition

------------------------------------------------------------
-- Instances
------------------------------------------------------------

namespace ServiceInstance

/- What was taken of an instance so far. -/
structure Draft where
  service : String := ""
  id : Option String := none
  host : Option String := none
  port : Option UInt16 := none
  secure : Bool := false

/- The shape of an instance. -/
def shape : Shape :=
  { expected := "struct ServiceInstance"
    fields :=
      ["serviceName", "instanceId", "host", "port", "secure"] }

/- Take a field of an instance. -/
def readField
    (field : String)
    (d : Draft) : Decoder Draft :=
  fun s n => do
    match field with
    | "serviceName" => return { d with service := ← text s n }
    | "instanceId" => return { d with id := some (← text s n) }
    | "host" => return { d with host := some (← text s n) }
    | "port" => return { d with port := some (← uint16 s n) }
    | _ => return { d with secure := ← boolean s n }

/- The instance, once it has all that it needs. -/
def Draft.finish
    (d : Draft) : Except DecodeCause ServiceInstance := do
  return {
    service := d.service
    id := ← needed "instanceId" d.id
    host := ← needed "host" d.host
    port := ← needed "port" d.port
    secure := d.secure }

/- Take an instance. -/
def decoder : Decoder ServiceInstance :=
  record shape {} readField Draft.finish

end ServiceInstance

end Signpost
