import Signpost.Yaml.Decoder

/-
  This file defines values without an expected kind, and how
  one of several kinds is chosen by looking at them.

  Key definitions include:
    * `Value`
    * `Decoder.value`
    * `Decoder.choice`
-/

namespace Signpost.Yaml

------------------------------------------------------------
-- Values
------------------------------------------------------------

/- A value of whatever kind its node is. -/
inductive Value where
| unit
| boolean (b : Bool)
| integer (n : Int)
| real (x : Real)
| text (s : String)
| list (items : List Value)
| entries (entries : List (Value × Value))
deriving Repr

namespace Value

/- The text of a value that is one. -/
def text? : Value → Option String
| .text s => some s
| _ => none

/- The entries of a value whose keys and values are texts. -/
def texts? : Value → Option (Text.Dict String)
| .entries es => do
    let pairs ← es.mapM fun (k, v) =>
      return (← k.text?, ← v.text?)
    return .ofList pairs
| _ => none

end Value

------------------------------------------------------------
-- Decoding
------------------------------------------------------------

/- The value of a scalar. -/
def scalarValue : Found → Decoding Value
| .unit => return .unit
| .boolean b => return .boolean b
| .integer n => return .integer n
| .wide n => refuse (.wrongType (.wide n) "any value")
| .real x => return .real x
| .text s => return .text s
| .sequence => return .list []
| .mapping => return .entries []

/- Take a value, going into collections to some depth. -/
def valueWithin
    (d : Document) :
    Nat → Path → Node → Decoding Value
| levels, path, n => located path do
    let n ← follow d n
    if isOwnTag n.properties.tag then refuse .tagged
    match n with
    | .sequence _ items =>
        match levels with
        | 0 => refuse .tooDeep
        | levels + 1 =>
            let vs ← items.zipIdx.mapM fun (n, i) =>
              valueWithin d levels (.item path i) n
            return .list vs
    | .mapping _ entries =>
        match levels with
        | 0 => refuse .tooDeep
        | levels + 1 =>
            let s : Spot := { document := d, path, levels }
            let es ← entries.mapM fun (k, v) => do
              let key ← valueWithin d levels path k
              let value ← valueWithin d levels
                (Decoder.atEntry s k).path v
              return (key, value)
            return .entries es
    | n =>
        match n.found with
        | .error c => refuse c
        | .ok f => scalarValue f

namespace Decoder

/- Take a value of whatever kind there is. -/
def value : Decoder Value :=
  fun s n => valueWithin s.document s.levels s.path n

/-
  Take a value and choose what it is.  A value that is none
  of the kinds to choose from matches no variant.
-/
def choice
    {α : Type}
    (name : String)
    (choose : Value → Option (Except String α)) : Decoder α :=
  fun s n => do
    match choose (← value s n) with
    | none => refuse (.noVariant name)
    | some (.error message) => refuse (.refused message)
    | some (.ok a) => return a

end Decoder

end Signpost.Yaml
