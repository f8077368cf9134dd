import Signpost.Component.Arguments

/-
  This file defines how a route names a predicate or filter:
  by the name of its factory and its arguments.

  The shortcut notation is `Name=a,b,c`, or a name alone.
  Its values are numbered from zero.

  Key definitions include:
    * `ComponentSpec`
    * `ComponentSpec.parse`
-/

namespace Signpost

open Text

------------------------------------------------------------
-- Specifications
------------------------------------------------------------

/- A predicate or filter as a route asks for it. -/
structure ComponentSpec where
  name : String
  args : Arguments
deriving DecidableEq, Repr

/- A text that has no name before its equals sign. -/
structure SpecError where
  text : String
deriving DecidableEq, Repr

namespace SpecError

/- The wording of a specification error. -/
def message (e : SpecError) : String :=
  "unable to parse definition text " ++ quoted e.text ++
    ", must be of the form name=value"

/- A specification error as an answer of the gateway. -/
def toGatewayError (e : SpecError) : GatewayError :=
  .invalidArgument e.message

end SpecError

namespace ComponentSpec

/- Number the values of the shortcut notation from zero. -/
def numberedArguments (values : List String) : Arguments :=
  .ofList (values.zipIdx.map
    fun (v, i) => (numberedKey i, v))

/- Read the shortcut notation. -/
def parse (text : String) : Except SpecError ComponentSpec :=
  let (name, args) :=
    match cut '=' text with
    | some (name, values) =>
        (trimmed name,
          numberedArguments
            ((pieces ',' values).map trimmed))
    | none => (trimmed text, .empty)
  if name.isEmpty then .error ⟨text⟩
  else .ok ⟨name, args⟩

end ComponentSpec

end Signpost
