import Signpost.Component.Factory
import Signpost.Url.Error

/-
  This file defines why a route cannot be made from its
  definition.

  Key definitions include:
    * `DestinationError`
    * `CompilationCause`
    * `CompilationError`
    * `CompilationError.message`
-/

namespace Signpost

open Text

------------------------------------------------------------
-- Destinations
------------------------------------------------------------

/- Why a text does not say where requests are to go. -/
inductive DestinationError where
| empty
| malformed (e : UrlError)
| noService (uri : String)
deriving DecidableEq, Repr

/- The wording of a destination error. -/
def DestinationError.message : DestinationError → String
| .empty => "upstream uri must not be empty"
| .malformed e => e.message
| .noService uri =>
    "load balanced uri " ++ uri ++ " has no service name"

------------------------------------------------------------
-- Compilation Errors
------------------------------------------------------------

/- What is wrong with a part of a definition. -/
inductive CompilationCause where
| destination (e : DestinationError)
| unknown (kind : ComponentKind)
| arguments (kind : ComponentKind) (e : ArgumentError)
deriving DecidableEq, Repr

/- The reason that a cause gives. -/
def CompilationCause.reason : CompilationCause → String
| .destination e => e.message
| .unknown kind => kind.word ++ " factory is not registered"
| .arguments _ e => e.message

/-
  A part of a definition that is wrong: the destination or
  the predicate or filter of some name.
-/
structure CompilationError where
  route : String
  name : String
  cause : CompilationCause
deriving DecidableEq, Repr

namespace CompilationError

/- The reason why a part of a definition is wrong. -/
def reason (e : CompilationError) : String :=
  e.cause.reason

/- The wording of a compilation error. -/
def message (e : CompilationError) : String :=
  "route " ++ e.route ++ ": " ++
    match e.cause with
    | .destination _ =>
        "invalid upstream uri " ++ quoted e.name ++ ": " ++
          e.reason
    | .unknown kind =>
        "unable to find " ++ kind.word ++
          " factory with name " ++ e.name
    | .arguments kind _ =>
        "invalid arguments for " ++ kind.word ++ " " ++
          e.name ++ ": " ++ e.reason

/- A compilation error as an answer of the gateway. -/
def toGatewayError (e : CompilationError) : GatewayError :=
  { code := .routeCompileError, message := e.message }

end CompilationError

------------------------------------------------------------
-- Components
------------------------------------------------------------

/- Make the component that a specification asks for. -/
def component
    {α : Type}
    (kind : ComponentKind)
    (registry : Registry (Factory α))
    (route : String)
    (spec : ComponentSpec) : Except CompilationError α :=
  match registry.resolve? spec.name with
  | none => .error ⟨route, spec.name, .unknown kind⟩
  | some factory =>
      match factory.build spec.args with
      | .ok a => .ok a
      | .error e => .error ⟨route, spec.name, .arguments kind e⟩

/- Make the components that specifications ask for. -/
def components
    {α : Type}
    (kind : ComponentKind)
    (registry : Registry (Factory α))
    (route : String)
    (specs : List ComponentSpec) :
    Except CompilationError (List α) :=
  specs.mapM (component kind registry route)

end Signpost
