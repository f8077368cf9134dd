import Signpost.Exchange
import Signpost.Route.Definition

/-
  This file defines route sources, which list the route
  definitions that concern a request.

  A listing has a version, which tells listings of the same
  definitions apart that were published at different times.

  Key definitions include:
    * `Listing`
    * `RouteSource`
    * `PublishedRoutes`
-/

namespace Signpost

------------------------------------------------------------
-- Sources
------------------------------------------------------------

/- Route definitions with the version they belong to. -/
structure Listing where
  version : Nat
  routes : List RouteDefinition
deriving DecidableEq, Repr

/- The names of the definitions of a listing. -/
def Listing.ids (l : Listing) : List String :=
  l.routes.map RouteDefinition.id

/-
  A source as it is at some time: the listing for each
  request, and whether all definitions are always listed
  rather than some that depend on the request.
-/
structure RouteSource where
  list : Exchange → Except GatewayError Listing
  listsAll : Bool := true

namespace RouteSource

/- A source that always lists the same definitions. -/
def fixed (routes : List RouteDefinition) : RouteSource :=
  { list := fun _ => .ok ⟨0, routes⟩ }

/- A source that cannot list anything. -/
def failing (e : GatewayError) : RouteSource :=
  { list := fun _ => .error e }

end RouteSource

------------------------------------------------------------
-- Published Routes
------------------------------------------------------------

/- Definitions that are replaced as a whole from time to time. -/
structure PublishedRoutes where
  listing : Listing := ⟨0, []⟩
deriving DecidableEq, Repr

namespace PublishedRoutes

/- Publish definitions for the first time. -/
def ofList (routes : List RouteDefinition) : PublishedRoutes :=
  ⟨⟨0, routes⟩⟩

/- The definitions that were published last. -/
def current (p : PublishedRoutes) : List RouteDefinition :=
  p.listing.routes

/- Publish definitions in place of the former ones. -/
def publish
    (routes : List RouteDefinition)
    (p : PublishedRoutes) : PublishedRoutes :=
  ⟨⟨p.listing.version + 1, routes⟩⟩

/- The source that lists what was published last. -/
def source (p : PublishedRoutes) : RouteSource :=
  { list := fun _ => .ok p.listing }

end PublishedRoutes

end Signpost
