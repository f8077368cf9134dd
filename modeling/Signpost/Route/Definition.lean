import Signpost.Component.Spec

/-
  This file defines route definitions: what is written down
  about a route before it is compiled.

  Key definitions include:
    * `RouteDefinition`
-/

namespace Signpost

open Text

------------------------------------------------------------
-- Definitions
------------------------------------------------------------

/-
  What is written down about a route: its name, where its
  requests go, its place among the routes, what it asks of a
  request and what it changes of one, and remarks.
-/
structure RouteDefinition where
  id : String
  uri : String
  order : Int32 := 0
  predicates : List ComponentSpec := []
  filters : List ComponentSpec := []
  metadata : Dict String := .empty
deriving DecidableEq, Repr

end Signpost
