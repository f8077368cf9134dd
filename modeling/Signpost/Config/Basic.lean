import Signpost.Duration
import Signpost.Instance.Basic
import Signpost.Route.Definition

/-
  This file defines configurations of a gateway.

  Key definitions include:
    * `LoggerSettings`
    * `Configuration`
-/

namespace Signpost

open Text

------------------------------------------------------------
-- Configurations
------------------------------------------------------------

/- Where log lines are written, and from which level on. -/
structure LoggerSettings where
  dir : String := "./logs"
  file : String := "polaris-gateway.log"
  level : String := "info"
deriving DecidableEq, Repr

/-
  How a gateway is set up: its logger, the time a predicate
  may take, the filters of all routes, the routes, the
  routes of certain hosts, how an instance is chosen, and
  the instances of services that are known beforehand.
-/
structure Configuration where
  logger : LoggerSettings := {}
  predicateTimeout : Option Duration := none
  defaultFilters : List ComponentSpec := []
  routes : List RouteDefinition := []
  hostRoutes : Dict (List RouteDefinition) := .empty
  policy : String := "roundRobin"
  services : Dict (List ServiceInstance) := .empty
deriving DecidableEq

end Signpost
