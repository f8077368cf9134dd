import Signpost.Log
import Signpost.Route.Cache
import Signpost.Source.Basic
import Signpost.Text.Distinct

/-
  This file defines the candidates for a request: the listed
  definitions in the order in which they are tried.

  Lower orders go first, and ties stay in place.  Of the
  definitions with one name only the first is a candidate.

  Key definitions include:
    * `Candidates`
    * `Candidates.ofList`
    * `Candidates.lines`
-/

namespace Signpost

open Text

------------------------------------------------------------
-- Candidates of a Listing
------------------------------------------------------------

/- Definitions to try, and later ones with a name in use. -/
abbrev Candidates := Distinct RouteDefinition

namespace Candidates

/- Definitions in ascending order, keeping ties in place. -/
def sorted (ds : List RouteDefinition) : List RouteDefinition :=
  ds.mergeSort fun a b => a.order ≤ b.order

/- The candidates among some definitions. -/
def ofList (ds : List RouteDefinition) : Candidates :=
  Distinct.ofList RouteDefinition.id (sorted ds)

/- The line about a name that is already in use. -/
def duplicateLine (d : RouteDefinition) : LogLine :=
  .routingWarn
    ("duplicate route definition " ++ d.id ++
      " will be ignored")

/- A line for each definition that is dropped. -/
def lines (c : Candidates) : List LogLine :=
  c.dropped.map duplicateLine

end Candidates

end Signpost
