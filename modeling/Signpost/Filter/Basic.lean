import Signpost.Component.Factory
import Signpost.Exchange

/-
  This file defines filters, which change a request once a
  route has been found for it, and chains of filters.

  A chain is run in ascending order.  It stops at the first
  filter that fails, and the changes made so far remain.

  Key definitions include:
    * `Filter`
    * `FilterChain`
    * `FilterChain.ofList`
    * `FilterChain.run`
-/

namespace Signpost

------------------------------------------------------------
-- Filters
------------------------------------------------------------

/-
  A named change of a request, which may fail.  Filters of a
  lower order go first.
-/
structure Filter where
  name : String
  order : Int32 := 0
  apply : Exchange → Exchange × Except GatewayError Unit

/- A maker of filters. -/
abbrev FilterFactory := Factory Filter

------------------------------------------------------------
-- Chains
------------------------------------------------------------

/- Filters in the order in which they are run. -/
structure FilterChain where
  filters : List Filter := []

namespace FilterChain

/- Some filters in ascending order, keeping ties in place. -/
def ofList (fs : List Filter) : FilterChain :=
  ⟨fs.mergeSort fun f g => f.order ≤ g.order⟩

/- The names of the filters in order. -/
def names (c : FilterChain) : List String :=
  c.filters.map Filter.name

/- The number of filters. -/
def size (c : FilterChain) : Nat :=
  c.filters.length

/- Run filters one after the other up to a failure. -/
def runAll :
    List Filter → Exchange →
      Exchange × Except GatewayError Unit
| [], x => (x, .ok ())
| f :: fs, x =>
    match f.apply x with
    | (y, .ok ()) => runAll fs y
    | (y, .error e) => (y, .error e)

/- Run a chain on a request. -/
def run
    (c : FilterChain)
    (x : Exchange) : Exchange × Except GatewayError Unit :=
  runAll c.filters x

/- The names of the filters as a list of quoted texts. -/
def text (c : FilterChain) : String :=
  Text.quotedList c.names

end FilterChain

end Signpost
