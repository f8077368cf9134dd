import Signpost.Predicate.Fields
import Signpost.Predicate.Site

/-
  This file defines the predicates that are always there.

  Key definitions include:
    * `standardPredicates`
-/

namespace Signpost

------------------------------------------------------------
-- Standard Predicates
------------------------------------------------------------

/- The registry of the predicates that are always there. -/
def standardPredicates : Registry PredicateFactory :=
  .ofList
    ([cookieFactory, headerFactory, hostFactory,
      methodFactory, pathFactory, queryFactory].map
      Factory.entry)

end Signpost
