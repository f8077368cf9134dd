import Signpost.Text.Dict

/-
  This file defines registries: what can be asked for by
  name.

  Registering under a name that is taken replaces what was
  there and gives it back.

  Key definitions include:
    * `Registry`
    * `Registry.register`
    * `Registry.resolve?`
    * `Registry.names`
-/

namespace Signpost

open Text

------------------------------------------------------------
-- Registries
------------------------------------------------------------

/- What can be asked for by name. -/
abbrev Registry (α : Type) := Dict α

namespace Registry

variable {α : Type}

/- Register under a name; what was there is given back. -/
def register
    (r : Registry α)
    (name : String)
    (a : α) : Registry α × Option α :=
  (r.insert name a, r.get? name)

/- Register several under their names, later ones winning. -/
def ofList (xs : List (String × α)) : Registry α :=
  Dict.ofList xs

/- What is registered under a name. -/
def resolve? (r : Registry α) (name : String) : Option α :=
  r.get? name

/- The names that are taken in ascending order. -/
def names (r : Registry α) : List String :=
  r.keys

end Registry

end Signpost
