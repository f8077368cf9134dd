import Signpost.Component.Registry
import Signpost.Component.Spec

/-
  This file defines factories, which make predicates and
  filters from their arguments.

  Key definitions include:
    * `ComponentKind`
    * `Factory`
    * `Factory.build`
-/

namespace Signpost

------------------------------------------------------------
-- Kinds
------------------------------------------------------------

/- What a component of a route is. -/
inductive ComponentKind where
| predicate
| filter
deriving DecidableEq, Repr

/- The word for a kind of component. -/
def ComponentKind.word : ComponentKind → String
| .predicate => "predicate"
| .filter => "filter"

------------------------------------------------------------
-- Factories
------------------------------------------------------------

/-
  A maker of components.  Numbered arguments are bound to
  its fields before it is asked for a component.
-/
structure Factory (α : Type) where
  name : String
  fields : List String := []
  shortcut : Shortcut := .each
  make : Arguments → Except ArgumentError α

namespace Factory

variable {α : Type}

/- A factory under its own name. -/
def entry (f : Factory α) : String × Factory α :=
  (f.name, f)

/- Bind arguments and make a component from them. -/
def build
    (f : Factory α)
    (raw : Arguments) : Except ArgumentError α := do
  f.make (← raw.bind f.fields f.shortcut)

end Factory

end Signpost
