/-
  This file defines how values that have names are divided
  so that no name is used twice.

  Of the values with one name the first is kept, and those
  after it are dropped.

  Key definitions include:
    * `Distinct`
    * `Distinct.divide`
    * `Distinct.ofList`
-/

namespace Signpost.Text

variable {α : Type}

/- Values to keep, and later ones with a name in use. -/
structure Distinct (α : Type) where
  kept : List α
  dropped : List α
deriving DecidableEq, Repr

namespace Distinct

/- Divide values whose names are not in use so far. -/
def divide
    (name : α → String)
    (used : List String) : List α → Distinct α
| [] => ⟨[], []⟩
| x :: xs =>
    if used.contains (name x) then
      let rest := divide name used xs
      { rest with dropped := x :: rest.dropped }
    else
      let rest := divide name (name x :: used) xs
      { rest with kept := x :: rest.kept }

/- Divide values by their names. -/
def ofList (name : α → String) (xs : List α) : Distinct α :=
  divide name [] xs

end Distinct

end Signpost.Text
