import Signpost.Text.Decimal

/-
  This file defines sets of characters given by spans of
  code points.

  A table is written as hexadecimal spans with white space
  between them, such as `41-5A 61-7A AA`, in ascending
  order.

  Key definitions include:
    * `Spans`
    * `Spans.mem`
    * `words`
    * `Spans.ofText`
-/

------------------------------------------------------------
-- Spans of Code Points
------------------------------------------------------------

namespace Signpost.Text

/- A set of characters as closed spans of code points. -/
structure Spans where
  list : List (Nat × Nat)
deriving DecidableEq, Repr

/- The pieces of a table between its white space. -/
def words (s : String) : List (List Char) :=
  ((s.toList.map fun c => if c = '\n' then ' ' else c).splitOn
    ' ').filter (· ≠ [])

namespace Spans

/- A character lies in one of the spans. -/
def mem (t : Spans) (c : Char) : Bool :=
  t.list.any fun (lo, hi) =>
    lo ≤ c.toNat && c.toNat ≤ hi

/- The number written by hexadecimal digits. -/
def hexValue (cs : List Char) : Nat :=
  cs.foldl
    (fun n c => n * 16 + (hexDigit? c).getD 0) 0

/- One span, written `lo-hi` or as a single code point. -/
def spanOf (cs : List Char) : Nat × Nat :=
  match cs.splitOn '-' with
  | [lo, hi] => (hexValue lo, hexValue hi)
  | _ => (hexValue cs, hexValue cs)

/- Read a table of spans. -/
def ofText (s : String) : Spans :=
  ⟨(words s).map spanOf⟩

end Spans

end Signpost.Text
