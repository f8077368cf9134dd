/-
  This file defines how texts are cut at separators.

  `pieces` cuts at every separator and keeps empty pieces,
  so `n` separators always give `n + 1` pieces.  `cut` cuts
  at the first separator only.

  Key definitions include:
    * `cutList`
    * `cut`
    * `pieces`
    * `joined`
    * `dropMark`
-/

------------------------------------------------------------
-- Cutting and Joining
------------------------------------------------------------

namespace Signpost.Text

/- The characters before and after the first separator. -/
def cutList
    (sep : Char) :
    List Char → Option (List Char × List Char)
| [] => none
| c :: cs =>
    if c = sep then some ([], cs)
    else (cutList sep cs).map fun (a, b) => (c :: a, b)

/- The texts before and after the first separator. -/
def cut
    (sep : Char)
    (s : String) : Option (String × String) :=
  (cutList sep s.toList).map fun (a, b) =>
    (String.ofList a, String.ofList b)

/- The texts between separators, empty ones included. -/
def pieces
    (sep : Char)
    (s : String) : List String :=
  (s.toList.splitOn sep).map String.ofList

/- The texts in order with a separator between two. -/
def joined
    (sep : String)
    (parts : List String) : String :=
  sep.intercalate parts

/- What follows a given start of a character list. -/
def dropMark :
    List Char → List Char → Option (List Char)
| [], cs => some cs
| _ :: _, [] => none
| m :: ms, c :: cs =>
    if m = c then dropMark ms cs else none

end Signpost.Text
