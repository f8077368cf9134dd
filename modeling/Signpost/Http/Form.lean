import Signpost.Text.Percent
import Signpost.Text.Split

/-
  This file defines how the parameters of a query are read.

  Parameters have an ampersand between two of them, and the
  first equals sign of one ends its name.  A plus sign
  stands for a blank, and other characters may be
  percent-encoded.

  Key definitions include:
    * `formText`
    * `parameters`
-/

namespace Signpost.Http

open Text

------------------------------------------------------------
-- Parameters
------------------------------------------------------------

/- The text that a name or value of a parameter stands for. -/
def formText (cs : List Char) : String :=
  let plain := cs.map fun c => if c = '+' then ' ' else c
  String.ofList
    (decodeLossy (percentDecode (octetsOf plain)))

/- A parameter as its name and its value. -/
def parameter (cs : List Char) : String × String :=
  match cutList '=' cs with
  | some (name, value) => (formText name, formText value)
  | none => (formText cs, "")

/- The parameters of a query in order. -/
def parameters (query : String) : List (String × String) :=
  ((query.toList.splitOn '&').filter (!·.isEmpty)).map
    parameter

end Signpost.Http
