import Signpost.Text.Split

/-
  This file defines request methods.

  A method is a token: one or more letters, digits and some
  marks.  Methods that differ in letter case are different.

  Key definitions include:
    * `isMethodChar`
    * `Method`
    * `Method.parse?`
-/

namespace Signpost.Http

------------------------------------------------------------
-- Methods
------------------------------------------------------------

/- A character that may stand in a method. -/
def isMethodChar (c : Char) : Bool :=
  c.isAlphanum || "!*+-.^_\x60|~".toList.contains c

/- A text is a method. -/
def isMethod (s : String) : Bool :=
  !s.isEmpty && s.toList.all isMethodChar

/- A request method. -/
structure Method where
  name : String
  valid : isMethod name = true
deriving DecidableEq, Repr

namespace Method

/- The method with a name, if it is one. -/
def parse? (s : String) : Option Method :=
  if h : isMethod s = true then some ⟨s, h⟩ else none

/- The method of plain reads. -/
def get : Method := ⟨"GET", by decide⟩

end Method

end Signpost.Http
