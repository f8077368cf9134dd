import Signpost.Text.Percent

/-
  This file defines which characters are percent-encoded in
  each part of a URL.

  Characters outside ASCII are always encoded, and so are
  control characters.

  Key definitions include:
    * `inFragmentSet`
    * `inQuerySet`
    * `inPathSet`
    * `inUserSet`
-/

namespace Signpost.Url

open Text

------------------------------------------------------------
-- Sets of Encoded Characters
------------------------------------------------------------

/- A control character. -/
def isControl (c : Char) : Bool :=
  c.toNat < 0x20 || c.toNat = 0x7F

/- A character that is encoded in a fragment. -/
def inFragmentSet (c : Char) : Bool :=
  isControl c || " \"<>\x60".toList.contains c

/- A character that is encoded in a query. -/
def inQuerySet (special : Bool) (c : Char) : Bool :=
  isControl c || " \"#<>".toList.contains c ||
    (special && c = '\'')

/- A character that is encoded in a path. -/
def inPathSet (c : Char) : Bool :=
  inFragmentSet c || "#?^\x7b\x7d".toList.contains c

/- A character that is encoded in a user name or password. -/
def inUserSet (c : Char) : Bool :=
  inPathSet c || "/:;=@[\\]|".toList.contains c

------------------------------------------------------------
-- Encoding Texts
------------------------------------------------------------

/- Some characters with those of a set encoded. -/
def encoded
    (inSet : Char → Bool)
    (cs : List Char) : String :=
  String.ofList (percentEncode inSet cs)

end Signpost.Url
