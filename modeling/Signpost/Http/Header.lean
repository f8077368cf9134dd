import Signpost.Text.Octets
import Signpost.Text.Split

/-
  This file defines the header fields of a request.

  Names are compared without letter case and kept in lower
  case.  Values are octets; only a value of visible ASCII
  characters, blanks and tabs can be read as a text.

  Key definitions include:
    * `HeaderName`
    * `HeaderValue`
    * `HeaderValue.readable?`
    * `Headers`
    * `Headers.values`
    * `Headers.put`
    * `Headers.append`
-/

namespace Signpost.Http

open Text

------------------------------------------------------------
-- Names
------------------------------------------------------------

/- A character that may stand in the name of a header. -/
def isHeaderNameChar (c : Char) : Bool :=
  c.isAlphanum || "!#$%&'*+-.^_\x60|~".toList.contains c

/- A text in lower case is the name of a header. -/
def isHeaderName (s : String) : Bool :=
  !s.isEmpty && s.length < 65536 &&
    s.toList.all isHeaderNameChar && s.toLower = s

/- The name of a header in lower case. -/
structure HeaderName where
  text : String
  valid : isHeaderName text = true
deriving DecidableEq, Repr

namespace HeaderName

/- The name of a header, given in any letter case. -/
def parse? (s : String) : Option HeaderName :=
  if h : isHeaderName s.toLower = true then
    some ⟨s.toLower, h⟩
  else none

end HeaderName

------------------------------------------------------------
-- Values
------------------------------------------------------------

/- An octet that may stand in the value of a header. -/
def isValueOctet (b : UInt8) : Bool :=
  b = 9 || (0x20 ≤ b && b ≠ 0x7F)

/- An octet of a value that can be read as a text. -/
def isReadableOctet (b : UInt8) : Bool :=
  b = 9 || (0x20 ≤ b && b < 0x7F)

/- The value of a header. -/
structure HeaderValue where
  octets : List UInt8
  valid : octets.all isValueOctet = true
deriving DecidableEq, Repr

namespace HeaderValue

/- The value of a header with some octets. -/
def ofOctets? (bs : List UInt8) : Option HeaderValue :=
  if h : bs.all isValueOctet = true then some ⟨bs, h⟩
  else none

/- The value of a header whose octets a text has. -/
def parse? (s : String) : Option HeaderValue :=
  ofOctets? (Text.octets s)

/- The text of a value, if it can be read as one. -/
def readable? (v : HeaderValue) : Option String :=
  if v.octets.all isReadableOctet then
    some (String.ofList
      (v.octets.map fun b => Char.ofNat b.toNat))
  else none

/- The text of a value, with replacements if need be. -/
def shown (v : HeaderValue) : String :=
  String.ofList (decodeLossy v.octets)

end HeaderValue

------------------------------------------------------------
-- Header Fields
------------------------------------------------------------

/- The header fields of a request, in order. -/
abbrev Headers := List (HeaderName × HeaderValue)

namespace Headers

/- The values under a name, given in any letter case. -/
def values
    (hs : Headers)
    (name : String) : List HeaderValue :=
  hs.filterMap fun (n, v) =>
    if n.text = name.toLower then some v else none

/- The values under a name that can be read as texts. -/
def texts (hs : Headers) (name : String) : List String :=
  (hs.values name).filterMap HeaderValue.readable?

/- Put one more value under a name. -/
def append
    (hs : Headers)
    (name : HeaderName)
    (value : HeaderValue) : Headers :=
  hs ++ [(name, value)]

/- Put a value under a name, in place of all others. -/
def put
    (hs : Headers)
    (name : HeaderName)
    (value : HeaderValue) : Headers :=
  hs.filter (fun h => h.1 ≠ name) ++ [(name, value)]

end Headers

end Signpost.Http
