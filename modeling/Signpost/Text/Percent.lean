import Signpost.Text.Decimal
import Signpost.Text.Octets

/-
  This file defines percent-encoding: an octet written as a
  percent sign and two hexadecimal digits.

  A percent sign without two such digits after it stands for
  itself when it is decoded.

  Key definitions include:
    * `percentDecode`
    * `percentOctet`
    * `percentEncode`
-/

namespace Signpost.Text

------------------------------------------------------------
-- Decoding
------------------------------------------------------------

/- The value of an octet that is a hexadecimal digit. -/
def hexOctet? (b : UInt8) : Option Nat :=
  hexDigit? (Char.ofNat b.toNat)

/- The octets that percent-encoded octets stand for. -/
def percentDecode : List UInt8 → List UInt8
| [] => []
| b :: bs =>
    if b = 0x25 then
      match bs with
      | h :: l :: rest =>
          match hexOctet? h, hexOctet? l with
          | some x, some y =>
              UInt8.ofNat (x * 16 + y) :: percentDecode rest
          | _, _ => b :: percentDecode (h :: l :: rest)
      | rest => b :: percentDecode rest
    else b :: percentDecode bs

------------------------------------------------------------
-- Encoding
------------------------------------------------------------

/- The upper-case hexadecimal digit with a value. -/
def upperHexDigit (n : Nat) : Char :=
  if n < 10 then Char.ofNat (0x30 + n)
  else Char.ofNat (0x37 + n)

/- An octet as a percent sign and two digits. -/
def percentOctet (b : UInt8) : List Char :=
  ['%', upperHexDigit (b.toNat / 16),
    upperHexDigit (b.toNat % 16)]

/- A character as the percent-encoded octets it has. -/
def percentChar (c : Char) : List Char :=
  (String.utf8EncodeChar c).flatMap percentOctet

/-
  Encode the characters outside ASCII and those of a given
  set, and keep the others.
-/
def percentEncode
    (encoded : Char → Bool)
    (cs : List Char) : List Char :=
  cs.flatMap fun c =>
    if c.toNat < 0x80 && !encoded c then [c]
    else percentChar c

end Signpost.Text
