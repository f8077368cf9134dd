import Signpost.Text.Decimal
import Signpost.Text.Split

/-
  This file defines addresses of version four.

  Key definitions include:
    * `Ipv4`
    * `Ipv4.parse?`
    * `Ipv4.text`
-/

namespace Signpost

open Text

------------------------------------------------------------
-- Addresses
------------------------------------------------------------

/- An address of four octets. -/
structure Ipv4 where
  a : UInt8
  b : UInt8
  c : UInt8
  d : UInt8
deriving DecidableEq, Repr

namespace Ipv4

/- The address whose 32 bits a number has. -/
def ofNat (n : Nat) : Ipv4 :=
  ⟨.ofNat (n / 0x1000000), .ofNat (n / 0x10000),
    .ofNat (n / 0x100), .ofNat n⟩

/- The number that the 32 bits of an address spell. -/
def toNat (i : Ipv4) : Nat :=
  i.a.toNat * 0x1000000 + i.b.toNat * 0x10000 +
    i.c.toNat * 0x100 + i.d.toNat

/- The first sixteen bits of an address. -/
def high (i : Ipv4) : UInt16 :=
  i.a.toUInt16 * 256 + i.b.toUInt16

/- The last sixteen bits of an address. -/
def low (i : Ipv4) : UInt16 :=
  i.c.toUInt16 * 256 + i.d.toUInt16

/- One octet in decimal digits without leading zeros. -/
def octet? (cs : List Char) : Option UInt8 :=
  if cs.isEmpty then none
  else if cs.head? = some '0' ∧ 1 < cs.length then none
  else
    match readDigits 10 255 .tooLarge 0 cs with
    | .ok n => some (.ofNat n)
    | .error _ => none

/- Read four decimal octets with points between them. -/
def parse? (cs : List Char) : Option Ipv4 :=
  match cs.splitOn '.' with
  | [a, b, c, d] => do
      return ⟨← octet? a, ← octet? b, ← octet? c, ← octet? d⟩
  | _ => none

/- The four octets in decimal with points between them. -/
def text (i : Ipv4) : String :=
  toString i.a.toNat ++ "." ++ toString i.b.toNat ++ "." ++
    toString i.c.toNat ++ "." ++ toString i.d.toNat

end Ipv4

end Signpost
