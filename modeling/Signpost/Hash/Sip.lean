/-
  This file defines the keyed hash SipHash-1-3 of a list of
  octets, with both key words zero.

  The octets are taken in words of eight, the least first.
  Each word is followed by one round, and the last word,
  which holds the length, by one round and three more.

  Key definitions include:
    * `State`
    * `round`
    * `absorb`
    * `sip13`
-/

------------------------------------------------------------
-- State and Rounds
------------------------------------------------------------

namespace Signpost.Hash

/- The four words that the hash works on. -/
structure State where
  a : UInt64
  b : UInt64
  c : UInt64
  d : UInt64
deriving DecidableEq, Repr

/- Rotate a word to the left. -/
def rotate (x : UInt64) (n : UInt64) : UInt64 :=
  (x <<< n) ||| (x >>> (64 - n))

/- One round of the hash. -/
def round (s : State) : State :=
  let a := s.a + s.b
  let b := rotate s.b 13 ^^^ a
  let a := rotate a 32
  let c := s.c + s.d
  let d := rotate s.d 16 ^^^ c
  let a := a + d
  let d := rotate d 21 ^^^ a
  let c := c + b
  let b := rotate b 17 ^^^ c
  let c := rotate c 32
  ⟨a, b, c, d⟩

/- Take in one word of input. -/
def absorb (s : State) (w : UInt64) : State :=
  let s := round { s with d := s.d ^^^ w }
  { s with a := s.a ^^^ w }

/- The state before any input, for a key of zeros. -/
def start : State :=
  ⟨0x736f6d6570736575, 0x646f72616e646f6d,
    0x6c7967656e657261, 0x7465646279746573⟩

------------------------------------------------------------
-- Words of Octets
------------------------------------------------------------

/- The word that octets spell, the least first. -/
def wordOf : List UInt8 → UInt64
| [] => 0
| b :: bs => b.toUInt64 ||| (wordOf bs <<< 8)

/- The octets of a word, the least first. -/
def octetsOfNat : Nat → Nat → List UInt8
| 0, _ => []
| k + 1, n => UInt8.ofNat n :: octetsOfNat k (n / 256)

/-
  Take in octets by words of eight.  The last word holds the
  octets left over and the total number of octets.
-/
def absorbAll
    (total : Nat)
    (s : State) : List UInt8 → State
| a :: b :: c :: d :: e :: f :: g :: h :: rest =>
    absorbAll total
      (absorb s (wordOf [a, b, c, d, e, f, g, h])) rest
| rest =>
    absorb s
      (wordOf rest ||| (UInt64.ofNat total <<< 56))

/- The hash of a list of octets. -/
def sip13 (bs : List UInt8) : UInt64 :=
  let s := absorbAll bs.length start bs
  let s := { s with c := s.c ^^^ 0xff }
  let s := round (round (round s))
  s.a ^^^ s.b ^^^ s.c ^^^ s.d

end Signpost.Hash
