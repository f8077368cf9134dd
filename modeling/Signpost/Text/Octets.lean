/-
  This file defines texts as octets in UTF-8, and how
  octets that are no text are read nevertheless.

  `decodeLossy` puts one replacement character for each
  longest run of octets that starts a character but does not
  complete it.

  Key definitions include:
    * `octets`
    * `decodeLossy`
-/

------------------------------------------------------------
-- Encoding
------------------------------------------------------------

namespace Signpost.Text

/- The UTF-8 octets of a character list. -/
def octetsOf (cs : List Char) : List UInt8 :=
  cs.flatMap String.utf8EncodeChar

/- The UTF-8 octets of a text. -/
def octets (s : String) : List UInt8 :=
  octetsOf s.toList

------------------------------------------------------------
-- Decoding
------------------------------------------------------------

/- What stands for octets that are no character. -/
def replacement : Char := Char.ofNat 0xFFFD

/- An octet that continues a character. -/
def isTail (b : UInt8) : Bool :=
  0x80 ≤ b && b ≤ 0xBF

/- The six low bits of an octet that continues one. -/
def tailBits (b : UInt8) : Nat :=
  b.toNat % 64

/-
  The second octets that a first octet of three or four
  admits: no longer form than needed, no surrogate, and no
  code point past the last.
-/
def secondOk (b c : UInt8) : Bool :=
  if b = 0xE0 then 0xA0 ≤ c && c ≤ 0xBF
  else if b = 0xED then 0x80 ≤ c && c ≤ 0x9F
  else if b = 0xF0 then 0x90 ≤ c && c ≤ 0xBF
  else if b = 0xF4 then 0x80 ≤ c && c ≤ 0x8F
  else isTail c

/-
  Read the first character of some octets and the octets
  after it.
-/
def decodeFirst
    (b : UInt8)
    (bs : List UInt8) : Char × List UInt8 :=
  if b < 0x80 then (Char.ofNat b.toNat, bs)
  else if 0xC2 ≤ b && b ≤ 0xDF then
    match bs with
    | c :: r =>
        if isTail c then
          (Char.ofNat (b.toNat % 32 * 64 + tailBits c), r)
        else (replacement, bs)
    | [] => (replacement, [])
  else if 0xE0 ≤ b && b ≤ 0xEF then
    match bs with
    | c :: d :: r =>
        if secondOk b c then
          if isTail d then
            (Char.ofNat (b.toNat % 16 * 4096 +
              tailBits c * 64 + tailBits d), r)
          else (replacement, d :: r)
        else (replacement, bs)
    | [c] =>
        if secondOk b c then (replacement, [])
        else (replacement, bs)
    | [] => (replacement, [])
  else if 0xF0 ≤ b && b ≤ 0xF4 then
    match bs with
    | c :: d :: e :: r =>
        if secondOk b c then
          if isTail d then
            if isTail e then
              (Char.ofNat (b.toNat % 8 * 262144 +
                tailBits c * 4096 + tailBits d * 64 +
                tailBits e), r)
            else (replacement, e :: r)
          else (replacement, d :: e :: r)
        else (replacement, bs)
    | [c, d] =>
        if secondOk b c then
          if isTail d then (replacement, [])
          else (replacement, [d])
        else (replacement, bs)
    | [c] =>
        if secondOk b c then (replacement, [])
        else (replacement, bs)
    | [] => (replacement, [])
  else (replacement, bs)

/- Reading a character leaves no more octets. -/
theorem length_decodeFirst
    (b : UInt8)
    (bs : List UInt8) :
    (decodeFirst b bs).2.length ≤ bs.length := by
  unfold decodeFirst
  repeat' split
  all_goals simp
  all_goals omega

/- The text that octets spell, with replacements. -/
def decodeLossy : List UInt8 → List Char
| [] => []
| b :: bs =>
    have : (decodeFirst b bs).2.length < bs.length + 1 :=
      Nat.lt_succ_of_le (length_decodeFirst b bs)
    (decodeFirst b bs).1 :: decodeLossy (decodeFirst b bs).2
termination_by bs => bs.length

end Signpost.Text
