/-
  This file defines how a text is written in ASCII only: its
  ASCII characters first, then a hyphen, and then where the
  others go, as numbers of a varying length.

  A number is a distance, counting for each character all
  places where it could go.  How long the digits of a number
  may be is adapted to the numbers before it.

  Key definitions include:
    * `Punycode.encode`
    * `Punycode.decode?`
-/

namespace Signpost.Text.Punycode

------------------------------------------------------------
-- Numbers
------------------------------------------------------------

/- The character of a digit. -/
def digitChar (d : Nat) : Char :=
  Char.ofNat (if d < 26 then 97 + d else 22 + d)

/- The value of a character that is a digit. -/
def digitValue? (c : Char) : Option Nat :=
  if 'a' ≤ c ∧ c ≤ 'z' then some (c.toNat - 97)
  else if '0' ≤ c ∧ c ≤ '9' then some (c.toNat - 22)
  else none

/- The digit from which on a number goes on at a place. -/
def threshold (place bias : Nat) : Nat :=
  min 26 (max 1 (place - bias))

/- The digits of a number from a place on. -/
def digits (bias place n : Nat) : List Char :=
  let t := threshold place bias
  if _h : n < t then [digitChar n]
  else
    digitChar (t + (n - t) % (36 - t)) ::
      digits bias (place + 36) ((n - t) / (36 - t))
termination_by n
decreasing_by
  have h1 : 1 ≤ threshold place bias := by
    simp only [threshold]
    omega
  have h2 := Nat.div_le_self
    (n - threshold place bias) (36 - threshold place bias)
  have : ¬ n < threshold place bias := _h
  omega

/- Read a number from a place on, each digit by its weight. -/
def number?
    (bias place weight : Nat) :
    List Char → Option (Nat × List Char)
| [] => none
| c :: cs => do
    let d ← digitValue? c
    let t := threshold place bias
    if d < t then return (d * weight, cs)
    else
      let (n, rest) ←
        number? bias (place + 36) (weight * (36 - t)) cs
      return (d * weight + n, rest)

/- Halve a distance that is large until it is not. -/
def damped (k n : Nat) : Nat :=
  if 455 < n then damped (k + 36) (n / 35)
  else k + 36 * n / (n + 38)
termination_by n

/- The bias after a number that was the first one or not. -/
def adapted (n count : Nat) (isFirst : Bool) : Nat :=
  let n := if isFirst then n / 700 else n / 2
  damped 0 (n + n / count)

------------------------------------------------------------
-- Encoding
------------------------------------------------------------

/- How far a text has been encoded. -/
structure Encoding where
  distance : Nat := 0
  bias : Nat := 72
  next : Nat := 128
  count : Nat
  isFirst : Bool := true
  written : List Char := []

namespace Encoding

/- Encode a character, or pass it over. -/
def step (e : Encoding) (n : Nat) : Encoding :=
  if n < e.next then { e with distance := e.distance + 1 }
  else if n = e.next then
    { e with
      distance := 0
      bias := adapted e.distance (e.count + 1) e.isFirst
      count := e.count + 1
      isFirst := false
      written := e.written ++ digits e.bias 36 e.distance }
  else e

/- Encode all places of a character. -/
def encodeAll
    (ns : List Nat)
    (e : Encoding)
    (n : Nat) : Encoding :=
  let e :=
    { e with
      distance := e.distance + (n - e.next) * (e.count + 1)
      next := n }
  let e := ns.foldl step e
  { e with distance := e.distance + 1, next := n + 1 }

end Encoding

/- Write a text in ASCII. -/
def encode (cs : List Char) : List Char :=
  let basic := cs.filter fun c => c.toNat < 128
  let ns := cs.map Char.toNat
  let others :=
    (ns.filter fun n => 128 ≤ n).eraseDups.mergeSort
  let start : Encoding := { count := basic.length }
  let e := others.foldl (Encoding.encodeAll ns) start
  (if basic.isEmpty then [] else basic ++ ['-']) ++ e.written

------------------------------------------------------------
-- Decoding
------------------------------------------------------------

/- Put characters where numbers say. -/
def insertAll
    (bias next place : Nat)
    (isFirst : Bool)
    (text : List Char)
    (cs : List Char) : Option (List Char) :=
  if cs.isEmpty then some text
  else
    match number? bias 36 1 cs with
    | none => none
    | some (distance, rest) =>
        let count := text.length + 1
        let n := next + (place + distance) / count
        let i := (place + distance) % count
        if !n.isValidChar then none
        else if rest.length < cs.length then
          insertAll (adapted distance count isFirst) n (i + 1)
            false (text.insertIdx i (Char.ofNat n)) rest
        else none
termination_by cs.length

/- The text before the last hyphen, and what follows it. -/
def parts (cs : List Char) : List Char × List Char :=
  let after := (cs.reverse.takeWhile (· ≠ '-')).reverse
  let before := cs.take (cs.length - after.length - 1)
  if before.isEmpty then ([], cs) else (before, after)

/- Read a text that is written in ASCII. -/
def decode? (cs : List Char) : Option (List Char) :=
  let (basic, rest) := parts cs
  insertAll 72 128 0 true basic rest

end Signpost.Text.Punycode
