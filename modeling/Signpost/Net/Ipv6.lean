import Signpost.Net.Ipv4
import Signpost.Text.Quoted

/-
  This file defines addresses of version six.

  An address has eight groups of sixteen bits, written in
  hexadecimal with colons between them.  Two colons stand
  for one or more groups of zero, and the last two groups
  may be written as an address of version four.

  Key definitions include:
    * `Ipv6`
    * `Ipv6.parse?`
    * `Ipv6.text`
    * `Ipv6.mixedText`
-/

namespace Signpost

open Text

------------------------------------------------------------
-- Addresses
------------------------------------------------------------

/- An address of eight groups. -/
structure Ipv6 where
  groups : List UInt16
  size : groups.length = 8
deriving DecidableEq, Repr

namespace Ipv6

/- The address with some groups, if there are eight. -/
def ofGroups? (gs : List UInt16) : Option Ipv6 :=
  if h : gs.length = 8 then some ⟨gs, h⟩ else none

------------------------------------------------------------
-- Reading
------------------------------------------------------------

/- A group of one to four hexadecimal digits. -/
def group? (cs : List Char) : Option UInt16 :=
  if cs.isEmpty || 4 < cs.length then none
  else
    match readDigits 16 0xFFFF .tooLarge 0 cs with
    | .ok n => some (.ofNat n)
    | .error _ => none

/-
  The groups that some texts spell, of which the last one
  may be an address of version four.
-/
def groupsOf? : List (List Char) → Option (List UInt16)
| [] => some []
| [cs] =>
    match group? cs with
    | some g => some [g]
    | none => (Ipv4.parse? cs).map fun i => [i.high, i.low]
| cs :: rest => do
    return (← group? cs) :: (← groupsOf? rest)

/- The texts before and after the first two colons. -/
def cutDouble :
    List Char → Option (List Char × List Char)
| [] => none
| c :: cs =>
    match c, cs with
    | ':', ':' :: rest => some ([], rest)
    | _, _ =>
        (cutDouble cs).map fun (a, b) => (c :: a, b)

/- The texts between colons, none if there is no text. -/
def fields (cs : List Char) : List (List Char) :=
  if cs.isEmpty then [] else cs.splitOn ':'

/- Read an address. -/
def parse? (cs : List Char) : Option Ipv6 :=
  match cutDouble cs with
  | none => do ofGroups? (← groupsOf? (fields cs))
  | some (before, after) => do
      let gs ← (fields before).mapM group?
      let hs ← groupsOf? (fields after)
      if gs.length + hs.length < 8 then
        ofGroups? (gs ++
          List.replicate (8 - gs.length - hs.length) 0 ++ hs)
      else none

------------------------------------------------------------
-- Writing
------------------------------------------------------------

/- How many groups of zero some groups start with. -/
def zeros (gs : List UInt16) : Nat :=
  (gs.takeWhile (· = 0)).length

/-
  The place and the length of the longest run of zeros, the
  first of those as long.
-/
def longestZeros : List UInt16 → Nat × Nat
| [] => (0, 0)
| g :: gs =>
    let (i, n) := longestZeros gs
    if n ≤ zeros (g :: gs) then (0, zeros (g :: gs))
    else (i + 1, n)

/- Groups in hexadecimal with colons between them. -/
def joinGroups (gs : List UInt16) : String :=
  joined ":" (gs.map fun g => hexText g.toNat)

/-
  The text of an address, with two colons for the longest
  run of two or more zeros.
-/
def text (i : Ipv6) : String :=
  let (start, n) := longestZeros i.groups
  if n < 2 then joinGroups i.groups
  else
    joinGroups (i.groups.take start) ++ "::" ++
      joinGroups (i.groups.drop (start + n))

/-
  The text of an address in which one of version four that
  is carried in it is written as such.
-/
def mixedText (i : Ipv6) : String :=
  match i.groups with
  | [0, 0, 0, 0, 0, 0xFFFF, g, h] =>
      "::ffff:" ++
        (Ipv4.ofNat (g.toNat * 0x10000 + h.toNat)).text
  | _ => i.text

end Ipv6

end Signpost
