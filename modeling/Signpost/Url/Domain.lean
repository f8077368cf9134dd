import Signpost.Text.Octets
import Signpost.Text.Punycode
import Signpost.Unicode.Caseless
import Signpost.Unicode.Direction

/-
  This file defines the ASCII form of domain names.

  The characters of a name are replaced by what they stand
  for, and then each label that is not in ASCII is written
  in ASCII after a mark.  A label that has the mark already
  must be the ASCII form of some label.

  Key definitions include:
    * `isLabel`
    * `isOrdered`
    * `asciiForm?`
    * `domainToAscii?`
-/

namespace Signpost.Url

open Text
open Unicode

------------------------------------------------------------
-- Characters
------------------------------------------------------------

/- A character that no name in its ASCII form can have. -/
def isDenied (c : Char) : Bool :=
  c.toNat ≤ 0x20 || c.toNat = 0x7F || c.isUpper ||
    "%#/:<>?@[\\]^|".toList.contains c

/- A character is in ASCII. -/
def isAscii (c : Char) : Bool :=
  c.toNat < 0x80

/- The joiner that keeps letters apart. -/
def nonJoiner : Char := '\u200c'

/- The joiner that keeps letters together. -/
def joiner : Char := '\u200d'

/- A joiner may stand after some letters, the last one first. -/
def isJoined (c : Char) (before after : List Char) : Bool :=
  match before with
  | [] => false
  | p :: _ =>
      combiningClass p.toNat = 9 ||
        (c = nonJoiner &&
          ((before.dropWhile isTransparent).head?.any
            joinsNext) &&
          ((after.dropWhile isTransparent).head?.any
            joinsPrevious))

/- The characters after some others may stand in a label. -/
def isSpelled (before : List Char) : List Char → Bool
| [] => true
| c :: cs =>
    (if isAscii c then !isDenied c
      else if c = nonJoiner || c = joiner then
        isJoined c before cs
      else isNameCharacter c) &&
      isSpelled (c :: before) cs

------------------------------------------------------------
-- Directions
------------------------------------------------------------

/- A character is written from the right. -/
def isRight (d : Direction) : Bool :=
  d = .right || d = .arabicNumber

/- The directions within a label agree with its first one. -/
def isOrdered (cs : List Char) : Bool :=
  let ds := cs.map direction
  let last := (ds.reverse.dropWhile (· = .mark)).head?
  match ds.head? with
  | none => true
  | some .right =>
      ds.all (· ≠ .left) &&
        last.any (fun d => isRight d || d = .europeanNumber) &&
        !(ds.contains .europeanNumber &&
          ds.contains .arabicNumber)
  | some .left =>
      ds.all (fun d => !isRight d) &&
        last.any (fun d => d = .left || d = .europeanNumber)
  | some _ => false

------------------------------------------------------------
-- Labels
------------------------------------------------------------

/- What stands before the ASCII form of a label. -/
def mark : List Char := "xn--".toList

/- A label that is not in ASCII is made up as it should be. -/
def isLabel (cs : List Char) : Bool :=
  composed cs = cs && !cs.head?.any isMark &&
    !mark.isPrefixOf cs && isSpelled [] cs

/- The label that has an ASCII form. -/
def labelOf? (cs : List Char) : Option (List Char) :=
  if mark.isPrefixOf cs then
    if cs.all isAscii then
      (Punycode.decode? (cs.drop 4)).filter fun label =>
        !label.all isAscii && isLabel label
    else none
  else if cs.all isAscii || isLabel cs then some cs
  else none

/- The ASCII form of a label. -/
def asciiLabel (cs : List Char) : List Char :=
  if cs.all isAscii then cs else mark ++ Punycode.encode cs

------------------------------------------------------------
-- Names
------------------------------------------------------------

/- The ASCII form of a name, if it is one at all. -/
def asciiForm? (cs : List Char) : Option (List Char) := do
  let labels ← ((plainForm cs).splitOn '.').mapM labelOf?
  let isMixed := labels.any fun l =>
    (l.map direction).any isRight
  if isMixed && !labels.all isOrdered then none
  else
    let name := ['.'].intercalate (labels.map asciiLabel)
    if name.any isDenied then none else some name

/- The ASCII form of the domain that some octets spell. -/
def domainToAscii? (bs : List UInt8) : Option (List Char) :=
  let cs := decodeLossy bs
  if octetsOf cs = bs then asciiForm? cs else none

end Signpost.Url
