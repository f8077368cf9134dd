import Signpost.Number.Binary64
import Signpost.Text.Quoted
import Signpost.Text.Split
import Signpost.Yaml.Node

/-
  This file defines what is found at a node: what the text
  of a plain scalar means, unless a tag says otherwise.

  A number with a zero before other digits is a text.

  Key definitions include:
    * `Real`
    * `Found`
    * `Found.text`
    * `Found.ofPlain`
    * `unsigned?`
    * `signed?`
-/

namespace Signpost.Yaml

open Number

------------------------------------------------------------
-- Whole Numbers
------------------------------------------------------------

/- Read digits of a base, at least one, up to a limit. -/
def natural?
    (base limit : Nat)
    (cs : List Char) : Option Nat :=
  if cs.head? = some '+' then none
  else (Text.readNat base limit cs).toOption

/- A text of digits that starts with a zero it need not have. -/
def isPadded (cs : List Char) : Bool :=
  let ds :=
    match cs with
    | '-' :: ds => ds
    | '+' :: ds => ds
    | ds => ds
  match ds with
  | '0' :: d :: ds => (d :: ds).all Char.isDigit
  | _ => false

/- Read digits with the mark of a base before them. -/
def based? (limit : Nat) (cs : List Char) : Option Nat :=
  match cs with
  | '0' :: 'x' :: ds => natural? 16 limit ds
  | '0' :: 'o' :: ds => natural? 8 limit ds
  | '0' :: 'b' :: ds => natural? 2 limit ds
  | ds => if isPadded ds then none else natural? 10 limit ds

/- Read a number that may start with a plus sign. -/
def unsigned? (limit : Nat) : List Char → Option Nat
| '+' :: cs => based? limit cs
| cs => based? limit cs

/- Read a number after a minus sign. -/
def negative? (limit : Nat) : List Char → Option Nat
| '-' :: cs => based? limit cs
| _ => none

/- Read a number with or without a minus sign. -/
def signed? (bits : Nat) (cs : List Char) : Option Int :=
  match unsigned? (Nat.pow 2 (bits - 1) - 1) cs with
  | some n => some n
  | none =>
      (negative? (Nat.pow 2 (bits - 1)) cs).map fun n => -(n : Int)

------------------------------------------------------------
-- Real Numbers
------------------------------------------------------------

/- A number with a point, or one that is no finite number. -/
inductive Real where
| finite (x : Binary64)
| infinite (isNegative : Bool)
| undefined
deriving DecidableEq, Repr

namespace Real

/- The shortest text of a number. -/
def text : Real → String
| .finite x => x.text
| .infinite true => "-inf"
| .infinite false => "inf"
| .undefined => "NaN"

/- A word that may follow a point. -/
def isWord (word : String) (cs : List Char) : Bool :=
  let w := word.toList
  let title := w.head?.toList.map Char.toUpper ++ w.tail
  [w, title, w.map Char.toUpper].any fun w => '.' :: w = cs

/- The spellings of a number that is undefined. -/
def undefinedWords : List (List Char) :=
  [".nan".toList, ".NaN".toList, ".NAN".toList]

/- Read a number that is not a whole one. -/
def ofText? (cs : List Char) : Option Real :=
  let unsigned := if cs.head? = some '+' then cs.tail else cs
  if isWord "inf" unsigned then some (.infinite false)
  else if cs.head? = some '-' && isWord "inf" cs.tail then
    some (.infinite true)
  else if undefinedWords.contains cs then some .undefined
  else if cs.head? = some '+' &&
      (unsigned.head? = some '-' || unsigned.head? = some '+')
  then none
  else do
    let d ← Decimal.ofText? unsigned
    let x ← Binary64.nearest? d
    return .finite x

end Real

------------------------------------------------------------
-- Findings
------------------------------------------------------------

/-
  What is found at a node.  A whole number of more than 64
  bits is wide.
-/
inductive Found where
| unit
| boolean (b : Bool)
| integer (n : Int)
| wide (n : Int)
| real (x : Real)
| text (s : String)
| sequence
| mapping
deriving DecidableEq, Repr

namespace Found

/- The words for what is found. -/
def describe : Found → String
| .unit => "unit value"
| .boolean b => "boolean \x60" ++ toString b ++ "\x60"
| .integer n => "integer \x60" ++ toString n ++ "\x60"
| .wide n =>
    "integer \x60" ++ toString n ++ "\x60 as " ++
      (if n < 0 then "i128" else "u128")
| .real x => "floating point \x60" ++ x.text ++ "\x60"
| .text s => "string " ++ Text.quoted s
| .sequence => "sequence"
| .mapping => "map"

/- A text that stands for nothing. -/
def isNull (s : String) : Bool :=
  s = "~" || s = "null" || s = "Null" || s = "NULL"

/- Read a truth value. -/
def boolean? (s : String) : Option Bool :=
  if s = "true" || s = "True" || s = "TRUE" then some true
  else if s = "false" || s = "False" || s = "FALSE" then
    some false
  else none

/- Read a whole number of some bits with or without a sign. -/
def sized? (bits : Nat) (cs : List Char) : Option Int :=
  match unsigned? (Nat.pow 2 bits - 1) cs with
  | some n => some n
  | none =>
      (negative? (Nat.pow 2 (bits - 1)) cs).map fun n => -(n : Int)

/- Read a whole number. -/
def integer? (s : String) : Option Found :=
  match sized? 64 s.toList with
  | some n => some (.integer n)
  | none => (sized? 128 s.toList).map Found.wide

/- Read a number with a point. -/
def real? (s : String) : Option Real :=
  if isPadded s.toList then none else Real.ofText? s.toList

/- What a plain text means. -/
def ofPlain (s : String) : Found :=
  if s.isEmpty || isNull s then .unit
  else
    match boolean? s with
    | some b => .boolean b
    | none =>
        match integer? s with
        | some n => n
        | none =>
            match real? s with
            | some x => .real x
            | none => .text s

end Found

end Signpost.Yaml
