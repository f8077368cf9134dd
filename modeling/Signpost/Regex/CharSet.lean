import Signpost.Text.Blank
import Signpost.Unicode.Folding
import Signpost.Unicode.Property
import Signpost.Unicode.Script

/-
  This file defines the character sets of regular
  expressions.

  A set is a description, and `CharSet.mem` says what it
  holds.  Folding a set adds the characters that differ from
  one of its own in letter case only.

  Key definitions include:
    * `CharSet`
    * `CharSet.mem`
    * `CharSet.named?`
    * `CharSet.posix?`
-/

namespace Signpost.Regex

open Text
open Unicode

------------------------------------------------------------
-- Sets
------------------------------------------------------------

/- A description of a set of characters. -/
inductive CharSet where
| none
| span (lo hi : Char)
| table (t : Spans)
| category (name : String)
| blank
| word
| union (a b : CharSet)
| inter (a b : CharSet)
| negated (a : CharSet)
| folded (a : CharSet)
| asciiFolded (a : CharSet)
deriving DecidableEq, Repr

namespace CharSet

/- An ASCII letter in both cases, or a character alone. -/
def asciiOrbit (c : Char) : List Char :=
  if c.isAlpha then [c.toLower, c.toUpper] else [c]

/- A character is in a set. -/
def mem : CharSet → Char → Bool
| .none, _ => false
| .span lo hi, c => lo ≤ c && c ≤ hi
| .table t, c => t.mem c
| .category name, c => inCategory name c
| .blank, c => isBlank c
| .word, c => isWordChar c
| .union a b, c => a.mem c || b.mem c
| .inter a b, c => a.mem c && b.mem c
| .negated a, c => !a.mem c
| .folded a, c => a.mem c || (caseOrbit c).any a.mem
| .asciiFolded a, c => a.mem c || (asciiOrbit c).any a.mem

/- The set of one character. -/
def single (c : Char) : CharSet := .span c c

/- The set of all characters. -/
def all : CharSet := .negated .none

/- The set of some characters. -/
def ofChars : List Char → CharSet
| [] => .none
| c :: cs => .union (single c) (ofChars cs)

/- The characters of one set that another one lacks. -/
def diff (a b : CharSet) : CharSet :=
  .inter a (.negated b)

/- The characters that are in just one of two sets. -/
def either (a b : CharSet) : CharSet :=
  .union (diff a b) (diff b a)

------------------------------------------------------------
-- ASCII Sets
------------------------------------------------------------

/- The ASCII digits. -/
def asciiDigit : CharSet := .span '0' '9'

/- The lower-case ASCII letters. -/
def asciiLower : CharSet := .span 'a' 'z'

/- The upper-case ASCII letters. -/
def asciiUpper : CharSet := .span 'A' 'Z'

/- The ASCII letters. -/
def asciiAlpha : CharSet := .union asciiLower asciiUpper

/- The ASCII letters and digits. -/
def asciiAlnum : CharSet := .union asciiAlpha asciiDigit

/- The ASCII characters of words. -/
def asciiWord : CharSet := .union asciiAlnum (single '_')

/- The ASCII blanks. -/
def asciiBlank : CharSet :=
  .union (.span '\t' '\r') (single ' ')

/- The ASCII set with a name between colons in brackets. -/
def posix? (name : String) : Option CharSet :=
  match name with
  | "alnum" => some asciiAlnum
  | "alpha" => some asciiAlpha
  | "ascii" => some (.span '\x00' '\x7f')
  | "blank" => some (ofChars ['\t', ' '])
  | "cntrl" =>
      some (.union (.span '\x00' '\x1f') (single '\x7f'))
  | "digit" => some asciiDigit
  | "graph" => some (.span '!' '~')
  | "lower" => some asciiLower
  | "print" => some (.span ' ' '~')
  | "punct" =>
      some (.union
        (.union (.span '!' '/') (.span ':' '@'))
        (.union (.span '[' '\x60') (.span '\x7b' '~')))
  | "space" => some asciiBlank
  | "upper" => some asciiUpper
  | "word" => some asciiWord
  | "xdigit" =>
      some (.union asciiDigit
        (.union (.span 'a' 'f') (.span 'A' 'F')))
  | _ => Option.none

------------------------------------------------------------
-- Sets with a Unicode Name
------------------------------------------------------------

/-
  A name in the form in which names are compared: without
  blanks, dashes, underscores and characters outside ASCII,
  in lower case, and without `is` at its start.
-/
def looseName (cs : List Char) : String :=
  let (marked, body) :=
    match cs with
    | i :: s :: rest =>
        if i.toLower = 'i' ∧ s.toLower = 's' then
          (true, rest)
        else (false, cs)
    | _ => (false, cs)
  let body :=
    (body.filter fun c =>
      c ≠ ' ' && c ≠ '_' && c ≠ '-' && c.toNat < 0x80).map
      Char.toLower
  if marked ∧ body = ['c'] then "isc"
  else String.ofList body

/- The set of a general category, or of a wider group. -/
def category? (name : String) : Option CharSet :=
  match name with
  | "any" => some all
  | "ascii" => some (.span '\x00' '\x7f')
  | "assigned" => some (.negated (.category "Cn"))
  | _ =>
      (categoryNames.find? fun p => p.2.contains name).map
        fun p => .category p.1

/- The set of a script. -/
def scriptSet? (name : String) : Option CharSet :=
  (script? name).map .table

/- The set of a property, a category or a script. -/
def named? (cs : List Char) : Option CharSet :=
  let name := looseName cs
  let asProperty :=
    if ["cf", "sc", "lc"].contains name then Option.none
    else (property? name).map .table
  (asProperty.or (category? name)).or (scriptSet? name)

/- The set of a named kind that has a value. -/
def valued? (kind value : List Char) : Option CharSet :=
  let value := looseName value
  match looseName kind with
  | "gc" => category? value
  | "generalcategory" => category? value
  | "sc" => scriptSet? value
  | "script" => scriptSet? value
  | _ => Option.none

end CharSet

end Signpost.Regex
