import Signpost.Regex.CharSet

/-
  This file defines regular expressions and how they are
  searched for in a text.

  An expression takes a list of positions in the text to the
  list of positions where it can end when it starts at one
  of them.  A list of positions descends strictly, so each
  position is taken once however many ways lead to it.

  Key definitions include:
    * `Look`
    * `Regex`
    * `Regex.ends`
    * `Regex.isMatch`
    * `Regex.Matches`
-/

namespace Signpost

open Regex

------------------------------------------------------------
-- Looking Around
------------------------------------------------------------

namespace Regex

/- What characters count as those of words. -/
inductive WordKind where
| unicode
| ascii
deriving DecidableEq, Repr

/- A character is one of words. -/
def WordKind.has : WordKind → Char → Bool
| .unicode, c => CharSet.word.mem c
| .ascii, c => CharSet.asciiWord.mem c

/- A condition on the characters around a position. -/
inductive Look where
| textStart
| textEnd
| lineStart
| lineEnd
| crlfLineStart
| crlfLineEnd
| boundary (k : WordKind)
| noBoundary (k : WordKind)
| wordStart (k : WordKind)
| wordEnd (k : WordKind)
| wordStartHalf (k : WordKind)
| wordEndHalf (k : WordKind)
deriving DecidableEq, Repr

/-
  A condition holds between two characters, which are absent
  at the ends of the text.
-/
def Look.holds
    (before after : Option Char) : Look → Bool
| .textStart => before.isNone
| .textEnd => after.isNone
| .lineStart => before.all (· = '\n')
| .lineEnd => after.all (· = '\n')
| .crlfLineStart =>
    before.all fun c =>
      c = '\n' || (c = '\r' && after ≠ some '\n')
| .crlfLineEnd =>
    after.all fun c =>
      c = '\r' || (c = '\n' && before ≠ some '\r')
| .boundary k => before.any k.has != after.any k.has
| .noBoundary k => before.any k.has == after.any k.has
| .wordStart k => !before.any k.has && after.any k.has
| .wordEnd k => before.any k.has && !after.any k.has
| .wordStartHalf k => !before.any k.has
| .wordEndHalf k => !after.any k.has

end Regex

------------------------------------------------------------
-- Expressions
------------------------------------------------------------

/-
  A regular expression.  A group is one whose place in the
  text can be asked for, which takes room but does not
  change what is matched.
-/
inductive Regex where
| empty
| chars (s : CharSet)
| look (l : Look)
| cat (a b : Regex)
| alt (a b : Regex)
| times (a : Regex) (least : Nat) (most : Option Nat)
| group (a : Regex)
deriving DecidableEq, Repr

namespace Regex

/- The expression of one character. -/
def char (c : Char) : Regex := .chars (.single c)

/- The expressions one after the other. -/
def sequence : List Regex → Regex
| [] => .empty
| [r] => r
| r :: rs => .cat r (sequence rs)

/- Any one of the expressions. -/
def anyOf : List Regex → Regex
| [] => .empty
| [r] => r
| r :: rs => .alt r (anyOf rs)

------------------------------------------------------------
-- Positions
------------------------------------------------------------

/- All positions of two descending lists. -/
def merge : List Nat → List Nat → List Nat
| [], js => js
| is, [] => is
| i :: is, j :: js =>
    if i = j then i :: merge is js
    else if j < i then i :: merge is (j :: js)
    else j :: merge (i :: is) js
termination_by is js => is.length + js.length

/- The positions of one descending list not in another. -/
def without : List Nat → List Nat → List Nat
| [], _ => []
| is, [] => is
| i :: is, j :: js =>
    if i = j then without is js
    else if j < i then i :: without is (j :: js)
    else without (i :: is) js
termination_by is js => is.length + js.length

/- The condition of a look holds at a position. -/
def Look.holdsAt
    (l : Look)
    (text : Array Char)
    (i : Nat) : Bool :=
  l.holds (if i = 0 then none else text[i - 1]?) text[i]?

/- Take a number of steps, none from no positions. -/
def repeated
    (step : List Nat → List Nat) :
    Nat → List Nat → List Nat
| 0, ps => ps
| n + 1, ps =>
    if ps.isEmpty then [] else repeated step n (step ps)

/-
  Add what at most a number of steps reach from the fresh
  ones of the positions seen so far.
-/
def grow
    (step : List Nat → List Nat) :
    Nat → List Nat → List Nat → List Nat
| 0, seen, _ => seen
| n + 1, seen, fresh =>
    let next := without (step fresh) seen
    if next.isEmpty then seen
    else grow step n (merge next seen) next

------------------------------------------------------------
-- Searching
------------------------------------------------------------

/-
  The positions where an expression ends when it starts at
  one of some positions.
-/
def ends
    (text : Array Char) : Regex → List Nat → List Nat
| .empty, ps => ps
| .chars s, ps =>
    ps.filterMap fun i =>
      match text[i]? with
      | some c => if s.mem c then some (i + 1) else none
      | none => none
| .look l, ps => ps.filter (l.holdsAt text)
| .cat a b, ps => ends text b (ends text a ps)
| .alt a b, ps => merge (ends text a ps) (ends text b ps)
| .times a least most, ps =>
    let start := repeated (ends text a) least ps
    let rounds :=
      match most with
      | some n => n - least
      | none => text.size + 1
    grow (ends text a) rounds start start
| .group a, ps => ends text a ps

/- All positions of a text, the last one first. -/
def positions (text : Array Char) : List Nat :=
  (List.range (text.size + 1)).reverse

/- An expression is found somewhere in a text. -/
def isMatch (r : Regex) (s : String) : Bool :=
  let text := s.toList.toArray
  !(r.ends text (positions text)).isEmpty

------------------------------------------------------------
-- Languages
------------------------------------------------------------

/-
  An expression can start at one position of a text and end
  at another.
-/
inductive Matches (text : Array Char) :
    Regex → Nat → Nat → Prop where
| empty (i : Nat) : Matches text .empty i i
| chars
    {s : CharSet}
    {i : Nat}
    {c : Char}
    (here : text[i]? = some c)
    (mem : s.mem c = true) :
    Matches text (.chars s) i (i + 1)
| look
    {l : Look}
    {i : Nat}
    (holds : l.holdsAt text i = true) :
    Matches text (.look l) i i
| cat
    {a b : Regex}
    {i j k : Nat}
    (first : Matches text a i j)
    (second : Matches text b j k) :
    Matches text (.cat a b) i k
| altLeft
    {a b : Regex}
    {i j : Nat}
    (left : Matches text a i j) :
    Matches text (.alt a b) i j
| altRight
    {a b : Regex}
    {i j : Nat}
    (right : Matches text b i j) :
    Matches text (.alt a b) i j
| stop
    {a : Regex}
    {most : Option Nat}
    (i : Nat) :
    Matches text (.times a 0 most) i i
| more
    {a : Regex}
    {least : Nat}
    {most : Option Nat}
    {i j k : Nat}
    (room : most ≠ some 0)
    (first : Matches text a i j)
    (rest :
      Matches text
        (.times a (least - 1) (most.map (· - 1))) j k) :
    Matches text (.times a least most) i k
| group
    {a : Regex}
    {i j : Nat}
    (inside : Matches text a i j) :
    Matches text (.group a) i j

/- The whole of a text is in the language of an expression. -/
def Accepts (r : Regex) (s : String) : Prop :=
  Matches s.toList.toArray r 0 s.length

end Regex

end Signpost
