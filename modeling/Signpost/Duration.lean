import Signpost.Text.Blank
import Signpost.Text.Decimal
import Signpost.Text.Quoted

/-
  This file defines spans of time and their texts.

  A text is a run of decimal digits with an optional unit,
  which is `ms`, `s` or `m`; without a unit the digits count
  milliseconds.

  The digits are bounded and their product with the unit is
  not: minutes whose seconds are beyond 64 bits, which have
  no value of their own, are left out here.

  Key definitions include:
    * `Duration`
    * `Duration.unit?`
    * `Duration.parse`
    * `Duration.text`
-/

namespace Signpost

open Text

------------------------------------------------------------
-- Spans of Time
------------------------------------------------------------

/- A span of time in whole milliseconds. -/
structure Duration where
  millis : Nat
deriving DecidableEq, Repr

/- Why a text is no span of time. -/
inductive DurationError where
| malformed (text : String)
| unknownUnit (unit text : String)
deriving DecidableEq, Repr

/- The wording of a duration error. -/
def DurationError.message : DurationError → String
| .malformed text => "invalid duration " ++ quoted text
| .unknownUnit unit text =>
    "unsupported duration unit " ++ quoted unit ++
      " in " ++ quoted text

namespace Duration

/- The whole seconds of a span. -/
def seconds (d : Duration) : Nat :=
  d.millis / 1000

/- The nanoseconds of a span past its whole seconds. -/
def nanos (d : Duration) : Nat :=
  d.millis % 1000 * 1000000

------------------------------------------------------------
-- Reading
------------------------------------------------------------

/- The milliseconds of one unit. -/
def unit? (u : String) : Option Nat :=
  if u = "ms" then some 1
  else if u = "s" then some 1000
  else if u = "m" then some 60000
  else none

/-
  Read a span of time.  White space may stand around the
  text and between its digits and its unit.
-/
def parse (s : String) : Except DurationError Duration :=
  let cs := trim s.toList
  let digits := cs.takeWhile Char.isDigit
  let rest := cs.dropWhile Char.isDigit
  let text := String.ofList cs
  match readNat 10 (UInt64.size - 1) digits with
  | .error _ => .error (.malformed text)
  | .ok n =>
      let unit :=
        if rest.isEmpty then "ms"
        else String.ofList (trim rest)
      match unit? unit with
      | some m => .ok ⟨n * m⟩
      | none => .error (.unknownUnit unit text)

------------------------------------------------------------
-- Writing
------------------------------------------------------------

/- Three digits after a point, without zeros at the end. -/
def fraction (n : Nat) : List Char :=
  let ds := Nat.toDigits 10 n
  let ds := List.replicate (3 - ds.length) '0' ++ ds
  (ds.reverse.dropWhile (· = '0')).reverse

/-
  The text of a span in its largest unit of seconds and
  milliseconds that it reaches.
-/
def text (d : Duration) : String :=
  if d.millis = 0 then "0ns"
  else if d.millis < 1000 then toString d.millis ++ "ms"
  else if d.millis % 1000 = 0 then
    toString d.seconds ++ "s"
  else
    toString d.seconds ++ "." ++
      String.ofList (fraction (d.millis % 1000)) ++ "s"

end Duration

end Signpost
