import Signpost.Text.Decimal
import Signpost.Text.Split

/-
  This file defines scanners: functions that read a value
  from the start of a character list and leave the rest.

  A scanner comes with the proof that what it leaves is no
  longer than what it got, so that loops over scanners end.

  Key definitions include:
    * `Rest`
    * `Scan`
    * `Scan.next`
    * `Scan.ahead`
    * `Scan.skipWhile`
    * `Scan.takeWhile`
    * `Scan.accept`
-/

namespace Signpost.Text

------------------------------------------------------------
-- Scanners
------------------------------------------------------------

/- What is left of a character list. -/
structure Rest (cs : List Char) where
  list : List Char
  le : list.length ≤ cs.length

namespace Rest

/- All of a character list is left. -/
def all (cs : List Char) : Rest cs := ⟨cs, Nat.le_refl _⟩

/- What is left of a rest is left of the whole. -/
def trans
    {cs : List Char}
    (r : Rest cs)
    (s : Rest r.list) : Rest cs :=
  ⟨s.list, Nat.le_trans s.le r.le⟩

/- What is left of a tail is left of the whole. -/
def ofTail
    {c : Char}
    {cs : List Char}
    (r : Rest cs) : Rest (c :: cs) :=
  ⟨r.list, Nat.le_succ_of_le r.le⟩

end Rest

/- A function that reads a value and leaves the rest. -/
def Scan (α : Type) : Type :=
  (cs : List Char) → Option (α × Rest cs)

namespace Scan

variable {α β : Type}

/- Read nothing. -/
def pure (a : α) : Scan α :=
  fun cs => some (a, .all cs)

/- Read with one scanner, and then with another one. -/
def bind (p : Scan α) (f : α → Scan β) : Scan β :=
  fun cs =>
    match p cs with
    | none => none
    | some (a, r) =>
        match f a r.list with
        | none => none
        | some (b, s) => some (b, r.trans s)

instance : Monad Scan where
  pure := Scan.pure
  bind := Scan.bind

/- Read nothing and fail. -/
def fail : Scan α := fun _ => none

/- Fail unless a value is there. -/
def ofOption : Option α → Scan α
| some a => Scan.pure a
| none => fail

/- Fail unless a condition holds. -/
def require (b : Bool) : Scan Unit :=
  if b then Scan.pure () else fail

------------------------------------------------------------
-- Single Characters
------------------------------------------------------------

/- Read one character. -/
def next : Scan Char
| [] => none
| c :: cs => some (c, (Rest.all cs).ofTail)

/- Look at the characters ahead without reading them. -/
def ahead : Scan (List Char) :=
  fun cs => some (cs, .all cs)

/- Leave what a function leaves that only drops characters. -/
def skip
    (f : (cs : List Char) → Rest cs) : Scan Unit :=
  fun cs => some ((), f cs)

------------------------------------------------------------
-- Runs of Characters
------------------------------------------------------------

/- Dropping a run of characters leaves no more of them. -/
theorem length_dropWhile_le
    (p : Char → Bool)
    (cs : List Char) :
    (cs.dropWhile p).length ≤ cs.length :=
  (List.dropWhile_sublist p).length_le

/- Read the longest run of some characters. -/
def takeWhile (p : Char → Bool) : Scan (List Char) :=
  fun cs =>
    some (cs.takeWhile p,
      ⟨cs.dropWhile p, length_dropWhile_le p cs⟩)

/- Skip the longest run of some characters. -/
def skipWhile (p : Char → Bool) : Scan Unit :=
  skip fun cs => ⟨cs.dropWhile p, length_dropWhile_le p cs⟩

/- Read given characters, if they are next. -/
def accept (ms : List Char) : Scan Bool :=
  fun cs =>
    if ms.isPrefixOf cs then
      some (true, ⟨cs.drop ms.length, by simp⟩)
    else some (false, .all cs)

end Scan

end Signpost.Text
