/-
  This file defines how bounded whole numbers are read from
  decimal text.

  A text is read from left to right.  The first character
  that is no digit, or the first digit that carries the
  value past the limit, decides the error.

  Key definitions include:
    * `NumberError`
    * `NumberError.message`
    * `digit?`
    * `readDigits`
    * `readNatUpTo`
    * `readInt32`
-/

namespace Signpost.Text

------------------------------------------------------------
-- Errors
------------------------------------------------------------

/- Why a text is no number of the wanted range. -/
inductive NumberError where
| empty
| invalidDigit
| tooLarge
| tooSmall
deriving DecidableEq, Repr

/- The wording of a number error. -/
def NumberError.message : NumberError → String
| .empty => "cannot parse integer from empty string"
| .invalidDigit => "invalid digit found in string"
| .tooLarge => "number too large to fit in target type"
| .tooSmall => "number too small to fit in target type"

------------------------------------------------------------
-- Digits
------------------------------------------------------------

/- The value of an ASCII decimal digit. -/
def digit? (c : Char) : Option Nat :=
  if c.isDigit then some (c.toNat - '0'.toNat) else none

/- The value of an ASCII hexadecimal digit. -/
def hexDigit? (c : Char) : Option Nat :=
  if c.isDigit then some (c.toNat - '0'.toNat)
  else if 'a' ≤ c ∧ c ≤ 'f' then
    some (c.toNat - 'a'.toNat + 10)
  else if 'A' ≤ c ∧ c ≤ 'F' then
    some (c.toNat - 'A'.toNat + 10)
  else none

/- The value of a digit below a given base. -/
def digitBelow? (base : Nat) (c : Char) : Option Nat :=
  match hexDigit? c with
  | some d => if d < base then some d else none
  | none => none

/-
  Continue a number with further digits of a base, as long
  as it stays within the limit.
-/
def readDigits
    (base limit : Nat)
    (overflow : NumberError) :
    Nat → List Char → Except NumberError Nat
| acc, [] => .ok acc
| acc, c :: cs =>
    match digitBelow? base c with
    | none => .error .invalidDigit
    | some d =>
        if acc * base + d ≤ limit then
          readDigits base limit overflow
            (acc * base + d) cs
        else .error overflow

------------------------------------------------------------
-- Numbers
------------------------------------------------------------

/-
  Read a number that may start with `+` and is at most the
  limit, in the given base.
-/
def readNat
    (base limit : Nat) :
    List Char → Except NumberError Nat
| [] => .error .empty
| ['+'] => .error .invalidDigit
| '+' :: cs => readDigits base limit .tooLarge 0 cs
| cs => readDigits base limit .tooLarge 0 cs

/- Read a decimal number of at most the limit. -/
def readNatUpTo
    (limit : Nat)
    (s : String) : Except NumberError Nat :=
  readNat 10 limit s.toList

/-
  Read a number with an optional sign, between `-limit - 1`
  and `limit`, in the given base.
-/
def readInt
    (base limit : Nat) :
    List Char → Except NumberError Int
| ['-'] => .error .invalidDigit
| '-' :: cs => do
    let n ← readDigits base (limit + 1) .tooSmall 0 cs
    return -(n : Int)
| cs => do
    let n ← readNat base limit cs
    return (n : Int)

/- Read a signed decimal number of 32 bits. -/
def readInt32 (s : String) : Except NumberError Int32 := do
  let n ← readInt 10 (Nat.pow 2 31 - 1) s.toList
  return Int32.ofInt n

end Signpost.Text
