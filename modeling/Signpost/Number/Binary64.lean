import Signpost.Text.Decimal

/-
  This file defines decimal texts of binary floating-point
  numbers with 53 digits: the nearest number to a decimal
  text, and the shortest text that reads back.

  All arithmetic is exact on whole numbers.  A number is a
  whole `m` times a power of two, and the texts that read
  back as it are those in an interval around it, with its
  ends when `m` is even.

  Key definitions include:
    * `Decimal`
    * `Decimal.ofText?`
    * `Binary64`
    * `Binary64.nearest?`
    * `Binary64.shortest`
    * `Binary64.text`
-/

namespace Signpost.Number

open Signpost.Text

------------------------------------------------------------
-- Decimal Numbers
------------------------------------------------------------

/- A sign, a whole number, and a power of ten it is taken by. -/
structure Decimal where
  negative : Bool
  digits : Nat
  exponent : Int
deriving DecidableEq, Repr

namespace Decimal

/- The whole number that some decimal digits spell. -/
def value (cs : List Char) : Nat :=
  cs.foldl (fun n c => n * 10 + (digit? c).getD 0) 0

/- Read an exponent: a sign and at least one digit. -/
def exponentOf? (cs : List Char) : Option Int :=
  let (neg, ds) :=
    match cs with
    | '-' :: r => (true, r)
    | '+' :: r => (false, r)
    | r => (false, r)
  if ds.isEmpty || !ds.all Char.isDigit then none
  else
    let n : Int := value ds
    some (if neg then -n else n)

/-
  Read an unsigned decimal number: digits with at most one
  point among them, and an exponent.
-/
def unsigned? (neg : Bool) (cs : List Char) : Option Decimal :=
  let whole := cs.takeWhile Char.isDigit
  let rest := cs.dropWhile Char.isDigit
  let (frac, rest) :=
    match rest with
    | '.' :: r =>
        (r.takeWhile Char.isDigit, r.dropWhile Char.isDigit)
    | r => ([], r)
  if whole.isEmpty && frac.isEmpty then none
  else
    let n := value (whole ++ frac)
    let shift : Int := -(frac.length : Int)
    match rest with
    | [] => some ⟨neg, n, shift⟩
    | c :: r =>
        if c = 'e' ∨ c = 'E' then
          (exponentOf? r).map fun e => ⟨neg, n, shift + e⟩
        else none

/- Read a decimal number with an optional sign. -/
def ofText? : List Char → Option Decimal
| '-' :: cs => unsigned? true cs
| '+' :: cs => unsigned? false cs
| cs => unsigned? false cs

end Decimal

------------------------------------------------------------
-- Binary Numbers
------------------------------------------------------------

/-
  A finite binary number: a sign and a whole number below
  `2 ^ 53` times a power of two of at least `-1074`.
-/
structure Binary64 where
  negative : Bool
  mantissa : Nat
  exponent : Int
deriving DecidableEq, Repr

/- Divide and round to the nearest, a tie to the even one. -/
def roundDiv (a b : Nat) : Nat :=
  let q := a / b
  let r := a % b
  if 2 * r < b then q
  else if 2 * r > b then q + 1
  else q + q % 2

/- A fraction taken by a power of a base. -/
def scaled (base : Nat) (a b : Nat) (e : Int) : Nat × Nat :=
  match e with
  | .ofNat n => (a * Nat.pow base n, b)
  | .negSucc n => (a, b * Nat.pow base (n + 1))

namespace Binary64

/-
  The nearest finite number to a fraction, if the fraction
  is not past the largest one by half a step or more.
-/
def nearestOfFraction?
    (neg : Bool)
    (a b : Nat) : Option Binary64 :=
  if a = 0 then some ⟨neg, 0, -1074⟩
  else
    let guess : Int := (a.log2 : Int) - (b.log2 : Int) - 52
    let (x, y) := scaled 2 a b (-guess)
    let e := if x / y < Nat.pow 2 52 then guess - 1 else guess
    let e := max e (-1074)
    let (x, y) := scaled 2 a b (-e)
    let m := roundDiv x y
    let (m, e) :=
      if m = Nat.pow 2 53 then (Nat.pow 2 52, e + 1)
      else (m, e)
    if e ≤ 971 then some ⟨neg, m, e⟩ else none

/-
  The nearest finite number to a decimal one, if any.  The
  size of the number is estimated first, so that a far
  exponent is not written out.
-/
def nearest? (d : Decimal) : Option Binary64 :=
  if d.digits = 0 then some ⟨d.negative, 0, -1074⟩
  else
    let bits : Int := d.digits.log2
    if bits * 301 / 1000 + d.exponent > 400 then none
    else if bits * 302 / 1000 + 2 + d.exponent < -400 then
      some ⟨d.negative, 0, -1074⟩
    else
      let (a, b) := scaled 10 d.digits 1 d.exponent
      nearestOfFraction? d.negative a b

------------------------------------------------------------
-- Shortest Text
------------------------------------------------------------

/-
  Whether a decimal number reads back as a positive binary
  one.
-/
def readsBack (x : Binary64) (n : Nat) (e : Int) : Bool :=
  let (a, b) := scaled 10 n 1 e
  nearestOfFraction? x.negative a b = some x

/-
  The digits and the power of ten of the shortest decimal
  that reads back, tried from one digit to seventeen; of two
  as short, the nearer one.
-/
def shortest (x : Binary64) : Nat × Int :=
  let (a, b) := scaled 2 x.mantissa 1 x.exponent
  let len (n : Nat) : Int := (Nat.toDigits 10 n).length
  let guess : Int :=
    if a ≥ b then len (a / b) else 1 - len ((b - 1) / a)
  let rec go (fuel : Nat) (k : Nat) : Nat × Int :=
    match fuel with
    | 0 => (x.mantissa, 0)
    | fuel + 1 =>
        let e : Int := guess - k
        let (p, q) := scaled 10 a b (-e)
        let lo := p / q
        let near := if 2 * (p % q) ≤ q then lo else lo + 1
        let far := if near = lo then lo + 1 else lo
        if readsBack x near e then (near, e)
        else if readsBack x far e then (far, e)
        else go fuel (k + 1)
  go 18 1

/- Digits with a point so many places before their end. -/
def placed (n : Nat) (e : Int) : String :=
  let ds := Nat.toDigits 10 n
  match e with
  | .ofNat k =>
      String.ofList (ds ++ List.replicate k '0') ++ ".0"
  | .negSucc k =>
      let ds := List.replicate (k + 2 - ds.length) '0' ++ ds
      let split := ds.length - (k + 1)
      let frac :=
        ((ds.drop split).reverse.dropWhile (· = '0')).reverse
      String.ofList (ds.take split) ++ "." ++
        (if frac.isEmpty then "0" else String.ofList frac)

/-
  The shortest positional text that reads back, with at
  least one digit after the point.
-/
def text (x : Binary64) : String :=
  let body :=
    if x.mantissa = 0 then "0.0"
    else
      let (n, e) := x.shortest
      placed n e
  if x.negative then "-" ++ body else body

end Binary64

end Signpost.Number
