import Signpost.Regex.CharSet

/-
  This file defines how the characters of a set are written
  as octets: the spans of code points that a set consists
  of, and the sequences of spans of octets that make up
  their UTF-8 forms.

  A set can only begin or end at a code point where one of
  its tables does, so it is asked for those alone.

  Key definitions include:
    * `CharSet.cuts`
    * `CharSet.spans`
    * `sequencesOf`
    * `CharSet.sequences`
-/

namespace Signpost.Regex

open Text
open Unicode

------------------------------------------------------------
-- Cuts
------------------------------------------------------------

/- Where spans begin, and where they are over. -/
def cutsOf (spans : List (Nat × Nat)) : List Nat :=
  spans.flatMap fun (lo, hi) => [lo, hi + 1]

/- Where the categories begin and end. -/
def categoryCuts : List Nat :=
  categorySpans.flatMap fun (_, t) => cutsOf t.list

/- Where the white space begins and ends. -/
def blankCuts : List Nat :=
  cutsOf
    [(9, 13), (0x20, 0x20), (0x85, 0x85), (0xA0, 0xA0),
      (0x1680, 0x1680), (0x2000, 0x200A), (0x2028, 0x2029),
      (0x202F, 0x202F), (0x205F, 0x205F), (0x3000, 0x3000)]

/- Where the characters of words begin and end. -/
def wordCuts : List Nat :=
  cutsOf alphabetic.list ++ categoryCuts ++
    cutsOf [(0x200C, 0x200D)]

/- The code points that a folding rule moves, and to where. -/
def ruleSpans (r : FoldingRule) : List (Nat × Nat) :=
  let moves := (List.range (r.last + 1 - r.first)).filter
    fun i => i % r.step = 0
  moves.flatMap fun i =>
    [(r.first + i, r.first + i), (r.target + i, r.target + i)]

/- Where characters with a letter case begin and end. -/
def foldingCuts : List Nat :=
  cutsOf (foldingRules.flatMap ruleSpans)

namespace CharSet

/- Where a set may begin or end. -/
def cuts : CharSet → List Nat
| .none => []
| .span lo hi => cutsOf [(lo.toNat, hi.toNat)]
| .table t => cutsOf t.list
| .category _ => categoryCuts
| .blank => blankCuts
| .word => wordCuts
| .union a b => a.cuts ++ b.cuts
| .inter a b => a.cuts ++ b.cuts
| .negated a => a.cuts
| .folded a => a.cuts ++ foldingCuts
| .asciiFolded a => a.cuts ++ List.range 0x81

------------------------------------------------------------
-- Spans
------------------------------------------------------------

/- Where the code points of characters begin and end. -/
def outerCuts : List Nat :=
  cutsOf [(0, 0xD7FF), (0xE000, 0x10FFFF)]

/- Numbers in ascending order, each of them once. -/
def ascending (ns : List Nat) : List Nat :=
  (ns.mergeSort (· ≤ ·)).splitBy (· == ·) |>.filterMap
    List.head?

/- The spans from each number up to the next one. -/
def between (ns : List Nat) : List (Nat × Nat) :=
  (ns.zip ns.tail).map fun (lo, next) => (lo, next - 1)

/- Join spans that follow one another. -/
def joinSpans : List (Nat × Nat) → List (Nat × Nat)
| [] => []
| (lo, hi) :: spans =>
    match joinSpans spans with
    | [] => [(lo, hi)]
    | (lo', hi') :: rest =>
        if hi + 1 = lo' then (lo, hi') :: rest
        else (lo, hi) :: (lo', hi') :: rest

/- The spans of code points that a set consists of. -/
def spans (s : CharSet) : List (Nat × Nat) :=
  joinSpans
    ((between (ascending (s.cuts ++ outerCuts))).filter
      fun (lo, _) => lo.isValidChar && s.mem (Char.ofNat lo))

end CharSet

------------------------------------------------------------
-- Sequences of Octets
------------------------------------------------------------

/- Spans of octets, one for each octet of a character. -/
abbrev OctetSpans := List (Nat × Nat)

/-
  The sequences for all numbers of a span in base 64.  They
  have a number of digits after the first one, which counts
  from some octet.
-/
def digitSpans
    (first : Nat) :
    Nat → Nat → Nat → List OctetSpans
| 0, lo, hi => [[(first + lo, first + hi)]]
| n + 1, lo, hi =>
    let block := Nat.pow 64 (n + 1)
    let a := lo / block
    let b := hi / block
    let led (d : Nat) (rest : List OctetSpans) :=
      rest.map ((first + d, first + d) :: ·)
    if a = b then
      led a (digitSpans 0x80 n (lo % block) (hi % block))
    else
      let isLow := lo % block = 0
      let isHigh := hi % block + 1 = block
      let start :=
        if isLow then []
        else led a (digitSpans 0x80 n (lo % block) (block - 1))
      let stop :=
        if isHigh then []
        else led b (digitSpans 0x80 n 0 (hi % block))
      let c := if isLow then a else a + 1
      let d := if isHigh then b else b - 1
      let middle :=
        if c ≤ d then
          [(first + c, first + d) ::
            List.replicate (n + 1) (0x80, 0xBF)]
        else []
      start ++ middle ++ stop

/-
  The code points whose UTF-8 forms have some number of
  octets after the first one, and what the first one counts
  from.
-/
def encodings : List (Nat × Nat × Nat × Nat) :=
  [(0, 0, 0x7F, 0), (1, 0x80, 0x7FF, 0xC0),
    (2, 0x800, 0xFFFF, 0xE0), (3, 0x10000, 0x10FFFF, 0xF0)]

/- The sequences for a span of code points. -/
def sequencesOf (span : Nat × Nat) : List OctetSpans :=
  encodings.flatMap fun (n, lo, hi, first) =>
    let lo := max lo span.1
    let hi := min hi span.2
    if lo ≤ hi then digitSpans first n lo hi else []

/- The sequences for all characters of a set. -/
def CharSet.sequences (s : CharSet) : List OctetSpans :=
  s.spans.flatMap sequencesOf

end Signpost.Regex
