import Signpost.Regex.Basic
import Signpost.Regex.Encoded

/-
  This file defines how large expressions are.

  An expression is turned into two automata over octets, one
  that reads forwards and one that reads backwards, and the
  parts that are repeated are copied.  The states take up
  memory, of which there is a limit for each automaton.

  Reading forwards, a set of characters has the fewest
  states possible.  Reading backwards, it has a path for
  each of its sequences, and only the first octets of one
  sequence and the next are shared.

  Key definitions include:
    * `Size`
    * `CharSet.size`
    * `Regex.Extent`
    * `Regex.extent`
    * `Regex.fits`
-/

namespace Signpost

namespace Regex

------------------------------------------------------------
-- Sizes
------------------------------------------------------------

/- The octets of memory that two automata take up. -/
structure Size where
  forwards : Nat
  backwards : Nat
deriving DecidableEq, Repr

namespace Size

/- The same size in both directions. -/
def both (n : Nat) : Size := ⟨n, n⟩

/- One size after the other. -/
def plus (a b : Size) : Size :=
  ⟨a.forwards + b.forwards, a.backwards + b.backwards⟩

/- A number of copies. -/
def copies (n : Nat) (a : Size) : Size :=
  ⟨n * a.forwards, n * a.backwards⟩

/- Some more octets in both directions. -/
def more (a : Size) (n : Nat) : Size := a.plus (both n)

end Size

/- The octets that a state takes up. -/
def stateSize : Nat := 32

/- The octets of a state that goes on at several others. -/
def forkSize (n : Nat) : Nat := stateSize + 4 * n

------------------------------------------------------------
-- States of a Set
------------------------------------------------------------

/- What a state does: a span of octets leads to a state. -/
abbrev Step := (Nat × Nat) × Nat

/- The states that are known so far, by their numbers. -/
abbrev States := List (List Step)

/- The number of a state, which may be new. -/
def numberOf (s : List Step) : StateM States Nat := fun known =>
  match known.idxOf? s with
  | some n => (n, known)
  | none => (known.length, known ++ [s])

/-
  The number of the state that reads some sequences, which
  have no more than a number of octets.
-/
def stateOf : Nat → List OctetSpans → StateM States Nat
| 0, _ => numberOf []
| n + 1, ss => do
    let branches := ss.splitBy fun a b => a.head? == b.head?
    let steps ← branches.mapM fun branch => do
      let target ← stateOf n (branch.map List.tail)
      return ((branch.head?.bind List.head?).map (·, target))
    numberOf (steps.filterMap id)

/- The octets that a state with some steps takes up. -/
def stepsSize (s : List Step) : Nat :=
  if s.length ≤ 1 then stateSize
  else stateSize + 8 * s.length

/- All numbers together. -/
def total (ns : List Nat) : Nat :=
  ns.foldl (· + ·) 0

/- The octets that the fewest states take up. -/
def fewest (ss : List OctetSpans) : Nat :=
  total (((stateOf 4 ss).run []).2.map stepsSize)

/- The length of what two sequences have in common. -/
def sharedLength : OctetSpans → OctetSpans → Nat
| a :: as, b :: bs => if a = b then sharedLength as bs + 1 else 0
| _, _ => 0

/- The states for sequences that share their first octets. -/
def pathStates (last : OctetSpans) : List OctetSpans → Nat
| [] => 0
| s :: ss =>
    s.length - sharedLength last s + pathStates s ss

/- The octets that a path for each sequence takes up. -/
def pathsSize (ss : List OctetSpans) : Nat :=
  forkSize ss.length + stateSize + stateSize * pathStates [] ss

/- The size of the characters with some sequences. -/
def sequencesSize (ss : List OctetSpans) : Size :=
  if ss.all fun s => s.length = 1 then .both (fewest ss)
  else ⟨fewest ss, pathsSize ss⟩

/-
  The size of a set of characters.  A character alone has a
  state for each octet, and no character at all has one.
-/
def CharSet.size (s : CharSet) : Size :=
  let ss := s.sequences
  match s.spans with
  | [] => .both stateSize
  | [(lo, hi)] =>
      if lo = hi then
        .both (stateSize * total (ss.map List.length))
      else sequencesSize ss
  | _ => sequencesSize ss

/- A size that no set with a few characters exceeds. -/
def smallSize : Nat := 4096

/- A size that no set with a name exceeds. -/
def largeSize : Nat := 65536

/- A size that a set does not exceed, told by its parts. -/
def CharSet.roughSize : CharSet → Nat
| .none => smallSize
| .span _ _ => smallSize
| .table _ => largeSize
| .category _ => largeSize
| .blank => largeSize
| .word => largeSize
| .union a b => a.roughSize + b.roughSize
| .inter a b => a.roughSize + b.roughSize
| .negated a => a.roughSize + smallSize
| .folded (.span lo hi) =>
    if lo = hi then smallSize else largeSize
| .folded a => a.roughSize + largeSize
| .asciiFolded a => a.roughSize + smallSize

------------------------------------------------------------
-- Extents
------------------------------------------------------------

/-
  What an expression takes up: the size of its branches, how
  many there are, the set it stands for if it is a set, and
  whether all matches or some matches are empty.
-/
structure Extent where
  size : Size
  branches : Nat := 1
  set : Option CharSet := none
  isEmpty : Bool := false
  isAlwaysEmpty : Bool := false
  mayBeEmpty : Bool := false
deriving DecidableEq, Repr

namespace Extent

/- The extent of the empty expression. -/
def nothing : Extent :=
  { size := .both stateSize
    isEmpty := true
    isAlwaysEmpty := true
    mayBeEmpty := true }

/- The extent of a condition on the place. -/
def place : Extent :=
  { size := .both stateSize
    isAlwaysEmpty := true
    mayBeEmpty := true }

/- The whole size, given the sizes of sets. -/
def whole (sizeOf : CharSet → Size) (e : Extent) : Size :=
  match e.set with
  | some s => sizeOf s
  | none =>
      if e.branches = 1 then e.size
      else e.size.more (forkSize e.branches + stateSize)

/- One expression after the other. -/
def cat
    (sizeOf : CharSet → Size)
    (a b : Extent) : Extent :=
  if a.isEmpty then b
  else if b.isEmpty then a
  else
    { size := (a.whole sizeOf).plus (b.whole sizeOf)
      isAlwaysEmpty := a.isAlwaysEmpty && b.isAlwaysEmpty
      mayBeEmpty := a.mayBeEmpty && b.mayBeEmpty }

/- The size of the branches of an alternative. -/
def branchSize
    (sizeOf : CharSet → Size)
    (e : Extent) : Size :=
  match e.set with
  | some s => sizeOf s
  | none => e.size

/- One expression or the other. -/
def alt
    (sizeOf : CharSet → Size)
    (a b : Extent) : Extent :=
  match a.set, b.set with
  | some s, some t => { a with set := some (.union s t) }
  | _, _ =>
      { size := (a.branchSize sizeOf).plus (b.branchSize sizeOf)
        branches := a.branches + b.branches
        isAlwaysEmpty := a.isAlwaysEmpty && b.isAlwaysEmpty
        mayBeEmpty := a.mayBeEmpty || b.mayBeEmpty }

/- The size of an expression of some size, repeated. -/
def repeatedSize
    (a : Size)
    (mayBeEmpty : Bool) :
    Nat → Option Nat → Size
| 0, none =>
    if mayBeEmpty then a.more (2 * forkSize 2 + stateSize)
    else a.more (forkSize 2)
| n + 1, none => (a.copies (n + 1)).more (forkSize 2)
| 0, some 1 => a.more (forkSize 2 + stateSize)
| least, some most =>
    let fixed :=
      if least = 0 then .both stateSize else a.copies least
    if least = most then fixed
    else
      (fixed.more stateSize).plus
        ((a.more (forkSize 2)).copies (most - least))

/- An expression repeated. -/
def times
    (sizeOf : CharSet → Size)
    (a : Extent)
    (least : Nat)
    (most : Option Nat) : Extent :=
  let (least, most) :=
    if a.isAlwaysEmpty then
      (min least 1, some (min (most.getD 1) 1))
    else (least, most)
  if most = some 0 then nothing
  else if least = 1 ∧ most = some 1 then a
  else
    { size :=
        repeatedSize (a.whole sizeOf) a.mayBeEmpty least most
      isAlwaysEmpty := a.isAlwaysEmpty
      mayBeEmpty := least = 0 || a.mayBeEmpty }

/- An expression whose place can be asked for. -/
def group (sizeOf : CharSet → Size) (a : Extent) : Extent :=
  { size := (a.whole sizeOf).plus ⟨2 * stateSize, 0⟩
    isAlwaysEmpty := a.isAlwaysEmpty
    mayBeEmpty := a.mayBeEmpty }

end Extent

/- The extent of an expression, given the sizes of sets. -/
def extent (sizeOf : CharSet → Size) : Regex → Extent
| .empty => .nothing
| .chars s => { size := .both 0, set := some s }
| .look _ => .place
| .cat a b => (extent sizeOf a).cat sizeOf (extent sizeOf b)
| .alt a b => (extent sizeOf a).alt sizeOf (extent sizeOf b)
| .times a least most =>
    (extent sizeOf a).times sizeOf least most
| .group a => (extent sizeOf a).group sizeOf

------------------------------------------------------------
-- The Limit
------------------------------------------------------------

/- The octets that each automaton may take up. -/
def sizeLimit : Nat := 10485760

/- The size of the automata of an expression. -/
def size (sizeOf : CharSet → Size) (r : Regex) : Size :=
  (((extent sizeOf r).whole sizeOf).plus
    ⟨2 * stateSize, 0⟩).more (2 * stateSize)

/- A size is within the limit. -/
def Size.isAllowed (a : Size) : Bool :=
  a.forwards ≤ sizeLimit && a.backwards ≤ sizeLimit

/-
  The automata of an expression are within the limit.  The
  exact sizes of its sets are looked at only if there might
  not be room enough.
-/
def fits (r : Regex) : Bool :=
  (r.size fun s => .both s.roughSize).isAllowed ||
    (r.size CharSet.size).isAllowed

end Regex

end Signpost
