import Signpost.Regex.Escape

/-
  This file defines the sets in square brackets of patterns.

  A set in brackets holds characters, spans, named sets and
  further sets in brackets.  Two sets can be joined by `&&`,
  `--` or `~~`, which group to the left.

  Every set has a height, which counts how deep its parts
  are nested.

  Key definitions include:
    * `SetOperator`
    * `Bracket`
    * `readBrackets`
-/

namespace Signpost.Regex

open Text

------------------------------------------------------------
-- Open Brackets
------------------------------------------------------------

/- How two sets are joined. -/
inductive SetOperator where
| inter
| diff
| either
deriving DecidableEq, Repr

/- The set of two joined sets. -/
def SetOperator.apply :
    SetOperator → CharSet → CharSet → CharSet
| .inter, a, b => .inter a b
| .diff, a, b => .diff a b
| .either, a, b => .either a b

/- A set with its height. -/
structure TallSet where
  set : CharSet
  height : Nat
deriving DecidableEq, Repr

/-
  A set whose bracket is open: the items read since the last
  operator, their number and greatest height, and what
  stands before that operator.
-/
structure Bracket where
  negated : Bool
  items : CharSet := .none
  count : Nat := 0
  height : Nat := 0
  left : Option (SetOperator × TallSet) := none
deriving DecidableEq, Repr

namespace Bracket

/- Add an item to an open set. -/
def add (b : Bracket) (t : TallSet) : Bracket :=
  { b with
    items := .union b.items t.set
    count := b.count + 1
    height := max b.height t.height }

/- The items read since the last operator as one set. -/
def operand (b : Bracket) : TallSet :=
  ⟨b.items, if 1 < b.count then b.height + 1 else b.height⟩

/- All that an open set holds so far. -/
def whole (f : Flags) (b : Bracket) : TallSet :=
  match b.left with
  | none => b.operand
  | some (op, l) =>
      ⟨op.apply (f.fold l.set) (f.fold b.operand.set),
        max l.height b.operand.height + 1⟩

/- Go on with an operator. -/
def operate
    (f : Flags)
    (op : SetOperator)
    (b : Bracket) : Bracket :=
  { negated := b.negated, left := some (op, b.whole f) }

/- Close the bracket of a set. -/
def close (f : Flags) (b : Bracket) : Option TallSet :=
  (f.polar? b.negated (f.fold (b.whole f).set)).map
    fun s => ⟨s, (b.whole f).height + 1⟩

end Bracket

------------------------------------------------------------
-- Items
------------------------------------------------------------

/-
  Read the start of a set after its bracket: a caret that
  negates it, and dashes or a bracket that belong to it.
-/
def openBracket (f : Flags) : Scan Bracket := do
  gap f
  let negated ← Scan.accept ['^']
  let dashes ← spaced f (· = '-')
  let b := dashes.foldl
    (fun b c => b.add ⟨.single c, 0⟩) { negated }
  if dashes.isEmpty then
    if ← Scan.accept [']'] then
      return b.add ⟨.single ']', 0⟩
    else return b
  else return b

/-
  The name up to a colon, if a closing bracket follows the
  colon.
-/
def posixName? (cs : List Char) : Option (List Char) :=
  let name := cs.takeWhile (· ≠ ':')
  if [':', ']'].isPrefixOf (cs.drop name.length) then some name
  else none

/-
  Give the ASCII set with a name, or its complement, and
  skip the name with all that stands around it.
-/
def posixSet
    (f : Flags)
    (negated : Bool)
    (name : List Char) : Scan (Option TallSet) :=
  match CharSet.posix? (String.ofList name) with
  | none => return none
  | some s => do
      let size := name.length + (if negated then 4 else 3)
      let t ← Scan.ofOption (f.polar? negated (f.fold s))
      Scan.skip fun cs => ⟨cs.drop size, by simp⟩
      return some ⟨t, 0⟩

/-
  Read the name of an ASCII set between colons and closing
  bracket, if it is next.  A caret before the name asks for
  the complement.
-/
def posixItem (f : Flags) : Scan (Option TallSet) := do
  match ← Scan.ahead with
  | ':' :: rest =>
      let negated := ['^'].isPrefixOf rest
      match posixName? (if negated then rest.tail else rest) with
      | none => return none
      | some name => posixSet f negated name
  | _ => return none

/- What a character of a set stands for. -/
def bracketAtom (f : Flags) (c : Char) : Scan Atom :=
  if c = '\\' then escape f else return .char c

/- A character that a set can hold under some flags. -/
def Flags.admits (f : Flags) (c : Char) : Bool :=
  f.unicode || c.toNat < 0x80

/-
  A dash is next and goes on to the end of a span: not one
  before a closing bracket or another dash.
-/
def continuesSpan (f : Flags) : List Char → Bool
| '-' :: rest =>
    match afterGap f rest with
    | ']' :: _ => false
    | '-' :: _ => false
    | _ => true
| _ => false

/- Read one character, one span or one named set. -/
def bracketItem (f : Flags) (c : Char) : Scan TallSet := do
  let a ← bracketAtom f c
  gap f
  if continuesSpan f (← Scan.ahead) then
    let _ ← Scan.next
    gap f
    let d ← Scan.next
    let b ← bracketAtom f d
    match a, b with
    | .char lo, .char hi =>
        Scan.require (f.admits lo && f.admits hi && lo ≤ hi)
        return ⟨.span lo hi, 0⟩
    | _, _ => Scan.fail
  else
    match a with
    | .char c =>
        Scan.require (f.admits c)
        return ⟨.single c, 0⟩
    | .set s => return ⟨s, 0⟩
    | .look _ => Scan.fail

------------------------------------------------------------
-- Brackets
------------------------------------------------------------

/- What the next characters of an open set are. -/
inductive BracketToken where
| item (t : TallSet)
| operator (op : SetOperator)
| opening (b : Bracket)
| closing
deriving DecidableEq, Repr

/- Read what follows the first character of a token. -/
def bracketToken (f : Flags) (c : Char) : Scan BracketToken := do
  if c = ']' then return .closing
  else if c = '[' then
    match ← posixItem f with
    | some t => return .item t
    | none => return .opening (← openBracket f)
  else
    let operator? : Option SetOperator :=
      if c = '&' then some .inter
      else if c = '-' then some .diff
      else if c = '~' then some .either
      else none
    match operator? with
    | none => return .item (← bracketItem f c)
    | some op =>
        if ← Scan.accept [c] then return .operator op
        else return .item (← bracketItem f c)

/- Read an open set, and the ones around it, to the end. -/
def readBrackets
    (f : Flags)
    (above : List Bracket)
    (b : Bracket)
    (cs : List Char) : Option (TallSet × Rest cs) :=
  match gap f cs with
  | none => none
  | some (_, ⟨[], _⟩) => none
  | some (_, ⟨c :: rest, h⟩) =>
      match bracketToken f c rest with
      | none => none
      | some (token, ⟨left, hl⟩) =>
          have shorter : left.length < cs.length := by
            simp only [List.length_cons] at h
            omega
          let go (above : List Bracket) (b : Bracket) :
              Option (TallSet × Rest cs) :=
            match readBrackets f above b left with
            | none => none
            | some (t, r) =>
                some (t,
                  ⟨r.list, by
                    have := r.le
                    omega⟩)
          match token with
          | .item t => go above (b.add t)
          | .operator op => go above (b.operate f op)
          | .opening inner => go (b :: above) inner
          | .closing =>
              match b.close f with
              | none => none
              | some t =>
                  match above with
                  | [] => some (t, ⟨left, by omega⟩)
                  | outer :: above => go above (outer.add t)
termination_by cs.length

end Signpost.Regex
