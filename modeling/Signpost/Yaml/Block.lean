import Signpost.Text.Decimal
import Signpost.Yaml.Lexeme

/-
  This file defines how block scalars are read: the lines
  below a header, as far as they are indented.

  In a folded block a line break between two lines that do
  not start with a blank stands for a space, or for the
  empty lines after it.

  Key definitions include:
    * `BlockHeader`
    * `emptyLines`
    * `BlockContext.lines`
    * `blockScalar`
-/

namespace Signpost.Yaml

open Text

------------------------------------------------------------
-- Block Scalars
------------------------------------------------------------

/- What becomes of the line breaks at the end of a block. -/
inductive Chomping where
| strip
| clip
| keep
deriving DecidableEq, Repr

/- The header of a block: its chomping and its indentation. -/
structure BlockHeader where
  chomping : Chomping := .clip
  increment : Option Nat := none
deriving DecidableEq, Repr

namespace BlockHeader

/- Read a sign that says how line breaks are chomped. -/
def sign? : List Glyph → Option (Chomping × List Glyph)
| [] => none
| g :: gs =>
    if g.char = '+' then some (.keep, gs)
    else if g.char = '-' then some (.strip, gs)
    else none

/- Read a digit that says how far a block is indented. -/
def digit? : List Glyph → Option (Nat × List Glyph)
| [] => none
| g :: gs => (Text.digit? g.char).map fun d => (d, gs)

/- Read the signs of a header in either order. -/
def signs (gs : List Glyph) : Lexeme BlockHeader :=
  match sign? gs with
  | some (c, gs) =>
      match digit? gs with
      | some (d, gs) => ⟨⟨c, some d⟩, gs⟩
      | none => ⟨⟨c, none⟩, gs⟩
  | none =>
      match digit? gs with
      | none => ⟨{}, gs⟩
      | some (d, gs) =>
          match sign? gs with
          | some (c, gs) => ⟨⟨c, some d⟩, gs⟩
          | none => ⟨⟨.clip, some d⟩, gs⟩

end BlockHeader

/- Read a header with the rest of its line. -/
def blockHeader
    (gs : List Glyph) : Option (Lexeme BlockHeader) := do
  let h := BlockHeader.signs gs
  if h.value.increment = some 0 then none
  else return ⟨h.value, ← restOfLine? h.rest⟩

/- The lines at the start that are empty, and what follows. -/
structure EmptyLines where
  breaks : List Char
  widest : Nat
  rest : List Glyph

/-
  Read the indentation and the empty lines at the start.
  Without a limit all spaces are indentation.
-/
def emptyLines
    (limit : Option Nat)
    (widest : Nat) : List Glyph → Option EmptyLines
| [] => some ⟨[], widest, []⟩
| g :: gs =>
    let inside := limit.all fun n => g.column < n
    let widest := max widest g.column
    if inside && g.char = ' ' then emptyLines limit widest gs
    else if inside && g.char = '\t' then none
    else if g.isBreak then
      (emptyLines limit widest gs).map fun e =>
        { e with breaks := g.char :: e.breaks }
    else some ⟨[], widest, g :: gs⟩

/- The line that a list starts with, and what follows it. -/
def blockLine (gs : List Glyph) : List Glyph × List Glyph :=
  gs.span fun g => !g.isBreak

/- What stands between two lines of a folded block. -/
def foldedBreaks
    (spaced : Bool)
    (first : List Char)
    (others : List Char) : List Char :=
  if first = ['\n'] && !spaced then
    if others.isEmpty then [' '] else others
  else first ++ others

/- The line breaks at the end of a block that are kept. -/
def Chomping.tail
    (c : Chomping)
    (first others : List Char) : List Char :=
  match c with
  | .strip => []
  | .clip => first
  | .keep => first ++ others

/- What reading the lines of a block depends on. -/
structure BlockContext where
  isFolded : Bool
  chomping : Chomping
  indent : Nat

namespace BlockContext

/- What stands between two lines of a block. -/
def between
    (k : BlockContext)
    (spaced : Bool)
    (first others : List Char) : List Char :=
  if k.isFolded then foldedBreaks spaced first others
  else first ++ others

/-
  Read the lines from one on, after the break of the line
  before, which may have been spaced, and empty lines.
-/
def lines
    (k : BlockContext)
    (spaced : Bool)
    (first others : List Char)
    (gs : List Glyph) : Option (Lexeme (List Char)) :=
  match gs with
  | [] => some ⟨k.chomping.tail first others, []⟩
  | g :: tail =>
      if g.column ≠ k.indent then
        some ⟨k.chomping.tail first others, g :: tail⟩
      else
        let (line, after) := blockLine (g :: tail)
        match emptyLines (some k.indent) 0 (after.drop 1) with
        | none => none
        | some e =>
            if e.rest.length < (g :: tail).length then
              (k.lines g.isBlank (chars (after.take 1))
                e.breaks e.rest).map
                (·.append
                  (k.between (spaced || g.isBlank) first
                    others ++ chars line))
            else none
termination_by gs.length
decreasing_by
  all_goals
    simp only [List.length_cons] at *
    omega

end BlockContext

/-
  Read a block within an indentation, after its indicator.
-/
def blockScalar
    (isFolded : Bool)
    (indent : Option Nat)
    (gs : List Glyph) : Option (Lexeme (List Char)) := do
  let h ← blockHeader gs
  let given := h.value.increment.map (indent.getD 0 + ·)
  let e ← emptyLines given 0 h.rest
  let least := max 1 ((indent.map (· + 1)).getD 0)
  let k : BlockContext :=
    { isFolded
      chomping := h.value.chomping
      indent := given.getD (max e.widest least) }
  k.lines false [] e.breaks e.rest

end Signpost.Yaml
