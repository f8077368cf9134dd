import Signpost.Yaml.Layout

/-
  This file defines what reading a part of a layout gives,
  and the gaps that may stand within a scalar.

  A single line break within a scalar stands for a space,
  and each further one for itself.  Spaces around a line
  break are dropped.

  Key definitions include:
    * `Lexeme`
    * `gap`
    * `joinedGap`
    * `restOfLine?`
-/

namespace Signpost.Yaml

------------------------------------------------------------
-- Lexemes
------------------------------------------------------------

/- What was read, and the glyphs that are left. -/
structure Lexeme (α : Type) where
  value : α
  rest : List Glyph

/- Put a character before the text that was read. -/
def Lexeme.cons
    (c : Char)
    (l : Lexeme (List Char)) : Lexeme (List Char) :=
  ⟨c :: l.value, l.rest⟩

/- Put characters before the text that was read. -/
def Lexeme.append
    (cs : List Char)
    (l : Lexeme (List Char)) : Lexeme (List Char) :=
  ⟨cs ++ l.value, l.rest⟩

------------------------------------------------------------
-- Gaps
------------------------------------------------------------

/- What line breaks within a scalar stand for. -/
def joinedBreaks : List Char → List Char
| [] => []
| ['\n'] => [' ']
| '\n' :: cs => cs
| cs => cs

/- What spaces and line breaks within a scalar stand for. -/
def joinedGap (gs : List Glyph) : List Char :=
  if gs.any Glyph.isBreak then
    joinedBreaks (chars (gs.filter Glyph.isBreak))
  else chars gs

/- The gap at the start, and what follows it. -/
def gap (gs : List Glyph) : List Glyph × List Glyph :=
  gs.span Glyph.isGap

/-
  Skip blanks and a comment up to the end of the line, which
  nothing else may stand before.
-/
def restOfLine? (gs : List Glyph) : Option (List Glyph) :=
  let gs := gs.dropWhile Glyph.isBlank
  let gs :=
    if startsWith '#' gs then
      gs.dropWhile fun g => !g.isBreak
    else gs
  if startsBreak gs then some (gs.drop 1) else none

end Signpost.Yaml
