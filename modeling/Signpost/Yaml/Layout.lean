/-
  This file defines the layout of a document: its characters
  with their places.

  All line breaks of the common kinds are the same line
  feed.  A character that may not stand in a document makes
  the whole of it unreadable.

  Key definitions include:
    * `Place`
    * `Glyph`
    * `layout?`
-/

namespace Signpost.Yaml

------------------------------------------------------------
-- Places
------------------------------------------------------------

/- Where a character stands, counted from zero. -/
structure Place where
  index : Nat := 0
  line : Nat := 0
  column : Nat := 0
deriving DecidableEq, Repr

namespace Place

/- The place of the next character on the same line. -/
def right (p : Place) : Place :=
  ⟨p.index + 1, p.line, p.column + 1⟩

/- The place of the first character on the next line. -/
def below (p : Place) : Place :=
  ⟨p.index + 1, p.line + 1, 0⟩

end Place

------------------------------------------------------------
-- Glyphs
------------------------------------------------------------

/- A character at its place. -/
structure Glyph where
  char : Char
  place : Place
deriving DecidableEq, Repr

namespace Glyph

/- The column of a glyph. -/
def column (g : Glyph) : Nat := g.place.column

/- A glyph is a space or a tab. -/
def isBlank (g : Glyph) : Bool :=
  g.char = ' ' || g.char = '\t'

/- A glyph ends a line. -/
def isBreak (g : Glyph) : Bool :=
  g.char = '\n' || g.char = '\u2028' || g.char = '\u2029'

/- A glyph is a space or a tab, or ends a line. -/
def isGap (g : Glyph) : Bool :=
  g.isBlank || g.isBreak

/- A glyph is a letter or digit, or a line. -/
def isWord (g : Glyph) : Bool :=
  g.char.isAlphanum || g.char = '_' || g.char = '-'

end Glyph

/- The characters of some glyphs. -/
def chars (gs : List Glyph) : List Char :=
  gs.map Glyph.char

/- The first glyph is a certain character. -/
def startsWith (c : Char) : List Glyph → Bool
| [] => false
| g :: _ => g.char = c

/- The first glyph is one of some characters. -/
def startsAmong (cs : List Char) : List Glyph → Bool
| [] => false
| g :: _ => cs.contains g.char

/- There is no glyph, or the first one is a gap. -/
def startsGap : List Glyph → Bool
| [] => true
| g :: _ => g.isGap

/- There is no glyph, or the first one ends a line. -/
def startsBreak : List Glyph → Bool
| [] => true
| g :: _ => g.isBreak

/- A mark of three equal characters at the start of a line. -/
def startsMark (c : Char) : List Glyph → Bool
| a :: b :: d :: rest =>
    a.column = 0 && a.char = c && b.char = c && d.char = c &&
      startsGap rest
| _ => false

/- A mark that starts or ends a document. -/
def startsDocumentMark (gs : List Glyph) : Bool :=
  startsMark '-' gs || startsMark '.' gs

------------------------------------------------------------
-- Layouts
------------------------------------------------------------

/- A character that may stand in a document. -/
def isAllowed (c : Char) : Bool :=
  let n := c.toNat
  n = 0x9 || n = 0xA || n = 0xD || n = 0x85 ||
    (0x20 ≤ n && n ≤ 0x7E) || (0xA0 ≤ n && n ≤ 0xFFFD) ||
    0x10000 ≤ n

/- A character that is the same as a line feed. -/
def isFeed (c : Char) : Bool :=
  c = '\n' || c = '\r' || c = '\u0085'

/- Lay out characters from a place on. -/
def glyphs (p : Place) : List Char → List Glyph
| [] => []
| '\r' :: '\n' :: cs => ⟨'\n', p⟩ :: glyphs p.below cs
| c :: cs =>
    let g : Glyph := ⟨if isFeed c then '\n' else c, p⟩
    g :: glyphs (if g.isBreak then p.below else p.right) cs

/- A byte order mark may stand before all else. -/
def unmarked : List Glyph → List Glyph
| [] => []
| g :: gs => if g.char = '\uFEFF' then gs else g :: gs

/- Lay out a text, if all of it may stand in a document. -/
def layout? (text : String) : Option (List Glyph) :=
  if text.toList.all isAllowed then
    some (unmarked (glyphs {} text.toList))
  else none

end Signpost.Yaml
