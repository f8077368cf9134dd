import Signpost.Yaml.Lexeme

/-
  This file defines how plain scalars are read: words with
  gaps between them, up to an indicator.

  Key definitions include:
    * `PlainContext`
    * `PlainContext.word`
    * `PlainContext.scalar`
-/

namespace Signpost.Yaml

------------------------------------------------------------
-- Plain Scalars
------------------------------------------------------------

/- Where a plain scalar stands. -/
structure PlainContext where
  inFlow : Bool
  indent : Nat

namespace PlainContext

/- The word ends here, before a gap or an indicator. -/
def ends (k : PlainContext) : List Glyph → Bool
| [] => true
| g :: gs =>
    g.isGap || (g.char = ':' && startsGap gs) ||
      (k.inFlow && [',', '[', ']', '\x7b', '\x7d'].contains
        g.char)

/- A colon within brackets may not stand before these. -/
def refuses (k : PlainContext) : List Glyph → Bool
| [] => false
| g :: gs =>
    k.inFlow && g.char = ':' &&
      startsAmong [',', '?', '[', ']', '\x7b', '\x7d'] gs

/- Read a word up to its end. -/
def word
    (k : PlainContext) :
    List Glyph → Option (Lexeme (List Char))
| [] => some ⟨[], []⟩
| g :: gs =>
    if g.isGap then some ⟨[], g :: gs⟩
    else if k.refuses (g :: gs) then none
    else if k.ends (g :: gs) then some ⟨[], g :: gs⟩
    else (k.word gs).map (·.cons g.char)

/- A tab may not stand for indentation. -/
def misusesTab (k : PlainContext) (gap : List Glyph) : Bool :=
  (gap.dropWhile fun g => !g.isBreak).any fun g =>
    g.char = '\t' && g.column < k.indent

/- No more words follow the gap. -/
def stops (k : PlainContext) : List Glyph → Bool
| [] => true
| g :: gs =>
    (!k.inFlow && g.column < k.indent) || g.char = '#' ||
      startsDocumentMark (g :: gs)

/-
  Read the words after the first one.  It is noted whether
  the scalar is followed by a line break.
-/
def words
    (k : PlainContext)
    (gs : List Glyph) : Option (Lexeme (List Char × Bool)) :=
  let (space, rest) := gap gs
  let broken := space.any Glyph.isBreak
  if k.misusesTab space then none
  else if k.stops rest then some ⟨([], broken), rest⟩
  else
    match k.word rest with
    | none => none
    | some w =>
        if w.value.isEmpty then some ⟨([], broken), rest⟩
        else if w.rest.length < gs.length then
          match k.words w.rest with
          | none => none
          | some l =>
              some
                ⟨(joinedGap space ++ w.value ++ l.value.1,
                  l.value.2), l.rest⟩
        else none
termination_by gs.length

/- Read a plain scalar. -/
def scalar
    (k : PlainContext)
    (gs : List Glyph) : Option (Lexeme (List Char × Bool)) := do
  let w ← k.word gs
  let l ← k.words w.rest
  return ⟨(w.value ++ l.value.1, l.value.2), l.rest⟩

end PlainContext

end Signpost.Yaml
