import Signpost.Yaml.Block
import Signpost.Yaml.Name
import Signpost.Yaml.Plain
import Signpost.Yaml.Quoted

/-
  This file defines how a layout is divided into tokens.

  A key is recognised by the colon after it, so the place
  where one may have started is remembered.  It must be on
  the line of the colon and not far before it.  Collections
  start and end with the indentation, except in brackets.

  Key definitions include:
    * `KeyStart`
    * `Lexer`
    * `Lexer.step`
    * `tokens?`
-/

namespace Signpost.Yaml

------------------------------------------------------------
-- States
------------------------------------------------------------

/-
  Where a key may have started: the number of tokens before
  it, its place, and whether there must be a key.
-/
structure KeyStart where
  count : Nat
  place : Place
  isRequired : Bool
deriving DecidableEq, Repr

/-
  The state of a division: the tokens so far, the last one
  first, the columns of open block collections, the start of
  a key for each open bracket and one for outside of them,
  and whether a key may start next.
-/
structure Lexer where
  tokens : List Token := []
  indents : List Nat := []
  starts : List (Option KeyStart) := [none]
  keyAllowed : Bool := true

namespace Lexer

/- The next glyph is within brackets. -/
def inFlow (s : Lexer) : Bool :=
  1 < s.starts.length

/- The column of the innermost block collection. -/
def indent (s : Lexer) : Option Nat :=
  s.indents.head?

/- A column lies beyond the innermost block collection. -/
def isDeeper (s : Lexer) (column : Nat) : Bool :=
  s.indent.all fun i => i < column

/- The start of a key at the current level. -/
def start? (s : Lexer) : Option KeyStart :=
  s.starts.head?.join

/- Add a token. -/
def emit (t : Token) (s : Lexer) : Lexer :=
  { s with tokens := t :: s.tokens }

/- Add a token where there were only so many of them. -/
def emitAt (count : Nat) (t : Token) (s : Lexer) : Lexer :=
  let later := s.tokens.take (s.tokens.length - count)
  let earlier := s.tokens.drop (s.tokens.length - count)
  { s with tokens := later ++ t :: earlier }

/- Allow or forbid a key to start next. -/
def allowing (b : Bool) (s : Lexer) : Lexer :=
  { s with keyAllowed := b }

------------------------------------------------------------
-- Indentation
------------------------------------------------------------

/- End the block collections that are open in deeper columns. -/
def unroll (column : Option Nat) (s : Lexer) : Lexer :=
  if s.inFlow then s
  else
    let isOpen (i : Nat) : Bool := column.all fun c => c < i
    let ended := s.indents.takeWhile isOpen
    { s with
      tokens :=
        List.replicate ended.length .blockEnd ++ s.tokens
      indents := s.indents.dropWhile isOpen }

/- Start a block collection at a deeper column. -/
def roll
    (column count : Nat)
    (t : Token)
    (s : Lexer) : Lexer :=
  if s.inFlow || !s.isDeeper column then s
  else
    { s with indents := column :: s.indents }.emitAt count t

------------------------------------------------------------
-- Keys
------------------------------------------------------------

/- A key that may have started cannot end at a place. -/
def isStale (p : Place) (k : KeyStart) : Bool :=
  k.place.line < p.line || k.place.index + 1024 < p.index

/- Forget the starts that are too far away. -/
def forgetStale (p : Place) (s : Lexer) : Option Lexer :=
  let isBad (k : Option KeyStart) : Bool :=
    k.any fun k => isStale p k && k.isRequired
  if s.starts.any isBad then none
  else
    some { s with
      starts := s.starts.map fun k =>
        k.filter fun k => !isStale p k }

/- Forget the start at the current level. -/
def forgetStart (s : Lexer) : Option Lexer :=
  if s.start?.any KeyStart.isRequired then none
  else some { s with starts := s.starts.modifyHead fun _ => none }

/- A key may start here. -/
def mayStart (p : Place) (s : Lexer) : Option Lexer :=
  if s.keyAllowed then
    let k : KeyStart :=
      { count := s.tokens.length
        place := p
        isRequired := !s.inFlow && s.indent = some p.column }
    s.forgetStart.map fun s =>
      { s with starts := s.starts.modifyHead fun _ => some k }
  else some s

------------------------------------------------------------
-- Indicators
------------------------------------------------------------

/- A mark that starts or ends a document. -/
def documentMark (t : Token) (s : Lexer) : Option Lexer :=
  (s.unroll none).forgetStart.map fun s =>
    (s.emit t).allowing false

/- A bracket that opens a collection. -/
def openFlow
    (t : Token)
    (p : Place)
    (s : Lexer) : Option Lexer :=
  (s.mayStart p).map fun s =>
    ({ s with starts := none :: s.starts }.emit t).allowing
      true

/- A bracket that closes a collection. -/
def closeFlow (t : Token) (s : Lexer) : Option Lexer :=
  s.forgetStart.map fun s =>
    let starts := if s.inFlow then s.starts.tail else s.starts
    ({ s with starts }.emit t).allowing false

/- A comma within brackets. -/
def flowEntry (s : Lexer) : Option Lexer :=
  s.forgetStart.map fun s =>
    (s.emit .flowEntry).allowing true

/- An indicator that starts a part of a block collection. -/
def blockIndicator
    (collection : Token)
    (p : Place)
    (s : Lexer) : Option Lexer :=
  if s.inFlow then some s
  else if s.keyAllowed then
    some (s.roll p.column s.tokens.length collection)
  else none

/- A hyphen before an item of a sequence. -/
def blockEntry (p : Place) (s : Lexer) : Option Lexer := do
  let s ← s.blockIndicator .blockSequence p
  let s ← s.forgetStart
  return (s.emit .blockEntry).allowing true

/- A question mark before a key. -/
def key (p : Place) (s : Lexer) : Option Lexer := do
  let s ← s.blockIndicator .blockMapping p
  let s ← s.forgetStart
  return (s.emit .key).allowing !s.inFlow

/- A colon before a value. -/
def value (p : Place) (s : Lexer) : Option Lexer :=
  match s.start? with
  | some k =>
      let s := s.emitAt k.count .key
      let s := s.roll k.place.column k.count .blockMapping
      let starts := s.starts.modifyHead fun _ => none
      some (({ s with starts }.emit .value).allowing false)
  | none => do
      let s ← s.blockIndicator .blockMapping p
      return (s.emit .value).allowing !s.inFlow

/- A part that may be a key. -/
def node
    (p : Place)
    (t : Token)
    (s : Lexer) : Option Lexer :=
  (s.mayStart p).map fun s => (s.emit t).allowing false

------------------------------------------------------------
-- Steps
------------------------------------------------------------

/- A lexer and the glyphs that are left. -/
abbrev Progress := Lexer × List Glyph

/- Skip blanks that do not stand for indentation. -/
def skipBlanks (s : Lexer) (gs : List Glyph) : List Glyph :=
  gs.dropWhile fun g =>
    g.char = ' ' ||
      ((s.inFlow || !s.keyAllowed) && g.char = '\t')

/- Skip a comment up to the end of its line. -/
def skipComment (gs : List Glyph) : List Glyph :=
  if startsWith '#' gs then gs.dropWhile fun g => !g.isBreak
  else gs

/- Skip blanks, comments and line breaks. -/
def skipGap (s : Lexer) (gs : List Glyph) : Progress :=
  match skipComment (s.skipBlanks gs) with
  | [] => (s, [])
  | g :: rest =>
      if !g.isBreak then (s, g :: rest)
      else if rest.length < gs.length then
        skipGap (if s.inFlow then s else s.allowing true) rest
      else (s, g :: rest)
termination_by gs.length

/- Read a part that may be a key, and add its token. -/
def read
    {α : Type}
    (p : Place)
    (token : α → Token)
    (l : Option (Lexeme α))
    (s : Lexer) : Option Progress := do
  let l ← l
  let s ← s.node p (token l.value)
  return (s, l.rest)

/- Read a plain scalar.  A line break after it allows a key. -/
def readPlain
    (p : Place)
    (gs : List Glyph)
    (s : Lexer) : Option Progress := do
  let k : PlainContext :=
    { inFlow := s.inFlow
      indent := (s.indent.map (· + 1)).getD 0 }
  let l ← k.scalar gs
  let s ← s.node p (.scalar .plain l.value.1)
  return (if l.value.2 then s.allowing true else s, l.rest)

/- Read a block scalar after its indicator. -/
def readBlock
    (style : ScalarStyle)
    (gs : List Glyph)
    (s : Lexer) : Option Progress := do
  let s ← s.forgetStart
  let l ← blockScalar (style = .folded) s.indent gs
  return ((s.emit (.scalar style l.value)).allowing true,
    l.rest)

/- Read a directive after its percent sign. -/
def readDirective
    (gs : List Glyph)
    (s : Lexer) : Option Progress := do
  let s ← (s.unroll none).forgetStart
  let l ← directive gs
  return ((s.emit l.value).allowing false, l.rest)

/- Characters that a plain scalar cannot start with. -/
def indicators : List Char :=
  "-?:,[]\x7b\x7d#&*!|>'\"%@\x60".toList

/- A plain scalar can start here. -/
def startsPlain (s : Lexer) (c : Char) (gs : List Glyph) : Bool :=
  !indicators.contains c || (c = '-' && !startsGap gs) ||
    (!s.inFlow && (c = '?' || c = ':') && !startsGap gs)

/- Read one token from the first glyph on. -/
def token
    (g : Glyph)
    (gs : List Glyph)
    (s : Lexer) : Option Progress :=
  let p := g.place
  let spaced := s.inFlow || startsGap gs
  if p.column = 0 && g.char = '%' then s.readDirective gs
  else if startsMark '-' (g :: gs) then
    (s.documentMark .documentStart).map (·, gs.drop 2)
  else if startsMark '.' (g :: gs) then
    (s.documentMark .documentEnd).map (·, gs.drop 2)
  else if g.char = '[' then
    (s.openFlow .flowSequence p).map (·, gs)
  else if g.char = '\x7b' then
    (s.openFlow .flowMapping p).map (·, gs)
  else if g.char = ']' then
    (s.closeFlow .flowSequenceEnd).map (·, gs)
  else if g.char = '\x7d' then
    (s.closeFlow .flowMappingEnd).map (·, gs)
  else if g.char = ',' then s.flowEntry.map (·, gs)
  else if g.char = '-' && startsGap gs then
    (s.blockEntry p).map (·, gs)
  else if g.char = '?' && spaced then (s.key p).map (·, gs)
  else if g.char = ':' && spaced then (s.value p).map (·, gs)
  else if g.char = '*' then s.read p .alias (anchorName gs)
  else if g.char = '&' then s.read p .anchor (anchorName gs)
  else if g.char = '!' then
    s.read p .tag (tagName s.inFlow (g :: gs))
  else if g.char = '|' && !s.inFlow then
    s.readBlock .literal gs
  else if g.char = '>' && !s.inFlow then
    s.readBlock .folded gs
  else if g.char = '\'' then
    s.read p (.scalar .quoted) (singleQuoted gs)
  else if g.char = '"' then
    s.read p (.scalar .quoted) (doubleQuoted gs)
  else if g.isGap then none
  else if s.startsPlain g.char gs then s.readPlain p (g :: gs)
  else none

/- Read the tokens of some glyphs, and end all that is open. -/
def run (s : Lexer) (gs : List Glyph) : Option (List Token) :=
  let (t, rest) := s.skipGap gs
  match rest with
  | [] => do
      let t ← (t.unroll none).forgetStart
      return t.tokens.reverse
  | g :: more => do
      let t ← t.forgetStale g.place
      let (u, left) ← (t.unroll (some g.column)).token g more
      if left.length < gs.length then u.run left else none
termination_by gs.length

end Lexer

/- The tokens of a text. -/
def tokens? (text : String) : Option (List Token) :=
  (layout? text).bind fun gs => ({} : Lexer).run gs

end Signpost.Yaml
