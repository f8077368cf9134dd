import Signpost.Component.Arguments
import Signpost.Regex.Pattern
import Signpost.Regex.Size
import Signpost.Text.Split

/-
  This file defines patterns for texts of several segments,
  such as paths and host names.

  A segment of a pattern is a literal text, a single segment
  of any text (`*` or `{name}`), any number of segments
  (`**`), or a mix of literal texts, stars and variables.

  Matching goes through the segments of the pattern once and
  keeps track of how many segments of the value can have
  been used up so far.

  Key definitions include:
    * `Segment`
    * `Segment.parse`
    * `Segment.accepts`
    * `Glob`
    * `Glob.parse`
    * `Glob.accepts`
-/

namespace Signpost

open Text

------------------------------------------------------------
-- Pieces of Segments
------------------------------------------------------------

/- A piece of a segment that mixes texts and wildcards. -/
inductive Piece where
| star
| variable
| literal (c : Char)
deriving DecidableEq, Repr

namespace Piece

/-
  How a piece is written in a regular expression, where the
  characters with a meaning of their own are escaped.
-/
def pattern : Piece → List Char
| .star => ['.', '*']
| .variable => ['.', '+']
| .literal c => if Regex.isMeta c then ['\\', c] else [c]

/- The pieces of a text, if every variable in it is closed. -/
def ofList? : List Char → Option (List Piece)
| [] => some []
| c :: cs =>
    if c = '*' then (ofList? cs).map (.star :: ·)
    else if c = '\x7b' then
      if cs.contains '\x7d' then
        (ofList? ((cs.dropWhile (· ≠ '\x7d')).drop 1)).map
          (.variable :: ·)
      else none
    else (ofList? cs).map (.literal c :: ·)
termination_by cs => cs.length
decreasing_by
  all_goals
    have := Scan.length_dropWhile_le (· ≠ '\x7d') cs
    simp only [List.length_drop, List.length_cons]
    omega

/- The pattern of a whole segment of some pieces. -/
def segmentPattern (ps : List Piece) : String :=
  String.ofList ('^' :: (ps.flatMap pattern ++ ['$']))

end Piece

------------------------------------------------------------
-- Segments
------------------------------------------------------------

/- One segment of a pattern. -/
inductive Segment where
| literal (text : String)
| single
| rest
| mixed (r : Regex)
deriving DecidableEq, Repr

namespace Segment

/- A text is a variable: a name in braces. -/
def isVariable (cs : List Char) : Bool :=
  2 < cs.length && cs.head? = some '\x7b' &&
    cs.getLast? = some '\x7d' &&
    (cs.tail.dropLast).all fun c => c ≠ '\x7b' && c ≠ '\x7d'

/-
  The segment of some pieces.  Its expression must not be too
  large.
-/
def ofPieces
    (raw : String)
    (ps : List Piece) : Except ArgumentError Segment :=
  match Regex.parse? (Piece.segmentPattern ps) with
  | some r =>
      if r.fits then .ok (.mixed r)
      else .error (.largeSegment raw)
  | none => .error (.invalidSegment raw)

/- Read one segment of a pattern. -/
def parse (raw : String) : Except ArgumentError Segment :=
  let cs := raw.toList
  if raw = "**" then .ok .rest
  else if raw = "*" || isVariable cs then .ok .single
  else if !cs.contains '*' && !cs.contains '\x7b' then
    .ok (.literal raw)
  else
    match Piece.ofList? cs with
    | some ps => ofPieces raw ps
    | none => .error (.unclosedVariable raw)

/- A segment of a pattern accepts one segment of a value. -/
def accepts : Segment → String → Bool
| .literal text, value => text = value
| .single, value => !value.isEmpty
| .rest, _ => true
| .mixed r, value => r.isMatch value

end Segment

------------------------------------------------------------
-- Matching Segments
------------------------------------------------------------

namespace Glob

/- Whether a list has held so far, for each of its places. -/
def running : Bool → List Bool → List Bool
| _, [] => []
| seen, b :: bs => (seen || b) :: running (seen || b) bs

/-
  How many parts can have been used up after one more
  segment.  A row says for each number, from none to all of
  them, whether it is possible.
-/
def advance
    (parts : List String)
    (row : List Bool) : Segment → List Bool
| .rest => running false row
| s =>
    false ::
      List.zipWith (fun here part => here && s.accepts part)
        row parts

/- Go on from a row through segments until all is lost. -/
def reaches
    (parts : List String) :
    List Segment → List Bool → Bool
| [], row => row.getLast? = some true
| s :: ss, row =>
    let next := advance parts row s
    if next.contains true then reaches parts ss next
    else false

/- Segments of a pattern match the parts of a value. -/
def matchSegments
    (pattern : List Segment)
    (parts : List String) : Bool :=
  reaches parts pattern (true :: parts.map fun _ => false)

end Glob

------------------------------------------------------------
-- Patterns
------------------------------------------------------------

/- A pattern of segments between separators. -/
structure Glob where
  separator : Char
  segments : List Segment
deriving DecidableEq, Repr

namespace Glob

/-
  The segments between separators.  One separator at the
  start separates nothing, and no text has no segments.
-/
def segmentsOf (separator : Char) (s : String) : List String :=
  let cs :=
    match s.toList with
    | c :: cs => if c = separator then cs else c :: cs
    | [] => []
  if cs.isEmpty then []
  else (cs.splitOn separator).map String.ofList

/- Read a pattern. -/
def parse
    (separator : Char)
    (raw : String) : Except ArgumentError Glob := do
  return ⟨separator,
    ← (segmentsOf separator raw).mapM Segment.parse⟩

/- A pattern accepts a value. -/
def accepts (g : Glob) (value : String) : Bool :=
  matchSegments g.segments (segmentsOf g.separator value)

end Glob

end Signpost
