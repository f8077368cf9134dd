import Signpost.Regex.Bracket

/-
  This file defines how patterns are read.

  A pattern is read token by token.  The groups that are
  open at a place form a stack of levels, and the flags in
  force end with the group that they were set in.

  Key definitions include:
    * `GroupKind`
    * `Token`
    * `Level`
    * `Reading`
    * `Regex.parse?`
    * `Regex.whole?`
-/

namespace Signpost.Regex

open Text

------------------------------------------------------------
-- Tokens
------------------------------------------------------------

/-
  How the start of a group is written: what it encloses may
  be left as it is, or its place may be asked for, by a name
  or by its number alone.
-/
inductive GroupKind where
| plain
| numbered
| named (name : String)
deriving DecidableEq, Repr

namespace GroupKind

/- The name of a group, if it has one. -/
def name? : GroupKind → Option String
| .named name => some name
| _ => none

/- The expression of a group. -/
def enclose : GroupKind → Regex → Regex
| .plain, r => r
| _, r => .group r

end GroupKind

/- One part of a pattern. -/
inductive Token where
| blank
| piece (r : Regex) (height : Nat)
| repeats (least : Nat) (most : Option Nat)
| opening (kind : GroupKind) (inner : Flags)
| directive (flags : Flags)
| bar
| closing
deriving DecidableEq, Repr

/- The expression of a character, in both cases if wanted. -/
def Flags.charRegex (f : Flags) (c : Char) : Regex :=
  .chars (f.fold (.single c))

/- The characters that a point stands for. -/
def Flags.dot? (f : Flags) : Option CharSet :=
  if !f.unicode then none
  else if f.dotNewline then some .all
  else if f.crlf then
    some (.negated (.ofChars ['\r', '\n']))
  else some (.negated (.single '\n'))

/- What a caret stands for. -/
def Flags.caret (f : Flags) : Look :=
  if !f.multiLine then .textStart
  else if f.crlf then .crlfLineStart
  else .lineStart

/- What a dollar sign stands for. -/
def Flags.dollar (f : Flags) : Look :=
  if !f.multiLine then .textEnd
  else if f.crlf then .crlfLineEnd
  else .lineEnd

/- The expression of an atom. -/
def Atom.regex (f : Flags) : Atom → Regex
| .char c => f.charRegex c
| .set s => .chars s
| .look l => .look l

------------------------------------------------------------
-- Counts
------------------------------------------------------------

/-
  Read a number of decimal digits with blanks around them,
  or nothing.
-/
def count (f : Flags) : Scan (Option Nat) := do
  Scan.skipWhile isBlank
  let cs ← spaced f Char.isDigit
  Scan.skipWhile isBlank
  gap f
  if cs.isEmpty then return none
  else
    match readDigits 10 0xFFFFFFFF .tooLarge 0 cs with
    | .ok n => return some n
    | .error _ => Scan.fail

/- Read the counts of a repetition after its brace. -/
def counts (f : Flags) : Scan (Nat × Option Nat) := do
  gap f
  let least ← Scan.ofOption (← count f)
  if ← Scan.accept [','] then
    gap f
    if ← Scan.accept ['\x7d'] then return (least, none)
    else
      let most ← Scan.ofOption (← count f)
      let close ← Scan.next
      Scan.require (close = '\x7d' && least ≤ most)
      return (least, some most)
  else
    let close ← Scan.next
    Scan.require (close = '\x7d')
    return (least, some least)

/- Read the mark of a repetition that prefers to be short. -/
def lazyMark : Scan Unit := do
  let _ ← Scan.accept ['?']

------------------------------------------------------------
-- Groups
------------------------------------------------------------

/- A character may start the name of a group. -/
def startsName (c : Char) : Bool :=
  c = '_' || Unicode.alphabetic.mem c

/- A character may go on with the name of a group. -/
def continuesName (c : Char) : Bool :=
  "_.[]".toList.contains c || Unicode.isAlphanumeric c

/- Read the name of a group up to its closing bracket. -/
def groupName (f : Flags) : Scan Token := do
  let name ← Scan.takeWhile (· ≠ '>')
  let _ ← Scan.next
  match name with
  | [] => Scan.fail
  | c :: cs =>
      Scan.require (startsName c && cs.all continuesName)
      return .opening (.named (String.ofList name)) f

/- Read flags, of a group or of what follows in a group. -/
def groupFlags (f : Flags) : Scan Token := do
  let letters ←
    Scan.takeWhile fun c => c ≠ ':' && c ≠ ')'
  Scan.require (Flags.areLetters letters)
  let close ← Scan.next
  if close = ':' then
    return .opening .plain (f.apply letters)
  else
    Scan.require (!letters.isEmpty)
    return .directive (f.apply letters)

/- Read the start of a group after its parenthesis. -/
def groupStart (f : Flags) : Scan Token := do
  gap f
  let rest ← Scan.ahead
  let looksAround :=
    ["?=", "?!", "?<=", "?<!"].any fun m =>
      m.toList.isPrefixOf rest
  if looksAround then Scan.fail
  else if ← Scan.accept ['?', 'P', '<'] then groupName f
  else if ← Scan.accept ['?', '<'] then groupName f
  else if ← Scan.accept ['?'] then groupFlags f
  else return .opening .numbered f

------------------------------------------------------------
-- Reading Tokens
------------------------------------------------------------

/- Read what follows the first character of a token. -/
def token (f : Flags) (c : Char) : Scan Token := do
  if f.loose && (isBlank c || c = '#') then
    Scan.skip (dropGap (c = '#'))
    return .blank
  else
    match c with
    | '(' => groupStart f
    | ')' => return .closing
    | '|' => return .bar
    | '[' =>
        let b ← openBracket f
        let t ← readBrackets f [] b
        return .piece (.chars t.set) t.height
    | '?' =>
        lazyMark
        return .repeats 0 (some 1)
    | '*' =>
        lazyMark
        return .repeats 0 none
    | '+' =>
        lazyMark
        return .repeats 1 none
    | '\x7b' =>
        let (least, most) ← counts f
        gap f
        lazyMark
        return .repeats least most
    | '\\' => return .piece ((← escape f).regex f) 0
    | '.' => return .piece (.chars (← Scan.ofOption f.dot?)) 0
    | '^' => return .piece (.look f.caret) 0
    | '$' => return .piece (.look f.dollar) 0
    | c => return .piece (f.charRegex c) 0

------------------------------------------------------------
-- Levels
------------------------------------------------------------

/- A part of a sequence, which flags alone are as well. -/
structure Part where
  regex : Regex
  height : Nat
  repeatable : Bool := true
deriving DecidableEq, Repr

/-
  A group that is open: its finished alternatives and the
  parts of the one that is being read, the last one first,
  and the flags that its end brings back.
-/
structure Level where
  kind : GroupKind := .plain
  finished : List Part := []
  parts : List Part := []
  outer : Flags := {}
deriving DecidableEq, Repr

/- The greatest height of some parts. -/
def tallest (ps : List Part) : Nat :=
  (ps.map Part.height).foldl max 0

/- The height of several parts together. -/
def jointHeight (ps : List Part) : Nat :=
  if 1 < ps.length then tallest ps + 1 else tallest ps

namespace Level

/- Add a part to the alternative that is being read. -/
def add (l : Level) (p : Part) : Level :=
  { l with parts := p :: l.parts }

/- The alternative that is being read. -/
def current (l : Level) : Part :=
  ⟨sequence (l.parts.reverse.map Part.regex),
    jointHeight l.parts, true⟩

/- Go on to the next alternative. -/
def split (l : Level) : Level :=
  { l with finished := l.current :: l.finished, parts := [] }

/- All alternatives together. -/
def whole (l : Level) : Part :=
  let ps := l.current :: l.finished
  ⟨anyOf (ps.reverse.map Part.regex), jointHeight ps, true⟩

/- Repeat the last part, unless there is none to repeat. -/
def repeats
    (l : Level)
    (least : Nat)
    (most : Option Nat) : Option Level :=
  match l.parts with
  | p :: ps =>
      if p.repeatable then
        some
          { l with
            parts :=
              ⟨.times p.regex least most, p.height + 1, true⟩
                :: ps }
      else none
  | [] => none

end Level

------------------------------------------------------------
-- Reading Patterns
------------------------------------------------------------

/- What has been read of a pattern. -/
structure Reading where
  flags : Flags := {}
  level : Level := {}
  above : List Level := []
  names : List String := []
deriving DecidableEq, Repr

namespace Reading

/- Take in one more token. -/
def step (s : Reading) : Token → Option Reading
| .blank => some s
| .piece r height =>
    some { s with level := s.level.add ⟨r, height, true⟩ }
| .repeats least most =>
    (s.level.repeats least most).map fun l =>
      { s with level := l }
| .directive flags =>
    some
      { s with
        flags := flags
        level := s.level.add ⟨.empty, 0, false⟩ }
| .bar => some { s with level := s.level.split }
| .opening kind inner =>
    if kind.name?.any s.names.contains then none
    else
      some
        { flags := inner
          level := { kind, outer := s.flags }
          above := s.level :: s.above
          names := kind.name?.toList ++ s.names }
| .closing =>
    match s.above with
    | [] => none
    | outer :: above =>
        let p := s.level.whole
        let r := s.level.kind.enclose p.regex
        some
          { s with
            flags := s.level.outer
            level := outer.add ⟨r, p.height + 1, true⟩
            above := above }

/- Take in all tokens of a pattern. -/
def run (s : Reading) : List Char → Option Reading
| [] => some s
| c :: cs =>
    match token s.flags c cs with
    | none => none
    | some (t, ⟨rest, _⟩) =>
        match s.step t with
        | none => none
        | some s => run s rest
termination_by cs => cs.length
decreasing_by
  simp only [List.length_cons]
  omega

/- How deep the parts of a pattern may be nested. -/
def heightLimit : Nat := 250

/- The expression, once all groups are closed. -/
def result? (s : Reading) : Option Regex :=
  if s.above.isEmpty && s.level.whole.height ≤ heightLimit then
    some s.level.whole.regex
  else none

end Reading

/- Read a pattern. -/
def parse? (pattern : String) : Option Regex := do
  (← Reading.run {} pattern.toList).result?

/- The pattern of a whole text, around one of a part. -/
def wholePattern (pattern : String) : String :=
  "^(?:" ++ pattern ++ ")$"

/- Read a pattern that is to match whole texts. -/
def whole? (pattern : String) : Option Regex :=
  parse? (wholePattern pattern)

end Signpost.Regex
