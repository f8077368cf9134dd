import Signpost.Regex.Basic
import Signpost.Text.Scan

/-
  This file defines the flags of patterns and what stands
  after a backslash in one.

  Key definitions include:
    * `Flags`
    * `gap`
    * `spaced`
    * `Atom`
    * `escape`
-/

namespace Signpost.Regex

open Text

------------------------------------------------------------
-- Flags
------------------------------------------------------------

/-
  The flags in force at a place of a pattern.  In a loose
  pattern white space and comments mean nothing.
-/
structure Flags where
  ignoreCase : Bool := false
  multiLine : Bool := false
  dotNewline : Bool := false
  crlf : Bool := false
  unicode : Bool := true
  loose : Bool := false
deriving DecidableEq, Repr

namespace Flags

/- Turn a flag on or off by its letter. -/
def set (f : Flags) (on : Bool) (letter : Char) : Flags :=
  match letter with
  | 'i' => { f with ignoreCase := on }
  | 'm' => { f with multiLine := on }
  | 's' => { f with dotNewline := on }
  | 'R' => { f with crlf := on }
  | 'u' => { f with unicode := on }
  | 'x' => { f with loose := on }
  | _ => f

/- Turn flags on before a dash and off after it. -/
def apply (f : Flags) (letters : List Char) : Flags :=
  let on := letters.takeWhile (· ≠ '-')
  let off := letters.dropWhile (· ≠ '-')
  off.foldl (fun f c => f.set false c)
    (on.foldl (fun f c => f.set true c) f)

/-
  Letters of flags are all different, with at most one dash
  among them and none at the end.
-/
def areLetters (cs : List Char) : Bool :=
  cs.all (fun c => "imsURux-".toList.contains c) &&
    cs.eraseDups.length = cs.length &&
    cs.getLast? ≠ some '-'

/- A set with the other cases of its letters, if wanted. -/
def fold (f : Flags) (s : CharSet) : CharSet :=
  if !f.ignoreCase then s
  else if f.unicode then .folded s
  else .asciiFolded s

/-
  The characters that a set lacks.  Without Unicode there is
  no such set, since it would hold octets of no character.
-/
def complement? (f : Flags) (s : CharSet) : Option CharSet :=
  if f.unicode then some (.negated s) else none

/- A set or its complement. -/
def polar?
    (f : Flags)
    (negated : Bool)
    (s : CharSet) : Option CharSet :=
  if negated then f.complement? s else some s

/- The kind of words that flags ask for. -/
def words (f : Flags) : WordKind :=
  if f.unicode then .unicode else .ascii

end Flags

------------------------------------------------------------
-- Gaps
------------------------------------------------------------

/- Drop white space and comments. -/
def dropGap : Bool → (cs : List Char) → Rest cs
| _, [] => .all []
| true, c :: cs => (dropGap (c ≠ '\n') cs).ofTail
| false, c :: cs =>
    if c = '#' then (dropGap true cs).ofTail
    else if isBlank c then (dropGap false cs).ofTail
    else .all (c :: cs)

/- Skip what means nothing in a loose pattern. -/
def gap (f : Flags) : Scan Unit :=
  if f.loose then .skip (dropGap false) else .pure ()

/- The characters after what means nothing. -/
def afterGap (f : Flags) (cs : List Char) : List Char :=
  if f.loose then (dropGap false cs).list else cs

/- Read a run of some characters with gaps before them. -/
def spaced
    (f : Flags)
    (p : Char → Bool)
    (cs : List Char) : Option (List Char × Rest cs) :=
  match gap f cs with
  | none => none
  | some (_, r) =>
      match r.list, r.le with
      | [], h => some ([], ⟨[], h⟩)
      | c :: rest, h =>
          if p c then
            have : rest.length < cs.length := by
              simp only [List.length_cons] at h
              omega
            match spaced f p rest with
            | none => none
            | some (ds, s) =>
                some (c :: ds,
                  ⟨s.list, by
                    have := s.le
                    omega⟩)
          else some ([], ⟨c :: rest, h⟩)
termination_by cs.length

------------------------------------------------------------
-- Atoms
------------------------------------------------------------

/- What one character or one escape stands for. -/
inductive Atom where
| char (c : Char)
| set (s : CharSet)
| look (l : Look)
deriving DecidableEq, Repr

/- A character has a meaning of its own in patterns. -/
def isMeta (c : Char) : Bool :=
  "\\.+*?()|[]\x7b\x7d^$#&-~".toList.contains c

/- A character stands for itself after a backslash. -/
def isEscapable (c : Char) : Bool :=
  isMeta c ||
    (c.toNat < 0x80 && !c.isAlphanum && c ≠ '<' && c ≠ '>')

------------------------------------------------------------
-- Characters by Number
------------------------------------------------------------

/- A character is a hexadecimal digit. -/
def isHex (c : Char) : Bool := (hexDigit? c).isSome

/- The character with a code point, if it has one. -/
def charOf? (n : Nat) : Option Char :=
  if h : n.isValidChar then some (Char.ofNatAux n h)
  else none

/- The number that hexadecimal digits spell. -/
def hexNumber (cs : List Char) : Nat :=
  cs.foldl (fun n c => n * 16 + (hexDigit? c).getD 0) 0

/- Read a number of hexadecimal digits. -/
def hexDigits (f : Flags) : Nat → Scan (List Char)
| 0 => pure []
| n + 1 => do
    gap f
    let c ← Scan.next
    Scan.require (isHex c)
    let cs ← hexDigits f n
    return c :: cs

/-
  Read a character by its number: so many digits, or any
  number of them in braces.  Two digits alone spell an
  octet, which without Unicode must be one of ASCII.
-/
def hexChar (f : Flags) (digits : Nat) : Scan Char := do
  gap f
  if ← Scan.accept ['\x7b'] then
    let cs ← spaced f (· ≠ '\x7d')
    Scan.require (!cs.isEmpty && cs.all isHex)
    let _ ← Scan.next
    gap f
    Scan.ofOption (charOf? (hexNumber cs))
  else
    let cs ← hexDigits f digits
    gap f
    let c ← Scan.ofOption (charOf? (hexNumber cs))
    Scan.require
      (f.unicode || digits ≠ 2 || c.toNat < 0x80)
    return c

------------------------------------------------------------
-- Named Sets
------------------------------------------------------------

/-
  The set that a name in braces asks for, and whether it is
  the complement that is asked for.
-/
def namedSet? (cs : List Char) : Option (CharSet × Bool) :=
  let positive (s : Option CharSet) := s.map fun s => (s, false)
  let rec split : List Char → List Char →
      Option (List Char × List Char)
    | _, [] => none
    | before, '!' :: '=' :: after =>
        some (before.reverse, after)
    | before, c :: after => split (c :: before) after
  match split [] cs with
  | some (kind, value) =>
      (CharSet.valued? kind value).map fun s => (s, true)
  | none =>
      match (cutList ':' cs).or (cutList '=' cs) with
      | some (kind, value) =>
          positive (CharSet.valued? kind value)
      | none => positive (CharSet.named? cs)

/- Read the name of a set and give the set. -/
def namedSet (f : Flags) (negated : Bool) : Scan CharSet := do
  gap f
  Scan.require f.unicode
  if ← Scan.accept ['\x7b'] then
    let cs ← spaced f (· ≠ '\x7d')
    let _ ← Scan.next
    let (s, other) ← Scan.ofOption (namedSet? cs)
    Scan.ofOption (f.polar? (negated != other) (f.fold s))
  else
    let c ← Scan.next
    Scan.require (c ≠ '\\')
    gap f
    let s ← Scan.ofOption (CharSet.named? [c])
    Scan.ofOption (f.polar? negated (f.fold s))

/- The set of a letter after a backslash. -/
def letterSet? (f : Flags) (letter : Char) : Option CharSet :=
  let set :=
    match letter.toLower with
    | 'd' =>
        if f.unicode then CharSet.category "Nd"
        else CharSet.asciiDigit
    | 's' =>
        if f.unicode then CharSet.blank
        else CharSet.asciiBlank
    | _ =>
        if f.unicode then CharSet.word
        else CharSet.asciiWord
  f.polar? letter.isUpper set

------------------------------------------------------------
-- Escapes
------------------------------------------------------------

/- The condition on words with a name in braces. -/
def namedBoundary? (k : WordKind) : String → Option Look
| "start" => some (.wordStart k)
| "end" => some (.wordEnd k)
| "start-half" => some (.wordStartHalf k)
| "end-half" => some (.wordEndHalf k)
| _ => none

/- A character that may stand in the name of a condition. -/
def isBoundaryChar (c : Char) : Bool :=
  c.isAlpha || c = '-'

/-
  Read the name of a condition on words in braces.  Braces
  that start with no letter or dash count repetitions.
-/
def boundary (f : Flags) : Scan Look := do
  match ← Scan.ahead with
  | '\x7b' :: rest =>
      if (afterGap f rest).head?.any isBoundaryChar then
        let _ ← Scan.next
        let name ← spaced f isBoundaryChar
        let close ← Scan.next
        Scan.require (close = '\x7d')
        Scan.ofOption
          (namedBoundary? f.words (String.ofList name))
      else return .boundary f.words
  | _ => return .boundary f.words

/- Read what stands after a backslash. -/
def escape (f : Flags) : Scan Atom := do
  let c ← Scan.next
  if isEscapable c then return .char c
  else
    match c with
    | 'x' => return .char (← hexChar f 2)
    | 'u' => return .char (← hexChar f 4)
    | 'U' => return .char (← hexChar f 8)
    | 'p' => return .set (← namedSet f false)
    | 'P' => return .set (← namedSet f true)
    | 'a' => return .char '\x07'
    | 'f' => return .char '\x0c'
    | 't' => return .char '\t'
    | 'n' => return .char '\n'
    | 'r' => return .char '\r'
    | 'v' => return .char '\x0b'
    | 'A' => return .look .textStart
    | 'z' => return .look .textEnd
    | 'b' => return .look (← boundary f)
    | 'B' => return .look (.noBoundary f.words)
    | '<' => return .look (.wordStart f.words)
    | '>' => return .look (.wordEnd f.words)
    | _ =>
        if "dDsSwW".toList.contains c then
          return .set (← Scan.ofOption (letterSet? f c))
        else Scan.fail

end Signpost.Regex
