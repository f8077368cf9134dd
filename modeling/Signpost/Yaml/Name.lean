import Signpost.Text.Decimal
import Signpost.Yaml.Lexeme
import Signpost.Yaml.Token

/-
  This file defines how the names of anchors, tags and
  directives are read.

  Key definitions include:
    * `anchorName`
    * `tagName`
    * `directive`
-/

namespace Signpost.Yaml

open Text

------------------------------------------------------------
-- Anchors
------------------------------------------------------------

/- Read a name, which may be empty. -/
def word (gs : List Glyph) : Lexeme (List Char) :=
  ⟨chars (gs.takeWhile Glyph.isWord),
    gs.dropWhile Glyph.isWord⟩

/- Read the name of an anchor or an alias. -/
def anchorName
    (gs : List Glyph) : Option (Lexeme (List Char)) :=
  let w := word gs
  let ended :=
    startsGap w.rest ||
      startsAmong ['?', ':', ',', ']', '\x7d', '%', '@', '\x60']
        w.rest
  if w.value.isEmpty || !ended then none else some w

------------------------------------------------------------
-- Uris
------------------------------------------------------------

/- A character of a uri, and of one in angle brackets. -/
def isUriChar (bracketed : Bool) (g : Glyph) : Bool :=
  g.isWord || ";/?:@&=+$.%!~*'()".toList.contains g.char ||
    (bracketed && [',', '[', ']'].contains g.char)

/- How many octets a character has, given the first one. -/
def octetCount? (n : Nat) : Option Nat :=
  if n < 0x80 then some 1
  else if 0xC0 ≤ n ∧ n < 0xE0 then some 2
  else if 0xE0 ≤ n ∧ n < 0xF0 then some 3
  else if 0xF0 ≤ n ∧ n < 0xF8 then some 4
  else none

/- Read one octet after a percent sign. -/
def uriOctet? : List Glyph → Option (Nat × List Glyph)
| a :: b :: c :: rest =>
    if a.char = '%' then do
      let h ← hexDigit? b.char
      let l ← hexDigit? c.char
      return (16 * h + l, rest)
    else none
| _ => none

/- Read the octets that follow the first one. -/
def uriOctets? :
    Nat → List Glyph → Option (List Nat × List Glyph)
| 0, gs => some ([], gs)
| n + 1, gs => do
    let (o, gs) ← uriOctet? gs
    if o &&& 0xC0 = 0x80 then
      let (os, gs) ← uriOctets? n gs
      return (o :: os, gs)
    else none

/- The bits of the first octet that belong to the character. -/
def leadingBits (count first : Nat) : Nat :=
  if count = 1 then first else first % Nat.pow 2 (7 - count)

/- Read a character that is written as escaped octets. -/
def uriEscape? (gs : List Glyph) : Option (Lexeme Char) := do
  let (first, gs) ← uriOctet? gs
  let count ← octetCount? first
  let (others, gs) ← uriOctets? (count - 1) gs
  let n := others.foldl (fun n o => 64 * n + o % 64)
    (leadingBits count first)
  return ⟨Char.ofNat n, gs⟩

/- Read the characters of a uri, of which there may be none. -/
def uri
    (bracketed : Bool)
    (gs : List Glyph) : Option (Lexeme (List Char)) :=
  match gs with
  | [] => some ⟨[], []⟩
  | g :: rest =>
      if !isUriChar bracketed g then some ⟨[], g :: rest⟩
      else if g.char ≠ '%' then
        (uri bracketed rest).map (·.cons g.char)
      else
        match uriEscape? (g :: rest) with
        | none => none
        | some l =>
            if l.rest.length < (g :: rest).length then
              (uri bracketed l.rest).map (·.cons l.value)
            else none
termination_by gs.length
decreasing_by
  all_goals
    simp only [List.length_cons] at *
    omega

------------------------------------------------------------
-- Tags
------------------------------------------------------------

/- Read what may be the handle of a tag. -/
def tagHandle
    (gs : List Glyph) : Option (Lexeme (List Char)) :=
  if startsWith '!' gs then
    let w := word (gs.drop 1)
    if startsWith '!' w.rest then
      some ⟨'!' :: w.value ++ ['!'], w.rest.drop 1⟩
    else some ⟨'!' :: w.value, w.rest⟩
  else none

/- A handle has an exclamation mark on either side. -/
def isHandle (cs : List Char) : Bool :=
  2 ≤ cs.length && cs.getLast? = some '!'

/- Read a tag that is a uri in angle brackets. -/
def bracketedTag
    (gs : List Glyph) : Option (Lexeme TagName) := do
  let l ← uri true (gs.drop 2)
  if l.value.isEmpty || !startsWith '>' l.rest then none
  else return ⟨⟨[], l.value⟩, l.rest.drop 1⟩

/- Read a tag with a handle, or with the shortest handle. -/
def shortTag
    (gs : List Glyph) : Option (Lexeme TagName) := do
  let h ← tagHandle gs
  let l ← uri false h.rest
  if isHandle h.value then
    if l.value.isEmpty then none
    else return ⟨⟨h.value, l.value⟩, l.rest⟩
  else
    match h.value.drop 1 ++ l.value with
    | [] => return ⟨⟨[], ['!']⟩, l.rest⟩
    | suffix => return ⟨⟨['!'], suffix⟩, l.rest⟩

/- Read a tag. -/
def tagName
    (inFlow : Bool)
    (gs : List Glyph) : Option (Lexeme TagName) := do
  let l ←
    if startsWith '<' (gs.drop 1) then bracketedTag gs
    else shortTag gs
  let ended :=
    startsGap l.rest || (inFlow && startsWith ',' l.rest)
  if ended then return l else none

------------------------------------------------------------
-- Directives
------------------------------------------------------------

/- Read a number of at most nine digits. -/
def versionNumber (gs : List Glyph) : Option (Lexeme Nat) :=
  let isDigit (g : Glyph) : Bool := g.char.isDigit
  let ds := chars (gs.takeWhile isDigit)
  if ds.isEmpty || 9 < ds.length then none
  else
    let n := ds.foldl
      (fun n c => 10 * n + (digit? c).getD 0) 0
    some ⟨n, gs.dropWhile isDigit⟩

/- Read the value of a version directive. -/
def versionDirective
    (gs : List Glyph) : Option (Lexeme Token) := do
  let major ← versionNumber gs
  if startsWith '.' major.rest then
    let minor ← versionNumber (major.rest.drop 1)
    return ⟨.version major.value minor.value, minor.rest⟩
  else none

/- Read the value of a directive that sets a handle. -/
def handleDirective
    (gs : List Glyph) : Option (Lexeme Token) := do
  let h ← tagHandle gs
  let spaces := h.rest.takeWhile Glyph.isBlank
  let l ← uri true (h.rest.dropWhile Glyph.isBlank)
  if (isHandle h.value || h.value = ['!']) &&
      !spaces.isEmpty && !l.value.isEmpty &&
      startsGap l.rest then
    return ⟨.handle h.value l.value, l.rest⟩
  else none

/- Read a directive after its percent sign. -/
def directive (gs : List Glyph) : Option (Lexeme Token) := do
  let w := word gs
  if w.value.isEmpty || !startsGap w.rest then none
  else
    let rest := w.rest.dropWhile Glyph.isBlank
    let l ←
      if w.value = "YAML".toList then versionDirective rest
      else if w.value = "TAG".toList then handleDirective rest
      else none
    return ⟨l.value, ← restOfLine? l.rest⟩

end Signpost.Yaml
