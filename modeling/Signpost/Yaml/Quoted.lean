import Signpost.Text.Decimal
import Signpost.Yaml.Lexeme

/-
  This file defines how quoted scalars are read.

  In single quotes a quote is written twice.  In double
  quotes a backslash starts an escape.

  Key definitions include:
    * `singleQuoted`
    * `escape`
    * `doubleQuoted`
-/

namespace Signpost.Yaml

open Text

------------------------------------------------------------
-- Quoted Scalars
------------------------------------------------------------

/-
  Read the gap at the start.  A mark that starts or ends a
  document may not follow it.
-/
def quotedGap
    (escaped : Bool)
    (gs : List Glyph) : Option (Lexeme (List Char)) :=
  let (space, rest) := gap gs
  if startsDocumentMark rest then none
  else if escaped then
    some ⟨chars (space.filter Glyph.isBreak), rest⟩
  else some ⟨joinedGap space, rest⟩

/- Read a scalar in single quotes after the first one. -/
def singleQuoted
    (gs : List Glyph) : Option (Lexeme (List Char)) :=
  match gs with
  | [] => none
  | g :: rest =>
      if g.char = '\'' then
        match rest with
        | [] => some ⟨[], []⟩
        | h :: more =>
            if h.char = '\'' then
              (singleQuoted more).map (·.cons '\'')
            else some ⟨[], rest⟩
      else if g.isGap then
        match quotedGap false (g :: rest) with
        | none => none
        | some l =>
            if l.rest.length < (g :: rest).length then
              (singleQuoted l.rest).map (·.append l.value)
            else none
      else (singleQuoted rest).map (·.cons g.char)
termination_by gs.length
decreasing_by
  all_goals
    simp only [List.length_cons] at *
    omega

/- The character that a letter after a backslash stands for. -/
def escape? (c : Char) : Option Char :=
  match c with
  | '0' => some '\x00'
  | 'a' => some '\x07'
  | 'b' => some '\x08'
  | 't' => some '\t'
  | '\t' => some '\t'
  | 'n' => some '\n'
  | 'v' => some '\x0b'
  | 'f' => some '\x0c'
  | 'r' => some '\r'
  | 'e' => some '\x1b'
  | ' ' => some ' '
  | '"' => some '"'
  | '/' => some '/'
  | '\\' => some '\\'
  | 'N' => some '\u0085'
  | '_' => some '\u00a0'
  | 'L' => some '\u2028'
  | 'P' => some '\u2029'
  | _ => none

/- How many digits a letter after a backslash asks for. -/
def escapeDigits? (c : Char) : Option Nat :=
  match c with
  | 'x' => some 2
  | 'u' => some 4
  | 'U' => some 8
  | _ => none

/- The character with the code that some digits write. -/
def codePoint? (ds : List Char) : Option Char := do
  let ds ← ds.mapM hexDigit?
  let n := ds.foldl (fun n d => 16 * n + d) 0
  if n.isValidChar then some (Char.ofNat n) else none

/- Read an escape after its backslash. -/
def escape
    (gs : List Glyph) : Option (Lexeme Char) :=
  match gs with
  | [] => none
  | g :: rest =>
      match escape? g.char with
      | some c => some ⟨c, rest⟩
      | none =>
          match escapeDigits? g.char with
          | none => none
          | some n =>
              if rest.length < n then none
              else
                (codePoint? (chars (rest.take n))).map
                  fun c => ⟨c, rest.drop n⟩

/-
  Read a scalar in double quotes after the first one.  A
  backslash before a line break stands for nothing.
-/
def doubleQuoted
    (gs : List Glyph) : Option (Lexeme (List Char)) :=
  match gs with
  | [] => none
  | g :: rest =>
      if g.char = '"' then some ⟨[], rest⟩
      else if g.isGap then
        match quotedGap false (g :: rest) with
        | none => none
        | some l =>
            if l.rest.length < (g :: rest).length then
              (doubleQuoted l.rest).map (·.append l.value)
            else none
      else if g.char ≠ '\\' then
        (doubleQuoted rest).map (·.cons g.char)
      else if !rest.isEmpty && startsBreak rest then
        match quotedGap true (rest.drop 1) with
        | none => none
        | some l =>
            if l.rest.length < (g :: rest).length then
              (doubleQuoted l.rest).map (·.append l.value)
            else none
      else
        match escape rest with
        | none => none
        | some l =>
            if l.rest.length < (g :: rest).length then
              (doubleQuoted l.rest).map (·.cons l.value)
            else none
termination_by gs.length
decreasing_by
  all_goals
    simp only [List.length_cons] at *
    omega

end Signpost.Yaml
