/-
  This file defines white space and the trimming of texts.

  White space is the Unicode property White_Space, so the
  no-break space and the ideographic space are trimmed like
  the ASCII blanks.

  Key definitions include:
    * `isBlank`
    * `trimStart`
    * `trimEnd`
    * `trim`
    * `trimmed`
-/

------------------------------------------------------------
-- White Space
------------------------------------------------------------

namespace Signpost.Text

/- A character has the Unicode property White_Space. -/
def isBlank (c : Char) : Bool :=
  let n := c.toNat
  (9 ≤ n && n ≤ 13) || n == 0x20 || n == 0x85 ||
    n == 0xA0 || n == 0x1680 ||
    (0x2000 ≤ n && n ≤ 0x200A) || n == 0x2028 ||
    n == 0x2029 || n == 0x202F || n == 0x205F ||
    n == 0x3000

------------------------------------------------------------
-- Trimming
------------------------------------------------------------

/- Drop the white space before the first other character. -/
def trimStart (cs : List Char) : List Char :=
  cs.dropWhile isBlank

/- Drop the white space after the last other character. -/
def trimEnd (cs : List Char) : List Char :=
  (cs.reverse.dropWhile isBlank).reverse

/- Drop the white space on both sides. -/
def trim (cs : List Char) : List Char :=
  trimEnd (trimStart cs)

/- A text without the white space on both sides. -/
def trimmed (s : String) : String :=
  String.ofList (trim s.toList)

end Signpost.Text
