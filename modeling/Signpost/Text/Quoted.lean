import Signpost.Text.Printable

/-
  This file defines quoted texts, as error messages show
  them.

  A quoted text stands between double quotes.  A quote, a
  backslash and the usual control characters are escaped by
  one letter, any other character that is not shown by its
  code point in braces.

  Key definitions include:
    * `hexText`
    * `escaped`
    * `quoted`
    * `quotedList`
-/

------------------------------------------------------------
-- Hexadecimal Text
------------------------------------------------------------

namespace Signpost.Text

/- The shortest lower-case hexadecimal text of a number. -/
def hexText (n : Nat) : String :=
  String.ofList (Nat.toDigits 16 n)

------------------------------------------------------------
-- Quoting
------------------------------------------------------------

/- The characters that stand for one character in quotes. -/
def escaped (c : Char) : List Char :=
  if c = '\x00' then ['\\', '0']
  else if c = '\t' then ['\\', 't']
  else if c = '\n' then ['\\', 'n']
  else if c = '\r' then ['\\', 'r']
  else if c = '"' then ['\\', '"']
  else if c = '\\' then ['\\', '\\']
  else if isShown c then [c]
  else
    ['\\', 'u', '\x7b'] ++ Nat.toDigits 16 c.toNat ++
      ['\x7d']

/- A text between double quotes, escaped. -/
def quoted (s : String) : String :=
  String.ofList
    ('"' :: s.toList.flatMap escaped ++ ['"'])

/- A list of quoted texts in square brackets. -/
def quotedList (xs : List String) : String :=
  "[" ++ ", ".intercalate (xs.map quoted) ++ "]"

end Signpost.Text
