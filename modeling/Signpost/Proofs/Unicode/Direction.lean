import Signpost.Url.Domain

/-
  Characters of ASCII are not written from the right.

  A table is read from the characters that its text has, so
  that it can be searched.

  Main declarations:
    * `Spans.ofText_ofList`
    * `Spans.mem_of_ascii`
    * `Url.isRight_direction_of_ascii`
-/

namespace Signpost

open Text

------------------------------------------------------------
-- Tables
------------------------------------------------------------

namespace Text.Spans

/- The spans that some characters spell. -/
def ofChars (cs : List Char) : Spans :=
  ⟨(((cs.map fun c => if c = '\n' then ' ' else c).splitOn
    ' ').filter (· ≠ [])).map spanOf⟩

theorem ofText_ofList
    (cs : List Char) :
    ofText (String.ofList cs) = ofChars cs := by
  unfold ofText words
  rw [String.toList_ofList]
  rfl

/- All spans of a table are beyond ASCII. -/
def isBeyondAscii (t : Spans) : Bool :=
  t.list.all fun span => 0x80 ≤ span.1

/- Such a table has no character of ASCII. -/
theorem mem_of_ascii
    {t : Spans}
    (hTable : t.isBeyondAscii = true)
    {c : Char}
    (hAscii : c.toNat < 0x80) :
    t.mem c = false := by
  apply List.any_eq_false.mpr
  intro span hSpan
  have hFirst :=
    of_decide_eq_true (List.all_eq_true.mp hTable span hSpan)
  simp only [Bool.and_eq_true, decide_eq_true_eq]
  omega

end Text.Spans

------------------------------------------------------------
-- Directions
------------------------------------------------------------

open Unicode

namespace Unicode

set_option maxRecDepth 20000 in
theorem isBeyondAscii_rightSpans :
    rightSpans.isBeyondAscii = true := by
  have hTable : rightSpans = _ := Spans.ofText_ofList _
  rw [hTable]
  decide +kernel

theorem isBeyondAscii_arabicNumberSpans :
    arabicNumberSpans.isBeyondAscii = true := by
  have hTable : arabicNumberSpans = _ := Spans.ofText_ofList _
  rw [hTable]
  decide +kernel

end Unicode

/- No character of ASCII is written from the right. -/
theorem Url.isRight_direction_of_ascii
    {c : Char}
    (hAscii : c.toNat < 0x80) :
    isRight (direction c) = false := by
  rw [direction,
    Spans.mem_of_ascii isBeyondAscii_rightSpans hAscii,
    Spans.mem_of_ascii isBeyondAscii_arabicNumberSpans hAscii]
  repeat' split
  all_goals first | rfl | contradiction

end Signpost
