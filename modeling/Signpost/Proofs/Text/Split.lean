import Mathlib
import Signpost.Text.Split

/-
  Texts that are cut at separators: what is before the first
  one, and what is between any two.

  Main declarations:
    * `Text.cutList_append`
    * `Text.cutList_eq_none`
    * `Text.takeWhile_of_ends`
    * `Text.rtakeWhile_append` and
      `Text.eq_or_exists_append_rtakeWhile`
    * `Text.of_mem_splitOn` and `Text.mem_intercalate_iff`
    * `Text.splitOn_intercalate_eq_flatMap`
    * `Text.pieces_joined` and `Text.cut_append`
    * `Text.mapM_eq_some_map`, `Text.exists_of_mapM` and
      `Text.exists_of_mem_mapM`
-/

namespace Signpost.Text

variable {c sep : Char}
variable {cs after : List Char}

/- A text of characters of one kind has none of another. -/
theorem not_mem_of_all
    {kind : Char → Bool}
    {b : Bool}
    (hAll : ∀ c ∈ cs, kind c = b)
    (hOther : kind sep = !b) :
    sep ∉ cs := by
  intro hMember
  rw [hAll sep hMember] at hOther
  cases b with
  | true => cases hOther
  | false => cases hOther

------------------------------------------------------------
-- The First and the Last Separator
------------------------------------------------------------

/- A text without separators is not cut. -/
theorem cutList_eq_none
    (hNone : sep ∉ cs) :
    cutList sep cs = none := by
  induction cs with
  | nil => rfl
  | cons c cs ih =>
      rcases not_or.mp (hNone ∘ List.mem_cons.mpr) with
        ⟨hc, hRest⟩
      rw [cutList, if_neg (Ne.symm hc), ih hRest]
      rfl

/- It is cut at the separator that follows it. -/
theorem cutList_append
    (hNone : sep ∉ cs)
    (rest : List Char) :
    cutList sep (cs ++ sep :: rest) = some (cs, rest) := by
  induction cs with
  | nil => simp [cutList]
  | cons c cs ih =>
      rcases not_or.mp (hNone ∘ List.mem_cons.mpr) with
        ⟨hc, hRest⟩
      rw [List.cons_append, cutList, if_neg (Ne.symm hc),
        ih hRest]
      rfl

/- A text is taken up to the first of some characters. -/
theorem takeWhile_of_ends
    {rest : List Char}
    (hInside : c ∉ cs)
    (hEnds : ∀ d, rest.head? = some d → d = c) :
    (cs ++ rest).takeWhile (· ≠ c) = cs := by
  have hTake : ∀ d ∈ cs, decide (d ≠ c) = true := by
    intro d hd
    exact decide_eq_true (fun hSame => hInside (hSame ▸ hd))
  rw [List.takeWhile_append_of_pos hTake]
  cases rest with
  | nil => simp
  | cons d rest =>
      have hHere : d = c := hEnds d rfl
      rw [List.takeWhile_cons_of_neg (by simp [hHere]),
        List.append_nil]

theorem eq_of_head?_dropWhile
    (c : Char)
    (cs : List Char) :
    ∀ d, (cs.dropWhile (· ≠ c)).head? = some d → d = c := by
  intro d hHead
  have hNot := List.head?_dropWhile_not (· ≠ c) cs
  rw [hHead] at hNot
  simpa using hNot

theorem not_mem_takeWhile
    (c : Char)
    (cs : List Char) :
    c ∉ cs.takeWhile (· ≠ c) := by
  intro hMember
  have hOther := List.mem_takeWhile_imp hMember
  exact of_decide_eq_true hOther rfl

/- The text after the last of some characters. -/
theorem rtakeWhile_append
    (before : List Char)
    (hAfter : c ∉ after) :
    (before ++ c :: after).rtakeWhile (· ≠ c) = after := by
  have hReversed : c ∉ after.reverse :=
    fun hMember => hAfter (List.mem_reverse.mp hMember)
  rw [List.rtakeWhile, List.reverse_append, List.reverse_cons,
    List.append_assoc,
    takeWhile_of_ends hReversed (by simp [eq_comm]),
    List.reverse_reverse]

theorem rtakeWhile_of_not_mem
    (hNone : c ∉ cs) :
    cs.rtakeWhile (· ≠ c) = cs := by
  apply List.rtakeWhile_eq_self_iff.mpr
  intro d hd
  exact decide_eq_true (fun hSame => hNone (hSame ▸ hd))

theorem not_mem_rtakeWhile
    (c : Char)
    (cs : List Char) :
    c ∉ cs.rtakeWhile (· ≠ c) := by
  intro hMember
  have hOther := List.mem_rtakeWhile_imp hMember
  exact of_decide_eq_true hOther rfl

/- It is the whole text, or such a character is before it. -/
theorem eq_or_exists_append_rtakeWhile
    (c : Char)
    (cs : List Char) :
    cs.rtakeWhile (· ≠ c) = cs ∨
      ∃ before, cs = before ++ c :: cs.rtakeWhile (· ≠ c) := by
  have hWhole :
      cs.rdropWhile (· ≠ c) ++ cs.rtakeWhile (· ≠ c) = cs :=
    List.rdropWhile_append_rtakeWhile
  by_cases hNone : cs.rdropWhile (· ≠ c) = []
  · left
    rwa [hNone, List.nil_append] at hWhole
  · right
    have hLast : (cs.rdropWhile (· ≠ c)).getLast hNone = c := by
      simpa using List.rdropWhile_last_not (· ≠ c) cs hNone
    have hBefore := List.dropLast_append_getLast hNone
    rw [hLast] at hBefore
    refine ⟨(cs.rdropWhile (· ≠ c)).dropLast, ?_⟩
    rw [← List.singleton_append, ← List.append_assoc, hBefore,
      hWhole]

------------------------------------------------------------
-- All Separators
------------------------------------------------------------

/- Any other character is between two separators. -/
theorem mem_intercalate_iff
    (hOther : c ≠ sep)
    (parts : List (List Char)) :
    c ∈ [sep].intercalate parts ↔ ∃ part ∈ parts, c ∈ part := by
  induction parts with
  | nil => simp
  | cons part parts ih =>
      cases parts with
      | nil => simp
      | cons next parts =>
          rw [List.intercalate_cons_cons, List.mem_append,
            List.mem_append, ih]
          simp [hOther]

/- A piece between separators has none in it. -/
theorem of_mem_splitOn
    (sep : Char)
    (cs : List Char) :
    ∀ piece ∈ cs.splitOn sep, ∀ c ∈ piece,
      c ∈ cs ∧ c ≠ sep := by
  induction cs with
  | nil => simp
  | cons d cs ih =>
      have hLonger :
          ∀ piece ∈ cs.splitOn sep, ∀ c ∈ piece,
            c ∈ d :: cs ∧ c ≠ sep := by
        intro piece hPiece c hMember
        rcases ih piece hPiece c hMember with ⟨hc, hOther⟩
        exact ⟨List.mem_cons_of_mem d hc, hOther⟩
      rw [List.splitOn_cons_eq_if_modifyHead]
      by_cases hSep : d = sep
      · simpa [hSep] using hLonger
      · rcases List.exists_cons_of_ne_nil
            (cs.splitOn_ne_nil sep) with
          ⟨first, rest, hPieces⟩
        rw [hPieces] at hLonger ⊢
        rcases List.forall_mem_cons.mp hLonger with
          ⟨hFirst, hRest⟩
        simp only [beq_iff_eq, hSep, if_false,
          List.modifyHead_cons]
        refine List.forall_mem_cons.mpr ⟨?_, hRest⟩
        exact
          List.forall_mem_cons.mpr
            ⟨⟨List.mem_cons_self, hSep⟩, hFirst⟩

/- The pieces of texts joined are the pieces of each. -/
theorem splitOn_intercalate_eq_flatMap
    {parts : List (List Char)}
    (hSome : parts ≠ []) :
    ([sep].intercalate parts).splitOn sep =
      parts.flatMap (·.splitOn sep) := by
  induction parts with
  | nil => exact absurd rfl hSome
  | cons part parts ih =>
      cases parts with
      | nil => simp
      | cons next parts =>
          rw [List.intercalate_cons_cons, List.append_assoc,
            List.singleton_append,
            List.splitOn_append_cons_self,
            ih (List.cons_ne_nil next parts)]
          rfl

/- Texts without the separator are the pieces of them joined. -/
theorem pieces_joined
    {mark : String}
    {parts : List String}
    (hMark : mark.toList = [sep])
    (hNone : ∀ part ∈ parts, sep ∉ part.toList)
    (hSome : parts ≠ []) :
    pieces sep (joined mark parts) = parts := by
  have hLists :
      ((joined mark parts).toList).splitOn sep =
        parts.map String.toList := by
    rw [joined, String.toList_intercalate, hMark]
    apply List.splitOn_intercalate
    · intro part hPart
      rcases List.mem_map.mp hPart with ⟨text, hText, rfl⟩
      exact hNone text hText
    · simpa using hSome
  rw [pieces, hLists, List.map_map]
  simp [Function.comp_def]

/- A text is cut at the first separator in it. -/
theorem cut_append
    {mark text : String}
    (hMark : mark.toList = [sep])
    (hNone : sep ∉ text.toList)
    (rest : String) :
    cut sep (text ++ mark ++ rest) = some (text, rest) := by
  rw [cut, String.toList_append, String.toList_append, hMark,
    List.append_assoc, List.singleton_append,
    cutList_append hNone]
  simp

------------------------------------------------------------
-- Reading the Parts
------------------------------------------------------------

section Parts

variable {α β : Type}
variable {read : α → Option β}
variable {parts : List α}

/- Parts are read one by one. -/
theorem mapM_eq_some_map
    {value : α → β}
    (hRead : ∀ part ∈ parts, read part = some (value part)) :
    parts.mapM read = some (parts.map value) := by
  induction parts with
  | nil => rfl
  | cons part parts ih =>
      rcases List.forall_mem_cons.mp hRead with ⟨hHere, hRest⟩
      rw [List.mapM_cons, hHere, ih hRest]
      rfl

/- If all are read, each of them is. -/
theorem exists_of_mapM
    {values : List β}
    (hRead : parts.mapM read = some values)
    {part : α}
    (hPart : part ∈ parts) :
    ∃ value ∈ values, read part = some value := by
  induction parts generalizing values with
  | nil => cases hPart
  | cons next parts ih =>
      rw [List.mapM_cons] at hRead
      rcases Option.bind_eq_some_iff.mp hRead with
        ⟨first, hFirst, hRead⟩
      rcases Option.bind_eq_some_iff.mp hRead with
        ⟨rest, hRest, hRead⟩
      cases hRead
      rcases List.mem_cons.mp hPart with rfl | hLater
      · exact ⟨first, List.mem_cons_self, hFirst⟩
      · rcases ih hRest hLater with ⟨value, hValue, hHere⟩
        exact
          ⟨value, List.mem_cons_of_mem first hValue, hHere⟩

end Parts

end Signpost.Text
