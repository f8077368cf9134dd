import Signpost.Url.Reader

/-
  What is known of a URL that was read: its scheme is in the
  text, and a special scheme makes its path segments.

  Main declarations:
    * `Url.place_of_parse`
    * `Url.path_of_parse`
    * `Url.significant_append`
    * `Url.significant_eq_filter`
-/

namespace Signpost

------------------------------------------------------------
-- URLs That Are Read
------------------------------------------------------------

namespace Url

/- What a URL that is read was read from. -/
theorem place_of_parse
    {s : String}
    {u : Url}
    (hParse : parse s = .ok u) :
    ∃ rest,
      schemeOf (significant s.toList) =
          some (u.scheme, rest) ∧
        ∃ followed place,
          placeOf u.scheme followed
              (cutAt '?' (cutAt '#' rest).1).1 =
            .ok place ∧
            u.authority = place.authority ∧
              u.path = place.path := by
  unfold parse at hParse
  cases hScheme : schemeOf (significant s.toList) with
  | none => simp [hScheme] at hParse
  | some found =>
      rcases found with ⟨scheme, rest⟩
      simp only [hScheme, bind, Except.bind] at hParse
      split at hParse
      · cases hParse
      · rename_i place hPlace
        cases hParse
        exact ⟨rest, rfl, _, place, hPlace, rfl, rfl⟩

/- After slashes there are segments. -/
theorem path_of_afterSlashes
    {scheme : String}
    {followed : Bool}
    {cs : List Char}
    {place : Place}
    (hPlace : afterSlashes scheme followed cs = .ok place) :
    ∃ ss, place.path = .segments ss := by
  simp only [afterSlashes, bind, Except.bind] at hPlace
  split at hPlace
  · cases hPlace
  · cases hPlace
    exact ⟨_, rfl⟩

/- The authority after slashes is read up to the next one. -/
theorem authority_of_afterSlashes
    {scheme : String}
    {followed : Bool}
    {cs : List Char}
    {place : Place}
    (hPlace : afterSlashes scheme followed cs = .ok place) :
    ∃ a extra ends,
      place.authority = some a ∧
        authorityOf scheme ends
            (cs.takeWhile
              (!isSlash (isSpecialScheme scheme) ·)) =
          .ok (a, extra) := by
  simp only [afterSlashes, bind, Except.bind] at hPlace
  split at hPlace
  · cases hPlace
  · rename_i answer hRead
    cases hPlace
    exact ⟨_, _, _, rfl, hRead⟩

/- So there are in a URL with a special scheme. -/
theorem path_of_parse
    {s : String}
    {u : Url}
    (hParse : parse s = .ok u)
    (hSpecial : u.isSpecial = true)
    (hFile : u.scheme ≠ "file") :
    ∃ ss, u.path = .segments ss := by
  rcases place_of_parse hParse with
    ⟨rest, -, followed, place, hPlace, -, hPath⟩
  have hScheme : isSpecialScheme u.scheme = true := hSpecial
  unfold placeOf at hPlace
  rw [if_neg hFile, if_pos hScheme] at hPlace
  rw [hPath]
  exact path_of_afterSlashes hPlace

/- Nothing is dropped of a start that counts. -/
theorem significant_append
    {start : List Char}
    (hStart : start ≠ [])
    (hKept :
      start.any (fun c => isTrimmed c || isDropped c) = false)
    (rest : List Char) :
    ∃ kept, significant (start ++ rest) = start ++ kept := by
  have hKept :
      ∀ c ∈ start, isTrimmed c = false ∧ isDropped c = false := by
    simpa using hKept
  have hFront :
      (start ++ rest).dropWhile isTrimmed = start ++ rest := by
    cases start with
    | nil => exact absurd rfl hStart
    | cons c start =>
        simp [(hKept c List.mem_cons_self).1]
  have hBack :
      start.reverse.dropWhile isTrimmed = start.reverse := by
    cases hReverse : start.reverse with
    | nil => rfl
    | cons c before =>
        have hMember : c ∈ start := by
          rw [← List.mem_reverse, hReverse]
          exact List.mem_cons_self
        simp [(hKept c hMember).1]
  have hAll : start.filter (!isDropped ·) = start := by
    apply List.filter_eq_self.mpr
    intro c hMember
    simp [(hKept c hMember).2]
  refine
    ⟨((rest.reverse.dropWhile isTrimmed).reverse).filter
      (!isDropped ·), ?_⟩
  rw [significant, hFront, List.reverse_append,
    List.dropWhile_append]
  split
  · rename_i hNothing
    rw [hBack, List.reverse_reverse, hAll,
      List.isEmpty_iff.mp hNothing]
    simp
  · rw [List.reverse_append, List.reverse_reverse,
      List.filter_append, hAll]

/- Between characters that count nothing is trimmed. -/
theorem significant_eq_filter
    {c d : Char}
    (hFirst : isTrimmed c = false)
    (hLast : isTrimmed d = false)
    (cs : List Char) :
    significant (c :: (cs ++ [d])) =
      (c :: (cs ++ [d])).filter (!isDropped ·) := by
  have hFirst : ¬isTrimmed c = true := by simp [hFirst]
  have hLast : ¬isTrimmed d = true := by simp [hLast]
  have hReverse :
      (c :: (cs ++ [d])).reverse = d :: (c :: cs).reverse := by
    simp
  rw [significant, List.dropWhile_cons_of_neg hFirst, hReverse,
    List.dropWhile_cons_of_neg hLast, ← hReverse,
    List.reverse_reverse]

end Url

end Signpost
