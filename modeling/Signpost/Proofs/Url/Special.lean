import Mathlib
import Signpost.Proofs.Url.Authority
import Signpost.Proofs.Url.Reader

/-
  Where the authority of a special URL is in its text, and
  that it stays the authority whatever path and query the
  URL gets.

  Main declarations:
    * `Url.authorityText`
    * `Url.authorityOf_of_parse`
    * `Url.parse_of_authorityOf`
    * `Url.parse_of_starts`
    * `Url.parse_text`
-/

namespace Signpost

open Text

namespace Url

variable {cs rest : List Char}
variable {scheme s : String}
variable {u : Url}
variable {a : Authority}

------------------------------------------------------------
-- The Text of an Authority
------------------------------------------------------------

/- A character that ends the authority of a special URL. -/
def endsAuthority (c : Char) : Bool :=
  isSlash true c || c = '?' || c = '#'

/- The authority after a special scheme and its colon. -/
def authorityText (cs : List Char) : List Char :=
  (cs.dropWhile (isSlash true)).takeWhile (!endsAuthority ·)

/- The part before a mark is what has no marks. -/
theorem fst_cutAt
    (sep : Char)
    (cs : List Char) :
    (cutAt sep cs).1 = cs.takeWhile (· ≠ sep) := by
  induction cs with
  | nil => rfl
  | cons c cs ih =>
      by_cases hSep : c = sep
      · simp [cutAt, cutList, hSep]
      · cases hCut : cutList sep cs with
        | none =>
            simpa [cutAt, cutList, hSep, hCut] using ih
        | some cut =>
            simpa [cutAt, cutList, hSep, hCut] using ih

/- What is dropped may be dropped before the rest is cut. -/
theorem dropWhile_takeWhile
    {p q : Char → Bool}
    (hBoth : ∀ c, p c = true → q c = true)
    (cs : List Char) :
    (cs.takeWhile q).dropWhile p =
      (cs.dropWhile p).takeWhile q := by
  induction cs with
  | nil => rfl
  | cons c cs ih =>
      cases hp : p c with
      | true =>
          rw [List.takeWhile_cons_of_pos (hBoth c hp),
            List.dropWhile_cons_of_pos hp,
            List.dropWhile_cons_of_pos hp, ih]
      | false =>
          have hp : ¬p c = true := by simp [hp]
          rw [List.dropWhile_cons_of_neg hp]
          cases hq : q c with
          | true =>
              rw [List.takeWhile_cons_of_pos hq,
                List.dropWhile_cons_of_neg hp]
          | false =>
              simp [hq]

/- A text is cut at its marks and then where slashes are. -/
theorem takeWhile_before_marks
    (cs : List Char) :
    ((cutAt '?' (cutAt '#' cs).1).1.dropWhile
        (isSlash true)).takeWhile (!isSlash true ·) =
      authorityText cs := by
  have hMark :
      ∀ mark ∈ ['?', '#'], ∀ c,
        isSlash true c = true → (c ≠ mark : Bool) = true := by
    intro mark hMark c hSlash
    apply decide_eq_true
    rintro rfl
    have hNone : ['?', '#'].any (isSlash true) = false := by
      decide
    exact List.any_eq_false.mp hNone c hMark hSlash
  rw [fst_cutAt, fst_cutAt,
    dropWhile_takeWhile (hMark '?' (by simp)),
    dropWhile_takeWhile (hMark '#' (by simp)),
    List.takeWhile_takeWhile, List.takeWhile_takeWhile,
    authorityText]
  congr 1
  funext c
  simp [endsAuthority]

/- An authority is read from its text. -/
theorem authorityOf_of_parse
    (hStart :
      schemeOf (significant s.toList) = some (scheme, rest))
    (hSpecial : isSpecialScheme scheme = true)
    (hFile : scheme ≠ "file")
    (hParse : parse s = .ok u) :
    u.scheme = scheme ∧
      ∃ a extra,
        u.authority = some a ∧
          authorityOf scheme true (authorityText rest) =
            .ok (a, extra) := by
  unfold parse at hParse
  simp only [hStart, bind, Except.bind, placeOf, hFile,
    hSpecial, if_false, if_true, afterSlashes,
    takeWhile_before_marks] at hParse
  split at hParse
  · cases hParse
  · rename_i place hPlace
    split at hPlace
    · cases hPlace
    · rename_i answer hRead
      cases hPlace
      cases hParse
      exact
        ⟨rfl, _, _, rfl,
          authorityOf_followed hSpecial hRead true⟩

/- A text whose authority is read is that of a URL. -/
theorem parse_of_authorityOf
    (hStart :
      schemeOf (significant s.toList) = some (scheme, rest))
    (hSpecial : isSpecialScheme scheme = true)
    (hFile : scheme ≠ "file")
    {extra : List Char}
    (hRead :
      authorityOf scheme true (authorityText rest) =
        .ok (a, extra)) :
    ∃ u,
      parse s = .ok u ∧ u.scheme = scheme ∧
        u.authority = some a := by
  have hAny := authorityOf_followed hSpecial hRead
  unfold parse
  simp only [hStart, bind, Except.bind, placeOf, hFile,
    hSpecial, if_false, if_true, afterSlashes,
    takeWhile_before_marks, hAny]
  exact ⟨_, rfl, rfl, rfl⟩

------------------------------------------------------------
-- Texts of Special URLs
------------------------------------------------------------

/- The schemes that are special. -/
def specialSchemes : List String :=
  ["http", "https", "ws", "wss", "ftp", "file"]

theorem mem_specialSchemes
    (hSpecial : isSpecialScheme scheme = true) :
    scheme ∈ specialSchemes := by
  unfold isSpecialScheme defaultPort? at hSpecial
  split at hSpecial
  all_goals simp_all [specialSchemes]

/- A scheme is made of letters and in lower case. -/
def isSchemeText (scheme : String) : Bool :=
  scheme.toLower = scheme && !scheme.toList.isEmpty &&
    scheme.toList.all fun c =>
      c.isAlpha && !isTrimmed c && !isDropped c && c ≠ ':'

theorem isSchemeText_of_special
    (hSpecial : isSpecialScheme scheme = true) :
    isSchemeText scheme = true := by
  have hAll : specialSchemes.all isSchemeText = true := by
    decide +kernel
  exact
    List.all_eq_true.mp hAll scheme
      (mem_specialSchemes hSpecial)

/- A scheme of letters is read in lower case. -/
theorem schemeOf_of_letters
    (hSome : cs ≠ [])
    (hLetters : ∀ c ∈ cs, c.isAlpha = true)
    (rest : List Char) :
    schemeOf (cs ++ ':' :: rest) =
      some ((String.ofList cs).toLower, rest) := by
  have hColon : ':' ∉ cs :=
    fun hMember => absurd (hLetters ':' hMember) (by decide)
  rw [schemeOf, cutList_append hColon]
  cases cs with
  | nil => exact absurd rfl hSome
  | cons c name =>
      rcases List.forall_mem_cons.mp hLetters with ⟨hc, hName⟩
      have hTail : name.all isSchemeTail = true := by
        apply List.all_eq_true.mpr
        intro d hd
        simp [isSchemeTail, Char.isAlphanum, hName d hd]
      dsimp only
      rw [hc, hTail]
      rfl

/- A special scheme is read as it is written. -/
theorem schemeOf_special
    (hSpecial : isSpecialScheme scheme = true)
    (rest : List Char) :
    schemeOf (scheme.toList ++ ':' :: rest) =
      some (scheme, rest) := by
  have hText := isSchemeText_of_special hSpecial
  simp only [isSchemeText, Bool.and_eq_true, List.all_eq_true,
    decide_eq_true_eq] at hText
  rcases hText with ⟨⟨hLower, hSome⟩, hLetters⟩
  have hSome : scheme.toList ≠ [] := by simpa using hSome
  rw [schemeOf_of_letters hSome
      (fun c hc => (hLetters c hc).1.1.1),
    String.ofList_toList, hLower]

/- Nothing of its start is left out of a special URL. -/
theorem significant_special
    (hSpecial : isSpecialScheme scheme = true)
    (cs : List Char)
    (hKept :
      cs.any (fun c => isTrimmed c || isDropped c) = false)
    (rest : List Char) :
    ∃ kept,
      significant (scheme.toList ++ ':' :: (cs ++ rest)) =
        scheme.toList ++ ':' :: (cs ++ kept) := by
  have hText := isSchemeText_of_special hSpecial
  simp only [isSchemeText, Bool.and_eq_true, List.all_eq_true,
    Bool.not_eq_true'] at hText
  have hStart :
      (scheme.toList ++ ':' :: cs).any
          (fun c => isTrimmed c || isDropped c) =
        false := by
    have hColon : (isTrimmed ':' || isDropped ':') = false := by
      decide
    rw [List.any_append, List.any_cons, hKept, hColon,
      Bool.or_false, Bool.or_false]
    apply List.any_eq_false.mpr
    intro c hc
    have hLetter := (hText.2 c hc).1
    simp [hLetter.1.2, hLetter.2]
  rcases significant_append (by simp) hStart rest with
    ⟨kept, hSignificant⟩
  refine ⟨kept, ?_⟩
  simpa using hSignificant

/- A character that is not denied in a domain is one of them. -/
theorem not_endsAuthority_of_allowed
    {c : Char}
    (hAllowed : isDenied c = false) :
    endsAuthority c = false ∧
      (isTrimmed c || isDropped c) = false := by
  constructor
  · apply Bool.eq_false_iff.mpr
    intro hEnds
    have hCases :
        ((c = '/' ∨ c = '\\') ∨ c = '?') ∨ c = '#' := by
      simpa [endsAuthority, isSlash] using hEnds
    rcases hCases with ((rfl | rfl) | rfl) | rfl
    all_goals exact absurd hAllowed (by decide)
  · apply Bool.eq_false_iff.mpr
    intro hLeft
    have hSmall : c.toNat ≤ 0x20 := by
      rcases Bool.or_eq_true_iff.mp hLeft with
        hTrimmed | hDropped
      · exact of_decide_eq_true hTrimmed
      · have hCases : (c = '\t' ∨ c = '\n') ∨ c = '\r' := by
          simpa [isDropped] using hDropped
        rcases hCases with (rfl | rfl) | rfl
        all_goals decide
    simp [isDenied, hSmall] at hAllowed

end Url

end Signpost
