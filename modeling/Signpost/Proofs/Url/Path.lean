import Signpost.Proofs.Text.Case
import Signpost.Proofs.Text.Split
import Signpost.Url.Reader

/-
  What becomes of a path of plain characters when it is put
  into a URL: it is kept as it is, unless one of its
  segments is made of one or two dots.

  Main declarations:
    * `Url.isUnreserved` and `Url.Plain`
    * `Url.resolve_of_no_dots`
    * `Url.lengthOf_resolve_add_le`
    * `Url.text_resolve_iff`
    * `Url.text_withPath_iff`
    * `Url.query_withQuery`
-/

namespace Signpost

open Text

namespace Url

variable {c : Char}
variable {cs : List Char}

------------------------------------------------------------
-- Unreserved Characters
------------------------------------------------------------

/- A character that means the same wherever it stands. -/
def isUnreserved (c : Char) : Bool :=
  c.isAlphanum || "-._~".toList.contains c

theorem isUnreserved_of_isAlphanum
    (hAlphanum : c.isAlphanum = true) :
    isUnreserved c = true := by
  simp [isUnreserved, hAlphanum]

theorem isUnreserved_of_isDigit
    (hDigit : c.isDigit = true) :
    isUnreserved c = true :=
  isUnreserved_of_isAlphanum (by simp [Char.isAlphanum, hDigit])

/- An unreserved character is in ASCII. -/
theorem toNat_lt_of_isUnreserved
    (hPlain : isUnreserved c = true) :
    c.toNat < 0x80 :=
  toNat_lt_of_isAlphanum_or_mark (by decide) hPlain

/- A character that is left alone in a path and a query. -/
structure Plain (c : Char) : Prop where
  ascii : c.toNat < 0x80
  path : inPathSet c = false
  query : inQuerySet true c = false
  kept : isDropped c = false
  not_percent : c ≠ '%'

theorem plain_of_isUnreserved
    (hPlain : isUnreserved c = true) :
    Plain c := by
  have hAll :
      ∀ c : Char, c.toNat < 0x80 →
        isUnreserved c = true →
          inPathSet c = false ∧ inQuerySet true c = false ∧
            isDropped c = false ∧ c ≠ '%' :=
    forall_ascii (by decide +kernel)
  have hAscii := toNat_lt_of_isUnreserved hPlain
  rcases hAll c hAscii hPlain with
    ⟨hPath, hQuery, hKept, hPercent⟩
  exact ⟨hAscii, hPath, hQuery, hKept, hPercent⟩

theorem percent_not_mem
    (hPlain : ∀ c ∈ cs, isUnreserved c = true) :
    '%' ∉ cs := by
  intro hMember
  have hc := plain_of_isUnreserved (hPlain '%' hMember)
  exact hc.not_percent rfl

/- Characters that need no encoding are kept as they are. -/
theorem encoded_eq_ofList
    {inSet : Char → Bool}
    (hKept : ∀ c ∈ cs, c.toNat < 0x80 ∧ inSet c = false) :
    encoded inSet cs = String.ofList cs := by
  have hSame : percentEncode inSet cs = cs := by
    induction cs with
    | nil => rfl
    | cons c cs ih =>
        rcases List.forall_mem_cons.mp hKept with ⟨hc, hRest⟩
        have hRest := ih hRest
        rw [percentEncode] at hRest ⊢
        rw [List.flatMap_cons, hRest]
        simp [hc]
  rw [encoded, hSame]

/- So it is with unreserved characters in a path. -/
theorem encoded_path_eq_ofList
    (hPlain : ∀ c ∈ cs, isUnreserved c = true) :
    encoded inPathSet cs = String.ofList cs := by
  apply encoded_eq_ofList
  intro c hMember
  have hc := plain_of_isUnreserved (hPlain c hMember)
  exact ⟨hc.ascii, hc.path⟩

------------------------------------------------------------
-- Dots
------------------------------------------------------------

/- A word with a percent sign has it in either case. -/
theorem toLower_ofList_ne
    (hPlain : '%' ∉ cs)
    {word : String}
    (hWord : '%' ∈ word.toList) :
    (String.ofList cs).toLower ≠ word := by
  rintro rfl
  exact hPlain ((mem_toLower_ofList_iff (by decide)).mp hWord)

/- Without percent signs one dot is written as such. -/
theorem isDot_iff
    (hPlain : '%' ∉ cs) :
    isDot cs = true ↔ cs = ['.'] := by
  have hEncoded :
      (String.ofList cs).toLower ≠ "%2e" :=
    toLower_ofList_ne hPlain (by decide)
  have hDot :
      (String.ofList cs).toLower = "." ↔ cs = ['.'] :=
    toLower_ofList_iff (by decide)
  simp [isDot, hEncoded, hDot]

/- So are two dots. -/
theorem isDoubleDot_iff
    (hPlain : '%' ∉ cs) :
    isDoubleDot cs = true ↔ cs = ['.', '.'] := by
  have hLast :
      (String.ofList cs).toLower ≠ ".%2e" :=
    toLower_ofList_ne hPlain (by decide)
  have hFirst :
      (String.ofList cs).toLower ≠ "%2e." :=
    toLower_ofList_ne hPlain (by decide)
  have hBoth :
      (String.ofList cs).toLower ≠ "%2e%2e" :=
    toLower_ofList_ne hPlain (by decide)
  have hDots :
      (String.ofList cs).toLower = ".." ↔ cs = ['.', '.'] :=
    toLower_ofList_iff (by decide)
  simp [isDoubleDot, hLast, hFirst, hBoth, hDots]

------------------------------------------------------------
-- Segments
------------------------------------------------------------

/- Only slashes separate plain characters. -/
theorem slashPieces_eq_splitOn
    (hPlain : '\\' ∉ cs) :
    slashPieces true cs = cs.splitOn '/' := by
  rw [slashPieces, List.splitOn_eq_splitOnP]
  induction cs with
  | nil => rfl
  | cons c cs ih =>
      rcases not_or.mp (hPlain ∘ List.mem_cons.mpr) with
        ⟨hc, hRest⟩
      have hSlash : isSlash true c = (c == '/') := by
        simp [isSlash, Ne.symm hc, BEq.beq]
      rw [List.splitOnP_cons_eq_if_modifyHead,
        List.splitOnP_cons_eq_if_modifyHead, hSlash, ih hRest]

/- The length of the text that some segments have. -/
def lengthOf : List String → Nat
| [] => 0
| s :: ss => s.length + 1 + lengthOf ss

theorem length_text
    (ss : List String) :
    (UrlPath.segments ss).text.length = lengthOf ss := by
  induction ss with
  | nil => rfl
  | cons s ss ih =>
      have hFirst : ("/" ++ s).length = s.length + 1 := by
        rw [String.length_append, Nat.add_comm]
        rfl
      rw [UrlPath.text] at ih ⊢
      rw [List.map_cons, String.join_cons,
        String.length_append, ih, hFirst, lengthOf]

theorem lengthOf_append
    (ss ts : List String) :
    lengthOf (ss ++ ts) = lengthOf ss + lengthOf ts := by
  induction ss with
  | nil => simp [lengthOf]
  | cons s ss ih => simp [lengthOf, ih, Nat.add_assoc]

/- The order of the segments does not matter to it. -/
theorem lengthOf_reverse
    (ss : List String) :
    lengthOf ss.reverse = lengthOf ss := by
  induction ss with
  | nil => rfl
  | cons s ss ih =>
      rw [List.reverse_cons, lengthOf_append, ih]
      simp [lengthOf, Nat.add_comm]

/- A slash before each piece is one between any two of them. -/
theorem flatMap_slash
    {pieces : List (List Char)}
    (hSome : pieces ≠ []) :
    pieces.flatMap ('/' :: ·) =
      '/' :: ['/'].intercalate pieces := by
  induction pieces with
  | nil => exact absurd rfl hSome
  | cons piece pieces ih =>
      cases pieces with
      | nil => simp
      | cons next rest =>
          rw [List.flatMap_cons, ih (List.cons_ne_nil _ _)]
          simp

/- Segments put together as they were cut are the path. -/
theorem text_splitOn
    (cs : List Char) :
    (UrlPath.segments
        ((cs.splitOn '/').map String.ofList)).text =
      String.ofList ('/' :: cs) := by
  have hWhole := flatMap_slash (cs.splitOn_ne_nil '/')
  rw [List.intercalate_splitOn] at hWhole
  rw [← String.toList_inj, String.toList_ofList, ← hWhole]
  simp [UrlPath.text, String.toList_join, List.flatMap_map]

------------------------------------------------------------
-- Resolving Segments
------------------------------------------------------------

/- A segment of dots. -/
def isDots (cs : List Char) : Bool :=
  isDot cs || isDoubleDot cs

/- Of unreserved characters these are one or two dots. -/
theorem isDots_iff
    {p : List Char}
    (hPlain : ∀ c ∈ p, isUnreserved c = true) :
    isDots p = true ↔ p = ['.'] ∨ p = ['.', '.'] := by
  have hPercent := percent_not_mem hPlain
  rw [isDots, Bool.or_eq_true, isDot_iff hPercent,
    isDoubleDot_iff hPercent]

/- The segments before the place that a segment leads to. -/
def entered
    (before : List String)
    (p : List Char) : List String :=
  if isDoubleDot p then shorten false before
  else if isDot p then before
  else encoded inPathSet p :: before

/- A segment that is no dots leads one further. -/
theorem entered_of_no_dots
    {p : List Char}
    (hNoDots : isDots p = false)
    (before : List String) :
    entered before p = encoded inPathSet p :: before := by
  rcases Bool.or_eq_false_iff.mp hNoDots with
    ⟨hDot, hDouble⟩
  simp [entered, hDot, hDouble]

/- The last segment leads into a directory if it is dots. -/
theorem resolve_singleton
    (before : List String)
    (p : List Char) :
    resolve false before [p] =
      if isDots p then ("" :: entered before p).reverse
      else (entered before p).reverse := by
  cases hDouble : isDoubleDot p with
  | true => simp [resolve, isDots, entered, hDouble]
  | false =>
      cases hDot : isDot p with
      | true => simp [resolve, isDots, entered, hDouble, hDot]
      | false => simp [resolve, isDots, entered, hDouble, hDot]

/- Any other segment leads to the next one. -/
theorem resolve_cons_cons
    (before : List String)
    (p q : List Char)
    (rest : List (List Char)) :
    resolve false before (p :: q :: rest) =
      resolve false (entered before p) (q :: rest) := by
  rw [resolve.eq_3]
  · unfold entered
    split
    · rfl
    · simp only [Bool.false_and, Bool.false_eq_true, if_false]
      split
      · rfl
      · rfl
  · exact List.cons_ne_nil q rest

/- Segments that are no dots are kept. -/
theorem resolve_of_no_dots
    {pieces : List (List Char)}
    (hNoDots : ∀ p ∈ pieces, isDots p = false)
    (before : List String) :
    resolve false before pieces =
      before.reverse ++ pieces.map (encoded inPathSet) := by
  induction pieces generalizing before with
  | nil => simp [resolve]
  | cons p pieces ih =>
      rcases List.forall_mem_cons.mp hNoDots with ⟨hp, hRest⟩
      have hEntered := entered_of_no_dots hp before
      cases pieces with
      | nil => simp [resolve_singleton, hp, hEntered]
      | cons q pieces =>
          rw [resolve_cons_cons, ih hRest, hEntered]
          simp

/- Taking back a segment adds none. -/
theorem lengthOf_shorten_le
    (ss : List String) :
    lengthOf (shorten false ss) ≤ lengthOf ss := by
  cases ss with
  | nil => exact Nat.le_refl 0
  | cons s ss => simp [shorten, lengthOf]

/- A segment of dots is worth less than it is long. -/
theorem lengthOf_entered_le
    {p : List Char}
    (hPlain : ∀ c ∈ p, isUnreserved c = true)
    (before : List String) :
    lengthOf (entered before p) + (if isDots p then 2 else 0) ≤
      lengthOf before + (p.length + 1) := by
  have hPercent := percent_not_mem hPlain
  cases hDots : isDots p with
  | false =>
      have hKept := encoded_path_eq_ofList hPlain
      rw [entered_of_no_dots hDots, hKept, lengthOf,
        String.length_ofList, if_neg Bool.false_ne_true]
      omega
  | true =>
      rw [if_pos rfl]
      cases hDouble : isDoubleDot p with
      | true =>
          have hLength : p.length = 2 := by
            rw [(isDoubleDot_iff hPercent).mp hDouble]
            rfl
          have hShorter := lengthOf_shorten_le before
          rw [entered, if_pos hDouble]
          omega
      | false =>
          have hDot : isDot p = true := by
            simpa [isDots, hDouble] using hDots
          have hLength : p.length = 1 := by
            rw [(isDot_iff hPercent).mp hDot]
            rfl
          rw [entered, hDouble, if_neg Bool.false_ne_true,
            if_pos hDot]
          omega

/- Each segment of dots makes a path shorter. -/
theorem lengthOf_resolve_add_le
    {pieces : List (List Char)}
    (hPlain :
      ∀ p ∈ pieces, ∀ c ∈ p, isUnreserved c = true)
    (before : List String) :
    lengthOf (resolve false before pieces) +
        pieces.countP isDots ≤
      lengthOf before +
        lengthOf (pieces.map String.ofList) := by
  induction pieces generalizing before with
  | nil => simp [resolve, lengthOf_reverse]
  | cons p pieces ih =>
      rcases List.forall_mem_cons.mp hPlain with ⟨hp, hRest⟩
      have hEntered := lengthOf_entered_le hp before
      rw [List.countP_cons, List.map_cons, lengthOf,
        String.length_ofList]
      cases pieces with
      | nil =>
          rw [resolve_singleton]
          cases hDots : isDots p with
          | true =>
              rw [hDots, if_pos rfl] at hEntered
              rw [if_pos rfl, if_pos rfl, lengthOf_reverse,
                lengthOf, String.length_empty,
                List.countP_nil, List.map_nil]
              omega
          | false =>
              simpa [hDots, lengthOf_reverse, lengthOf]
                using hEntered
      | cons q pieces =>
          have hLater := ih hRest (entered before p)
          rw [resolve_cons_cons]
          cases hDots : isDots p with
          | true =>
              rw [hDots, if_pos rfl] at hEntered
              rw [if_pos rfl]
              omega
          | false =>
              rw [hDots, if_neg Bool.false_ne_true] at hEntered
              rw [if_neg Bool.false_ne_true]
              omega

------------------------------------------------------------
-- Paths
------------------------------------------------------------

/- A character that a path of unreserved ones is made of. -/
def isPathPlain (c : Char) : Bool :=
  c = '/' || isUnreserved c

theorem all_isPathPlain_iff :
    cs.all isPathPlain = true ↔
      ∀ c ∈ cs, c = '/' ∨ isUnreserved c = true := by
  simp [isPathPlain]

/-
  The segments that a plain path is put together from have
  its text if and only if none of them is dots.
-/
theorem text_resolve_iff
    (hPlain :
      ∀ c ∈ cs, c = '/' ∨ isUnreserved c = true) :
    (UrlPath.segments
          (resolve false [] (slashPieces true cs))).text =
        String.ofList ('/' :: cs) ↔
      ∀ p ∈ cs.splitOn '/', p ≠ ['.'] ∧ p ≠ ['.', '.'] := by
  have hSlash : '\\' ∉ cs := by
    intro hMember
    rcases hPlain '\\' hMember with hSame | hUnreserved
    · exact absurd hSame (by decide)
    · exact absurd hUnreserved (by decide)
  have hPieces :
      ∀ p ∈ cs.splitOn '/', ∀ c ∈ p,
        isUnreserved c = true := by
    intro p hPiece c hMember
    rcases of_mem_splitOn '/' cs p hPiece c hMember with
      ⟨hc, hOther⟩
    exact (hPlain c hc).resolve_left hOther
  have hDots :
      (∀ p ∈ cs.splitOn '/', p ≠ ['.'] ∧ p ≠ ['.', '.']) ↔
        ∀ p ∈ cs.splitOn '/', isDots p = false := by
    apply forall₂_congr
    intro p hPiece
    rw [← not_or, ← isDots_iff (hPieces p hPiece),
      Bool.not_eq_true]
  rw [slashPieces_eq_splitOn hSlash, hDots]
  constructor
  · intro hText
    have hLength := congrArg String.length hText
    have hWhole := congrArg String.length (text_splitOn cs)
    rw [length_text] at hLength hWhole
    have hShorter := lengthOf_resolve_add_le hPieces []
    rw [hLength, hWhole, lengthOf] at hShorter
    have hNone : (cs.splitOn '/').countP isDots = 0 := by
      omega
    simpa [List.countP_eq_zero] using hNone
  · intro hNoDots
    have hKept :
        (cs.splitOn '/').map (encoded inPathSet) =
          (cs.splitOn '/').map String.ofList := by
      apply List.map_congr_left
      intro p hPiece
      exact encoded_path_eq_ofList (hPieces p hPiece)
    rw [resolve_of_no_dots hNoDots, List.reverse_nil,
      List.nil_append, hKept, text_splitOn]

------------------------------------------------------------
-- URLs With Another Path or Query
------------------------------------------------------------

variable {u : Url}

/-
  A URL that gets a plain path has it if and only if none of
  its segments is dots.
-/
theorem text_withPath_iff
    (hSpecial : u.isSpecial = true)
    (hFile : u.scheme ≠ "file")
    {ss : List String}
    (hSegments : u.path = .segments ss)
    {path : String}
    (hStart : path.toList.head? = some '/')
    (hPlain :
      ∀ c ∈ path.toList, c = '/' ∨ isUnreserved c = true) :
    (u.withPath path).path.text = path ↔
      ∀ p ∈ path.toList.splitOn '/',
        p ≠ ['.'] ∧ p ≠ ['.', '.'] := by
  rcases List.head?_eq_some_iff.mp hStart with ⟨cs, hPath⟩
  rw [hPath] at hPlain
  have hRest := (List.forall_mem_cons.mp hPlain).2
  have hKept : ('/' :: cs).filter (!isDropped ·) = '/' :: cs := by
    apply List.filter_eq_self.mpr
    intro c hMember
    rcases hPlain c hMember with rfl | hc
    · rfl
    · simp [(plain_of_isUnreserved hc).kept]
  have hScheme : isSpecialScheme u.scheme = true := hSpecial
  have hText :
      (u.withPath path).path =
        .segments (resolve false [] (slashPieces true cs)) := by
    simp [withPath, hPath, hKept, hSegments, pathSegments,
      isSlash, resolveSegments, hFile, hScheme]
  have hWhole : path = String.ofList ('/' :: cs) := by
    rw [← hPath, String.ofList_toList]
  rw [hText, hWhole, text_resolve_iff hRest,
    String.toList_ofList]
  simp [List.splitOn_cons_eq_if_modifyHead]

/- A URL that gets a plain query has it. -/
theorem query_withQuery
    (hSpecial : u.isSpecial = true)
    {query : Option String}
    (hPlain :
      ∀ q, query = some q →
        ∀ c ∈ q.toList,
          isUnreserved c = true ∨ c = '=' ∨ c = '&') :
    (u.withQuery query).query = query := by
  cases query with
  | none => rfl
  | some q =>
      have hKept :
          ∀ c ∈ q.toList,
            c.toNat < 0x80 ∧ inQuerySet true c = false ∧
              isDropped c = false := by
        intro c hMember
        rcases hPlain q rfl c hMember with hc | rfl | rfl
        · have hc := plain_of_isUnreserved hc
          exact ⟨hc.ascii, hc.query, hc.kept⟩
        · decide
        · decide
      have hFilter :
          q.toList.filter (!isDropped ·) = q.toList := by
        apply List.filter_eq_self.mpr
        intro c hMember
        simp [(hKept c hMember).2.2]
      have hEncoded :
          encoded (inQuerySet true) q.toList = q := by
        rw [encoded_eq_ofList, String.ofList_toList]
        intro c hMember
        exact ⟨(hKept c hMember).1, (hKept c hMember).2.1⟩
      simp [withQuery, hSpecial, hFilter, hEncoded]

end Url

end Signpost
