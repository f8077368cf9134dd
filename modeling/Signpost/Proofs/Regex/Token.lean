import Mathlib.Data.List.Infix
import Signpost.Proofs.Regex.Language
import Signpost.Proofs.Text.Scan
import Signpost.Regex.Pattern

/-
  The tokens of patterns, and that a token is read the same
  whether or not the end of a group follows it.

  Main declarations:
    * `read_spaced` and `read_readBrackets`
    * `ending`
    * `local_token`
    * `Token.Sound` and `sound_token`
-/

namespace Signpost.Regex

open Text
open Text.Scan (Gives Local read read_bind)

variable {after : List Char}
variable {n : Nat}

------------------------------------------------------------
-- Gaps
------------------------------------------------------------

theorem suffix_dropGap
    (comment : Bool)
    (cs : List Char) :
    (dropGap comment cs).list <:+ cs := by
  induction cs generalizing comment with
  | nil => cases comment <;> exact List.suffix_refl []
  | cons c cs ih =>
      cases comment with
      | true =>
          exact (ih _).trans (List.suffix_cons c cs)
      | false =>
          unfold dropGap
          split
          · exact (ih _).trans (List.suffix_cons c cs)
          · split
            · exact (ih _).trans (List.suffix_cons c cs)
            · exact List.suffix_refl (c :: cs)

/- A comment that ends has ended before what is left. -/
theorem dropGap_append
    {comment : Bool}
    {cs : List Char}
    (hLeft :
      after.length ≤
        (dropGap comment (cs ++ after)).list.length) :
    (dropGap comment (cs ++ after)).list =
      (dropGap comment cs).list ++ after := by
  induction cs generalizing comment with
  | nil =>
      have hAll : (dropGap comment after).list = after :=
        (suffix_dropGap comment after).sublist.eq_of_length_le
          hLeft
      cases comment <;> exact hAll
  | cons c cs ih =>
      cases comment with
      | true => exact ih hLeft
      | false =>
          simp only [List.cons_append, dropGap] at hLeft ⊢
          by_cases hHash : c = '#'
          · rw [if_pos hHash] at hLeft
            rw [if_pos hHash, if_pos hHash]
            exact ih hLeft
          · rw [if_neg hHash] at hLeft
            rw [if_neg hHash, if_neg hHash]
            by_cases hBlank : isBlank c = true
            · rw [if_pos hBlank] at hLeft
              rw [if_pos hBlank, if_pos hBlank]
              exact ih hLeft
            · rw [if_neg hBlank, if_neg hBlank]
              rfl

theorem local_dropGap
    (comment : Bool) :
    Local after n (Scan.skip (dropGap comment)) :=
  Scan.local_skip (suffix_dropGap comment)
    fun _ => dropGap_append

theorem local_gap
    (f : Flags) :
    Local after n (gap f) := by
  unfold gap
  split
  · exact local_dropGap false
  · exact Scan.local_pure ()

theorem read_gap
    (f : Flags)
    (cs : List Char) :
    read (gap f) cs = some ((), afterGap f cs) := by
  unfold gap afterGap
  split <;> rfl

theorem gap_eq_some
    (f : Flags)
    (cs : List Char) :
    ∃ le, gap f cs = some ((), ⟨afterGap f cs, le⟩) :=
  Scan.eq_some_of_read (read_gap f cs)

/- A run with gaps goes on as long as its characters do. -/
theorem read_spaced
    (f : Flags)
    (p : Char → Bool)
    (cs : List Char) :
    read (spaced f p) cs =
      read
        (gap f >>= fun _ =>
          Scan.branch p
            (Scan.next >>= fun c =>
              spaced f p >>= fun ds => pure (c :: ds))
            (pure []))
        cs := by
  rcases gap_eq_some f cs with ⟨le, hGap⟩
  simp only [read_bind, read_gap, Option.bind_some,
    Scan.read_branch]
  conv =>
    lhs
    unfold Scan.read
    rw [spaced, hGap]
  generalize afterGap f cs = list at le
  cases list with
  | nil => rfl
  | cons c rest =>
      simp only [List.head?_cons, Option.any_some]
      by_cases hc : p c = true
      · rw [if_pos hc]
        simp only [hc, if_true]
        refine
          Eq.trans ?_
            (read_bind (spaced f p)
              (fun ds => pure (c :: ds)) rest).symm
        unfold Scan.read
        cases spaced f p rest <;> rfl
      · rw [if_neg hc]
        simp only [hc]
        rfl

theorem local_spaced
    (f : Flags)
    (p : Char → Bool) :
    Local after n (spaced f p) := by
  induction n using Nat.strong_induction_on with
  | _ n ih =>
      apply Local.of_read_eq ?_ (read_spaced f p)
      apply (local_gap f).bind
      intro _
      apply Scan.local_branch
      · apply Scan.local_next_bind
        intro c m hm
        exact (ih m hm).bind fun ds => Scan.local_pure _
      · exact Scan.local_pure []

------------------------------------------------------------
-- Escapes
------------------------------------------------------------

theorem local_hexDigits
    (f : Flags)
    (digits : Nat) :
    Local after n (hexDigits f digits) := by
  induction digits with
  | zero => exact Scan.local_pure []
  | succ digits ih =>
      unfold hexDigits
      apply (local_gap f).bind
      intro _
      apply Scan.local_next.bind
      intro c
      apply (Scan.local_require _).bind
      intro _
      apply ih.bind
      intro cs
      exact Scan.local_pure _

theorem local_hexChar
    (f : Flags)
    (digits : Nat) :
    Local after n (hexChar f digits) := by
  unfold hexChar
  apply (local_gap f).bind
  intro _
  apply (Scan.local_accept _).bind
  intro brace
  split
  · apply (local_spaced f _).bind
    intro cs
    apply (Scan.local_require _).bind
    intro _
    apply Scan.local_next.bind
    intro _
    apply (local_gap f).bind
    intro _
    exact Scan.local_ofOption _
  · apply (local_hexDigits f digits).bind
    intro cs
    apply (local_gap f).bind
    intro _
    apply (Scan.local_ofOption _).bind
    intro c
    apply (Scan.local_require _).bind
    intro _
    exact Scan.local_pure c

theorem local_namedSet
    (f : Flags)
    (negated : Bool) :
    Local after n (namedSet f negated) := by
  unfold namedSet
  apply (local_gap f).bind
  intro _
  apply (Scan.local_require _).bind
  intro _
  apply (Scan.local_accept _).bind
  intro brace
  split
  · apply (local_spaced f _).bind
    intro cs
    apply Scan.local_next.bind
    intro _
    apply (Scan.local_ofOption _).bind
    intro named
    exact Scan.local_ofOption _
  · apply Scan.local_next.bind
    intro c
    apply (Scan.local_require _).bind
    intro _
    apply (local_gap f).bind
    intro _
    apply (Scan.local_ofOption _).bind
    intro s
    exact Scan.local_ofOption _

/- The characters that end a pattern inside a group. -/
def ending : List Char := [')', '$']

/- What comes before an ending after a gap, if anything. -/
theorem afterGap_append_ending
    (f : Flags)
    (cs : List Char) :
    afterGap f (cs ++ ending) = afterGap f cs ++ ending ∨
      afterGap f cs = [] ∧ afterGap f (cs ++ ending) = [] := by
  unfold afterGap
  split
  · generalize false = comment
    induction cs generalizing comment with
    | nil =>
        cases comment with
        | true => exact Or.inr ⟨rfl, rfl⟩
        | false => exact Or.inl rfl
    | cons c cs ih =>
        cases comment with
        | true => exact ih _
        | false =>
            simp only [List.cons_append, dropGap]
            by_cases hHash : c = '#'
            · rw [if_pos hHash, if_pos hHash]
              exact ih true
            · rw [if_neg hHash, if_neg hHash]
              by_cases hBlank : isBlank c = true
              · rw [if_pos hBlank, if_pos hBlank]
                exact ih false
              · rw [if_neg hBlank, if_neg hBlank]
                exact Or.inl rfl
  · exact Or.inl rfl

theorem head?_afterGap_append
    (f : Flags)
    {q : Char → Bool}
    (hEnding : q ')' = false)
    (cs : List Char) :
    (afterGap f (cs ++ ending)).head?.any q =
      (afterGap f cs).head?.any q := by
  rcases afterGap_append_ending f cs with hGap | ⟨hHere, hThere⟩
  · rw [hGap]
    cases afterGap f cs with
    | nil => exact hEnding
    | cons c cs => rfl
  · rw [hHere, hThere]

/- The braces of a boundary are told from those of a count. -/
theorem local_boundary
    (f : Flags) :
    Local ending n (boundary f) := by
  unfold boundary
  apply Scan.local_ahead_bind
  · intro cs
    cases cs with
    | nil => rfl
    | cons c cs =>
        by_cases hBrace : c = '\x7b'
        · subst hBrace
          simp only [List.cons_append,
            head?_afterGap_append f (q := isBoundaryChar)
              (by decide)]
        · simp only [List.cons_append]
          split
          · rename_i hEq
            exact absurd (List.cons.inj hEq).1 hBrace
          · split
            · rename_i hEq
              exact absurd (List.cons.inj hEq).1 hBrace
            · rfl
  · intro cs
    split
    · split
      · apply Scan.local_next.bind
        intro _
        apply (local_spaced f _).bind
        intro name
        apply Scan.local_next.bind
        intro close
        apply (Scan.local_require _).bind
        intro _
        exact Scan.local_ofOption _
      · exact Scan.local_pure _
    · exact Scan.local_pure _

theorem local_escape
    (f : Flags) :
    Local ending n (escape f) := by
  unfold escape
  apply Scan.local_next.bind
  intro c
  split
  · exact Scan.local_pure _
  · split
    · exact (local_hexChar f 2).bind fun _ => Scan.local_pure _
    · exact (local_hexChar f 4).bind fun _ => Scan.local_pure _
    · exact (local_hexChar f 8).bind fun _ => Scan.local_pure _
    · exact (local_namedSet f _).bind fun _ => Scan.local_pure _
    · exact (local_namedSet f _).bind fun _ => Scan.local_pure _
    all_goals try exact Scan.local_pure _
    · exact (local_boundary f).bind fun _ => Scan.local_pure _
    · split
      · exact
          (Scan.local_ofOption _).bind fun _ =>
            Scan.local_pure _
      · exact Scan.local_fail

------------------------------------------------------------
-- Counts
------------------------------------------------------------

theorem local_count
    (f : Flags) :
    Local after n (count f) := by
  unfold count
  apply (Scan.local_skipWhile isBlank).bind
  intro _
  apply (local_spaced f Char.isDigit).bind
  intro cs
  apply (Scan.local_skipWhile isBlank).bind
  intro _
  apply (local_gap f).bind
  intro _
  split
  · exact Scan.local_pure none
  · split
    · exact Scan.local_pure _
    · exact Scan.local_fail

theorem local_counts
    (f : Flags) :
    Local after n (counts f) := by
  unfold counts
  apply (local_gap f).bind
  intro _
  apply (local_count f).bind
  intro least?
  apply (Scan.local_ofOption least?).bind
  intro least
  apply (Scan.local_accept [',']).bind
  intro comma
  split
  · apply (local_gap f).bind
    intro _
    apply (Scan.local_accept _).bind
    intro close
    split
    · exact Scan.local_pure _
    · apply (local_count f).bind
      intro most?
      apply (Scan.local_ofOption most?).bind
      intro most
      apply Scan.local_next.bind
      intro close
      apply (Scan.local_require _).bind
      intro _
      exact Scan.local_pure _
  · apply Scan.local_next.bind
    intro close
    apply (Scan.local_require _).bind
    intro _
    exact Scan.local_pure _

------------------------------------------------------------
-- Sets in Brackets
------------------------------------------------------------

theorem local_openBracket
    (f : Flags) :
    Local after n (openBracket f) := by
  unfold openBracket
  apply (local_gap f).bind
  intro _
  apply (Scan.local_accept _).bind
  intro negated
  apply (local_spaced f _).bind
  intro dashes
  split
  · apply (Scan.local_accept _).bind
    intro bracket
    split
    · exact Scan.local_pure _
    · exact Scan.local_pure _
  · exact Scan.local_pure _

/- A mark without a closing bracket does not depend on one. -/
theorem isPrefixOf_append_ending
    {ms : List Char}
    (hMark : ')' ∉ ms)
    (cs : List Char) :
    ms.isPrefixOf (cs ++ ending) = ms.isPrefixOf cs := by
  induction ms generalizing cs with
  | nil => rfl
  | cons m ms ih =>
      rw [List.mem_cons, not_or] at hMark
      cases cs with
      | nil =>
          have hFirst : (m == ')') = false :=
            beq_eq_false_iff_ne.mpr (Ne.symm hMark.1)
          simp only [List.nil_append, ending,
            List.isPrefixOf_cons_cons, hFirst, Bool.false_and]
          rfl
      | cons c cs =>
          simp only [List.cons_append, List.isPrefixOf_cons_cons,
            ih hMark.2]

theorem posixName?_colon
    (cs : List Char) :
    posixName? (':' :: cs) =
      if [']'].isPrefixOf cs then some [] else none := rfl

theorem posixName?_cons
    {c : Char}
    (hColon : c ≠ ':')
    (cs : List Char) :
    posixName? (c :: cs) = (posixName? cs).map (c :: ·) := by
  simp only [posixName?, List.takeWhile_cons, hColon, ne_eq,
    not_false_eq_true, decide_true, if_true, List.length_cons,
    List.drop_succ_cons]
  split <;> rfl

/- A name is closed before an ending or not at all. -/
theorem posixName?_append
    (cs : List Char) :
    posixName? (cs ++ ending) = posixName? cs := by
  induction cs with
  | nil => rfl
  | cons c cs ih =>
      rw [List.cons_append]
      by_cases hColon : c = ':'
      · subst hColon
        rw [posixName?_colon, posixName?_colon,
          isPrefixOf_append_ending (by decide)]
      · rw [posixName?_cons hColon, posixName?_cons hColon, ih]

theorem local_posixSet
    (f : Flags)
    (negated : Bool)
    (name : List Char) :
    Local after n (posixSet f negated name) := by
  unfold posixSet
  split
  · exact Scan.local_pure none
  · apply (Scan.local_ofOption _).bind
    intro t
    apply (Scan.local_drop _ _).bind
    intro _
    exact Scan.local_pure _

theorem local_posixItem
    (f : Flags) :
    Local ending n (posixItem f) := by
  unfold posixItem
  apply Scan.local_ahead_bind
  · intro cs
    cases cs with
    | nil => rfl
    | cons c cs =>
        by_cases hColon : c = ':'
        · subst hColon
          have hName :
              posixName?
                  (if ['^'].isPrefixOf (cs ++ ending) then
                    (cs ++ ending).tail
                  else cs ++ ending) =
                posixName?
                  (if ['^'].isPrefixOf cs then cs.tail else cs) := by
            rw [isPrefixOf_append_ending (by decide)]
            split
            · cases cs with
              | nil => rfl
              | cons c cs => exact posixName?_append cs
            · exact posixName?_append cs
          simp only [List.cons_append, hName]
          rw [isPrefixOf_append_ending (by decide)]
        · simp only [List.cons_append]
          split
          · rename_i hEq
            exact absurd (List.cons.inj hEq).1 hColon
          · split
            · rename_i hEq
              exact absurd (List.cons.inj hEq).1 hColon
            · rfl
  · intro cs
    split
    · simp only
      split
      · exact Scan.local_pure none
      · exact local_posixSet f _ _
    · exact Scan.local_pure none

theorem local_bracketAtom
    (f : Flags)
    (c : Char) :
    Local ending n (bracketAtom f c) := by
  unfold bracketAtom
  split
  · exact local_escape f
  · exact Scan.local_pure _

theorem continuesSpan_dash
    (f : Flags)
    (rest : List Char) :
    continuesSpan f ('-' :: rest) =
      !(afterGap f rest).head?.any
        fun c => c = ']' || c = '-' := by
  simp only [continuesSpan]
  generalize afterGap f rest = cs
  cases cs with
  | nil => rfl
  | cons c cs =>
      simp only [List.head?_cons, Option.any_some]
      split
      · rename_i hEq
        cases hEq
        rfl
      · rename_i hEq
        cases hEq
        rfl
      · rename_i hBracket hDash
        have hNeBracket : c ≠ ']' := by
          rintro rfl
          exact hBracket cs rfl
        have hNeDash : c ≠ '-' := by
          rintro rfl
          exact hDash cs rfl
        simp [hNeBracket, hNeDash]

theorem continuesSpan_of_ne
    (f : Flags)
    {c : Char}
    (hDash : c ≠ '-')
    (rest : List Char) :
    continuesSpan f (c :: rest) = false := by
  unfold continuesSpan
  split
  · rename_i hEq
    exact absurd (List.cons.inj hEq).1 hDash
  · rfl

theorem continuesSpan_append
    (f : Flags)
    (cs : List Char) :
    continuesSpan f (cs ++ ending) = continuesSpan f cs := by
  cases cs with
  | nil => rfl
  | cons c cs =>
      rw [List.cons_append]
      by_cases hDash : c = '-'
      · subst hDash
        rw [continuesSpan_dash, continuesSpan_dash,
          head?_afterGap_append f (by decide)]
      · rw [continuesSpan_of_ne f hDash,
          continuesSpan_of_ne f hDash]

theorem local_bracketItem
    (f : Flags)
    (c : Char) :
    Local ending n (bracketItem f c) := by
  unfold bracketItem
  apply (local_bracketAtom f c).bind
  intro a
  apply (local_gap f).bind
  intro _
  apply Scan.local_ahead_bind
  · intro cs
    rw [continuesSpan_append]
  · intro cs
    split
    · apply Scan.local_next.bind
      intro _
      apply (local_gap f).bind
      intro _
      apply Scan.local_next.bind
      intro d
      apply (local_bracketAtom f d).bind
      intro b
      split
      · apply (Scan.local_require _).bind
        intro _
        exact Scan.local_pure _
      · exact Scan.local_fail
    · split
      · apply (Scan.local_require _).bind
        intro _
        exact Scan.local_pure _
      · exact Scan.local_pure _
      · exact Scan.local_fail

theorem local_bracketToken
    (f : Flags)
    (c : Char) :
    Local ending n (bracketToken f c) := by
  unfold bracketToken
  split
  · exact Scan.local_pure _
  · split
    · apply (local_posixItem f).bind
      intro item?
      split
      · exact Scan.local_pure _
      · exact
          (local_openBracket f).bind fun b => Scan.local_pure _
    · simp only
      split
      · exact
          (local_bracketItem f c).bind fun t =>
            Scan.local_pure _
      · apply (Scan.local_accept _).bind
        intro twice
        split
        · exact Scan.local_pure _
        · exact
            (local_bracketItem f c).bind fun t =>
              Scan.local_pure _

/- Go on in the open sets around after a token. -/
def afterBracketToken
    (f : Flags)
    (above : List Bracket)
    (b : Bracket) : BracketToken → Scan TallSet
| .item t => readBrackets f above (b.add t)
| .operator op => readBrackets f above (b.operate f op)
| .opening inner => readBrackets f (b :: above) inner
| .closing =>
    match b.close f with
    | none => Scan.fail
    | some t =>
        match above with
        | [] => pure t
        | outer :: above => readBrackets f above (outer.add t)

theorem read_readBrackets
    (f : Flags)
    (above : List Bracket)
    (b : Bracket)
    (cs : List Char) :
    read (readBrackets f above b) cs =
      read
        (gap f >>= fun _ =>
          Scan.next >>= fun c =>
            bracketToken f c >>= fun t =>
              afterBracketToken f above b t)
        cs := by
  rcases gap_eq_some f cs with ⟨le, hGap⟩
  simp only [read_bind, read_gap, Option.bind_some]
  conv =>
    lhs
    unfold Scan.read
    rw [readBrackets, hGap]
  generalize afterGap f cs = list at le
  cases list with
  | nil => rfl
  | cons c rest =>
      change _ = (read (bracketToken f c) rest).bind _
      unfold Scan.read
      cases hToken : bracketToken f c rest with
      | none => simp [hToken]
      | some x =>
          rcases x with ⟨t, left, hLeft⟩
          simp only [hToken, Option.map_some,
            Option.bind_some, afterBracketToken]
          cases t with
          | item t =>
              simp only
              cases readBrackets f above (b.add t) left <;> rfl
          | operator op =>
              simp only
              cases readBrackets f above (b.operate f op) left
                <;> rfl
          | opening inner =>
              simp only
              cases readBrackets f (b :: above) inner left
                <;> rfl
          | closing =>
              cases b.close f with
              | none => rfl
              | some t =>
                  cases above with
                  | nil => rfl
                  | cons outer above =>
                      simp only
                      cases
                        readBrackets f above (outer.add t) left
                        <;> rfl

theorem local_readBrackets
    (f : Flags)
    (above : List Bracket)
    (b : Bracket) :
    Local ending n (readBrackets f above b) := by
  induction n using Nat.strong_induction_on
    generalizing above b with
  | _ n ih =>
      apply Local.of_read_eq ?_ (read_readBrackets f above b)
      apply (local_gap f).bind
      intro _
      apply Scan.local_next_bind
      intro c m hm
      apply (local_bracketToken f c).bind
      intro t
      unfold afterBracketToken
      split
      · exact ih m hm above _
      · exact ih m hm above _
      · exact ih m hm _ _
      · split
        · exact Scan.local_fail
        · split
          · exact Scan.local_pure _
          · exact ih m hm _ _

------------------------------------------------------------
-- Groups
------------------------------------------------------------

theorem local_groupName
    (f : Flags) :
    Local after n (groupName f) := by
  unfold groupName
  apply (Scan.local_takeWhile _).bind
  intro name
  apply Scan.local_next.bind
  intro _
  split
  · exact Scan.local_fail
  · apply (Scan.local_require _).bind
    intro _
    exact Scan.local_pure _

theorem local_groupFlags
    (f : Flags) :
    Local after n (groupFlags f) := by
  unfold groupFlags
  apply (Scan.local_takeWhile _).bind
  intro letters
  apply (Scan.local_require _).bind
  intro _
  apply Scan.local_next.bind
  intro close
  split
  · exact Scan.local_pure _
  · apply (Scan.local_require _).bind
    intro _
    exact Scan.local_pure _

theorem local_groupStart
    (f : Flags) :
    Local ending n (groupStart f) := by
  unfold groupStart
  apply (local_gap f).bind
  intro _
  apply Scan.local_ahead_bind
  · intro cs
    have hMarks :
        (["?=", "?!", "?<=", "?<!"].any fun m =>
            m.toList.isPrefixOf (cs ++ ending)) =
          ["?=", "?!", "?<=", "?<!"].any fun m =>
            m.toList.isPrefixOf cs := by
      simp only [List.any_cons]
      rw [isPrefixOf_append_ending (by decide),
        isPrefixOf_append_ending (by decide),
        isPrefixOf_append_ending (by decide),
        isPrefixOf_append_ending (by decide)]
      rfl
    simp only [hMarks]
  · intro cs
    simp only
    split
    · exact Scan.local_fail
    · apply (Scan.local_accept _).bind
      intro named
      split
      · exact local_groupName f
      · apply (Scan.local_accept _).bind
        intro named
        split
        · exact local_groupName f
        · apply (Scan.local_accept _).bind
          intro flags
          split
          · exact local_groupFlags f
          · exact Scan.local_pure _

------------------------------------------------------------
-- Tokens
------------------------------------------------------------

theorem local_lazyMark :
    Local after n lazyMark :=
  (Scan.local_accept _).bind fun _ => Scan.local_pure ()

theorem local_token
    (f : Flags)
    (c : Char) :
    Local ending n (token f c) := by
  unfold token
  split
  · exact (local_dropGap _).bind fun _ => Scan.local_pure _
  · split
    · exact local_groupStart f
    · exact Scan.local_pure _
    · exact Scan.local_pure _
    · apply (local_openBracket f).bind
      intro b
      apply (local_readBrackets f [] b).bind
      intro t
      exact Scan.local_pure _
    · exact local_lazyMark.bind fun _ => Scan.local_pure _
    · exact local_lazyMark.bind fun _ => Scan.local_pure _
    · exact local_lazyMark.bind fun _ => Scan.local_pure _
    · apply (local_counts f).bind
      intro bounds
      apply (local_gap f).bind
      intro _
      exact local_lazyMark.bind fun _ => Scan.local_pure _
    · exact (local_escape f).bind fun _ => Scan.local_pure _
    · exact
        (Scan.local_ofOption _).bind fun _ => Scan.local_pure _
    · exact Scan.local_pure _
    · exact Scan.local_pure _
    · exact Scan.local_pure _

------------------------------------------------------------
-- What Tokens Say
------------------------------------------------------------

/-
  What holds of a token read from its first character on:
  counts are in order, and only a closing parenthesis closes
  a group.
-/
def Token.Sound (c : Char) : Token → Prop
| .piece r _ => r.Proper
| .repeats least most => ∀ m, most = some m → least ≤ m
| .closing => c = ')'
| _ => True

theorem proper_atom
    (f : Flags) :
    (a : Atom) → (a.regex f).Proper
| .char _ => trivial
| .set _ => trivial
| .look _ => trivial

theorem gives_counts
    (f : Flags) :
    Gives (fun b => ∀ m, b.2 = some m → b.1 ≤ m)
      (counts f) := by
  unfold counts
  apply Scan.gives_bind
  intro _
  apply Scan.gives_bind
  intro least?
  apply Scan.gives_bind
  intro least
  apply Scan.gives_bind
  intro comma
  split
  · apply Scan.gives_bind
    intro _
    apply Scan.gives_bind
    intro close
    split
    · apply Scan.gives_pure
      intro m hm
      cases hm
    · apply Scan.gives_bind
      intro most?
      apply Scan.gives_bind
      intro most
      apply Scan.gives_bind
      intro close
      refine Gives.bind (Scan.gives_require _) ?_
      intro _ hOrder
      apply Scan.gives_pure
      intro m hm
      cases hm
      rw [Bool.and_eq_true, decide_eq_true_eq,
        decide_eq_true_eq] at hOrder
      exact hOrder.2
  · apply Scan.gives_bind
    intro close
    apply Scan.gives_bind
    intro _
    apply Scan.gives_pure
    intro m hm
    cases hm
    exact Nat.le_refl least

theorem gives_groupName
    (f : Flags)
    (c : Char) :
    Gives (Token.Sound c) (groupName f) := by
  unfold groupName
  apply Scan.gives_bind
  intro name
  apply Scan.gives_bind
  intro _
  split
  · exact Scan.gives_fail
  · apply Scan.gives_bind
    intro _
    exact Scan.gives_pure trivial

theorem gives_groupFlags
    (f : Flags)
    (c : Char) :
    Gives (Token.Sound c) (groupFlags f) := by
  unfold groupFlags
  apply Scan.gives_bind
  intro letters
  apply Scan.gives_bind
  intro _
  apply Scan.gives_bind
  intro close
  split
  · exact Scan.gives_pure trivial
  · apply Scan.gives_bind
    intro _
    exact Scan.gives_pure trivial

theorem gives_groupStart
    (f : Flags)
    (c : Char) :
    Gives (Token.Sound c) (groupStart f) := by
  unfold groupStart
  apply Scan.gives_bind
  intro _
  apply Scan.gives_bind
  intro rest
  simp only
  split
  · exact Scan.gives_fail
  · apply Scan.gives_bind
    intro named
    split
    · exact gives_groupName f c
    · apply Scan.gives_bind
      intro named
      split
      · exact gives_groupName f c
      · apply Scan.gives_bind
        intro flags
        split
        · exact gives_groupFlags f c
        · exact Scan.gives_pure trivial

theorem sound_token
    (f : Flags)
    (c : Char) :
    Gives (Token.Sound c) (token f c) := by
  unfold token
  split
  · exact Scan.gives_bind fun _ => Scan.gives_pure trivial
  · split
    · exact gives_groupStart f _
    · exact Scan.gives_pure rfl
    · exact Scan.gives_pure trivial
    · apply Scan.gives_bind
      intro b
      apply Scan.gives_bind
      intro t
      exact Scan.gives_pure trivial
    · apply Scan.gives_bind
      intro _
      apply Scan.gives_pure
      intro m hm
      cases hm
      exact Nat.zero_le 1
    · apply Scan.gives_bind
      intro _
      apply Scan.gives_pure
      intro m hm
      cases hm
    · apply Scan.gives_bind
      intro _
      apply Scan.gives_pure
      intro m hm
      cases hm
    · refine Gives.bind (gives_counts f) ?_
      rintro ⟨least, most⟩ hOrder
      apply Scan.gives_bind
      intro _
      apply Scan.gives_bind
      intro _
      exact Scan.gives_pure hOrder
    · apply Scan.gives_bind
      intro a
      exact Scan.gives_pure (proper_atom f a)
    · exact Scan.gives_bind fun _ => Scan.gives_pure trivial
    · exact Scan.gives_pure trivial
    · exact Scan.gives_pure trivial
    · exact Scan.gives_pure trivial

/- A closing parenthesis is a token under all flags. -/
theorem read_token_closing
    (f : Flags)
    (cs : List Char) :
    read (token f ')') cs = some (.closing, cs) := by
  have hToken : token f ')' = pure .closing := by
    have hPlain : (isBlank ')' || ')' = '#') = false := by
      decide
    unfold token
    rw [hPlain, Bool.and_false]
    rfl
  rw [hToken]
  rfl

/- A dollar sign is a condition under all flags. -/
theorem read_token_dollar
    (f : Flags)
    (cs : List Char) :
    read (token f '$') cs =
      some (.piece (.look f.dollar) 0, cs) := by
  have hToken :
      token f '$' = pure (.piece (.look f.dollar) 0) := by
    have hPlain : (isBlank '$' || '$' = '#') = false := by
      decide
    unfold token
    rw [hPlain, Bool.and_false]
    rfl
  rw [hToken]
  rfl

end Signpost.Regex
