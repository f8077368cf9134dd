import Mathlib.Data.List.Infix
import Signpost.Text.Scan

/-
  What a scanner reads, and how little this depends on the
  characters that it leaves.

  Main declarations:
    * `Scan.read` and `Scan.read_bind`
    * `Scan.branch`
    * `Scan.Gives`
    * `Scan.Local`
    * `Scan.Local.bind` and `Scan.local_next_bind`
    * `Scan.local_ahead_bind`
    * `Scan.local_branch`
-/

namespace Signpost.Text

namespace Scan

variable {α β : Type}

------------------------------------------------------------
-- What Is Read and What Is Left
------------------------------------------------------------

/- The value that a scanner reads, and what it leaves. -/
def read
    (p : Scan α)
    (cs : List Char) : Option (α × List Char) :=
  (p cs).map fun x => (x.1, x.2.list)

theorem eq_some_of_read
    {p : Scan α}
    {cs left : List Char}
    {a : α}
    (hRead : read p cs = some (a, left)) :
    ∃ le, p cs = some (a, ⟨left, le⟩) := by
  rcases Option.map_eq_some_iff.mp hRead with ⟨x, hx, hEq⟩
  cases hEq
  exact ⟨x.2.le, hx⟩

@[simp] theorem read_ahead
    (cs : List Char) :
    read ahead cs = some (cs, cs) := rfl

theorem read_accept
    (ms cs : List Char) :
    read (accept ms) cs =
      if ms.isPrefixOf cs then
        some (true, cs.drop ms.length)
      else some (false, cs) := by
  unfold read accept
  split <;> rfl

/- The second scanner gets what the first one leaves. -/
theorem read_bind
    (p : Scan α)
    (f : α → Scan β)
    (cs : List Char) :
    read (p >>= f) cs =
      (read p cs).bind fun x => read (f x.1) x.2 := by
  change Option.map _ (Scan.bind p f cs) = _
  unfold Scan.bind read
  cases p cs with
  | none => rfl
  | some x =>
      rcases x with ⟨a, r⟩
      simp only [Option.map_some, Option.bind_some]
      cases f a r.list <;> rfl

theorem read_bind_eq_some_iff
    {p : Scan α}
    {f : α → Scan β}
    {cs rest : List Char}
    {b : β} :
    read (p >>= f) cs = some (b, rest) ↔
      ∃ a left, read p cs = some (a, left) ∧
        read (f a) left = some (b, rest) := by
  rw [read_bind, Option.bind_eq_some_iff]
  exact Prod.exists

/- Go on in one of two ways, as the next character says. -/
def branch (q : Char → Bool) (p p' : Scan α) : Scan α :=
  ahead >>= fun cs => if cs.head?.any q then p else p'

theorem read_branch
    (q : Char → Bool)
    (p p' : Scan α)
    (cs : List Char) :
    read (branch q p p') cs =
      if cs.head?.any q then read p cs else read p' cs := by
  simp only [branch, read_bind, read_ahead, Option.bind_some]
  split <;> rfl

/- Nothing is put back that was not there. -/
theorem length_le_of_read
    {p : Scan α}
    {cs rest : List Char}
    {a : α}
    (hRead : read p cs = some (a, rest)) :
    rest.length ≤ cs.length := by
  rcases Option.map_eq_some_iff.mp hRead with
    ⟨x, -, hEq⟩
  cases hEq
  exact x.2.le

------------------------------------------------------------
-- Values
------------------------------------------------------------

/- All values that a scanner reads have a property. -/
def Gives (P : α → Prop) (p : Scan α) : Prop :=
  ∀ cs a rest, read p cs = some (a, rest) → P a

section Gives

variable {P : β → Prop}

theorem gives_pure
    {b : β}
    (hb : P b) :
    Gives P (Pure.pure b : Scan β) := by
  intro cs b' rest hRead
  cases hRead
  exact hb

theorem gives_fail :
    Gives P (fail : Scan β) := by
  intro cs b rest hRead
  cases hRead

/- It matters what the first scanner gives. -/
theorem Gives.bind
    {Q : α → Prop}
    {p : Scan α}
    {f : α → Scan β}
    (hFirst : Gives Q p)
    (hSecond : ∀ a, Q a → Gives P (f a)) :
    Gives P (p >>= f) := by
  intro cs b rest hRead
  rcases read_bind_eq_some_iff.mp hRead with
    ⟨a, left, ha, hb⟩
  exact hSecond a (hFirst cs a left ha) left b rest hb

/- It does not matter what the first scanner gives. -/
theorem gives_bind
    {p : Scan α}
    {f : α → Scan β}
    (hSecond : ∀ a, Gives P (f a)) :
    Gives P (p >>= f) :=
  Gives.bind (Q := fun _ => True)
    (fun _ _ _ _ => trivial) fun a _ => hSecond a

/- What was asked for holds. -/
theorem gives_require
    (b : Bool) :
    Gives (fun _ => b = true) (require b) := by
  intro cs u rest hRead
  cases b with
  | false => cases hRead
  | true => rfl

end Gives

------------------------------------------------------------
-- Local Scanners
------------------------------------------------------------

/-
  A scanner leaves an end of what it gets.  Before certain
  characters it reads what it would read without them, as
  long as it leaves all of them.  This is asked of texts up
  to some length, so that it can be shown of loops.
-/
structure Local
    (after : List Char)
    (n : Nat)
    (p : Scan α) : Prop where
  suffix :
    ∀ cs a rest, cs.length ≤ n →
      read p cs = some (a, rest) → rest <:+ cs
  before :
    ∀ cs a rest, cs.length ≤ n →
      read p (cs ++ after) = some (a, rest) →
        after.length ≤ rest.length →
          ∃ left, read p cs = some (a, left) ∧
            rest = left ++ after

section Local

variable {after : List Char}
variable {n : Nat}

/- Scanners that read the same are local together. -/
theorem Local.of_read_eq
    {p q : Scan α}
    (hLocal : Local after n q)
    (hRead : ∀ cs, read p cs = read q cs) :
    Local after n p where
  suffix := by
    intro cs a rest hn hp
    rw [hRead] at hp
    exact hLocal.suffix cs a rest hn hp
  before := by
    intro cs a rest hn hp hLeft
    rw [hRead] at hp ⊢
    exact hLocal.before cs a rest hn hp hLeft

theorem local_pure
    (a : α) :
    Local after n (Pure.pure a : Scan α) where
  suffix := by
    intro cs b rest _ hRead
    cases hRead
    exact List.suffix_refl cs
  before := by
    intro cs b rest _ hRead _
    cases hRead
    exact ⟨cs, rfl, rfl⟩

theorem local_fail :
    Local after n (fail : Scan α) where
  suffix := by
    intro cs a rest _ hRead
    cases hRead
  before := by
    intro cs a rest _ hRead
    cases hRead

theorem local_ofOption
    (o : Option α) :
    Local after n (ofOption o) := by
  cases o with
  | none => exact local_fail
  | some a => exact local_pure a

theorem local_require
    (b : Bool) :
    Local after n (require b) := by
  cases b with
  | false => exact local_fail
  | true => exact local_pure ()

/-
  What the second scanner leaves the first one has left, so
  both are before the same characters.
-/
theorem Local.bind
    {p : Scan α}
    {f : α → Scan β}
    (hFirst : Local after n p)
    (hSecond : ∀ a, Local after n (f a)) :
    Local after n (p >>= f) where
  suffix := by
    intro cs b rest hn hRead
    rcases read_bind_eq_some_iff.mp hRead with
      ⟨a, left, ha, hb⟩
    have hShort :=
      Nat.le_trans (length_le_of_read ha) hn
    exact
      ((hSecond a).suffix left b rest hShort hb).trans
        (hFirst.suffix cs a left hn ha)
  before := by
    intro cs b rest hn hRead hLeft
    rcases read_bind_eq_some_iff.mp hRead with
      ⟨a, left, ha, hb⟩
    rcases hFirst.before cs a left hn ha
        (Nat.le_trans hLeft (length_le_of_read hb)) with
      ⟨left', ha', rfl⟩
    have hShort :=
      Nat.le_trans (length_le_of_read ha') hn
    rcases (hSecond a).before left' b rest hShort hb hLeft
      with ⟨rest', hb', rfl⟩
    exact
      ⟨rest', read_bind_eq_some_iff.mpr ⟨a, left', ha', hb'⟩,
        rfl⟩

------------------------------------------------------------
-- Single Characters
------------------------------------------------------------

/- After a character there is a shorter text. -/
theorem local_next_bind
    {f : Char → Scan β}
    (hSecond : ∀ c, ∀ m < n, Local after m (f c)) :
    Local after n (next >>= f) where
  suffix := by
    intro cs b rest hn hRead
    cases cs with
    | nil => cases hRead
    | cons c cs =>
        have hRest : read (f c) cs = some (b, rest) := by
          rw [read_bind] at hRead
          exact hRead
        exact
          ((hSecond c cs.length hn).suffix cs b rest
            (Nat.le_refl _) hRest).trans
            (List.suffix_cons c cs)
  before := by
    intro cs b rest hn hRead hLeft
    rw [read_bind] at hRead ⊢
    cases cs with
    | nil =>
        cases after with
        | nil => cases hRead
        | cons a after =>
            have hShort := length_le_of_read hRead
            exact
              absurd (Nat.le_trans hLeft hShort)
                (Nat.not_succ_le_self _)
    | cons c cs =>
        exact
          (hSecond c cs.length hn).before cs b rest
            (Nat.le_refl _) hRead hLeft

theorem local_next :
    Local after n next := by
  have hNext :
      Local after n (next >>= fun c => Pure.pure c) :=
    local_next_bind fun c m _ => local_pure c
  apply hNext.of_read_eq
  intro cs
  cases cs <;> rfl

/-
  Looking ahead is harmless if what is looked for does not
  depend on the characters after.
-/
theorem local_ahead_bind
    {f : List Char → Scan β}
    (hSame : ∀ cs, f (cs ++ after) = f cs)
    (hLocal : ∀ cs, Local after n (f cs)) :
    Local after n (ahead >>= f) where
  suffix := by
    intro cs b rest hn hRead
    rw [read_bind, read_ahead] at hRead
    exact (hLocal cs).suffix cs b rest hn hRead
  before := by
    intro cs b rest hn hRead hLeft
    rw [read_bind, read_ahead] at hRead ⊢
    simp only [Option.bind_some, hSame] at hRead ⊢
    exact (hLocal cs).before cs b rest hn hRead hLeft

/-
  A branch depends on the first of the characters after if
  nothing is before it, but then it reads this character.
-/
theorem local_branch
    {q : Char → Bool}
    {f : Char → Scan α}
    {p : Scan α}
    (hFirst : Local after n (next >>= f))
    (hSecond : Local after n p) :
    Local after n (branch q (next >>= f) p) where
  suffix := by
    intro cs a rest hn hRead
    rw [read_branch] at hRead
    split at hRead
    · exact hFirst.suffix cs a rest hn hRead
    · exact hSecond.suffix cs a rest hn hRead
  before := by
    intro cs a rest hn hRead hLeft
    rw [read_branch] at hRead ⊢
    cases cs with
    | nil =>
        split at hRead
        · rcases hFirst.before [] a rest hn hRead hLeft with
            ⟨left, hNone, -⟩
          rw [read_bind] at hNone
          cases hNone
        · exact hSecond.before [] a rest hn hRead hLeft
    | cons c cs =>
        by_cases hc : q c = true
        · simp only [List.cons_append, List.head?_cons,
            Option.any_some, hc, if_true] at hRead ⊢
          exact hFirst.before (c :: cs) a rest hn hRead hLeft
        · simp only [List.cons_append, List.head?_cons,
            Option.any_some, hc] at hRead ⊢
          exact hSecond.before (c :: cs) a rest hn hRead hLeft

------------------------------------------------------------
-- Runs of Characters
------------------------------------------------------------

theorem drop_append_of_left
    {k : Nat}
    {cs : List Char}
    (hLeft : after.length ≤ ((cs ++ after).drop k).length) :
    (cs ++ after).drop k = cs.drop k ++ after := by
  rw [List.length_drop, List.length_append] at hLeft
  rw [List.drop_append]
  congr 1
  rcases Nat.eq_zero_or_pos (k - cs.length) with hZero | hPos
  · rw [hZero, List.drop_zero]
  · have hNone : after.length = 0 := by omega
    rw [List.length_eq_zero_iff.mp hNone, List.drop_nil]

/- A run that ends before some characters has not met them. -/
theorem while_append_of_left
    {q : Char → Bool}
    {cs : List Char}
    (hLeft :
      after.length ≤ ((cs ++ after).dropWhile q).length) :
    (cs ++ after).takeWhile q = cs.takeWhile q ∧
      (cs ++ after).dropWhile q = cs.dropWhile q ++ after := by
  induction cs with
  | nil =>
      have hAll : after.dropWhile q = after :=
        (List.dropWhile_sublist q).eq_of_length_le hLeft
      have hNone : after.takeWhile q = [] := by
        have hWhole :=
          List.takeWhile_append_dropWhile (p := q) (l := after)
        rw [hAll] at hWhole
        exact List.self_eq_append_left.mp hWhole.symm
      exact ⟨hNone, hAll⟩
  | cons c cs ih =>
      simp only [List.cons_append, List.takeWhile_cons,
        List.dropWhile_cons] at hLeft ⊢
      cases hc : q c with
      | false => exact ⟨rfl, rfl⟩
      | true =>
          rw [hc] at hLeft
          rcases ih hLeft with ⟨hTake, hDrop⟩
          exact ⟨congrArg (c :: ·) hTake, hDrop⟩

theorem local_skip
    {f : (cs : List Char) → Rest cs}
    (hSuffix : ∀ cs, (f cs).list <:+ cs)
    (hBefore :
      ∀ cs, after.length ≤ (f (cs ++ after)).list.length →
        (f (cs ++ after)).list = (f cs).list ++ after) :
    Local after n (skip f) where
  suffix := by
    intro cs a rest _ hRead
    cases hRead
    exact hSuffix cs
  before := by
    intro cs a rest _ hRead hLeft
    cases hRead
    exact ⟨(f cs).list, rfl, hBefore cs hLeft⟩

theorem local_drop
    (k : Nat)
    (hShort :
      ∀ cs : List Char, (cs.drop k).length ≤ cs.length) :
    Local after n (skip fun cs => ⟨cs.drop k, hShort cs⟩) :=
  local_skip (fun cs => List.drop_suffix k cs)
    fun _ hLeft => drop_append_of_left hLeft

theorem local_skipWhile
    (q : Char → Bool) :
    Local after n (skipWhile q) :=
  local_skip (fun _ => List.dropWhile_suffix q)
    fun _ hLeft => (while_append_of_left hLeft).2

theorem local_takeWhile
    (q : Char → Bool) :
    Local after n (takeWhile q) where
  suffix := by
    intro cs ds rest _ hRead
    cases hRead
    exact List.dropWhile_suffix q
  before := by
    intro cs ds rest _ hRead hLeft
    cases hRead
    rcases while_append_of_left hLeft with ⟨hTake, hDrop⟩
    refine ⟨cs.dropWhile q, ?_, hDrop⟩
    rw [hTake]
    rfl

/- Given characters are there as a whole or not at all. -/
theorem local_accept
    (ms : List Char) :
    Local after n (accept ms) where
  suffix := by
    intro cs b rest _ hRead
    rw [read_accept] at hRead
    split at hRead
    · cases hRead
      exact List.drop_suffix ms.length cs
    · cases hRead
      exact List.suffix_refl cs
  before := by
    intro cs b rest _ hRead hLeft
    rw [read_accept] at hRead
    rw [read_accept]
    split at hRead
    · rename_i hThere
      rw [List.isPrefixOf_iff_prefix] at hThere
      cases hRead
      have hShort : ms.length ≤ cs.length := by
        have hLength := hThere.length_le
        rw [List.length_append] at hLength
        rw [List.length_drop, List.length_append] at hLeft
        omega
      have hHere : ms <+: cs :=
        List.prefix_of_prefix_length_le hThere
          (List.prefix_append cs after) hShort
      rw [if_pos (List.isPrefixOf_iff_prefix.mpr hHere)]
      exact ⟨_, rfl, drop_append_of_left hLeft⟩
    · rename_i hThere
      rw [List.isPrefixOf_iff_prefix] at hThere
      cases hRead
      have hHere : ¬ ms.isPrefixOf cs = true := by
        intro hHere
        exact
          hThere
            ((List.isPrefixOf_iff_prefix.mp hHere).trans
              (List.prefix_append cs after))
      rw [if_neg hHere]
      exact ⟨cs, rfl, rfl⟩

end Local

end Scan

end Signpost.Text
