import Signpost.Proofs.Text.Decimal
import Signpost.Proofs.Text.Octets
import Signpost.Route.Fingerprint

/-
  The octets that stand for the content of a definition tell
  it apart from any other content, and they end where they
  end: those of one content do not start those of another.
  So only the hash can give two contents one name.

  Main declarations:
    * `Fingerprint.Delimited`, with a lemma a kind of value
    * `Fingerprint.Delimited.list`
    * `RouteContent.IsStorable`
    * `RouteContent.delimited_octets`
    * `RouteContent.sip13_of_derivedId_eq`
    * `RouteContent.octets_tell_apart`
-/

namespace Signpost

open Text

------------------------------------------------------------
-- Delimited Values
------------------------------------------------------------

namespace Fingerprint

variable {α β : Type}
variable {P : α → Prop}
variable {Q : β → Prop}
variable {f : α → List UInt8}
variable {g : β → List UInt8}

/-
  Some values are told apart by their octets, and these end
  where they end, whatever comes after them.
-/
def Delimited
    (P : α → Prop)
    (f : α → List UInt8) : Prop :=
  ∀ x y, P x → P y →
    ∀ r s, f x ++ r = f y ++ s → x = y ∧ r = s

/- Different values with equally many octets are delimited. -/
theorem delimited_of_length
    (n : Nat)
    (hLength : ∀ x, (f x).length = n)
    (hInjective :
      ∀ x y, P x → P y → f x = f y → x = y) :
    Delimited P f := by
  intro x y hx hy r s hSame
  have hEqual : (f x).length = (f y).length := by
    rw [hLength x, hLength y]
  rcases List.append_inj hSame hEqual with ⟨hHere, hRest⟩
  exact ⟨hInjective x y hx hy hHere, hRest⟩

/- Octets are cut where the first mark is. -/
theorem append_mark_inj
    {mark : UInt8}
    {as bs r s : List UInt8}
    (ha : mark ∉ as)
    (hb : mark ∉ bs)
    (hSame : as ++ mark :: r = bs ++ mark :: s) :
    as = bs ∧ r = s := by
  induction as generalizing bs with
  | nil =>
      cases bs with
      | nil => exact ⟨rfl, (List.cons.inj hSame).2⟩
      | cons b bs =>
          cases (List.cons.inj hSame).1
          exact absurd List.mem_cons_self hb
  | cons a as ih =>
      cases bs with
      | nil =>
          cases (List.cons.inj hSame).1
          exact absurd List.mem_cons_self ha
      | cons b bs =>
          rcases List.cons.inj hSame with ⟨rfl, hLater⟩
          rcases
              ih (ha ∘ List.mem_cons_of_mem a)
                (hb ∘ List.mem_cons_of_mem a) hLater with
            ⟨rfl, hRest⟩
          exact ⟨rfl, hRest⟩

/- So are values that an octet ends which none of them has. -/
theorem delimited_of_mark
    {mark : UInt8}
    (hMark : ∀ x, mark ∉ f x)
    (hInjective : ∀ x y, f x = f y → x = y) :
    Delimited (fun _ => True) fun x => f x ++ [mark] := by
  intro x y _ _ r s hSame
  simp only [List.append_assoc, List.singleton_append] at hSame
  rcases append_mark_inj (hMark x) (hMark y) hSame with
    ⟨hHere, hRest⟩
  exact ⟨hInjective x y hHere, hRest⟩

/- One delimited value after another is delimited. -/
theorem Delimited.pair
    (hf : Delimited P f)
    (hg : Delimited Q g) :
    Delimited (fun p : α × β => P p.1 ∧ Q p.2)
      fun p => f p.1 ++ g p.2 := by
  intro p q hp hq r s hSame
  simp only [List.append_assoc] at hSame
  rcases hf p.1 q.1 hp.1 hq.1 _ _ hSame with ⟨hFirst, hSame⟩
  rcases hg p.2 q.2 hp.2 hq.2 _ _ hSame with ⟨hSecond, hRest⟩
  exact ⟨Prod.ext hFirst hSecond, hRest⟩

/- As many delimited values in a row are delimited. -/
theorem Delimited.flatMap
    (hf : Delimited P f)
    {xs ys : List α}
    (hxs : ∀ x ∈ xs, P x)
    (hys : ∀ y ∈ ys, P y)
    (hLength : xs.length = ys.length)
    {r s : List UInt8}
    (hSame : xs.flatMap f ++ r = ys.flatMap f ++ s) :
    xs = ys ∧ r = s := by
  induction xs generalizing ys with
  | nil =>
      rw [List.length_nil, eq_comm, List.length_eq_zero_iff]
        at hLength
      subst hLength
      exact ⟨rfl, hSame⟩
  | cons x xs ih =>
      cases ys with
      | nil => cases hLength
      | cons y ys =>
          rcases List.forall_mem_cons.mp hxs with ⟨hx, hxRest⟩
          rcases List.forall_mem_cons.mp hys with ⟨hy, hyRest⟩
          have hLater : xs.length = ys.length := by
            simpa using hLength
          simp only [List.flatMap_cons, List.append_assoc]
            at hSame
          rcases hf x y hx hy _ _ hSame with ⟨hHere, hSame⟩
          rcases ih hxRest hyRest hLater hSame with
            ⟨hOthers, hRest⟩
          exact ⟨by rw [hHere, hOthers], hRest⟩

------------------------------------------------------------
-- Kinds of Values
------------------------------------------------------------

theorem length_octetsOfNat
    (k n : Nat) :
    (Hash.octetsOfNat k n).length = k := by
  induction k generalizing n with
  | zero => rfl
  | succ k ih => rw [Hash.octetsOfNat, List.length_cons, ih]

/- A number that fits into some octets is read from them. -/
theorem octetsOfNat_inj
    {k m n : Nat}
    (hm : m < 256 ^ k)
    (hn : n < 256 ^ k)
    (hSame : Hash.octetsOfNat k m = Hash.octetsOfNat k n) :
    m = n := by
  induction k generalizing m n with
  | zero => omega
  | succ k ih =>
      rw [Hash.octetsOfNat, Hash.octetsOfNat, List.cons.injEq,
        ← UInt8.toNat_inj, UInt8.toNat_ofNat',
        UInt8.toNat_ofNat'] at hSame
      have hHigh : m / 256 = n / 256 :=
        ih (by omega) (by omega) hSame.2
      omega

/- A length is a number of 64 bits. -/
def IsLength (n : Nat) : Prop :=
  n < 2 ^ 64

theorem delimited_ofNat :
    Delimited IsLength ofNat :=
  delimited_of_length 8 (length_octetsOfNat 8)
    fun _ _ hm hn => octetsOfNat_inj hm hn

theorem delimited_ofOrder :
    Delimited (fun _ => True) ofOrder := by
  refine
    delimited_of_length 4 (fun n => length_octetsOfNat 4 _) ?_
  intro m n _ _ hSame
  have hNumber : m.toUInt32.toNat = n.toUInt32.toNat :=
    octetsOfNat_inj m.toUInt32.toNat_lt n.toUInt32.toNat_lt hSame
  have hWord := UInt32.toNat_inj.mp hNumber
  cases m
  cases n
  cases hWord
  rfl

/- No character has the octet that ends a text. -/
theorem end_not_mem_octets
    (s : String) :
    0xFF ∉ Text.octets s := by
  rw [Text.octets, octetsOf, List.mem_flatMap]
  rintro ⟨c, -, hMember⟩
  have hVal : c.val.toNat = c.toNat := rfl
  have hValid := valid_toNat c
  rw [String.utf8EncodeChar] at hMember
  simp only [hVal] at hMember
  split_ifs at hMember
  all_goals
    simp only [List.mem_cons, List.not_mem_nil, or_false,
      ← UInt8.toNat_inj, UInt8.toNat_ofNat',
      UInt8.reduceToNat] at hMember
    omega

theorem delimited_ofText :
    Delimited (fun _ => True) ofText := by
  apply delimited_of_mark end_not_mem_octets
  intro s t hSame
  have hChars := congrArg decodeLossy hSame
  rw [Text.octets, Text.octets, decodeLossy_octetsOf,
    decodeLossy_octetsOf] at hChars
  exact String.toList_inj.mp hChars

/- A list of delimited values after its length is delimited. -/
theorem Delimited.list
    (hf : Delimited P f) :
    Delimited
      (fun xs => IsLength xs.length ∧ ∀ x ∈ xs, P x)
      (ofList f) := by
  intro xs ys hxs hys r s hSame
  simp only [ofList, List.append_assoc] at hSame
  rcases delimited_ofNat _ _ hxs.1 hys.1 _ _ hSame with
    ⟨hLength, hSame⟩
  exact hf.flatMap hxs.2 hys.2 hLength hSame

theorem delimited_ofDict :
    Delimited (fun d : Dict String => IsLength d.size)
      ofDict := by
  intro d e hd he r s hSame
  rcases
      (delimited_ofText.pair delimited_ofText).list
        d.toList e.toList ⟨hd, by simp⟩ ⟨he, by simp⟩ r s hSame with
    ⟨hEntries, hRest⟩
  cases d
  cases e
  cases hEntries
  exact ⟨rfl, hRest⟩

theorem delimited_ofSpec :
    Delimited (fun s : ComponentSpec => IsLength s.args.size)
      ofSpec := by
  intro a b ha hb r s hSame
  rcases
      delimited_ofText.pair delimited_ofDict
        (a.name, a.args) (b.name, b.args) ⟨trivial, ha⟩
        ⟨trivial, hb⟩ r s hSame with
    ⟨hParts, hRest⟩
  cases a
  cases b
  cases hParts
  exact ⟨rfl, hRest⟩

end Fingerprint

------------------------------------------------------------
-- Contents
------------------------------------------------------------

namespace RouteContent

open Fingerprint

variable {c d : RouteContent}

/-
  The lengths in a content are numbers of 64 bits, which is
  all that a list or a dictionary can have in memory.
-/
structure IsStorable (c : RouteContent) : Prop where
  predicates : IsLength c.predicates.length
  filters : IsLength c.filters.length
  arguments :
    ∀ s ∈ c.predicates ++ c.filters, IsLength s.args.size
  metadata : IsLength c.metadata.size

theorem IsStorable.of_predicates
    (hStorable : c.IsStorable) :
    IsLength c.predicates.length ∧
      ∀ s ∈ c.predicates, IsLength s.args.size :=
  ⟨hStorable.predicates,
    fun s hs =>
      hStorable.arguments s (List.mem_append_left _ hs)⟩

theorem IsStorable.of_filters
    (hStorable : c.IsStorable) :
    IsLength c.filters.length ∧
      ∀ s ∈ c.filters, IsLength s.args.size :=
  ⟨hStorable.filters,
    fun s hs =>
      hStorable.arguments s (List.mem_append_right _ hs)⟩

/- The octets of a content tell it apart and end with it. -/
theorem delimited_octets :
    Delimited IsStorable octets := by
  intro c d hc hd r s hSame
  simp only [octets, List.append_assoc] at hSame
  have hSame := List.append_cancel_left hSame
  rcases delimited_ofText _ _ trivial trivial _ _ hSame with
    ⟨hUri, hSame⟩
  rcases
      delimited_ofSpec.list _ _ hc.of_predicates
        hd.of_predicates _ _ hSame with
    ⟨hPredicates, hSame⟩
  rcases
      delimited_ofSpec.list _ _ hc.of_filters hd.of_filters
        _ _ hSame with
    ⟨hFilters, hSame⟩
  rcases delimited_ofOrder _ _ trivial trivial _ _ hSame with
    ⟨hOrder, hSame⟩
  rcases
      delimited_ofDict _ _ hc.metadata hd.metadata _ _ hSame with
    ⟨hMetadata, hRest⟩
  cases c
  cases d
  cases hUri
  cases hPredicates
  cases hFilters
  cases hOrder
  cases hMetadata
  exact ⟨rfl, hRest⟩

------------------------------------------------------------
-- Derived Names
------------------------------------------------------------

/- Zeros before a number do not change it. -/
theorem readDigits_zeros
    (limit k : Nat)
    (cs : List Char) :
    readDigits 16 limit .tooLarge 0
        (List.replicate k '0' ++ cs) =
      readDigits 16 limit .tooLarge 0 cs := by
  induction k with
  | zero => rfl
  | succ k ih =>
      have hDigit : digitBelow? 16 '0' = some 0 := by decide
      rw [List.replicate_succ, List.cons_append, readDigits]
      simp [hDigit, ih]

/- Names are the same only if the hashes are. -/
theorem sip13_of_derivedId_eq
    (hSame : c.derivedId = d.derivedId) :
    Hash.sip13 c.octets = Hash.sip13 d.octets := by
  have hRead :
      ∀ n : UInt64,
        readDigits 16 (UInt64.size - 1) .tooLarge 0
            (List.replicate
                (16 - (Nat.toDigits 16 n.toNat).length) '0' ++
              Nat.toDigits 16 n.toNat) =
          .ok n.toNat := by
    intro n
    have hLimit : n.toNat ≤ UInt64.size - 1 :=
      Nat.le_sub_one_of_lt n.toNat_lt
    rw [readDigits_zeros]
    exact
      readDigits_toDigits .tooLarge (by decide) (by decide)
        hLimit
  have hDigits := congrArg String.toList hSame
  simp only [derivedId, String.toList_append,
    String.toList_ofList] at hDigits
  have hDigits := List.append_cancel_left hDigits
  have hValue := hRead (Hash.sip13 c.octets)
  rw [hDigits, hRead] at hValue
  exact UInt64.toNat_inj.mp (Except.ok.inj hValue).symm

/-
  Contents with the same octets are the same, and no content
  has octets that only start those of another.  So a name
  that two contents share is due to octets that differ and
  have the same hash.
-/
theorem octets_tell_apart
    (hc : c.IsStorable)
    (hd : d.IsStorable) :
    (c.octets = d.octets → c = d) ∧
      (c.octets <+: d.octets → c.octets = d.octets) ∧
      ((c.define none).id = (d.define none).id →
        c ≠ d →
          c.octets ≠ d.octets ∧
            Hash.sip13 c.octets = Hash.sip13 d.octets) := by
  have hInjective : c.octets = d.octets → c = d := by
    intro hSame
    have hEnds : c.octets ++ [] = d.octets ++ [] := by
      rw [hSame]
    exact (delimited_octets c d hc hd [] [] hEnds).1
  refine ⟨hInjective, ?_, ?_⟩
  · rintro ⟨rest, hRest⟩
    have hEnds : c.octets ++ rest = d.octets ++ [] := by
      rw [hRest, List.append_nil]
    rcases delimited_octets c d hc hd rest [] hEnds with
      ⟨rfl, -⟩
    rfl
  · intro hName hOther
    exact
      ⟨fun hSame => hOther (hInjective hSame),
        sip13_of_derivedId_eq hName⟩

/- A content with a remark whose key and value are given. -/
def remarked (key value : String) : RouteContent :=
  { uri := "lb://shop"
    metadata := Dict.empty.insert key value }

/- Text that moves from a value to its key is noticed. -/
theorem octets_tell_apart_moved :
    (remarked "team" "edge").IsStorable ∧
      (remarked "teame" "dge").IsStorable ∧
      (remarked "team" "edge").octets ≠
        (remarked "teame" "dge").octets ∧
      ¬(remarked "team" "edge").octets <+:
        (remarked "teame" "dge").octets := by
  have hStorable :
      ∀ key value, (remarked key value).IsStorable := by
    intro key value
    have hOne : (remarked key value).metadata.size = 1 := rfl
    refine
      ⟨Nat.two_pow_pos 64, Nat.two_pow_pos 64, ?_, ?_⟩
    · intro s hs
      cases hs
    · rw [IsLength, hOne]
      decide
  have hOther :
      remarked "team" "edge" ≠ remarked "teame" "dge" := by
    decide
  rcases
      octets_tell_apart (hStorable "team" "edge")
        (hStorable "teame" "dge") with
    ⟨hInjective, hNoPrefix, -⟩
  refine
    ⟨hStorable _ _, hStorable _ _, hOther ∘ hInjective, ?_⟩
  intro hPrefix
  exact hOther (hInjective (hNoPrefix hPrefix))

end RouteContent

end Signpost
