import Mathlib.Data.List.Basic
import Signpost.Unicode.Caseless

/-
  What is left of ASCII when a text is composed: ASCII
  characters are neither taken apart nor composed with those
  before them.

  Main declarations:
    * `Unicode.decomposed_append`
    * `Unicode.composeAll_of_ascii`
    * `Unicode.mem_composeAll`
    * `Unicode.plainForm_of_plain`
    * `Unicode.mem_plainForm`
-/

namespace Signpost.Unicode

variable {n : Nat}
variable {ns ds : List Nat}

/- Replacing each element by itself changes nothing. -/
theorem flatMap_eq_self
    {α : Type}
    {xs : List α}
    {f : α → List α}
    (hSame : ∀ x ∈ xs, f x = [x]) :
    xs.flatMap f = xs :=
  (List.flatMap_congr hSame).trans (List.flatMap_singleton' xs)

------------------------------------------------------------
-- Code Points
------------------------------------------------------------

theorem fullParts_of_ascii
    (fuel : Nat)
    (hn : n < 0x80) :
    fullParts fuel n = [n] := by
  have hWhole : decomposition n = none := by
    rw [decomposition, if_pos (by omega)]
  cases fuel with
  | zero => rfl
  | succ fuel => rw [fullParts, hWhole]

theorem combiningClass_of_ascii
    (hn : n < 0x80) :
    combiningClass n = 0 := by
  rw [combiningClass, if_pos (by omega)]

theorem composite?_of_ascii
    (start : Nat)
    (hn : n < 0x80) :
    composite? start n = none := by
  rw [composite?, if_pos (by omega)]

------------------------------------------------------------
-- Texts of Code Points
------------------------------------------------------------

/- What follows a text in ASCII is not taken apart. -/
theorem decomposed_append
    (ns : List Nat)
    (hAscii : ∀ d ∈ ds, d < 0x80) :
    decomposed (ns ++ ds) = decomposed ns ++ ds := by
  have hParts : ds.flatMap (fullParts 4) = ds :=
    flatMap_eq_self fun d hd =>
      fullParts_of_ascii 4 (hAscii d hd)
  have hOrdered :
      ∀ before,
        ds.foldl appendOrdered before =
          ds.reverse ++ before := by
    clear hParts
    induction ds with
    | nil => simp
    | cons d ds ih =>
        intro before
        rcases List.forall_mem_cons.mp hAscii with ⟨hd, hRest⟩
        rw [List.foldl_cons, appendOrdered,
          if_pos (combiningClass_of_ascii hd), ih hRest]
        simp
  rw [decomposed, List.flatMap_append, hParts,
    List.foldl_append, hOrdered, List.reverse_append,
    List.reverse_reverse, decomposed]

/- A character and ASCII after it are not composed. -/
theorem composeAfter_of_ascii
    (start : Nat)
    (hAscii : ∀ n ∈ ns, n < 0x80) :
    composeAfter start [] ns = start :: ns := by
  induction ns generalizing start with
  | nil => rfl
  | cons n ns ih =>
      rcases List.forall_mem_cons.mp hAscii with ⟨hn, hRest⟩
      simp [composeAfter, composite?_of_ascii start hn,
        combiningClass_of_ascii hn, ih n hRest]

theorem composeAll_of_ascii
    (hAscii : ∀ n ∈ ns, n < 0x80) :
    composeAll ns = ns := by
  cases ns with
  | nil => rfl
  | cons n ns =>
      rcases List.forall_mem_cons.mp hAscii with ⟨hn, hRest⟩
      rw [composeAll, if_pos (combiningClass_of_ascii hn),
        composeAfter_of_ascii n hRest]

/- A character of ASCII with only such ones after it is left. -/
theorem mem_composeAfter
    (start : Nat)
    (passed ns : List Nat)
    (hAscii : ∀ d ∈ n :: ds, d < 0x80) :
    n ∈ composeAfter start passed (ns ++ n :: ds) := by
  rcases List.forall_mem_cons.mp hAscii with ⟨hn, hRest⟩
  induction ns generalizing start passed with
  | nil =>
      rw [List.nil_append, composeAfter.eq_def]
      simp [composite?_of_ascii start hn,
        combiningClass_of_ascii hn,
        composeAfter_of_ascii n hRest]
  | cons m ns ih =>
      rw [List.cons_append, composeAfter.eq_def]
      dsimp only
      split
      · exact ih _ _
      · split
        · exact List.mem_append_right _ (ih _ _)
        · exact ih _ _

theorem mem_composeAll
    (ns : List Nat)
    (hAscii : ∀ d ∈ n :: ds, d < 0x80) :
    n ∈ composeAll (ns ++ n :: ds) := by
  induction ns with
  | nil =>
      rw [List.nil_append, composeAll_of_ascii hAscii]
      exact List.mem_cons_self
  | cons m ns ih =>
      rw [List.cons_append, composeAll]
      split
      · exact mem_composeAfter m [] ns hAscii
      · exact List.mem_cons_of_mem m ih

------------------------------------------------------------
-- Texts
------------------------------------------------------------

variable {c : Char}
variable {cs rest : List Char}

theorem toNat_lt_of_mem_map
    (hAscii : ∀ c ∈ cs, c.toNat < 0x80) :
    ∀ n ∈ cs.map Char.toNat, n < 0x80 := by
  intro n hMember
  rcases List.mem_map.mp hMember with ⟨c, hc, rfl⟩
  exact hAscii c hc

/- A text in ASCII is composed. -/
theorem composed_of_ascii
    (hAscii : ∀ c ∈ cs, c.toNat < 0x80) :
    composed cs = cs := by
  have hNumbers := toNat_lt_of_mem_map hAscii
  have hWhole :=
    decomposed_append [] hNumbers
  rw [List.nil_append] at hWhole
  have hNone : decomposed [] = [] := rfl
  rw [composed, hWhole, hNone, List.nil_append,
    composeAll_of_ascii hNumbers, List.map_map]
  exact List.map_id'' Char.ofNat_toNat cs

/- A character of ASCII that stands for itself. -/
def IsPlain (c : Char) : Prop :=
  c.toNat < 0x80 ∧ plainForm? c.toNat = none

/- Each character is replaced, a plain one by itself. -/
theorem exists_plainForm_eq :
    ∃ f : Char → List Char,
      (∀ cs, plainForm cs = composed (cs.flatMap f)) ∧
        ∀ c, IsPlain c → f c = [c] := by
  refine ⟨_, fun _ => rfl, ?_⟩
  intro c hPlain
  simp only [hPlain.2]

/- A text of plain characters stands for itself. -/
theorem plainForm_of_plain
    (hPlain : ∀ c ∈ cs, IsPlain c) :
    plainForm cs = cs := by
  rcases exists_plainForm_eq with ⟨f, hForm, hSame⟩
  rw [hForm, flatMap_eq_self fun c hc => hSame c (hPlain c hc),
    composed_of_ascii fun c hc => (hPlain c hc).1]

/- A plain character with only such ones after it is left. -/
theorem mem_plainForm
    (cs : List Char)
    (hPlain : ∀ d ∈ c :: rest, IsPlain d) :
    c ∈ plainForm (cs ++ c :: rest) := by
  rcases exists_plainForm_eq with ⟨f, hForm, hSame⟩
  have hNumbers :=
    toNat_lt_of_mem_map fun d hd => (hPlain d hd).1
  have hRest :=
    flatMap_eq_self fun d hd => hSame d (hPlain d hd)
  rw [hForm, List.flatMap_append, hRest, composed,
    List.map_append, decomposed_append _ hNumbers,
    List.map_cons]
  rw [List.map_cons] at hNumbers
  have hMember :=
    mem_composeAll (decomposed ((cs.flatMap f).map Char.toNat))
      hNumbers
  exact List.mem_map.mpr ⟨_, hMember, Char.ofNat_toNat c⟩

end Signpost.Unicode
