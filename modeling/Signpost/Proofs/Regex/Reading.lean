import Signpost.Proofs.Regex.Token

/-
  Patterns inside a group that is put around them.  A pattern
  that closes no group but its own is read inside the group
  as it is read alone.

  Main declarations:
    * `Reading.Unopened` and `Reading.Unopened.run_eq_none`
    * `Reading.Intact` and `Reading.Intact.run`
    * `Reading.run_under`
    * `whole?_eq_some`
-/

namespace Signpost.Regex

open Text
open Text.Scan (read)

------------------------------------------------------------
-- Runs
------------------------------------------------------------

namespace Reading

variable {s s' : Reading}
variable {t : Token}
variable {c : Char}
variable {cs rest : List Char}

@[simp] theorem run_nil
    (s : Reading) :
    s.run [] = some s := by
  rw [run]

/- A run takes in the first token, then those of the rest. -/
theorem run_cons
    (s : Reading)
    (c : Char)
    (cs : List Char) :
    s.run (c :: cs) =
      (read (token s.flags c) cs).bind fun x =>
        (s.step x.1).bind fun s' => s'.run x.2 := by
  rw [run]
  unfold Scan.read
  cases token s.flags c cs with
  | none => rfl
  | some x =>
      simp only [Option.map_some, Option.bind_some]
      cases s.step x.1 <;> rfl

theorem run_cons_eq_some_iff :
    s.run (c :: cs) = some s' ↔
      ∃ t rest, read (token s.flags c) cs = some (t, rest) ∧
        ∃ s₁, s.step t = some s₁ ∧ s₁.run rest = some s' := by
  rw [run_cons]
  constructor
  · intro hRun
    rcases Option.bind_eq_some_iff.mp hRun with
      ⟨⟨t, rest⟩, hToken, hRest⟩
    rcases Option.bind_eq_some_iff.mp hRest with
      ⟨s₁, hStep, hRun⟩
    exact ⟨t, rest, hToken, s₁, hStep, hRun⟩
  · rintro ⟨t, rest, hToken, s₁, hStep, hRun⟩
    rw [hToken, Option.bind_some, hStep]
    exact hRun

/- What every token keeps is kept by a run. -/
theorem run_keeps
    {P : Reading → Prop}
    (hStep :
      ∀ s c cs t rest s',
        read (token s.flags c) cs = some (t, rest) →
          s.step t = some s' → P s → P s')
    (hRun : s.run cs = some s')
    (hs : P s) :
    P s' := by
  induction hn : cs.length using Nat.strong_induction_on
    generalizing s cs with
  | _ n ih =>
      cases cs with
      | nil =>
          rw [run_nil] at hRun
          cases hRun
          exact hs
      | cons c cs =>
          rcases run_cons_eq_some_iff.mp hRun with
            ⟨t, rest, hToken, s₁, hFirst, hRest⟩
          have hShort := Scan.length_le_of_read hToken
          rw [List.length_cons] at hn
          exact
            ih rest.length (by omega) hRest
              (hStep s c cs t rest s₁ hToken hFirst hs) rfl

------------------------------------------------------------
-- Groups That Are Not Open
------------------------------------------------------------

/-
  A pattern closes a group that is not open: at once, or
  after its first token.
-/
inductive Unopened : Reading → List Char → Prop where
| here
    {s : Reading}
    {c : Char}
    {cs rest : List Char}
    (closes : read (token s.flags c) cs = some (.closing, rest))
    (bottom : s.above = []) :
    Unopened s (c :: cs)
| later
    {s s' : Reading}
    {c : Char}
    {cs rest : List Char}
    {t : Token}
    (first : read (token s.flags c) cs = some (t, rest))
    (step : s.step t = some s')
    (unopened : Unopened s' rest) :
    Unopened s (c :: cs)

/- Such a pattern cannot be read. -/
theorem Unopened.run_eq_none
    (hUnopened : Unopened s cs) :
    s.run cs = none := by
  induction hUnopened with
  | here hCloses hBottom =>
      rw [run_cons, hCloses, Option.bind_some]
      simp only [step, hBottom, Option.bind_none]
  | later hFirst hStep _ ih =>
      rw [run_cons, hFirst, Option.bind_some, hStep]
      exact ih

------------------------------------------------------------
-- Proper Levels
------------------------------------------------------------

theorem proper_sequence
    {rs : List Regex}
    (hProper : ∀ r ∈ rs, r.Proper) :
    (sequence rs).Proper := by
  fun_induction sequence rs with
  | case1 => trivial
  | case2 r => exact hProper r (List.mem_singleton_self r)
  | case3 r rs hMore ih =>
      exact
        ⟨hProper r List.mem_cons_self,
          ih fun r hr => hProper r (List.mem_cons_of_mem _ hr)⟩

theorem proper_anyOf
    {rs : List Regex}
    (hProper : ∀ r ∈ rs, r.Proper) :
    (anyOf rs).Proper := by
  fun_induction anyOf rs with
  | case1 => trivial
  | case2 r => exact hProper r (List.mem_singleton_self r)
  | case3 r rs hMore ih =>
      exact
        ⟨hProper r List.mem_cons_self,
          ih fun r hr => hProper r (List.mem_cons_of_mem _ hr)⟩

end Reading

/- All parts of a level have their counts in order. -/
structure Level.Proper (l : Level) : Prop where
  finished : ∀ p ∈ l.finished, p.regex.Proper
  parts : ∀ p ∈ l.parts, p.regex.Proper

namespace Level

variable {l l' : Level}

theorem Proper.add
    (hProper : l.Proper)
    {p : Part}
    (hp : p.regex.Proper) :
    (l.add p).Proper where
  finished := hProper.finished
  parts := List.forall_mem_cons.mpr ⟨hp, hProper.parts⟩

theorem Proper.current
    (hProper : l.Proper) :
    l.current.regex.Proper := by
  apply Reading.proper_sequence
  intro r hr
  rcases List.mem_map.mp hr with ⟨p, hp, rfl⟩
  exact hProper.parts p (List.mem_reverse.mp hp)

theorem Proper.split
    (hProper : l.Proper) :
    l.split.Proper where
  finished :=
    List.forall_mem_cons.mpr ⟨hProper.current, hProper.finished⟩
  parts := List.forall_mem_nil _

theorem Proper.whole
    (hProper : l.Proper) :
    l.whole.regex.Proper := by
  apply Reading.proper_anyOf
  intro r hr
  rcases List.mem_map.mp hr with ⟨p, hp, rfl⟩
  rcases List.mem_cons.mp (List.mem_reverse.mp hp) with
    rfl | hp
  · exact hProper.current
  · exact hProper.finished p hp

/- A group has no parts when it is opened. -/
theorem proper_start
    (kind : GroupKind)
    (outer : Flags) :
    Level.Proper { kind, outer } where
  finished := List.forall_mem_nil _
  parts := List.forall_mem_nil _

/- A level is that of the pattern and not of a group. -/
def IsBottom (l : Level) : Prop :=
  l.kind = .plain ∧ l.outer = {}

/- A repetition is of the last part of a level. -/
theorem repeats_eq_some
    {least : Nat}
    {most : Option Nat}
    (hRepeats : l.repeats least most = some l') :
    ∃ p ps, l.parts = p :: ps ∧
      l' =
        { l with
          parts :=
            ⟨.times p.regex least most, p.height + 1, true⟩
              :: ps } := by
  unfold repeats at hRepeats
  split at hRepeats
  · rename_i p ps hParts
    split at hRepeats
    · cases hRepeats
      exact ⟨p, ps, hParts, rfl⟩
    · cases hRepeats
  · cases hRepeats

end Level

namespace Reading

variable {s s' : Reading}
variable {t : Token}
variable {c : Char}
variable {cs rest : List Char}

------------------------------------------------------------
-- Intact Readings
------------------------------------------------------------

/- The level around all groups. -/
def outermost (s : Reading) : Level :=
  s.above.getLast?.getD s.level

/-
  What a reading that starts with nothing keeps: its levels
  are proper, and the one around all groups is no group.
-/
structure Intact (s : Reading) : Prop where
  level : s.level.Proper
  above : ∀ l ∈ s.above, l.Proper
  bottom : s.outermost.IsBottom

theorem intact_start : Intact {} where
  level := Level.proper_start _ _
  above := List.forall_mem_nil _
  bottom := ⟨rfl, rfl⟩

/- It stays so when one more part of a group is there. -/
theorem Intact.of_level
    (hIntact : s.Intact)
    (hAbove : s'.above = s.above)
    (hProper : s'.level.Proper)
    (hBottom : s.level.IsBottom → s'.level.IsBottom) :
    s'.Intact where
  level := hProper
  above := by
    rw [hAbove]
    exact hIntact.above
  bottom := by
    have hOld := hIntact.bottom
    unfold outermost at hOld ⊢
    rw [hAbove]
    cases hLast : s.above.getLast? with
    | none =>
        rw [hLast] at hOld
        exact hBottom hOld
    | some l =>
        rw [hLast] at hOld
        exact hOld

theorem Intact.opening
    (hIntact : s.Intact)
    (kind : GroupKind)
    (inner : Flags)
    (names : List String) :
    Intact
      { flags := inner
        level := { kind, outer := s.flags }
        above := s.level :: s.above
        names } where
  level := Level.proper_start _ _
  above :=
    List.forall_mem_cons.mpr ⟨hIntact.level, hIntact.above⟩
  bottom := by
    rw [outermost, List.getLast?_cons]
    exact hIntact.bottom

/- The group around is as it was before it was opened. -/
theorem Intact.outer
    (hIntact : s.Intact)
    {outer : Level}
    {above : List Level}
    (hAbove : s.above = outer :: above) :
    ({ s with level := outer, above := above } :
      Reading).Intact := by
  have hOld := hIntact.above
  rw [hAbove, List.forall_mem_cons] at hOld
  refine ⟨hOld.1, hOld.2, ?_⟩
  have hBottom := hIntact.bottom
  rw [outermost, hAbove, List.getLast?_cons] at hBottom
  exact hBottom

theorem proper_enclose
    (kind : GroupKind)
    {r : Regex}
    (hProper : r.Proper) :
    (kind.enclose r).Proper := by
  cases kind <;> exact hProper

theorem Intact.step
    (hIntact : s.Intact)
    (hSound : t.Sound c)
    (hStep : s.step t = some s') :
    s'.Intact := by
  cases t with
  | blank =>
      cases hStep
      exact hIntact
  | piece r height =>
      cases hStep
      exact hIntact.of_level rfl (hIntact.level.add hSound) id
  | repeats least most =>
      rcases Option.map_eq_some_iff.mp hStep with
        ⟨l, hRepeats, rfl⟩
      rcases Level.repeats_eq_some hRepeats with
        ⟨p, ps, hParts, rfl⟩
      have hOld := hIntact.level.parts
      rw [hParts, List.forall_mem_cons] at hOld
      refine
        hIntact.of_level rfl ⟨hIntact.level.finished, ?_⟩ id
      exact List.forall_mem_cons.mpr ⟨⟨hOld.1, hSound⟩, hOld.2⟩
  | opening kind inner =>
      simp only [Reading.step] at hStep
      split at hStep
      · cases hStep
      · cases hStep
        exact hIntact.opening kind inner _
  | directive flags =>
      cases hStep
      have hEmpty : Regex.empty.Proper := trivial
      exact hIntact.of_level rfl (hIntact.level.add hEmpty) id
  | bar =>
      cases hStep
      exact hIntact.of_level rfl hIntact.level.split id
  | closing =>
      simp only [Reading.step] at hStep
      split at hStep
      · cases hStep
      · rename_i outer above hAbove
        cases hStep
        have hOuter := hIntact.outer hAbove
        have hWhole := hIntact.level.whole
        exact
          hOuter.of_level rfl
            (hOuter.level.add (proper_enclose _ hWhole)) id

theorem Intact.run
    (hIntact : s.Intact)
    (hRun : s.run cs = some s') :
    s'.Intact := by
  refine run_keeps ?_ hRun hIntact
  intro s c cs t rest s' hToken hStep hIntact
  exact
    hIntact.step (sound_token s.flags c cs t rest hToken) hStep

------------------------------------------------------------
-- One More Group
------------------------------------------------------------

/- A reading inside one more group around all others. -/
def under (l : Level) (s : Reading) : Reading :=
  { s with above := s.above ++ [l] }

/-
  A token does the same inside one more group, unless it
  closes this group.
-/
theorem step_under
    (l : Level)
    (hStays : t = .closing → s.above ≠ []) :
    (s.under l).step t = (s.step t).map (under l) := by
  cases t with
  | repeats least most =>
      simp only [Reading.step, under, Option.map_map]
      rfl
  | opening kind inner =>
      simp only [Reading.step]
      rw [apply_ite (Option.map (under l))]
      rfl
  | closing =>
      cases hAbove : s.above with
      | nil => exact absurd hAbove (hStays rfl)
      | cons outer above =>
          simp only [Reading.step, under, hAbove]
          rfl
  | _ => rfl

/- After the parenthesis of an ending nothing is closed. -/
theorem above_of_run_short
    (hShort : rest <:+ ['$'])
    (hRun : s.run rest = some s') :
    s'.above = s.above := by
  rcases List.suffix_cons_iff.mp hShort with rfl | hNil
  · rw [run_cons, read_token_dollar] at hRun
    simp only [Option.bind_some, Reading.step, run_nil,
      Option.some.injEq] at hRun
    rw [← hRun]
  · rw [List.suffix_nil.mp hNil, run_nil] at hRun
    cases hRun
    rfl

/- A group that is still open then stays open. -/
theorem open_of_run_short
    (hShort : rest <:+ ['$'])
    (hOpen : s.above ≠ [])
    (hRun : s.run rest = some s') :
    s'.above ≠ [] := by
  rw [above_of_run_short hShort hRun]
  exact hOpen

/- What is left after the parenthesis of an ending. -/
theorem suffix_dollar
    (hSuffix : rest <:+ cs ++ ending)
    (hShort : rest.length < ending.length) :
    rest <:+ ['$'] := by
  apply List.suffix_of_suffix_length_le hSuffix
  · exact
      List.suffix_append_of_suffix
        (List.suffix_cons ')' ['$'])
  · simp only [ending, List.length_cons, List.length_nil]
      at hShort ⊢
    omega

/-
  A pattern read inside one more group, which is closed at
  the end, is read alone in the same way, or it closes a
  group that is not open.
-/
theorem run_under
    {l : Level}
    (hRun : (s.under l).run (cs ++ ending) = some s')
    (hClosed : s'.above = []) :
    (∃ s₁, s.run cs = some s₁ ∧
      (s₁.under l).run ending = some s') ∨
    Unopened s cs := by
  induction hn : cs.length using Nat.strong_induction_on
    generalizing s cs with
  | _ n ih =>
      cases cs with
      | nil => exact Or.inl ⟨s, run_nil s, hRun⟩
      | cons c cs =>
          rw [List.length_cons] at hn
          rw [List.cons_append] at hRun
          rcases run_cons_eq_some_iff.mp hRun with
            ⟨t, rest, hToken, s₂, hStep, hRest⟩
          have hSound := sound_token _ c _ _ _ hToken
          by_cases hStays : t = .closing → s.above ≠ []
          · rw [step_under l hStays] at hStep
            rcases Option.map_eq_some_iff.mp hStep with
              ⟨s₃, hAlone, rfl⟩
            have hLocal :=
              local_token (n := (cs ++ ending).length)
                s.flags c
            by_cases hLeft : ending.length ≤ rest.length
            · rcases
                  hLocal.before cs t rest
                    (by rw [List.length_append]; omega)
                    hToken hLeft with
                ⟨left, hFirst, rfl⟩
              have hShort := Scan.length_le_of_read hFirst
              rcases ih left.length (by omega) hRest rfl with
                ⟨s₁, hRun, hEnding⟩ | hUnopened
              · have hWhole :=
                  run_cons_eq_some_iff.mpr
                    ⟨t, left, hFirst, s₃, hAlone, hRun⟩
                exact Or.inl ⟨s₁, hWhole, hEnding⟩
              · exact Or.inr (.later hFirst hAlone hUnopened)
            · -- The token has eaten the parenthesis.
              have hSuffix :=
                hLocal.suffix (cs ++ ending) t rest
                  (Nat.le_refl _) hToken
              have hOpen :=
                open_of_run_short
                  (suffix_dollar hSuffix (Nat.lt_of_not_le hLeft))
                  (by simp [under]) hRest
              exact absurd hClosed hOpen
          · rw [Classical.not_imp, not_ne_iff] at hStays
            rcases hStays with ⟨rfl, hBottom⟩
            have hc : c = ')' := hSound
            subst hc
            exact
              Or.inr
                (.here (read_token_closing s.flags cs) hBottom)

/- An ending closes one group, which must be the last one. -/
theorem run_ending
    {l : Level}
    (hRun : (s.under l).run ending = some s')
    (hClosed : s'.above = []) :
    s.above = [] ∧
      s' =
        { s with
          flags := s.level.outer
          level :=
            (l.add
              ⟨s.level.kind.enclose s.level.whole.regex,
                s.level.whole.height + 1, true⟩).add
              ⟨.look s.level.outer.dollar, 0, true⟩ } := by
  rw [ending, run_cons, read_token_closing] at hRun
  simp only [Option.bind_some] at hRun
  cases hAbove : s.above with
  | nil =>
      simp only [Reading.step, under, hAbove, List.nil_append,
        Option.bind_some, run_cons, read_token_dollar, run_nil,
        Option.some.injEq] at hRun
      exact ⟨rfl, hRun.symm⟩
  | cons outer above =>
      simp only [Reading.step, under, hAbove, List.cons_append,
        Option.bind_some] at hRun
      have hOpen :=
        open_of_run_short (List.suffix_refl _) (by simp) hRun
      exact absurd hClosed hOpen

end Reading

------------------------------------------------------------
-- Whole Texts
------------------------------------------------------------

/- The start of a text, as a part of the pattern around. -/
def startLevel : Level :=
  Level.add {} ⟨.look .textStart, 0, true⟩

/- The group around a pattern is opened. -/
theorem run_wholePattern
    (pattern : String) :
    Reading.run {} (wholePattern pattern).toList =
      (Reading.under startLevel {}).run
        (pattern.toList ++ ending) := by
  have hText :
      (wholePattern pattern).toList =
        '^' :: '(' :: '?' :: ':' ::
          (pattern.toList ++ ending) := by
    rw [wholePattern, String.toList_append,
      String.toList_append]
    rfl
  have hCaret (cs : List Char) :
      Reading.run {} ('^' :: cs) =
        Reading.run { level := startLevel } cs :=
    Reading.run_cons {} '^' cs
  have hGroup (cs : List Char) :
      read (groupStart {}) ('?' :: ':' :: cs) =
        some (.opening .plain {}, cs) := by
    unfold groupStart
    rfl
  have hToken (cs : List Char) :
      read (token {} '(') cs = read (groupStart {}) cs := rfl
  rw [hText, hCaret, Reading.run_cons]
  simp only [hToken, hGroup, Option.bind_some]
  rfl

/-
  What a pattern that closes no group but its own is read as
  for whole texts: what it is read as alone, between the
  start and the end of a text.
-/
theorem whole?_eq_some
    {pattern : String}
    {w : Regex}
    (hWhole : whole? pattern = some w) :
    (∃ r, parse? pattern = some r ∧ r.Proper ∧
      w = r.enclosed) ∨
    Reading.Unopened {} pattern.toList := by
  rcases Option.bind_eq_some_iff.mp hWhole with
    ⟨s', hRun, hResult⟩
  rw [run_wholePattern] at hRun
  simp only [Reading.result?, Option.ite_none_right_eq_some,
    Bool.and_eq_true, List.isEmpty_iff, decide_eq_true_eq,
    Option.some.injEq] at hResult
  rcases hResult with ⟨⟨hClosed, hHeight⟩, rfl⟩
  rcases Reading.run_under hRun hClosed with
    ⟨s, hAlone, hEnding⟩ | hUnopened
  · rcases Reading.run_ending hEnding hClosed with ⟨hAbove, rfl⟩
    have hIntact := Reading.intact_start.run hAlone
    have hBottom : s.level.IsBottom := by
      have hOutermost := hIntact.bottom
      rw [Reading.outermost, hAbove] at hOutermost
      exact hOutermost
    rw [hBottom.1, hBottom.2] at hHeight ⊢
    have hShort : s.level.whole.height ≤ Reading.heightLimit := by
      simp [startLevel, Level.whole, Level.current, Level.add,
        jointHeight, tallest] at hHeight ⊢
      omega
    have hResult : s.result? = some s.level.whole.regex := by
      rw [Reading.result?, hAbove, List.isEmpty_nil,
        Bool.true_and, if_pos (decide_eq_true hShort)]
    have hParse : parse? pattern = some s.level.whole.regex :=
      Option.bind_eq_some_iff.mpr ⟨s, hAlone, hResult⟩
    exact
      Or.inl
        ⟨s.level.whole.regex, hParse, hIntact.level.whole, rfl⟩
  · exact Or.inr hUnopened

end Signpost.Regex
