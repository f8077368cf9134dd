import Mathlib.Data.List.Fold
import Mathlib.Data.List.MinMax
import Mathlib.Order.Nat
import Signpost.Proofs.Predicate.Offsets
import Signpost.Proofs.Regex.Reading

/-
  A segment of a pattern accepts the values that follow its
  text.  The text is turned into a regular expression, where
  every character that is no wildcard is escaped if need be,
  and the expression that is read from it takes just what
  the pieces of the text take.

  Main declarations:
    * `Piece.part` and `Regex.Reading.run_pieces`
    * `Piece.parse?_segmentPattern`
    * `Regex.matches_pieces_iff`
    * `Piece.isMatch_iff_splits`
    * `Segment.accepts_iff_follows`
-/

namespace Signpost

open Text
open Text.Scan (read)

------------------------------------------------------------
-- Reading the Pattern of a Segment
------------------------------------------------------------

namespace Piece

/- Any character but a line feed. -/
def anyChar : Regex :=
  .chars (.negated (.single '\n'))

/- What the pattern of a piece is read as. -/
def part : Piece → Regex.Part
| .star => ⟨.times anyChar 0 none, 1, true⟩
| .variable => ⟨.times anyChar 1 none, 1, true⟩
| .literal c => ⟨.char c, 0, true⟩

/- The expression of a piece. -/
def regex (p : Piece) : Regex := p.part.regex

theorem height_part_le
    (p : Piece) :
    p.part.height ≤ 1 := by
  cases p with
  | literal c => exact Nat.zero_le 1
  | _ => exact Nat.le_refl 1

theorem pattern_of_meta
    {c : Char}
    (hMeta : Regex.isMeta c = true) :
    (literal c).pattern = ['\\', c] :=
  if_pos hMeta

theorem pattern_of_not_meta
    {c : Char}
    (hMeta : Regex.isMeta c = false) :
    (literal c).pattern = [c] :=
  if_neg (ne_true_of_eq_false hMeta)

/- No pattern of a piece starts with a question mark. -/
theorem head?_flatMap_pattern
    (ps : List Piece) :
    (ps.flatMap pattern ++ ['$']).head? ≠ some '?' := by
  cases ps with
  | nil => decide
  | cons p ps =>
      rw [List.flatMap_cons, List.append_assoc]
      cases p with
      | literal c =>
          by_cases hMeta : Regex.isMeta c = true
          · rw [pattern_of_meta hMeta]
            exact (by decide : some '\\' ≠ some '?')
          · rw [Bool.not_eq_true] at hMeta
            rw [pattern_of_not_meta hMeta]
            intro hHead
            cases hHead
            exact absurd hMeta (by decide)
      | _ => exact (by decide : some '.' ≠ some '?')

end Piece

namespace Regex

open Piece (anyChar part)

variable {c : Char}
variable {cs : List Char}
variable {s : Reading}

theorem read_lazyMark
    (hHead : cs.head? ≠ some '?') :
    read lazyMark cs = some ((), cs) := by
  have hNot : ['?'].isPrefixOf cs = false := by
    cases cs with
    | nil => rfl
    | cons d cs =>
        rw [List.isPrefixOf_cons_cons, List.isPrefixOf_nil_left,
          Bool.and_true]
        exact
          beq_eq_false_iff_ne.mpr fun hEq => hHead (by rw [hEq]; rfl)
  unfold lazyMark
  rw [Scan.read_bind, Scan.read_accept, if_neg (by simp [hNot])]
  rfl

theorem read_token_escape
    (hMeta : isMeta c = true)
    (cs : List Char) :
    read (token {} '\\') (c :: cs) =
      some (.piece (.char c) 0, cs) := by
  have hEscapable : isEscapable c = true := by
    rw [isEscapable, hMeta, Bool.true_or]
  have hEscape :
      read (escape {}) (c :: cs) = some (.char c, cs) := by
    unfold escape
    rw [Scan.read_bind]
    simp only [Scan.read, Scan.next, Option.map_some,
      Option.bind_some, hEscapable, if_true]
    rfl
  have hToken :
      token {} '\\' =
        (escape {} >>= fun a => pure (.piece (a.regex {}) 0)) :=
    rfl
  rw [hToken, Scan.read_bind, hEscape]
  rfl

/- A character without a meaning of its own is itself. -/
theorem read_token_literal
    (hMeta : isMeta c = false)
    (cs : List Char) :
    read (token {} c) cs = some (.piece (.char c) 0, cs) := by
  unfold token
  split
  · rename_i hLoose
    cases hLoose
  · split
    all_goals first | rfl | exact absurd hMeta (by decide)

namespace Reading

/- A reading with some more parts in its level. -/
def adding (s : Reading) (ps : List Part) : Reading :=
  { s with
    level :=
      { s.level with parts := ps.reverse ++ s.level.parts } }

theorem adding_append
    (s : Reading)
    (ps qs : List Part) :
    s.adding (ps ++ qs) = (s.adding ps).adding qs := by
  simp [adding]

/- A repetition is of the piece that is read before it. -/
theorem run_repeats
    (hFlags : s.flags = {})
    {r : Regex}
    {mark : Char}
    {least : Nat}
    {most : Option Nat}
    (hFirst :
      read (token {} '.') (mark :: cs) =
        some (.piece r 0, mark :: cs))
    (hMark :
      read (token {} mark) cs =
        some (.repeats least most, cs)) :
    s.run ('.' :: mark :: cs) =
      (s.adding [⟨.times r least most, 1, true⟩]).run cs := by
  rw [run_cons, hFlags, hFirst]
  simp only [Option.bind_some, step, run_cons, hFlags, hMark,
    Level.add, Level.repeats, if_true, Option.map_some,
    adding]
  rfl

/- The pattern of a piece is read as its part. -/
theorem run_piece
    (hFlags : s.flags = {})
    (p : Piece)
    (hHead : cs.head? ≠ some '?') :
    s.run (p.pattern ++ cs) = (s.adding [p.part]).run cs := by
  have hRepeats (least : Nat) :
      read (lazyMark >>= fun _ =>
          pure (Token.repeats least none)) cs =
        some (.repeats least none, cs) := by
    rw [Scan.read_bind, read_lazyMark hHead]
    rfl
  cases p with
  | star => exact run_repeats hFlags rfl (hRepeats 0)
  | «variable» => exact run_repeats hFlags rfl (hRepeats 1)
  | literal c =>
      by_cases hMeta : isMeta c = true
      · rw [Piece.pattern_of_meta hMeta, List.cons_append,
          List.singleton_append, run_cons, hFlags,
          read_token_escape hMeta]
        rfl
      · rw [Bool.not_eq_true] at hMeta
        rw [Piece.pattern_of_not_meta hMeta,
          List.singleton_append, run_cons, hFlags,
          read_token_literal hMeta]
        rfl

/- The patterns of pieces are read as their parts. -/
theorem run_pieces
    (hFlags : s.flags = {})
    (ps : List Piece) :
    s.run (ps.flatMap Piece.pattern ++ ['$']) =
      (s.adding (ps.map part)).run ['$'] := by
  induction ps generalizing s with
  | nil => rfl
  | cons p ps ih =>
      have hNext : (s.adding [p.part]).flags = {} := hFlags
      rw [List.flatMap_cons, List.append_assoc,
        run_piece hFlags p (Piece.head?_flatMap_pattern ps),
        ih hNext, ← adding_append]
      rfl

theorem run_dollar
    (hFlags : s.flags = {}) :
    s.run ['$'] =
      some (s.adding [⟨.look .textEnd, 0, true⟩]) := by
  rw [run_cons, read_token_dollar, hFlags]
  simp only [Option.bind_some, step, run_nil]
  rfl

end Reading

/- Parts are as high as the greatest of their heights. -/
theorem tallest_le
    {ps : List Part}
    {n : Nat}
    (hLow : ∀ p ∈ ps, p.height ≤ n) :
    tallest ps ≤ n := by
  rw [tallest, List.foldl_eq_foldr]
  refine List.max_le_of_forall_le (ps.map Part.height) n ?_
  intro m hm
  rcases List.mem_map.mp hm with ⟨p, hp, rfl⟩
  exact hLow p hp

/- Parts that are not high are read one after the other. -/
theorem result?_adding
    {ps : List Part}
    (hLow : ∀ p ∈ ps, p.height ≤ 1) :
    (Reading.adding {} ps).result? =
      some (sequence (ps.map Part.regex)) := by
  have hLevel :
      (Reading.adding {} ps).level.parts = ps.reverse :=
    List.append_nil _
  have hTallest : tallest ps.reverse ≤ 1 :=
    tallest_le fun p hp => hLow p (List.mem_reverse.mp hp)
  have hJoint : jointHeight ps.reverse ≤ 2 := by
    unfold jointHeight
    split <;> omega
  have hHeight :
      (Reading.adding {} ps).level.whole.height ≤
        Reading.heightLimit := by
    have hWhole :
        (Reading.adding {} ps).level.whole.height =
          max 0 (jointHeight ps.reverse) := by
      rw [← hLevel]
      rfl
    rw [hWhole, Reading.heightLimit]
    omega
  have hRegex :
      (Reading.adding {} ps).level.whole.regex =
        sequence (ps.map Part.regex) := by
    have hWhole :
        (Reading.adding {} ps).level.whole.regex =
          sequence
            ((Reading.adding {} ps).level.parts.reverse.map
              Part.regex) :=
      rfl
    rw [hWhole, hLevel, List.reverse_reverse]
  rw [Reading.result?, if_pos, hRegex]
  rw [decide_eq_true hHeight]
  rfl

end Regex

namespace Piece

/- The expressions of a whole segment, one after the other. -/
def wholeRegex (ps : List Piece) : Regex :=
  .sequence
    (.look .textStart ::
      (ps.map regex ++ [.look .textEnd]))

/-
  The pattern of a segment is read as the expressions of its
  pieces, whatever characters are in it.
-/
theorem parse?_segmentPattern
    (ps : List Piece) :
    Regex.parse? (segmentPattern ps) = some (wholeRegex ps) := by
  have hCaret (cs : List Char) :
      Regex.Reading.run {} ('^' :: cs) =
        (Regex.Reading.adding {}
          [⟨.look .textStart, 0, true⟩]).run cs :=
    Regex.Reading.run_cons {} '^' cs
  have hRun :
      Regex.Reading.run {} (segmentPattern ps).toList =
        some
          (.adding {}
            (⟨.look .textStart, 0, true⟩ ::
              (ps.map part ++ [⟨.look .textEnd, 0, true⟩]))) := by
    rw [segmentPattern, String.toList_ofList, hCaret,
      Regex.Reading.run_pieces rfl,
      Regex.Reading.run_dollar rfl,
      ← Regex.Reading.adding_append,
      ← Regex.Reading.adding_append]
    rfl
  have hLow :
      ∀ p ∈ (⟨.look .textStart, 0, true⟩ : Regex.Part) ::
          (ps.map part ++ [⟨.look .textEnd, 0, true⟩]),
        p.height ≤ 1 := by
    intro p hp
    rcases List.mem_cons.mp hp with rfl | hp
    · exact Nat.zero_le 1
    · rcases List.mem_append.mp hp with hp | hp
      · rcases List.mem_map.mp hp with ⟨q, -, rfl⟩
        exact height_part_le q
      · rw [List.mem_singleton.mp hp]
        exact Nat.zero_le 1
  unfold Regex.parse?
  rw [hRun]
  refine (Regex.result?_adding hLow).trans ?_
  rw [List.map_cons, List.map_append, List.map_map]
  rfl

end Piece

------------------------------------------------------------
-- What the Expression Matches
------------------------------------------------------------

namespace Regex

variable {text : Array Char}
variable {i k : Nat}

/- Expressions match one after the other. -/
theorem matches_sequence_cons
    (r : Regex)
    (rs : List Regex) :
    Matches text (sequence (r :: rs)) i k ↔
      ∃ j, Matches text r i j ∧
        Matches text (sequence rs) j k := by
  cases rs with
  | nil =>
      constructor
      · intro hMatches
        exact ⟨k, hMatches, .empty k⟩
      · rintro ⟨j, hMatches, hEmpty⟩
        cases hEmpty
        exact hMatches
  | cons r' rs => exact matches_cat_iff

theorem mem_single_iff
    {c d : Char} :
    (CharSet.single c).mem d = true ↔ d = c := by
  rw [CharSet.single, CharSet.mem, Bool.and_eq_true,
    decide_eq_true_eq, decide_eq_true_eq]
  constructor
  · rintro ⟨hLow, hHigh⟩
    exact Char.le_antisymm hHigh hLow
  · rintro rfl
    exact ⟨Char.le_refl d, Char.le_refl d⟩

theorem matches_char_iff
    (c : Char) :
    Matches text (.char c) i k ↔
      text[i]? = some c ∧ k = i + 1 := by
  constructor
  · intro hMatches
    cases hMatches with
    | chars hHere hMem =>
        rw [← mem_single_iff.mp hMem]
        exact ⟨hHere, rfl⟩
  · rintro ⟨hHere, rfl⟩
    exact .chars hHere (mem_single_iff.mpr rfl)

/- Without line feeds any character is matched. -/
theorem matches_anyChar_iff
    (hPlain : '\n' ∉ text) :
    Matches text Piece.anyChar i k ↔
      i < text.size ∧ k = i + 1 := by
  constructor
  · intro hMatches
    cases hMatches with
    | chars hHere hMem =>
        exact ⟨(Array.getElem?_eq_some_iff.mp hHere).1, rfl⟩
  · rintro ⟨hBound, rfl⟩
    refine .chars (Array.getElem?_eq_getElem hBound) ?_
    rw [CharSet.mem, Bool.not_eq_true', Bool.eq_false_iff,
      Ne, mem_single_iff]
    intro hFeed
    exact hPlain (hFeed ▸ Array.getElem_mem hBound)

/- Rounds of any character go on by as many of them. -/
theorem rounds_anyChar_iff
    (hPlain : '\n' ∉ text)
    (hi : i ≤ text.size)
    {n : Nat} :
    Rounds (Matches text Piece.anyChar) n i k ↔
      k = i + n ∧ k ≤ text.size := by
  induction n generalizing i with
  | zero =>
      rw [rounds_zero_iff]
      constructor
      · rintro rfl
        exact ⟨rfl, hi⟩
      · rintro ⟨rfl, -⟩
        rfl
  | succ n ih =>
      simp only [rounds_succ_iff, matches_anyChar_iff hPlain]
      constructor
      · rintro ⟨j, ⟨hBound, rfl⟩, hRest⟩
        rcases (ih hBound).mp hRest with ⟨rfl, hEnd⟩
        exact ⟨by omega, hEnd⟩
      · rintro ⟨rfl, hEnd⟩
        refine ⟨i + 1, ⟨by omega, rfl⟩, ?_⟩
        exact (ih (by omega)).mpr ⟨by omega, hEnd⟩

theorem matches_anyChars_iff
    (hPlain : '\n' ∉ text)
    (hi : i ≤ text.size)
    (least : Nat) :
    Matches text (.times Piece.anyChar least none) i k ↔
      i + least ≤ k ∧ k ≤ text.size := by
  simp only [matches_times_iff, rounds_anyChar_iff hPlain hi]
  constructor
  · rintro ⟨n, hLeast, -, rfl, hEnd⟩
    exact ⟨by omega, hEnd⟩
  · rintro ⟨hLeast, hEnd⟩
    exact ⟨k - i, by omega, by simp, by omega, hEnd⟩

end Regex

namespace Piece

variable {value : List Char}

/- A value splits after a first part of any length. -/
theorem exists_taken_iff
    {i least : Nat}
    (hi : i ≤ value.length)
    (P : List Char → Prop) :
    (∃ k, (i + least ≤ k ∧ k ≤ value.length) ∧
        P (value.drop k)) ↔
      ∃ taken left, value.drop i = taken ++ left ∧
        least ≤ taken.length ∧ P left := by
  constructor
  · rintro ⟨k, ⟨hLeast, hEnd⟩, hRest⟩
    refine
      ⟨(value.drop i).take (k - i), value.drop k, ?_, ?_, hRest⟩
    · have hDrop : value.drop k = (value.drop i).drop (k - i) := by
        rw [List.drop_drop, Nat.add_sub_cancel' (by omega)]
      rw [hDrop, List.take_append_drop]
    · rw [List.length_take, List.length_drop]
      omega
  · rintro ⟨taken, left, hValue, hLeast, hRest⟩
    have hLength := congrArg List.length hValue
    rw [List.length_drop, List.length_append] at hLength
    have hDrop : value.drop (i + taken.length) = left := by
      rw [← List.drop_drop, hValue, List.drop_left]
    refine ⟨i + taken.length, ⟨by omega, by omega⟩, ?_⟩
    rwa [hDrop]

/- What is left of a value at a place and one further on. -/
theorem drop_eq_cons_iff
    {i : Nat}
    {c : Char}
    {left : List Char} :
    value.drop i = c :: left ↔
      value[i]? = some c ∧ value.drop (i + 1) = left := by
  rw [← List.head?_drop, ← List.tail_drop]
  cases value.drop i with
  | nil => simp
  | cons d rest => simp

section Repetition

variable {i k : Nat}
variable {r : Regex}
variable {P : List Char → Prop}

/- Some characters, and what matches after them. -/
theorem matches_anyChars_append
    (hPlain : '\n' ∉ value)
    (hi : i ≤ value.length)
    (hRest :
      ∀ j ≤ value.length,
        Regex.Matches value.toArray r j k ↔
          k = value.length ∧ P (value.drop j))
    (least : Nat) :
    (∃ j,
        Regex.Matches value.toArray
          (.times anyChar least none) i j ∧
        Regex.Matches value.toArray r j k) ↔
      k = value.length ∧
        ∃ taken left, value.drop i = taken ++ left ∧
          least ≤ taken.length ∧ P left := by
  have hText : '\n' ∉ value.toArray := by
    rwa [List.mem_toArray]
  have hTimes :
      ∀ j,
        Regex.Matches value.toArray
            (.times anyChar least none) i j ↔
          i + least ≤ j ∧ j ≤ value.length :=
    fun j => Regex.matches_anyChars_iff hText hi least
  rw [← exists_taken_iff hi P]
  constructor
  · rintro ⟨j, hFirst, hSecond⟩
    have hBounds := (hTimes j).mp hFirst
    rcases (hRest j hBounds.2).mp hSecond with ⟨hEnd, hP⟩
    exact ⟨hEnd, j, hBounds, hP⟩
  · rintro ⟨hEnd, j, hBounds, hP⟩
    exact
      ⟨j, (hTimes j).mpr hBounds,
        (hRest j hBounds.2).mpr ⟨hEnd, hP⟩⟩

end Repetition

/-
  From a place on the expressions of some pieces match up to
  the end of a value just if what is left of it splits along
  the pieces.
-/
theorem matches_pieces_iff
    (hPlain : '\n' ∉ value)
    (ps : List Piece)
    {i k : Nat}
    (hi : i ≤ value.length) :
    Regex.Matches value.toArray
        (.sequence (ps.map regex ++ [.look .textEnd])) i k ↔
      k = value.length ∧ Splits ps (value.drop i) := by
  induction ps generalizing i with
  | nil =>
      change Regex.Matches value.toArray (.look .textEnd) i k ↔ _
      rw [Regex.matches_look_iff,
        Regex.holdsAt_textEnd_iff (by simpa using hi),
        List.size_toArray, Splits, List.drop_eq_nil_iff]
      constructor
      · rintro ⟨rfl, rfl⟩
        exact ⟨rfl, Nat.le_refl _⟩
      · rintro ⟨rfl, hEnd⟩
        exact ⟨Nat.le_antisymm hi hEnd, Nat.le_antisymm hi hEnd⟩
  | cons p ps ih =>
      have hRepeated :=
        matches_anyChars_append hPlain hi fun j hj => ih hj
      rw [List.map_cons, List.cons_append,
        Regex.matches_sequence_cons]
      cases p with
      | star =>
          refine (hRepeated 0).trans ?_
          simp only [Splits, Takes, Nat.zero_le, true_and]
      | «variable» =>
          refine (hRepeated 1).trans ?_
          simp only [Splits, Takes, Nat.one_le_iff_ne_zero,
            Ne, List.length_eq_zero_iff]
      | literal c =>
          have hChar :
              ∀ j,
                Regex.Matches value.toArray
                    (regex (.literal c)) i j ↔
                  value[i]? = some c ∧ j = i + 1 := by
            intro j
            rw [← List.getElem?_toArray]
            exact Regex.matches_char_iff c
          simp only [hChar, splits_literal_iff, drop_eq_cons_iff]
          constructor
          · rintro ⟨j, ⟨hHere, rfl⟩, hRest⟩
            have hBound :=
              (List.getElem?_eq_some_iff.mp hHere).1
            rcases (ih hBound).mp hRest with ⟨hEnd, hSplits⟩
            exact ⟨hEnd, _, ⟨hHere, rfl⟩, hSplits⟩
          · rintro ⟨hEnd, left, ⟨hHere, rfl⟩, hSplits⟩
            have hBound :=
              (List.getElem?_eq_some_iff.mp hHere).1
            exact
              ⟨i + 1, ⟨hHere, rfl⟩,
                (ih hBound).mpr ⟨hEnd, hSplits⟩⟩

theorem proper_wholeRegex
    (ps : List Piece) :
    (wholeRegex ps).Proper := by
  apply Regex.Reading.proper_sequence
  intro r hr
  rcases List.mem_cons.mp hr with rfl | hr
  · trivial
  · rcases List.mem_append.mp hr with hr | hr
    · rcases List.mem_map.mp hr with ⟨p, -, rfl⟩
      cases p with
      | literal c => trivial
      | _ => exact ⟨trivial, fun m hm => by cases hm⟩
    · rw [List.mem_singleton.mp hr]
      trivial

/-
  The expression of a segment is found in the values without
  line feeds that split along its pieces.
-/
theorem isMatch_iff_splits
    (ps : List Piece)
    {s : String}
    (hPlain : '\n' ∉ s.toList) :
    (wholeRegex ps).isMatch s = true ↔ Splits ps s.toList := by
  rw [Regex.isMatch_iff (proper_wholeRegex ps)]
  simp only [wholeRegex, Regex.matches_sequence_cons,
    Regex.matches_look_iff]
  constructor
  · rintro ⟨i, hi, k, j, ⟨rfl, hStart⟩, hRest⟩
    rw [← String.length_toList] at hi
    have hSize : i ≤ s.toList.toArray.size := hi
    rw [Regex.holdsAt_textStart_iff hSize] at hStart
    subst hStart
    exact ((matches_pieces_iff hPlain ps hi).mp hRest).2
  · intro hSplits
    refine
      ⟨0, Nat.zero_le _, s.toList.length, 0, ⟨rfl, ?_⟩, ?_⟩
    · exact
        (Regex.holdsAt_textStart_iff (Nat.zero_le _)).mpr rfl
    · exact
        (matches_pieces_iff hPlain ps (Nat.zero_le _)).mpr
          ⟨rfl, hSplits⟩

end Piece

------------------------------------------------------------
-- Segments
------------------------------------------------------------

namespace Segment

variable {raw : String}
variable {ps : List Piece}

/- A text without wildcards has its characters as pieces. -/
theorem ofList?_of_plain
    {cs : List Char}
    (hStar : '*' ∉ cs)
    (hOpen : '\x7b' ∉ cs) :
    Piece.ofList? cs = some (cs.map .literal) := by
  have hPlain : ∀ c ∈ cs, Piece.isWild c = false := by
    intro c hc
    rw [Piece.isWild, Bool.or_eq_false_iff,
      decide_eq_false_iff_not, decide_eq_false_iff_not]
    exact
      ⟨ne_of_mem_of_not_mem hc hStar,
        ne_of_mem_of_not_mem hc hOpen⟩
  have hWhole := Piece.ofList?_append_of_literal hPlain []
  rwa [List.append_nil, Piece.ofList?_nil, Option.map_some,
    List.append_nil] at hWhole

theorem splits_map_literal
    (cs value : List Char) :
    Piece.Splits (cs.map .literal) value ↔ value = cs := by
  induction cs generalizing value with
  | nil => rfl
  | cons c cs ih =>
      simp only [List.map_cons, Piece.splits_literal_iff, ih]
      constructor
      · rintro ⟨left, rfl, rfl⟩
        rfl
      · rintro rfl
        exact ⟨cs, rfl, rfl⟩

/- A name in braces has a variable as its only piece. -/
theorem ofList?_of_isVariable
    {cs : List Char}
    (hVariable : isVariable cs = true) :
    Piece.ofList? cs = some [.variable] := by
  unfold isVariable at hVariable
  simp only [Bool.and_eq_true, decide_eq_true_eq] at hVariable
  rcases hVariable with ⟨⟨⟨-, hHead⟩, hLast⟩, hInside⟩
  rcases exists_between hHead hLast with ⟨name, rfl⟩
  rw [List.tail_cons, List.dropLast_concat, List.all_eq_true]
    at hInside
  have hName : '\x7d' ∉ name := by
    intro hClose
    exact absurd (hInside _ hClose) (by decide)
  rw [Piece.ofList?_variable hName, Piece.ofList?_nil]
  rfl

theorem splits_variable
    (value : List Char) :
    Piece.Splits [.variable] value ↔ value ≠ [] := by
  constructor
  · rintro ⟨taken, left, rfl, hTaken, hLeft⟩
    intro hNone
    exact hTaken (List.append_eq_nil_iff.mp hNone).1
  · intro hSome
    exact ⟨value, [], (List.append_nil _).symm, hSome, rfl⟩

theorem ofPieces_eq
    (raw : String)
    (ps : List Piece) :
    ofPieces raw ps =
      if (Piece.wholeRegex ps).fits then
        .ok (.mixed (Piece.wholeRegex ps))
      else .error (.largeSegment raw) := by
  unfold ofPieces
  rw [Piece.parse?_segmentPattern]

/- Apart from two segments of stars a segment has pieces. -/
theorem exists_pieces
    {s : Segment}
    (hParse : parse raw = .ok s)
    (hRest : raw ≠ "**")
    (hSingle : raw ≠ "*") :
    ∃ ps, Piece.ofList? raw.toList = some ps ∧
      ∀ value : String, '\n' ∉ value.toList →
        (s.accepts value = true ↔
          Piece.Splits ps value.toList) := by
  unfold parse at hParse
  dsimp only at hParse
  rw [if_neg hRest] at hParse
  split at hParse
  · rename_i hVariable
    cases hParse
    rw [Bool.or_eq_true, decide_eq_true_eq] at hVariable
    refine
      ⟨[.variable],
        ofList?_of_isVariable (hVariable.resolve_left hSingle),
        ?_⟩
    intro value _
    rw [splits_variable, accepts, Bool.not_eq_true',
      Bool.eq_false_iff, Ne, String.isEmpty_iff,
      ← String.toList_eq_nil_iff]
  · split at hParse
    · rename_i hPlain
      cases hParse
      simp only [Bool.and_eq_true, Bool.not_eq_true',
        ← Bool.not_eq_true, List.contains_iff_mem] at hPlain
      refine ⟨_, ofList?_of_plain hPlain.1 hPlain.2, ?_⟩
      intro value _
      rw [splits_map_literal, accepts, decide_eq_true_eq,
        String.toList_inj]
      exact eq_comm
    · split at hParse
      · rename_i ps hPieces
        rw [ofPieces_eq] at hParse
        split at hParse
        · cases hParse
          exact
            ⟨ps, hPieces, fun _ hPlain =>
              Piece.isMatch_iff_splits ps hPlain⟩
        · cases hParse
      · cases hParse

/- A variable that is not closed is what makes reading fail. -/
theorem parse_of_not_closed
    (hClosed : ¬Piece.Closed raw.toList) :
    parse raw = .error (.unclosedVariable raw) := by
  have hPieces : Piece.ofList? raw.toList = none := by
    rwa [← Piece.isSome_ofList?_iff, Option.not_isSome_iff_eq_none]
      at hClosed
  have hVariable : ¬isVariable raw.toList = true := by
    intro hVariable
    rw [ofList?_of_isVariable hVariable] at hPieces
    cases hPieces
  have hOpen : '\x7b' ∈ raw.toList := by
    by_contra hNone
    exact hClosed (Or.inl hNone)
  have hStars : raw ≠ "**" ∧ raw ≠ "*" := by
    constructor
    all_goals
      rintro rfl
      exact absurd hOpen (by decide)
  unfold parse
  dsimp only
  rw [if_neg hStars.1, if_neg (by simp [hStars.2, hVariable]),
    if_neg (by simp [hOpen]), hPieces]

/- Reading fails for that reason or for the size alone. -/
theorem parse_of_closed
    (hClosed : Piece.Closed raw.toList) :
    (∃ s, parse raw = .ok s) ∨
      parse raw = .error (.largeSegment raw) := by
  rcases Option.isSome_iff_exists.mp
      ((Piece.isSome_ofList?_iff raw.toList).mpr hClosed) with
    ⟨ps, hPieces⟩
  unfold parse
  dsimp only
  split
  · exact Or.inl ⟨_, rfl⟩
  · split
    · exact Or.inl ⟨_, rfl⟩
    · split
      · exact Or.inl ⟨_, rfl⟩
      · rw [hPieces]
        simp only [ofPieces_eq]
        split
        · exact Or.inl ⟨_, rfl⟩
        · exact Or.inr rfl

/-
  A segment is read in at most one round for each character
  and one more, and every offset that is used lies between
  two characters.
-/
def ReadsInPlace (raw : String) : Prop :=
  isVariableAt? raw.toList = some (isVariable raw.toList) ∧
    Piece.scan (raw.length + 1) raw.toList =
      .ofOption (Piece.ofList? raw.toList)

/- What a value has to be to be accepted. -/
def Wanted (raw value : String) : Prop :=
  if raw = "*" then value ≠ ""
  else Piece.Follows raw.toList value.toList

/-
  As long as its expression is not too large, a segment is
  read without going wrong at any offset, it can be read
  exactly if the last opening brace is closed, and apart from
  the segment for any number of segments it accepts exactly
  the values without line feeds that follow its text.
-/
theorem accepts_iff_follows
    (hSize : parse raw ≠ .error (.largeSegment raw)) :
    ReadsInPlace raw ∧
      ((∃ s, parse raw = .ok s) ↔ Piece.Closed raw.toList) ∧
      (¬Piece.Closed raw.toList →
        parse raw = .error (.unclosedVariable raw)) ∧
      ∀ s, parse raw = .ok s → raw ≠ "**" →
        ∀ value : String, '\n' ∉ value.toList →
          (s.accepts value = true ↔ Wanted raw value) := by
  refine ⟨⟨isVariableAt?_eq _, ?_⟩, ⟨?_, ?_⟩, ?_, ?_⟩
  · apply Piece.scan_eq
    rw [String.length_toList]
    exact Nat.lt_succ_self _
  · rintro ⟨s, hParse⟩
    by_contra hClosed
    rw [parse_of_not_closed hClosed] at hParse
    cases hParse
  · intro hClosed
    exact (parse_of_closed hClosed).resolve_right hSize
  · exact parse_of_not_closed
  · intro s hParse hRest value hPlain
    unfold Wanted
    split
    · rename_i hSingle
      subst hSingle
      have hOk : s = .single := by
        cases hParse
        rfl
      rw [hOk, accepts, Bool.not_eq_true', Bool.eq_false_iff,
        Ne, String.isEmpty_iff]
    · rename_i hSingle
      rcases exists_pieces hParse hRest hSingle with
        ⟨ps, hPieces, hAccepts⟩
      rw [hAccepts value hPlain,
        Piece.follows_iff_splits hPieces]

theorem accepts_iff_follows_version :
    parse "v\x7bn\x7d.*" ≠ .error (.largeSegment "v\x7bn\x7d.*") ∧
      ∃ s, parse "v\x7bn\x7d.*" = .ok s ∧
        s.accepts "v12.4" = true ∧
        Wanted "v\x7bn\x7d.*" "v12.4" ∧
        s.accepts "v.4" = false ∧
        ¬Wanted "v\x7bn\x7d.*" "v.4" := by
  have hRead :
      ((parse "v\x7bn\x7d.*").toOption.any fun s =>
        s.accepts "v12.4" && !s.accepts "v.4") = true := by
    decide +kernel
  rcases (Option.any_eq_true _ _).mp hRead with
    ⟨s, hSome, hFacts⟩
  have hParse : parse "v\x7bn\x7d.*" = .ok s := by
    cases hCase : parse "v\x7bn\x7d.*" with
    | error e =>
        rw [hCase] at hSome
        cases hSome
    | ok r =>
        rw [hCase] at hSome
        cases hSome
        rfl
  have hSize :
      parse "v\x7bn\x7d.*" ≠
        .error (.largeSegment "v\x7bn\x7d.*") := by
    rw [hParse]
    intro hError
    cases hError
  simp only [Bool.and_eq_true, Bool.not_eq_true'] at hFacts
  have hAccepts :=
    (accepts_iff_follows hSize).2.2.2 s hParse (by decide)
  refine
    ⟨hSize, s, hParse, hFacts.1,
      (hAccepts "v12.4" (by decide)).mp hFacts.1, hFacts.2,
      ?_⟩
  intro hWanted
  have hShort := (hAccepts "v.4" (by decide)).mpr hWanted
  rw [hFacts.2] at hShort
  cases hShort

end Segment

end Signpost
