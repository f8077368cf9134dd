import Signpost.Proofs.Predicate.Pieces

/-
  Reading a segment by offsets of octets.  Each offset that
  is used lies between two characters or at an end of the
  text, and each round takes at least one character, so the
  reading ends and gives the pieces of the segment.

  Main declarations:
    * `Text.Offset.split?` and `Text.Offset.split?_append`
    * `Piece.round` and `Piece.isOf_round`
    * `Piece.scan` and `Piece.scan_eq`
    * `Segment.isVariableAt?_eq`
-/

namespace Signpost

------------------------------------------------------------
-- Offsets
------------------------------------------------------------

namespace Text.Offset

variable {p : Char → Bool}
variable {d : Char}

/- The number of octets of some characters. -/
def size (cs : List Char) : Nat :=
  cs.foldr (fun c n => c.utf8Size + n) 0

/- The offset of the first character of a kind. -/
def find? (p : Char → Bool) : List Char → Option Nat
| [] => none
| c :: cs =>
    if p c then some 0 else (find? p cs).map (c.utf8Size + ·)

/-
  What is before and after an offset, if it does not lie
  within a character or beyond the end.
-/
def split? :
    Nat → List Char → Option (List Char × List Char)
| 0, cs => some ([], cs)
| _ + 1, [] => none
| n + 1, c :: cs =>
    if c.utf8Size ≤ n + 1 then
      (split? (n + 1 - c.utf8Size) cs).map fun r =>
        (c :: r.1, r.2)
    else none

@[simp] theorem size_cons
    (c : Char)
    (cs : List Char) :
    size (c :: cs) = c.utf8Size + size cs := rfl

theorem size_append
    (as bs : List Char) :
    size (as ++ bs) = size as + size bs := by
  induction as with
  | nil => exact (Nat.zero_add _).symm
  | cons a as ih =>
      rw [List.cons_append, size_cons, size_cons, ih,
        Nat.add_assoc]

theorem length_le_size
    (cs : List Char) :
    cs.length ≤ size cs := by
  induction cs with
  | nil => exact Nat.le_refl _
  | cons c cs ih =>
      have hc := c.utf8Size_pos
      rw [List.length_cons, size_cons]
      omega

/- A text can be split where some of its characters end. -/
theorem split?_append
    (as bs : List Char) :
    split? (size as) (as ++ bs) = some (as, bs) := by
  induction as with
  | nil => exact split?.eq_1 bs
  | cons a as ih =>
      obtain ⟨n, hn⟩ :=
        Nat.exists_eq_succ_of_ne_zero
          (Nat.ne_of_gt a.utf8Size_pos)
      have hSize :
          size (a :: as) = n + size as + 1 := by
        rw [size_cons]
        omega
      have hLeft :
          n + size as + 1 - a.utf8Size = size as := by
        omega
      rw [hSize, List.cons_append, split?,
        if_pos (by omega), hLeft, ih]
      rfl

theorem find?_append
    {as : List Char}
    (hBefore : ∀ a ∈ as, p a = false)
    (hHere : p d = true)
    (bs : List Char) :
    find? p (as ++ d :: bs) = some (size as) := by
  induction as with
  | nil => exact if_pos hHere
  | cons a as ih =>
      rw [List.forall_mem_cons] at hBefore
      rw [List.cons_append, find?, hBefore.1, ih hBefore.2]
      rfl

theorem find?_eq_none
    {as : List Char}
    (hNone : ∀ a ∈ as, p a = false) :
    find? p as = none := by
  induction as with
  | nil => rfl
  | cons a as ih =>
      rw [List.forall_mem_cons] at hNone
      rw [find?, hNone.1, ih hNone.2]
      rfl

end Text.Offset

------------------------------------------------------------
-- Rounds
------------------------------------------------------------

open Text

namespace Piece

variable {c : Char}
variable {cs name rest text : List Char}

/- What one round of reading comes to. -/
inductive Round where
| finished
| unclosed
| misplaced
| took (ps : List Piece) (rest : List Char)
deriving DecidableEq, Repr

/- A character ends a run of those that stand for themselves. -/
def isWild (c : Char) : Bool :=
  c = '*' || c = '\x7b'

/-
  One round: a star, a variable up to the first closing
  brace, or all characters up to the next star or opening
  brace.
-/
def round : List Char → Round
| [] => .finished
| c :: cs =>
    if c = '*' then .took [.star] cs
    else if c = '\x7b' then
      match Offset.find? (· = '\x7d') (c :: cs) with
      | none => .unclosed
      | some n =>
          match Offset.split? (n + 1) (c :: cs) with
          | none => .misplaced
          | some r => .took [.variable] r.2
    else
      let n :=
        (Offset.find? isWild (c :: cs)).getD
          (Offset.size (c :: cs))
      match Offset.split? n (c :: cs) with
      | none => .misplaced
      | some r => .took (r.1.map .literal) r.2

/- What reading in rounds comes to. -/
inductive Scanned where
| pieces (ps : List Piece)
| unclosed
| misplaced
| unfinished
deriving DecidableEq, Repr

/- Put pieces before those that are read later. -/
def Scanned.after (ps : List Piece) : Scanned → Scanned
| .pieces qs => .pieces (ps ++ qs)
| s => s

/- Read the pieces of a text in a number of rounds. -/
def scan : Nat → List Char → Scanned
| 0, _ => .unfinished
| n + 1, cs =>
    match round cs with
    | .finished => .pieces []
    | .unclosed => .unclosed
    | .misplaced => .misplaced
    | .took ps rest => (scan n rest).after ps

/- What reading comes to if it never goes wrong. -/
def Scanned.ofOption : Option (List Piece) → Scanned
| some ps => .pieces ps
| none => .unclosed

theorem after_ofOption
    (ps : List Piece)
    (o : Option (List Piece)) :
    (Scanned.ofOption o).after ps =
      Scanned.ofOption (o.map (ps ++ ·)) := by
  cases o <;> rfl

/- An opening brace does not close what comes after it. -/
theorem not_closing_of_mem
    (hName : '\x7d' ∉ name) :
    ∀ a ∈ '\x7b' :: name, decide (a = '\x7d') = false := by
  intro a ha
  refine decide_eq_false ?_
  rintro rfl
  rcases List.mem_cons.mp ha with hEq | ha
  · cases hEq
  · exact hName ha

theorem round_variable
    (hName : '\x7d' ∉ name)
    (rest : List Char) :
    round ('\x7b' :: (name ++ '\x7d' :: rest)) =
      .took [.variable] rest := by
  have hFind :
      Offset.find? (· = '\x7d')
          ('\x7b' :: (name ++ '\x7d' :: rest)) =
        some (Offset.size ('\x7b' :: name)) :=
    Offset.find?_append (not_closing_of_mem hName)
      (decide_eq_true rfl) rest
  have hSplit :
      Offset.split? (Offset.size ('\x7b' :: name) + 1)
          ('\x7b' :: (name ++ '\x7d' :: rest)) =
        some ('\x7b' :: (name ++ ['\x7d']), rest) := by
    have hSize :
        Offset.size ('\x7b' :: (name ++ ['\x7d'])) =
          Offset.size ('\x7b' :: name) + 1 := by
      rw [← List.cons_append, Offset.size_append]
      rfl
    have hWhole :=
      Offset.split?_append ('\x7b' :: (name ++ ['\x7d'])) rest
    rwa [List.cons_append, List.append_assoc,
      List.singleton_append, hSize] at hWhole
  rw [round, if_neg (by decide), if_pos rfl]
  simp only [hFind, hSplit]

theorem round_unclosed
    (hOpen : '\x7d' ∉ cs) :
    round ('\x7b' :: cs) = .unclosed := by
  rw [round, if_neg (by decide), if_pos rfl]
  simp only [Offset.find?_eq_none (not_closing_of_mem hOpen)]

/- The characters before a star or an opening brace. -/
theorem round_literal
    (hWild : isWild c = false)
    (cs : List Char) :
    ∃ text rest, c :: cs = text ++ rest ∧ text ≠ [] ∧
      (∀ a ∈ text, isWild a = false) ∧
      round (c :: cs) = .took (text.map .literal) rest := by
  have hEdges : c ≠ '*' ∧ c ≠ '\x7b' := by
    simpa [isWild] using hWild
  rw [round, if_neg hEdges.1, if_neg hEdges.2]
  by_cases hFound : ∃ d ∈ c :: cs, isWild d = true
  · obtain ⟨text, d, rest, hText, hd, hBefore⟩ :
        ∃ text d rest, c :: cs = text ++ d :: rest ∧
          isWild d = true ∧ ∀ a ∈ text, isWild a = false := by
      have hSome : ((c :: cs).find? isWild).isSome = true := by
        rw [List.find?_isSome]
        exact hFound
      rcases Option.isSome_iff_exists.mp hSome with ⟨d, hFind⟩
      rcases List.find?_eq_some_iff_append.mp hFind with
        ⟨hd, text, rest, hText, hBefore⟩
      refine ⟨text, d, rest, hText, hd, ?_⟩
      intro a ha
      simpa using hBefore a ha
    refine ⟨text, d :: rest, hText, ?_, hBefore, ?_⟩
    · rintro rfl
      cases hText
      rw [hWild] at hd
      cases hd
    · rw [hText]
      simp only [Offset.find?_append hBefore hd,
        Option.getD_some, Offset.split?_append]
  · have hNone : ∀ a ∈ c :: cs, isWild a = false := by
      intro a ha
      by_contra hWild
      exact
        hFound ⟨a, ha, Bool.of_not_eq_false hWild⟩
    refine
      ⟨c :: cs, [], (List.append_nil _).symm,
        List.cons_ne_nil c cs, hNone, ?_⟩
    have hSplit := Offset.split?_append (c :: cs) []
    rw [List.append_nil] at hSplit
    simp only [Offset.find?_eq_none hNone, Option.getD_none,
      hSplit]

theorem ofList?_append_of_literal
    (hText : ∀ a ∈ text, isWild a = false)
    (rest : List Char) :
    ofList? (text ++ rest) =
      (ofList? rest).map (text.map .literal ++ ·) := by
  induction text with
  | nil => simp
  | cons a text ih =>
      rw [List.forall_mem_cons] at hText
      have hEdges : a ≠ '*' ∧ a ≠ '\x7b' := by
        simpa [isWild] using hText.1
      rw [List.cons_append, ofList?_literal hEdges.1 hEdges.2,
        ih hText.2, Option.map_map]
      rfl

/-
  A round is right about a text: it takes the first pieces of
  the text off and leaves less of it, or it finds a variable
  that is not closed, and no offset is out of place.
-/
def Round.IsOf (cs : List Char) : Round → Prop
| .finished => cs = []
| .unclosed => ofList? cs = none
| .misplaced => False
| .took ps rest =>
    rest.length < cs.length ∧
      ofList? cs = (ofList? rest).map (ps ++ ·)

theorem isOf_round
    (cs : List Char) :
    (round cs).IsOf cs := by
  induction cs using Piece.induct with
  | nil => rfl
  | star cs _ =>
      rw [round, if_pos rfl]
      exact ⟨Nat.lt_succ_self _, ofList?_star cs⟩
  | literal c cs hStar hOpen _ =>
      have hWild : isWild c = false := by
        simp [isWild, hStar, hOpen]
      rcases round_literal hWild cs with
        ⟨text, rest, hText, hSome, hPlain, hRound⟩
      have hTaken := List.length_pos_iff.mpr hSome
      rw [hRound, hText]
      refine ⟨?_, ofList?_append_of_literal hPlain rest⟩
      rw [List.length_append]
      omega
  | group name rest hName _ =>
      rw [round_variable hName]
      refine ⟨?_, ofList?_variable hName rest⟩
      rw [List.length_cons, List.length_append, List.length_cons]
      omega
  | unclosed cs hOpen =>
      rw [round_unclosed hOpen]
      exact ofList?_unclosed hOpen

/-
  Reading by offsets goes wrong nowhere: with a round more
  than there are characters it gives the pieces of the text,
  or that a variable is not closed.
-/
theorem scan_eq
    {n : Nat}
    (hRounds : cs.length < n) :
    scan n cs = .ofOption (ofList? cs) := by
  induction n generalizing cs with
  | zero => exact absurd hRounds (Nat.not_lt_zero _)
  | succ n ih =>
      have hIsOf := isOf_round cs
      rw [scan]
      cases hRound : round cs with
      | finished =>
          rw [hRound, Round.IsOf] at hIsOf
          rw [hIsOf, ofList?_nil]
          rfl
      | unclosed =>
          rw [hRound, Round.IsOf] at hIsOf
          rw [hIsOf]
          rfl
      | misplaced =>
          rw [hRound] at hIsOf
          exact hIsOf.elim
      | took ps rest =>
          rw [hRound] at hIsOf
          have hEnough : rest.length < n :=
            Nat.lt_of_lt_of_le hIsOf.1 (Nat.le_of_lt_succ hRounds)
          dsimp only
          rw [ih hEnough, after_ofOption, hIsOf.2]

end Piece

------------------------------------------------------------
-- Variables
------------------------------------------------------------

namespace Segment

/-
  Whether a text is a variable, by offsets: what is between
  its first and its last octet has no brace.
-/
def isVariableAt? (cs : List Char) : Option Bool :=
  if 2 < Offset.size cs && cs.head? = some '\x7b' &&
      cs.getLast? = some '\x7d' then
    (Offset.split? 1 cs).bind fun r =>
      (Offset.split? (Offset.size cs - 2) r.2).map fun s =>
        s.1.all fun c => c ≠ '\x7b' && c ≠ '\x7d'
  else some false

/- The braces of a text with more between them. -/
theorem exists_between
    {cs : List Char}
    (hHead : cs.head? = some '\x7b')
    (hLast : cs.getLast? = some '\x7d') :
    ∃ name, cs = '\x7b' :: (name ++ ['\x7d']) := by
  cases cs with
  | nil => cases hHead
  | cons c cs =>
      cases hHead
      rcases List.getLast?_eq_some_iff.mp hLast with
        ⟨before, hText⟩
      cases before with
      | nil => cases hText
      | cons b before =>
          cases hText
          exact ⟨before, rfl⟩

theorem isVariableAt?_eq
    (cs : List Char) :
    isVariableAt? cs = some (isVariable cs) := by
  unfold isVariableAt? isVariable
  by_cases hEnds :
      cs.head? = some '\x7b' ∧ cs.getLast? = some '\x7d'
  · rcases exists_between hEnds.1 hEnds.2 with ⟨name, rfl⟩
    have hSize :
        Offset.size ('\x7b' :: (name ++ ['\x7d'])) =
          Offset.size name + 2 := by
      rw [Offset.size_cons, Offset.size_append]
      change 1 + (Offset.size name + (1 + 0)) = _
      omega
    have hFirst :
        Offset.split? 1 ('\x7b' :: (name ++ ['\x7d'])) =
          some (['\x7b'], name ++ ['\x7d']) :=
      Offset.split?_append ['\x7b'] (name ++ ['\x7d'])
    have hLength := Offset.length_le_size name
    have hNone : Offset.size name = 0 ↔ name.length = 0 := by
      constructor
      · omega
      · intro hEmpty
        rw [List.length_eq_zero_iff.mp hEmpty]
        rfl
    rw [hSize, hEnds.1, hEnds.2, hFirst]
    simp only [Nat.add_sub_cancel, Option.bind_some,
      Offset.split?_append, List.length_cons,
      List.length_append, List.length_nil, List.tail_cons,
      List.dropLast_concat, Option.map_some, decide_true,
      Bool.and_true]
    by_cases hSome : name.length = 0
    · simp [hSome, hNone.mpr hSome]
    · have hMore : Offset.size name ≠ 0 := mt hNone.mp hSome
      have hOctets : 2 < Offset.size name + 2 := by omega
      have hChars : 2 < name.length + (0 + 1) + 1 := by omega
      simp [hOctets, hChars]
  · rw [not_and_or] at hEnds
    rcases hEnds with hHead | hLast
    · simp [hHead]
    · simp [hLast]

end Segment

end Signpost
