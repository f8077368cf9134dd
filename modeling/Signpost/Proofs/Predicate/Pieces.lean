import Mathlib.Data.List.Basic
import Signpost.Predicate.Glob

/-
  The pieces of a segment: when a text has them, and how a
  value splits along them.

  Main declarations:
    * `Piece.induct`
    * `Piece.Closed` and `Piece.isSome_ofList?_iff`
    * `Piece.Follows` and `Piece.follows_iff_splits`
-/

namespace Signpost

open Text

namespace Piece

variable {c : Char}
variable {cs name rest text value : List Char}
variable {ps : List Piece}

------------------------------------------------------------
-- Reading Pieces
------------------------------------------------------------

theorem ofList?_nil : ofList? [] = some [] := by
  rw [ofList?]

theorem ofList?_star
    (cs : List Char) :
    ofList? ('*' :: cs) = (ofList? cs).map (.star :: ·) := by
  rw [ofList?, if_pos rfl]

theorem ofList?_literal
    (hStar : c ≠ '*')
    (hOpen : c ≠ '\x7b')
    (cs : List Char) :
    ofList? (c :: cs) =
      (ofList? cs).map (.literal c :: ·) := by
  rw [ofList?, if_neg hStar, if_neg hOpen]

/- What is dropped from a variable is its name. -/
theorem dropWhile_variable
    (hName : '\x7d' ∉ name)
    (rest : List Char) :
    (name ++ '\x7d' :: rest).dropWhile (· ≠ '\x7d') =
      '\x7d' :: rest := by
  have hInside :
      ∀ c ∈ name, decide (c ≠ '\x7d') = true := by
    intro c hc
    exact decide_eq_true (ne_of_mem_of_not_mem hc hName)
  rw [List.dropWhile_append_of_pos hInside,
    List.dropWhile_cons_of_neg (by decide)]

/- A variable goes up to the first closing brace. -/
theorem ofList?_variable
    (hName : '\x7d' ∉ name)
    (rest : List Char) :
    ofList? ('\x7b' :: (name ++ '\x7d' :: rest)) =
      (ofList? rest).map (.variable :: ·) := by
  have hCloses :
      (name ++ '\x7d' :: rest).contains '\x7d' = true :=
    List.contains_iff_mem.mpr
      (List.mem_append_right _ List.mem_cons_self)
  rw [ofList?, if_neg (by decide), if_pos rfl, if_pos hCloses,
    dropWhile_variable hName, List.drop_one, List.tail_cons]

theorem ofList?_unclosed
    (hOpen : '\x7d' ∉ cs) :
    ofList? ('\x7b' :: cs) = none := by
  rw [ofList?, if_neg (by decide), if_pos rfl, if_neg]
  rwa [List.contains_iff_mem]

/-
  A text is empty, or it starts with a star, with a
  character that stands for itself, with a variable, or with
  a brace that is never closed.
-/
theorem induct
    {P : List Char → Prop}
    (nil : P [])
    (star : ∀ cs, P cs → P ('*' :: cs))
    (literal :
      ∀ c cs, c ≠ '*' → c ≠ '\x7b' → P cs → P (c :: cs))
    (group :
      ∀ name rest, '\x7d' ∉ name → P rest →
        P ('\x7b' :: (name ++ '\x7d' :: rest)))
    (unclosed : ∀ cs, '\x7d' ∉ cs → P ('\x7b' :: cs))
    (cs : List Char) :
    P cs := by
  induction hn : cs.length using Nat.strongRecOn
    generalizing cs with
  | ind n ih =>
      cases cs with
      | nil => exact nil
      | cons c cs =>
          rw [List.length_cons] at hn
          by_cases hStar : c = '*'
          · subst hStar
            exact star cs (ih cs.length (by omega) cs rfl)
          · by_cases hOpen : c = '\x7b'
            · subst hOpen
              by_cases hCloses : '\x7d' ∈ cs
              · rcases List.eq_append_cons_of_mem hCloses with
                  ⟨name, rest, rfl, hName⟩
                rw [List.length_append, List.length_cons] at hn
                exact
                  group name rest hName
                    (ih rest.length (by omega) rest rfl)
              · exact unclosed cs hCloses
            · exact
                literal c cs hStar hOpen
                  (ih cs.length (by omega) cs rfl)

------------------------------------------------------------
-- Closed Variables
------------------------------------------------------------

/-
  A text has no opening brace, or after the last of them
  comes a closing one.
-/
def Closed (cs : List Char) : Prop :=
  '\x7b' ∉ cs ∨
    ∃ before after, cs = before ++ '\x7d' :: after ∧
      '\x7b' ∉ after

theorem closed_cons_iff
    (hOpen : c ≠ '\x7b') :
    Closed (c :: cs) ↔ Closed cs := by
  constructor
  · rintro (hNone | ⟨before, after, hText, hAfter⟩)
    · exact Or.inl (List.not_mem_of_not_mem_cons hNone)
    · cases before with
      | nil =>
          cases hText
          exact Or.inl hAfter
      | cons b before =>
          cases hText
          exact Or.inr ⟨before, after, rfl, hAfter⟩
  · rintro (hNone | ⟨before, after, rfl, hAfter⟩)
    · refine Or.inl ?_
      rw [List.mem_cons, not_or]
      exact ⟨hOpen.symm, hNone⟩
    · exact Or.inr ⟨c :: before, after, rfl, hAfter⟩

/- What is before a closing brace is closed by it. -/
theorem closed_append_iff
    (before rest : List Char) :
    Closed (before ++ '\x7d' :: rest) ↔ Closed rest := by
  constructor
  · rintro (hNone | ⟨start, after, hText, hAfter⟩)
    · rw [List.mem_append, List.mem_cons, not_or, not_or]
        at hNone
      exact Or.inl hNone.2.2
    · rcases List.append_eq_append_iff.mp hText with
        ⟨more, -, hRest⟩ | ⟨more, -, hRest⟩
      · cases more with
        | nil =>
            cases hRest
            exact Or.inl hAfter
        | cons b more =>
            cases hRest
            exact Or.inr ⟨more, after, rfl, hAfter⟩
      · cases more with
        | nil =>
            cases hRest
            exact Or.inl hAfter
        | cons b more =>
            cases hRest
            refine Or.inl fun hOpen => hAfter ?_
            exact
              List.mem_append_right _
                (List.mem_cons_of_mem _ hOpen)
  · rintro (hNone | ⟨start, after, rfl, hAfter⟩)
    · exact Or.inr ⟨before, rest, rfl, hNone⟩
    · exact
        Or.inr
          ⟨before ++ '\x7d' :: start, after, by simp, hAfter⟩

theorem not_closed_of_not_mem
    (hOpen : '\x7d' ∉ cs) :
    ¬Closed ('\x7b' :: cs) := by
  rintro (hNone | ⟨before, after, hText, -⟩)
  · exact hNone List.mem_cons_self
  · have hCloses : '\x7d' ∈ '\x7b' :: cs := by
      rw [hText]
      exact List.mem_append_right _ List.mem_cons_self
    rcases List.mem_cons.mp hCloses with hEq | hCloses
    · cases hEq
    · exact hOpen hCloses

/- A text has pieces if all its variables are closed. -/
theorem isSome_ofList?_iff
    (cs : List Char) :
    (ofList? cs).isSome = true ↔ Closed cs := by
  induction cs using Piece.induct with
  | nil => simp [ofList?_nil, Closed]
  | star cs ih =>
      rw [ofList?_star, Option.isSome_map, ih,
        closed_cons_iff (by decide)]
  | literal c cs hStar hOpen ih =>
      rw [ofList?_literal hStar hOpen, Option.isSome_map, ih,
        closed_cons_iff hOpen]
  | group name rest hName ih =>
      rw [ofList?_variable hName, Option.isSome_map, ih]
      exact (closed_append_iff ('\x7b' :: name) rest).symm
  | unclosed cs hOpen =>
      simp [ofList?_unclosed hOpen, not_closed_of_not_mem hOpen]

------------------------------------------------------------
-- Values
------------------------------------------------------------

/-
  A value follows a text from left to right: a star takes
  any characters, a variable takes one or more, and every
  other character takes itself.
-/
inductive Follows : List Char → List Char → Prop where
| done : Follows [] []
| star
    {cs value : List Char}
    (taken : List Char)
    (rest : Follows cs value) :
    Follows ('*' :: cs) (taken ++ value)
| group
    {name cs value taken : List Char}
    (closing : '\x7d' ∉ name)
    (some : taken ≠ [])
    (rest : Follows cs value) :
    Follows ('\x7b' :: (name ++ '\x7d' :: cs)) (taken ++ value)
| literal
    {c : Char}
    {cs value : List Char}
    (noStar : c ≠ '*')
    (noOpen : c ≠ '\x7b')
    (rest : Follows cs value) :
    Follows (c :: cs) (c :: value)

/- A piece takes some characters. -/
def Takes : Piece → List Char → Prop
| .star, _ => True
| .variable, taken => taken ≠ []
| .literal c, taken => taken = [c]

/- A value splits into what each of some pieces takes. -/
def Splits : List Piece → List Char → Prop
| [], value => value = []
| p :: ps, value =>
    ∃ taken left, value = taken ++ left ∧ p.Takes taken ∧
      Splits ps left

/- How a value follows a text is seen at its start. -/
theorem Follows.start
    (hFollows : Follows text value) :
    (text = [] ∧ value = []) ∨
    (∃ cs taken left, text = '*' :: cs ∧
      value = taken ++ left ∧ Follows cs left) ∨
    (∃ name cs taken left,
      text = '\x7b' :: (name ++ '\x7d' :: cs) ∧
        '\x7d' ∉ name ∧ value = taken ++ left ∧ taken ≠ [] ∧
        Follows cs left) ∨
    (∃ c cs left, text = c :: cs ∧ c ≠ '*' ∧ c ≠ '\x7b' ∧
      value = c :: left ∧ Follows cs left) := by
  cases hFollows with
  | done => exact Or.inl ⟨rfl, rfl⟩
  | star taken hRest =>
      exact Or.inr (Or.inl ⟨_, taken, _, rfl, rfl, hRest⟩)
  | group hName hSome hRest =>
      exact
        Or.inr (Or.inr (Or.inl
          ⟨_, _, _, _, rfl, hName, rfl, hSome, hRest⟩))
  | literal hStar hOpen hRest =>
      exact
        Or.inr (Or.inr (Or.inr
          ⟨_, _, _, rfl, hStar, hOpen, rfl, hRest⟩))

theorem follows_star_iff :
    Follows ('*' :: cs) value ↔
      ∃ taken left, value = taken ++ left ∧
        Follows cs left := by
  constructor
  · intro hFollows
    rcases hFollows.start with
      ⟨hText, -⟩ | ⟨_, taken, left, hText, hValue, hRest⟩ |
        ⟨_, _, _, _, hText, -⟩ | ⟨_, _, _, hText, hStar, -⟩
    · cases hText
    · cases hText
      exact ⟨taken, left, hValue, hRest⟩
    · cases hText
    · cases hText
      exact absurd rfl hStar
  · rintro ⟨taken, left, rfl, hRest⟩
    exact .star taken hRest

theorem follows_variable_iff
    (hName : '\x7d' ∉ name) :
    Follows ('\x7b' :: (name ++ '\x7d' :: rest)) value ↔
      ∃ taken left, value = taken ++ left ∧ taken ≠ [] ∧
        Follows rest left := by
  constructor
  · intro hFollows
    rcases hFollows.start with
      ⟨hText, -⟩ | ⟨_, _, _, hText, -⟩ |
        ⟨other, after, taken, left, hText, hOther, hValue, hSome,
          hRest⟩ |
        ⟨_, _, _, hText, -, hOpen, -⟩
    · cases hText
    · cases hText
    · -- The first closing brace is in one place only.
      have hAfter :=
        congrArg (List.dropWhile (· ≠ '\x7d'))
          (List.cons.inj hText).2
      rw [dropWhile_variable hName, dropWhile_variable hOther]
        at hAfter
      cases hAfter
      exact ⟨taken, left, hValue, hSome, hRest⟩
    · cases hText
      exact absurd rfl hOpen
  · rintro ⟨taken, left, rfl, hSome, hRest⟩
    exact .group hName hSome hRest

theorem follows_literal_iff
    (hStar : c ≠ '*')
    (hOpen : c ≠ '\x7b') :
    Follows (c :: cs) value ↔
      ∃ left, value = c :: left ∧ Follows cs left := by
  constructor
  · intro hFollows
    rcases hFollows.start with
      ⟨hText, -⟩ | ⟨_, _, _, hText, -⟩ |
        ⟨_, _, _, _, hText, -⟩ |
        ⟨_, _, left, hText, -, -, hValue, hRest⟩
    · cases hText
    · cases hText
      exact absurd rfl hStar
    · cases hText
      exact absurd rfl hOpen
    · cases hText
      exact ⟨left, hValue, hRest⟩
  · rintro ⟨left, rfl, hRest⟩
    exact .literal hStar hOpen hRest

theorem splits_literal_iff
    (c : Char)
    (ps : List Piece)
    (value : List Char) :
    Splits (.literal c :: ps) value ↔
      ∃ left, value = c :: left ∧ Splits ps left := by
  constructor
  · rintro ⟨_, left, rfl, rfl, hRest⟩
    exact ⟨left, rfl, hRest⟩
  · rintro ⟨left, rfl, hRest⟩
    exact ⟨[c], left, rfl, rfl, hRest⟩

/- To follow a text is to split along its pieces. -/
theorem follows_iff_splits
    (hPieces : ofList? text = some ps)
    (value : List Char) :
    Follows text value ↔ Splits ps value := by
  induction text using Piece.induct generalizing ps value with
  | nil =>
      rw [ofList?_nil] at hPieces
      cases hPieces
      constructor
      · rintro ⟨⟩
        rfl
      · rintro rfl
        exact .done
  | star cs ih =>
      rw [ofList?_star] at hPieces
      rcases Option.map_eq_some_iff.mp hPieces with
        ⟨qs, hRest, rfl⟩
      simp only [follows_star_iff, Splits, Takes, true_and,
        ih hRest]
  | literal c cs hStar hOpen ih =>
      rw [ofList?_literal hStar hOpen] at hPieces
      rcases Option.map_eq_some_iff.mp hPieces with
        ⟨qs, hRest, rfl⟩
      simp only [follows_literal_iff hStar hOpen,
        splits_literal_iff, ih hRest]
  | group name rest hName ih =>
      rw [ofList?_variable hName] at hPieces
      rcases Option.map_eq_some_iff.mp hPieces with
        ⟨qs, hRest, rfl⟩
      simp only [follows_variable_iff hName, Splits, Takes,
        ih hRest]
  | unclosed cs hOpen =>
      rw [ofList?_unclosed hOpen] at hPieces
      cases hPieces

end Piece

end Signpost
