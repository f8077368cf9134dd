import Mathlib
import Signpost.Proofs.Url.Special

/-
  A port at the end of a special URL is the one that is
  used, unless the authority ends before it.

  Main declarations:
    * `Url.serverPart_append`
    * `Url.PortFound` and `Url.portFound`
    * `Url.port_of_authorityOf`
-/

namespace Signpost

open Text

namespace Url

variable {cs digits : List Char}
variable {scheme : String}
variable {p : Nat}

------------------------------------------------------------
-- The Server of an Authority
------------------------------------------------------------

/- What follows an authority belongs to its server. -/
theorem serverPart_append
    (cs : List Char)
    {rest : List Char}
    (hNone : '@' ∉ rest) :
    serverPart (cs ++ rest) = serverPart cs ++ rest := by
  by_cases hMark : '@' ∈ cs
  · have hLast : '@' ∈ cs.reverse := List.mem_reverse.mpr hMark
    rcases List.eq_append_cons_of_mem hLast with
      ⟨after, before, hReverse, hAfter⟩
    have hWhole :
        cs = before.reverse ++ '@' :: after.reverse := by
      rw [← List.reverse_reverse cs, hReverse]
      simp
    have hAfter : '@' ∉ after.reverse :=
      fun hMember => hAfter (List.mem_reverse.mp hMember)
    have hBoth : '@' ∉ after.reverse ++ rest :=
      fun hMember =>
        (List.mem_append.mp hMember).elim hAfter hNone
    rw [hWhole, List.append_assoc, List.cons_append,
      serverPart, serverPart, cutLastAt_append _ hBoth,
      cutLastAt_append _ hAfter]
    rfl
  · have hBoth : '@' ∉ cs ++ rest := by
      simpa using ⟨hMark, hNone⟩
    rw [serverPart, serverPart, cutLastAt_eq_none hBoth,
      cutLastAt_eq_none hMark]
    rfl

/- The server has no other characters than the authority. -/
theorem mem_of_mem_serverPart
    {c : Char}
    (hMember : c ∈ serverPart cs) :
    c ∈ cs := by
  unfold serverPart cutLastAt at hMember
  split at hMember
  · rw [Option.map_some, Option.getD_some,
      List.mem_reverse] at hMember
    exact
      List.mem_reverse.mp
        ((List.takeWhile_sublist _).subset hMember)
  · exact hMember

/- A port after its colon has no other characters. -/
theorem not_mem_port
    (hDigits : ∀ c ∈ digits, c.isDigit = true)
    {c : Char}
    (hOther : (c = ':' || c.isDigit) = false) :
    c ∉ ':' :: digits := by
  rcases Bool.or_eq_false_iff.mp hOther with ⟨hColon, hDigit⟩
  intro hMember
  rcases List.mem_cons.mp hMember with hSame | hRest
  · exact of_decide_eq_false hColon hSame
  · exact not_mem_of_all hDigits hDigit hRest

------------------------------------------------------------
-- Where the Port Is
------------------------------------------------------------

/-
  What can become of a port after a host: it is found, it is
  left behind an earlier colon, or it is taken for a part of
  the host, in which a bracket is open.
-/
inductive PortFound
    (host digits : List Char) :
    List Char × Option (List Char) → Prop where
| port : PortFound host digits (host, some digits)
| behind
    (start : List Char)
    {more : List Char}
    (hMore : ∀ c ∈ more, c ∈ host) :
    PortFound host digits (start, some (more ++ ':' :: digits))
| inside : PortFound host digits (host ++ ':' :: digits, none)

theorem PortFound.cons
    {host digits : List Char}
    {found : List Char × Option (List Char)}
    (hFound : PortFound host digits found)
    (c : Char) :
    PortFound (c :: host) digits (c :: found.1, found.2) := by
  cases hFound with
  | port => exact .port
  | behind start hMore =>
      exact
        .behind (c :: start)
          fun d hd => List.mem_cons_of_mem c (hMore d hd)
  | inside => exact .inside

/- Any other character is passed over. -/
theorem exists_cutPort_cons
    {inside : Bool}
    {c : Char}
    (hPassed : ¬(c = ':' && !inside) = true)
    (cs : List Char) :
    ∃ within,
      cutPort inside (c :: cs) =
        (c :: (cutPort within cs).1,
          (cutPort within cs).2) := by
  rw [cutPort, if_neg hPassed]
  exact ⟨_, rfl⟩

theorem portFound
    (hDigits : ∀ c ∈ digits, c.isDigit = true)
    (inside : Bool)
    (cs : List Char) :
    PortFound cs digits
      (cutPort inside (cs ++ ':' :: digits)) := by
  induction cs generalizing inside with
  | nil =>
      cases inside with
      | false =>
          rw [List.nil_append, cutPort, if_pos (by decide)]
          exact .port
      | true =>
          have hPassed :
              ∀ c ∈ ':' :: digits,
                c ≠ '[' ∧ c ≠ ']' ∧
                  (c = ':' → true = true) := by
            intro c hc
            refine ⟨?_, ?_, fun _ => rfl⟩
            all_goals
              rintro rfl
              exact not_mem_port hDigits (by decide) hc
          have hWhole := cutPort_append hPassed []
          rw [List.append_nil, cutPort, List.append_nil]
            at hWhole
          rw [List.nil_append, hWhole]
          exact .inside
  | cons c cs ih =>
      rw [List.cons_append]
      by_cases hColon : (c = ':' && !inside) = true
      · rw [cutPort, if_pos hColon]
        exact
          .behind [] fun d hd => List.mem_cons_of_mem c hd
      · rcases exists_cutPort_cons hColon (cs ++ ':' :: digits)
          with ⟨within, hStep⟩
        rw [hStep]
        exact (ih within).cons c

/- Digits behind a colon and another text are no port. -/
theorem portOf_behind
    {more : List Char}
    (hMore : '\\' ∉ more)
    (hDigits : ∀ c ∈ digits, c.isDigit = true) :
    ∃ e, portOf scheme (more ++ ':' :: digits) = .error e := by
  have hSlash : '\\' ∉ more ++ ':' :: digits := by
    intro hMember
    rcases List.mem_append.mp hMember with hHere | hRest
    · exact hMore hHere
    · exact not_mem_port hDigits (by decide) hRest
  have hSome :
      (more ++ ':' :: digits).dropWhile Char.isDigit ≠ [] := by
    intro hNone
    have hColon :=
      List.dropWhile_eq_nil_iff.mp hNone ':' (by simp)
    exact absurd hColon (by decide)
  have hFirst :
      ((more ++ ':' :: digits).dropWhile Char.isDigit).head? ≠
        some '\\' := by
    intro hFirst
    exact
      hSlash
        ((List.dropWhile_sublist _).subset
          (List.mem_of_head? hFirst))
  refine ⟨.invalidPort, ?_⟩
  simp only [portOf]
  rw [if_pos ⟨hSome, hFirst⟩]

/- No host ends in a port. -/
theorem parseDomain_inside
    (hDigits : ∀ c ∈ digits, c.isDigit = true)
    (hSome : digits ≠ [])
    (cs : List Char) :
    ∃ e, Host.parseDomain (cs ++ ':' :: digits) = .error e := by
  generalize hWhole : cs ++ ':' :: digits = whole
  unfold Host.parseDomain
  split
  · rename_i rest
    have hLast : rest.getLast? ≠ some ']' := by
      intro hLast
      have hEnd : ('[' :: rest).getLast? = some ']' := by
        rw [List.getLast?_cons, hLast]
        rfl
      rw [← hWhole, List.getLast?_append, List.getLast?_cons,
        List.getLast?_eq_some_getLast hSome, Option.getD_some,
        Option.some_or, Option.some.injEq] at hEnd
      have hMember := List.getLast_mem hSome
      rw [hEnd] at hMember
      exact not_mem_of_all hDigits (by decide) hMember
    exact
      ⟨.invalidIpv6, by rw [Host.parseBracket, if_neg hLast]⟩
  · rw [← hWhole, domainToAscii?_port cs hDigits]
    exact ⟨.idna, rfl⟩

/- The port of a special URL that is read is the one written. -/
theorem port_of_authorityOf
    {followed : Bool}
    {a : Authority}
    {extra : List Char}
    (hSpecial : isSpecialScheme scheme = true)
    (hInside : ∀ c ∈ cs, endsAuthority c = false)
    (hLimit : p ≤ 0xFFFF)
    (hRead :
      authorityOf scheme followed
          (cs ++ ':' :: Nat.toDigits 10 p) =
        .ok (a, extra)) :
    a.port.or (defaultPort? scheme) = some p := by
  have hDigits :
      ∀ c ∈ Nat.toDigits 10 p, c.isDigit = true :=
    fun _ => isDigit_of_mem_decimal
  have hMark : '@' ∉ ':' :: Nat.toDigits 10 p :=
    not_mem_port hDigits (by decide)
  rcases (authorityOf_eq_ok_iff hSpecial).mp hRead with
    ⟨-, -, hHost, hPort⟩
  rw [serverPart_append cs hMark] at hHost hPort
  have hFound := portFound hDigits false (serverPart cs)
  generalize
    cutPort false (serverPart cs ++ ':' :: Nat.toDigits 10 p) =
      found at hFound hHost hPort
  cases hFound with
  | port =>
      rw [readPort, portOf_toDigits hLimit] at hPort
      have hSame := congrArg Prod.fst (Except.ok.inj hPort)
      dsimp only at hSame
      rw [← hSame]
      split
      · rename_i hDefault
        rw [hDefault]
        rfl
      · rfl
  | @behind start more hMore =>
      have hSlash : '\\' ∉ more := by
        intro hMember
        have hEnds :=
          hInside _ (mem_of_mem_serverPart (hMore _ hMember))
        exact absurd hEnds (by decide)
      rcases @portOf_behind _ scheme _ hSlash hDigits with
        ⟨e, hError⟩
      rw [readPort, hError] at hPort
      cases hPort
  | inside =>
      rcases parseDomain_inside hDigits Nat.toDigits_ne_nil
          (serverPart cs) with
        ⟨e, hError⟩
      rw [hError] at hHost
      cases hHost

end Url

end Signpost
