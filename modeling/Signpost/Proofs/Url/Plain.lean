import Mathlib
import Signpost.Proofs.Url.Special

/-
  URLs that name a server and whose scheme is not special:
  the host is the text that was written.  No letter case is
  changed, and digits and dots alone make no address.

  Main declarations:
    * `Host.parsePlain_of_chars`
    * `Url.IsPort`
    * `Url.authorityOf_of_server`
    * `Url.parse_of_server`
-/

namespace Signpost

open Text

------------------------------------------------------------
-- Hosts
------------------------------------------------------------

/- A character that stays as it is in a plain host. -/
structure Host.PlainChar (c : Char) : Prop where
  ascii : c.toNat < 0x80
  allowed : isForbidden c = false
  visible : Url.isControl c = false

theorem Host.plainChar_of_isUnreserved
    {c : Char}
    (hPlain : Url.isUnreserved c = true) :
    PlainChar c := by
  have hAll :
      ∀ c : Char, c.toNat < 0x80 →
        Url.isUnreserved c = true →
          isForbidden c = false ∧ Url.isControl c = false :=
    forall_ascii (by decide +kernel)
  have hAscii := Url.toNat_lt_of_isUnreserved hPlain
  rcases hAll c hAscii hPlain with ⟨hAllowed, hVisible⟩
  exact ⟨hAscii, hAllowed, hVisible⟩

theorem Url.visible_of_isUnreserved
    {c : Char}
    (hPlain : Url.isUnreserved c = true) :
    0x20 < c.toNat ∧ c.toNat < 0x7F ∧ c ≠ '#' ∧ c ≠ '?' := by
  have hAll :
      ∀ c : Char, c.toNat < 0x80 →
        Url.isUnreserved c = true →
          0x20 < c.toNat ∧ c.toNat < 0x7F ∧ c ≠ '#' ∧ c ≠ '?' :=
    forall_ascii (by decide +kernel)
  exact hAll c (Url.toNat_lt_of_isUnreserved hPlain) hPlain

/- A host of such characters is read as it is written. -/
theorem Host.parsePlain_of_chars
    {cs : List Char}
    (hChars : ∀ c ∈ cs, PlainChar c) :
    parsePlain cs = .ok (.name (String.ofList cs)) := by
  unfold parsePlain
  split
  · have hBracket := (hChars '[' List.mem_cons_self).allowed
    exact absurd hBracket (by decide)
  · have hAllowed : ¬cs.any isForbidden = true := by
      rw [Bool.not_eq_true, List.any_eq_false]
      intro c hc
      simp [(hChars c hc).allowed]
    rw [if_neg hAllowed, Url.encoded_eq_ofList]
    exact fun c hc => ⟨(hChars c hc).ascii, (hChars c hc).visible⟩

namespace Url

variable {name path digits : List Char}
variable {port : Option (List Char)}
variable {scheme : String}

------------------------------------------------------------
-- Ports
------------------------------------------------------------

/- The digits of a port, with any zeros before them. -/
structure IsPort (digits : List Char) : Prop where
  some_digit : digits ≠ []
  isDigit : ∀ c ∈ digits, c.isDigit = true
  fits : Nat.ofDigitChars 10 digits 0 ≤ 0xFFFF

/- A port as it stands behind a host. -/
def portPart : Option (List Char) → List Char
| some digits => ':' :: digits
| none => []

/- A port is read to its end. -/
theorem exists_portOf
    (hPort : IsPort digits)
    (scheme : String) :
    ∃ p, portOf scheme digits = .ok (p, []) := by
  have hTake : digits.takeWhile Char.isDigit = digits :=
    List.takeWhile_eq_self_iff.mpr hPort.isDigit
  have hDrop : digits.dropWhile Char.isDigit = [] :=
    List.dropWhile_eq_nil_iff.mpr hPort.isDigit
  have hRead :
      readDigits 10 0xFFFF .tooLarge 0 digits =
        .ok (Nat.ofDigitChars 10 digits 0) :=
    (readDigits_decimal_eq_ok_iff hPort.isDigit
      (Nat.zero_le _)).mpr ⟨rfl, hPort.fits⟩
  simp only [portOf, hTake, hDrop, hRead, ne_eq,
    not_true_eq_false, false_and, if_false, List.isEmpty_iff,
    hPort.some_digit]
  split
  · exact ⟨none, rfl⟩
  · exact ⟨some _, rfl⟩

------------------------------------------------------------
-- Servers
------------------------------------------------------------

/- A name and a port, if there is one, that name a server. -/
structure IsServer
    (name : List Char)
    (port : Option (List Char)) : Prop where
  some_char : name ≠ []
  name : ∀ c ∈ name, Host.PlainChar c
  port : ∀ digits ∈ port, IsPort digits

/- No mark of a URL but the colon is in a server. -/
theorem IsServer.not_mem
    (hServer : IsServer name port)
    {mark : Char}
    (hMark : Host.isForbidden mark = true)
    (hOther : mark ≠ ':') :
    mark ∉ name ++ portPart port := by
  intro hMember
  rcases List.mem_append.mp hMember with hName | hPort
  · have hAllowed := (hServer.name mark hName).allowed
    rw [hMark] at hAllowed
    cases hAllowed
  · cases port with
    | none => cases hPort
    | some digits =>
        rcases List.mem_cons.mp hPort with hColon | hDigit
        · exact hOther hColon
        · have hDigit := (hServer.port _ rfl).isDigit mark hDigit
          have hAllowed :=
            (Host.plainChar_of_isUnreserved
              (isUnreserved_of_isDigit hDigit)).allowed
          rw [hMark] at hAllowed
          cases hAllowed

/- The host ends at the colon of the port. -/
theorem IsServer.cutPort_eq
    (hServer : IsServer name port) :
    cutPort false (name ++ portPart port) = (name, port) := by
  have hPart :
      ∀ c ∈ name,
        c ≠ '[' ∧ c ≠ ']' ∧ (c = ':' → false = true) := by
    intro c hc
    have hAllowed := (hServer.name c hc).allowed
    refine ⟨?_, ?_, ?_⟩
    all_goals
      rintro rfl
      exact absurd hAllowed (by decide)
  rw [cutPort_append hPart]
  cases port with
  | none => simp [portPart, cutPort]
  | some digits => simp [portPart, cutPort]

/- A server without a user is an authority. -/
theorem authorityOf_of_server
    (hPlain : isSpecialScheme scheme = false)
    (hServer : IsServer name port)
    (followed : Bool) :
    ∃ p,
      authorityOf scheme followed (name ++ portPart port) =
        .ok
          ({ host := .name (String.ofList name), port := p },
            []) := by
  have hUser : cutLastAt (name ++ portPart port) = none :=
    cutLastAt_eq_none (hServer.not_mem (by decide) (by decide))
  have hHost :
      hostOf scheme name = .ok (.name (String.ofList name)) := by
    rw [hostOf, if_neg (by simp [hPlain])]
    exact Host.parsePlain_of_chars hServer.name
  have hSome :
      (Host.name (String.ofList name)).isEmpty = false := by
    simp [Host.isEmpty, hServer.some_char]
  have hPort : ∃ p, readPort scheme port = .ok (p, []) := by
    cases port with
    | none => exact ⟨none, rfl⟩
    | some digits => exact exists_portOf (hServer.port _ rfl) _
  rcases hPort with ⟨p, hPort⟩
  refine ⟨p, ?_⟩
  rw [authorityOf_eq, userPart, serverPart, hUser]
  simp only [Option.map_none, Option.getD_none,
    hServer.cutPort_eq, reduceCtorEq, decide_false,
    Bool.false_and, Bool.false_eq_true, if_false, hHost, hPort,
    hSome, bind, Except.bind]
  rfl

------------------------------------------------------------
-- Texts of Plain URLs
------------------------------------------------------------

/- All of a text without blanks counts. -/
theorem significant_eq_self
    {cs : List Char}
    (hVisible : ∀ c ∈ cs, 0x20 < c.toNat) :
    significant cs = cs := by
  have hKept :
      ∀ c ∈ cs, ¬isTrimmed c = true ∧ isDropped c = false := by
    intro c hMember
    have hAbove := hVisible c hMember
    refine ⟨by simpa [isTrimmed] using hAbove, ?_⟩
    apply Bool.eq_false_iff.mpr
    intro hDropped
    have hCases : (c = '\t' ∨ c = '\n') ∨ c = '\r' := by
      simpa [isDropped] using hDropped
    rcases hCases with (rfl | rfl) | rfl
    all_goals exact absurd hAbove (by decide)
  have hFront : cs.dropWhile isTrimmed = cs :=
    List.dropWhile_eq_self_iff.mpr fun _ =>
      (hKept _ (List.getElem_mem _)).1
  have hBack : cs.reverse.dropWhile isTrimmed = cs.reverse :=
    List.dropWhile_eq_self_iff.mpr fun _ =>
      (hKept _ (List.mem_reverse.mp (List.getElem_mem _))).1
  rw [significant, hFront, hBack, List.reverse_reverse]
  apply List.filter_eq_self.mpr
  intro c hMember
  simp [(hKept c hMember).2]

/- A text without a mark is not cut there. -/
theorem cutAt_of_not_mem
    {mark : Char}
    {cs : List Char}
    (hNone : mark ∉ cs) :
    cutAt mark cs = (cs, none) := by
  rw [cutAt, cutList_eq_none hNone]

/- After a plain scheme two slashes start an authority. -/
theorem placeOf_slashes
    (hPlain : isSpecialScheme scheme = false)
    (followed : Bool)
    (cs : List Char) :
    placeOf scheme followed ('/' :: '/' :: cs) =
      afterSlashes scheme followed cs := by
  have hFile : scheme ≠ "file" := by
    rintro rfl
    exact absurd hPlain (by decide)
  rw [placeOf, if_neg hFile, if_neg (by simp [hPlain])]

/- A server ends where a path starts. -/
theorem IsServer.ends
    (hServer : IsServer name port)
    (hPath : ∀ c, path.head? = some c → c = '/') :
    (name ++ portPart port ++ path).takeWhile
        (!isSlash false ·) = name ++ portPart port ∧
      (name ++ portPart port ++ path).dropWhile
        (!isSlash false ·) = path := by
  have hInside :
      ∀ c ∈ name ++ portPart port,
        (!isSlash false c) = true := by
    intro c hc
    have hSlash : c ≠ '/' := by
      rintro rfl
      exact hServer.not_mem (by decide) (by decide) hc
    simp [isSlash, hSlash]
  rw [List.takeWhile_append_of_pos hInside,
    List.dropWhile_append_of_pos hInside]
  cases path with
  | nil => simp
  | cons c path =>
      cases hPath c rfl
      simp [isSlash]

/-
  A text with a plain scheme, two slashes and a server is
  read with this server, whatever path is behind it.
-/
theorem parse_of_server
    {s : String}
    {letters : List Char}
    (hSome : letters ≠ [])
    (hLetters : ∀ c ∈ letters, c.isAlpha = true)
    (hPlain :
      isSpecialScheme (String.ofList letters).toLower = false)
    (hServer : IsServer name port)
    (hPath : ∀ c, path.head? = some c → c = '/')
    (hText :
      s.toList =
        letters ++
          ':' :: '/' :: '/' :: (name ++ portPart port ++ path))
    (hVisible : ∀ c ∈ s.toList, 0x20 < c.toNat)
    (hMarks : ∀ mark ∈ ['#', '?'], mark ∉ s.toList) :
    ∃ u p,
      parse s = .ok u ∧
        u.scheme = (String.ofList letters).toLower ∧
        u.authority =
          some
            { host := .name (String.ofList name), port := p } := by
  have hStart :
      schemeOf (significant s.toList) =
        some ((String.ofList letters).toLower,
          '/' :: '/' :: (name ++ portPart port ++ path)) := by
    rw [significant_eq_self hVisible, hText,
      schemeOf_of_letters hSome hLetters]
  have hNone :
      ∀ mark ∈ ['#', '?'],
        mark ∉ '/' :: '/' :: (name ++ portPart port ++ path) := by
    intro mark hMark hMember
    apply hMarks mark hMark
    rw [hText]
    exact
      List.mem_append_right _ (List.mem_cons_of_mem _ hMember)
  have hEnds := hServer.ends hPath
  rcases authorityOf_of_server hPlain hServer
      (false || !path.isEmpty) with
    ⟨p, hRead⟩
  unfold parse
  simp only [hStart, cutAt_of_not_mem (hNone '#' (by simp)),
    cutAt_of_not_mem (hNone '?' (by simp)),
    placeOf_slashes hPlain, afterSlashes, hPlain, hEnds,
    Option.isSome_none, Bool.or_self, hRead, bind, Except.bind]
  exact ⟨_, p, rfl, rfl, rfl⟩

end Url

end Signpost
