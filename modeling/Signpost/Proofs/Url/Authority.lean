import Mathlib
import Signpost.Proofs.Failure
import Signpost.Proofs.Text.Split
import Signpost.Proofs.Url.Host
import Signpost.Url.Reader

/-
  The authority of a special URL is read back from its text.

  Main declarations:
    * `Url.authorityOf_eq`
    * `Authority.Stable`
    * `Authority.stable_of_authorityOf`
    * `Authority.Stable.mem_text`
    * `Authority.Stable.authorityOf_text`
-/

namespace Signpost

open Text

------------------------------------------------------------
-- User Names and Passwords
------------------------------------------------------------

namespace Url

variable {c : Char}
variable {cs rest : List Char}
variable {scheme : String}

/- A character that stays as it is in a user name. -/
def IsUserPart (c : Char) : Prop :=
  c.toNat < 0x80 ∧ inUserSet c = false

/- Encoded characters are a percent sign and two digits. -/
theorem isUserPart_of_mem_percentOctet
    {b : UInt8}
    (hMember : c ∈ percentOctet b) :
    IsUserPart c := by
  have hDigits :
      ∀ n < 16,
        (upperHexDigit n).toNat < 0x80 ∧
          inUserSet (upperHexDigit n) = false := by
    decide +kernel
  have hByte := b.toNat_lt
  simp only [percentOctet, List.mem_cons, List.not_mem_nil,
    or_false] at hMember
  rcases hMember with rfl | rfl | rfl
  · exact ⟨by decide, by decide +kernel⟩
  · exact hDigits _ (by omega)
  · exact hDigits _ (by omega)

/- An encoded user name needs no more encoding. -/
theorem isUserPart_of_mem_encoded
    (hMember : c ∈ (encoded inUserSet cs).toList) :
    IsUserPart c := by
  rw [encoded, String.toList_ofList, percentEncode,
    List.mem_flatMap] at hMember
  rcases hMember with ⟨d, -, hMember⟩
  split at hMember
  · rename_i hKept
    cases List.mem_singleton.mp hMember
    simpa [IsUserPart] using hKept
  · rcases List.mem_flatMap.mp hMember with ⟨b, -, hMember⟩
    exact isUserPart_of_mem_percentOctet hMember

/- The parts of a user are encoded, whatever they were. -/
theorem isUserPart_of_userOf
    {username password : String}
    (hUser : userOf cs = (username, password)) :
    (∀ c ∈ username.toList, IsUserPart c) ∧
      ∀ c ∈ password.toList, IsUserPart c := by
  unfold userOf at hUser
  split at hUser
  · cases hUser
    exact
      ⟨fun _ => isUserPart_of_mem_encoded,
        fun _ => isUserPart_of_mem_encoded⟩
  · cases hUser
    exact ⟨fun _ => isUserPart_of_mem_encoded, by simp⟩

------------------------------------------------------------
-- The Last Mark
------------------------------------------------------------

theorem cutLastAt_eq_none
    (hNone : '@' ∉ cs) :
    cutLastAt cs = none := by
  simp [cutLastAt, hNone]

/- A text is cut at the mark that nothing with marks follows. -/
theorem cutLastAt_append
    (cs : List Char)
    (hNone : '@' ∉ rest) :
    cutLastAt (cs ++ '@' :: rest) = some (cs, rest) := by
  have hOthers :
      ∀ c ∈ rest.reverse, (c ≠ '@' : Bool) = true := by
    intro c hc
    apply decide_eq_true
    rintro rfl
    exact hNone (List.mem_reverse.mp hc)
  have hReverse :
      (cs ++ '@' :: rest).reverse =
        rest.reverse ++ '@' :: cs.reverse := by
    simp
  rw [cutLastAt, if_pos (by simp), hReverse,
    List.dropWhile_append_of_pos hOthers,
    List.takeWhile_append_of_pos hOthers]
  simp

------------------------------------------------------------
-- Ports
------------------------------------------------------------

/- A host is passed over when its port is searched. -/
theorem cutPort_append
    {inside : Bool}
    (hPart :
      ∀ c ∈ cs,
        c ≠ '[' ∧ c ≠ ']' ∧ (c = ':' → inside = true))
    (rest : List Char) :
    cutPort inside (cs ++ rest) =
      (cs ++ (cutPort inside rest).1,
        (cutPort inside rest).2) := by
  induction cs with
  | nil => rfl
  | cons c cs ih =>
      rcases List.forall_mem_cons.mp hPart with
        ⟨⟨hOpen, hClose, hColon⟩, hRest⟩
      have hPassed : ¬(c = ':' && !inside) = true := by
        simpa using hColon
      rw [List.cons_append, cutPort, if_neg hPassed]
      simp [hOpen, hClose, ih hRest]

/- A port that is read is not that of the scheme. -/
theorem portOf_spec
    {p : Nat}
    {extra : List Char}
    (hPort : portOf scheme cs = .ok (some p, extra)) :
    p ≤ 0xFFFF ∧ defaultPort? scheme ≠ some p := by
  unfold portOf at hPort
  dsimp only at hPort
  split at hPort
  · cases hPort
  · split at hPort
    · cases hPort
    · split at hPort
      · cases hPort
      · rename_i n hDigits
        split at hPort
        · cases hPort
        · rename_i hOther
          cases hPort
          exact ⟨readDigits_le (Nat.zero_le _) hDigits, hOther⟩

/- Such a port is read from its digits. -/
theorem portOf_toDigits
    {p : Nat}
    (hLimit : p ≤ 0xFFFF) :
    portOf scheme (Nat.toDigits 10 p) =
      .ok
        (if defaultPort? scheme = some p then none else some p,
          []) := by
  have hAll :
      ∀ c ∈ Nat.toDigits 10 p, c.isDigit = true :=
    fun _ => isDigit_of_mem_decimal
  have hDigits :
      (Nat.toDigits 10 p).takeWhile Char.isDigit =
        Nat.toDigits 10 p :=
    List.takeWhile_eq_self_iff.mpr hAll
  have hRest :
      (Nat.toDigits 10 p).dropWhile Char.isDigit = [] :=
    List.dropWhile_eq_nil_iff.mpr hAll
  have hRead :
      readDigits 10 0xFFFF .tooLarge 0 (Nat.toDigits 10 p) =
        .ok p :=
    readDigits_toDigits .tooLarge (by decide) (by decide) hLimit
  simp only [portOf, hDigits, hRest, hRead, ne_eq,
    not_true_eq_false, false_and, if_false, List.isEmpty_iff,
    Nat.toDigits_ne_nil]
  split
  · rfl
  · rfl

------------------------------------------------------------
-- Authorities
------------------------------------------------------------

/- The user that an authority starts with. -/
def userPart (cs : List Char) : List Char :=
  ((cutLastAt cs).map Prod.fst).getD []

/- The host and the port of an authority. -/
def serverPart (cs : List Char) : List Char :=
  ((cutLastAt cs).map Prod.snd).getD cs

/- The port after a host, if there is one. -/
def readPort
    (scheme : String) :
    Option (List Char) →
      Except UrlError (Option Nat × List Char)
| some cs => portOf scheme cs
| none => .ok (none, [])

/- Reading an authority step by step. -/
theorem authorityOf_eq
    (scheme : String)
    (followed : Bool)
    (cs : List Char) :
    authorityOf scheme followed cs =
      if (cutLastAt cs).map Prod.fst = some [] &&
          (serverPart cs).isEmpty && followed then
        .error .emptyHost
      else
        hostOf scheme (cutPort false (serverPart cs)).1 >>=
          fun host =>
            if host.isEmpty &&
                (cutPort false (serverPart cs)).2.isSome then
              .error .emptyHost
            else
              readPort scheme
                  (cutPort false (serverPart cs)).2 >>=
                fun port =>
                  let user := userOf (userPart cs)
                  if host.isEmpty &&
                      !(user.1.isEmpty && user.2.isEmpty) then
                    .error .emptyHost
                  else
                    .ok
                      ({ username := user.1
                         password := user.2
                         host
                         port := port.1 }, port.2) := by
  unfold authorityOf serverPart userPart
  cases hCut : cutLastAt cs with
  | none =>
      simp only [Option.map_none, Option.getD_none]
      cases (cutPort false cs).2 <;> rfl
  | some cut =>
      simp only [Option.map_some, Option.getD_some]
      cases (cutPort false cut.2).2 <;> rfl

/- The host that is read is that of the server. -/
theorem host_of_authorityOf
    {followed : Bool}
    {a : Authority}
    {extra : List Char}
    (hRead : authorityOf scheme followed cs = .ok (a, extra)) :
    hostOf scheme (cutPort false (serverPart cs)).1 =
        .ok a.host ∧
      (a.host.isEmpty = true →
        (cutPort false (serverPart cs)).2 = none) := by
  rw [authorityOf_eq] at hRead
  split at hRead
  · cases hRead
  · rcases bind_eq_ok_iff.mp hRead with ⟨h, hHost, hRest⟩
    split at hRest
    · cases hRest
    · rename_i hNoPort
      rcases bind_eq_ok_iff.mp hRest with ⟨port, -, hMade⟩
      simp only at hMade
      split at hMade
      · cases hMade
      · cases hMade
        refine ⟨hHost, ?_⟩
        intro hEmpty
        simpa [hEmpty] using hNoPort

section Special

variable {followed : Bool}
variable {h : Host}

theorem hostOf_eq_ok_iff
    (hScheme : isSpecialScheme scheme = true) :
    hostOf scheme cs = .ok h ↔
      cs ≠ [] ∧ Host.parseDomain cs = .ok h := by
  rw [hostOf, if_pos hScheme]
  cases cs with
  | nil => simp
  | cons c cs => simp

/- Once the host is read, nothing but the port can fail. -/
theorem authorityOf_of_host
    (hScheme : isSpecialScheme scheme = true)
    (hHost :
      hostOf scheme (cutPort false (serverPart cs)).1 = .ok h) :
    authorityOf scheme followed cs =
      (readPort scheme (cutPort false (serverPart cs)).2).map
        fun port =>
          ({ username := (userOf (userPart cs)).1
             password := (userOf (userPart cs)).2
             host := h
             port := port.1 }, port.2) := by
  rcases (hostOf_eq_ok_iff hScheme).mp hHost with
    ⟨hSome, hRead⟩
  have hNotEmpty : h.isEmpty = false :=
    (Host.special_of_parseDomain hRead).isEmpty_eq_false
  have hServer : (serverPart cs).isEmpty = false := by
    cases hText : serverPart cs with
    | nil => simp [hText, cutPort] at hSome
    | cons c rest => rfl
  rw [authorityOf_eq, hHost, hServer]
  simp only [Bool.and_false, Bool.false_and, Bool.false_eq_true,
    if_false, bind, Except.bind, hNotEmpty]
  cases readPort scheme (cutPort false (serverPart cs)).2 <;> rfl

/-
  The authority of a special URL is a user, a host and a
  port, whether anything follows it or not.
-/
theorem authorityOf_eq_ok_iff
    (hScheme : isSpecialScheme scheme = true)
    {a : Authority}
    {extra : List Char} :
    authorityOf scheme followed cs = .ok (a, extra) ↔
      userOf (userPart cs) = (a.username, a.password) ∧
        (cutPort false (serverPart cs)).1 ≠ [] ∧
        Host.parseDomain (cutPort false (serverPart cs)).1 =
          .ok a.host ∧
        readPort scheme (cutPort false (serverPart cs)).2 =
          .ok (a.port, extra) := by
  constructor
  · intro hRead
    obtain ⟨h, hHost⟩ :
        ∃ h,
          hostOf scheme (cutPort false (serverPart cs)).1 =
            .ok h :=
      ⟨a.host, (host_of_authorityOf hRead).1⟩
    rw [authorityOf_of_host hScheme hHost] at hRead
    rcases (hostOf_eq_ok_iff hScheme).mp hHost with
      ⟨hSome, hDomain⟩
    cases hPort :
        readPort scheme (cutPort false (serverPart cs)).2 with
    | error e => simp [hPort, Except.map] at hRead
    | ok port =>
        rw [hPort] at hRead
        cases hRead
        exact ⟨rfl, hSome, hDomain, rfl⟩
  · rintro ⟨hUser, hSome, hDomain, hPort⟩
    have hHost :=
      (hostOf_eq_ok_iff hScheme).mpr ⟨hSome, hDomain⟩
    rw [authorityOf_of_host hScheme hHost, hPort, hUser]
    rfl

theorem authorityOf_followed
    (hScheme : isSpecialScheme scheme = true)
    {answer : Authority × List Char}
    (hRead : authorityOf scheme followed cs = .ok answer)
    (other : Bool) :
    authorityOf scheme other cs = .ok answer :=
  (authorityOf_eq_ok_iff hScheme).mpr
    ((authorityOf_eq_ok_iff hScheme).mp hRead)

end Special

end Url

------------------------------------------------------------
-- Reading Them Back
------------------------------------------------------------

namespace Authority

open Url

variable {a : Authority}
variable {scheme : String}
variable {c : Char}

/- An authority that a special scheme leaves as it is. -/
structure Stable (scheme : String) (a : Authority) : Prop where
  username : ∀ c ∈ a.username.toList, IsUserPart c
  password : ∀ c ∈ a.password.toList, IsUserPart c
  host : a.host.Special
  port :
    ∀ p, a.port = some p →
      p ≤ 0xFFFF ∧ defaultPort? scheme ≠ some p

theorem stable_of_authorityOf
    {followed : Bool}
    {cs extra : List Char}
    (hScheme : isSpecialScheme scheme = true)
    (hRead : authorityOf scheme followed cs = .ok (a, extra)) :
    a.Stable scheme := by
  rcases (authorityOf_eq_ok_iff hScheme).mp hRead with
    ⟨hUser, -, hHost, hPort⟩
  have hParts := isUserPart_of_userOf hUser
  refine
    ⟨hParts.1, hParts.2, Host.special_of_parseDomain hHost, ?_⟩
  intro p hp
  rw [hp] at hPort
  unfold readPort at hPort
  split at hPort
  · exact portOf_spec hPort
  · cases hPort

/- The host and the port of an authority. -/
def server (a : Authority) : List Char :=
  a.host.text.toList ++ a.portText.toList

/- The user name and the password, if there is one. -/
def user (a : Authority) : List Char :=
  if a.password.isEmpty then a.username.toList
  else a.username.toList ++ ':' :: a.password.toList

theorem toList_text
    (a : Authority) :
    a.text.toList =
      if a.user = [] then a.server
      else a.user ++ '@' :: a.server := by
  unfold text userText user server
  by_cases hPassword : a.password = ""
  · by_cases hName : a.username = ""
    · simp [hPassword, hName]
    · simp [hPassword, hName]
  · simp [hPassword]

theorem Stable.text_ne_nil
    (hStable : a.Stable scheme) :
    a.text.toList ≠ [] := by
  have hHost := hStable.host.text_ne_nil
  rw [toList_text, server]
  split
  · simp [hHost]
  · simp

theorem mem_server
    (hHost : a.host.Special)
    (hMember : c ∈ a.server) :
    c = '[' ∨ c = ']' ∨ c = ':' ∨ isDenied c = false := by
  rcases List.mem_append.mp hMember with hHere | hPort
  · exact hHost.mem_text hHere
  · unfold portText at hPort
    split at hPort
    · rename_i p _
      have hDigits :
          c = ':' ∨ c ∈ Nat.toDigits 10 p := by
        simpa [String.toList_append] using hPort
      rcases hDigits with hColon | hDigit
      · exact .inr (.inr (.inl hColon))
      · have hDigit := isDigit_of_mem_decimal hDigit
        exact
          .inr (.inr (.inr
            (isNamePart_of_numeric (.inl hDigit)).allowed))
    · simp at hPort

/- The characters that the text of an authority has. -/
theorem Stable.mem_text
    (hStable : a.Stable scheme)
    (hMember : c ∈ a.text.toList) :
    IsUserPart c ∨ c ∈ [':', '@', '[', ']'] ∨
      isDenied c = false := by
  have hServer :
      c ∈ a.server →
        IsUserPart c ∨ c ∈ [':', '@', '[', ']'] ∨
          isDenied c = false := by
    intro hMember
    rcases mem_server hStable.host hMember with
      rfl | rfl | rfl | hAllowed
    · simp
    · simp
    · simp
    · exact .inr (.inr hAllowed)
  have hUser :
      c ∈ a.user → IsUserPart c ∨ c = ':' := by
    intro hMember
    unfold user at hMember
    split at hMember
    · exact .inl (hStable.username c hMember)
    · rcases List.mem_append.mp hMember with hName | hRest
      · exact .inl (hStable.username c hName)
      · rcases List.mem_cons.mp hRest with hColon | hPassword
        · exact .inr hColon
        · exact .inl (hStable.password c hPassword)
  rw [toList_text] at hMember
  split at hMember
  · exact hServer hMember
  · rcases List.mem_append.mp hMember with hMember | hRest
    · rcases hUser hMember with hPart | rfl
      · exact .inl hPart
      · simp
    · rcases List.mem_cons.mp hRest with rfl | hMember
      · simp
      · exact hServer hMember

end Authority

end Signpost
