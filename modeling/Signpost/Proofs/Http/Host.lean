import Signpost.Predicate.Site
import Signpost.Proofs.Failure
import Signpost.Proofs.Http.Header
import Signpost.Proofs.Http.RequestHost
import Signpost.Proofs.Text.Blank
import Signpost.Proofs.Text.Case
import Signpost.Source.Hosts

/-
  A request names its host in its target or else in its first
  host field.  Both are read differently, but the same host
  comes out of the same authority, whatever its port and its
  letter case.

  Main declarations:
    * `Http.isAuthorityChar_of_isAuthority`
    * `Http.Uri.authority_of_parse?`
    * `Http.Written` and `Http.NamesHost`
    * `Exchange.Asks` and `Exchange.host?_of_asks`
    * `Exchange.host_either_way`
-/

namespace Signpost

open Text

namespace Http

variable {cs : List Char}
variable {c : Char}

------------------------------------------------------------
-- Characters of Authorities
------------------------------------------------------------

theorem isAuthorityChar_of_step
    {s t : AuthorityScan}
    (hStep : s.step c = some t) :
    isAuthorityChar c = true := by
  by_cases hMark : c ∈ [':', '[', ']', '@', '%']
  · have hAll :
        [':', '[', ']', '@', '%'].all isAuthorityChar = true := by
      decide
    exact List.all_eq_true.mp hAll c hMark
  · have hOther :
        c ≠ ':' ∧ c ≠ '[' ∧ c ≠ ']' ∧ c ≠ '@' ∧ c ≠ '%' := by
      simpa using hMark
    obtain ⟨hColon, hOpen, hClose, hAt, hPercent⟩ := hOther
    rw [AuthorityScan.step, if_neg hColon, if_neg hOpen,
      if_neg hClose, if_neg hAt, if_neg hPercent] at hStep
    by_contra hNot
    rw [if_neg hNot] at hStep
    cases hStep

/- An authority only has characters that may stand in one. -/
theorem isAuthorityChar_of_isAuthority
    (hAuthority : isAuthority cs = true)
    (hMember : c ∈ cs) :
    isAuthorityChar c = true := by
  have hScan :
      ∀ (s t : AuthorityScan),
        cs.foldlM AuthorityScan.step s = some t →
          isAuthorityChar c = true := by
    clear hAuthority
    induction cs with
    | nil => cases hMember
    | cons d cs ih =>
        intro s t hFold
        rw [List.foldlM_cons] at hFold
        rcases Option.bind_eq_some_iff.mp hFold with
          ⟨next, hStep, hRest⟩
        rcases List.mem_cons.mp hMember with rfl | hLater
        · exact isAuthorityChar_of_step hStep
        · exact ih hLater next t hRest
  unfold isAuthority at hAuthority
  split at hAuthority
  · rename_i t hFold
    exact hScan {} t hFold
  · cases hAuthority

/- Such a character is visible and ends no authority. -/
structure Inside (c : Char) : Prop where
  readable : isReadable c = true
  not_blank : isBlank c = false
  not_ends : endsAuthority c = false

theorem inside_of_isAuthorityChar
    (hChar : isAuthorityChar c = true) :
    Inside c := by
  have hAll :
      ∀ c : Char, c.toNat < 0x80 →
        isAuthorityChar c = true →
          isReadable c = true ∧ isBlank c = false ∧
            endsAuthority c = false :=
    forall_ascii (by decide +kernel)
  have hAscii : c.toNat < 0x80 :=
    toNat_lt_of_isAlphanum_or_mark (by decide) hChar
  rcases hAll c hAscii hChar with ⟨hReadable, hBlank, hEnds⟩
  exact ⟨hReadable, hBlank, hEnds⟩

------------------------------------------------------------
-- Targets
------------------------------------------------------------

namespace Uri

theorem start_http
    (rest : List Char) :
    start ("http".toList ++ ':' :: '/' :: '/' :: rest) =
      .scheme "http" rest := by
  have hChars : "http".toList.all isSchemeChar = true := by
    decide
  have hName :
      ("http".toList ++ ':' :: '/' :: '/' :: rest).takeWhile
          isSchemeChar =
        "http".toList := by
    rw [List.takeWhile_append_of_pos
        (List.all_eq_true.mp hChars),
      List.takeWhile_cons_of_neg (by decide),
      List.append_nil]
  have hLower :
      (String.ofList "http".toList).toLower = "http" := by
    decide +kernel
  rw [start]
  simp only [hName, List.drop_left, hLower, true_or, if_true]

/- A target of a scheme starts with no slash. -/
theorem absolute?_of_parse?
    {text : String}
    {rest : List Char}
    {u : Uri}
    (hText :
      text.toList =
        "http".toList ++ ':' :: '/' :: '/' :: rest)
    (hParse : parse? text = some u) :
    absolute?
        ("http".toList ++ ':' :: '/' :: '/' :: rest) =
      some u := by
  unfold parse? at hParse
  split at hParse
  · cases hParse
  · rw [hText] at hParse
    exact hParse

/- The authority of a target is the one that it is made of. -/
theorem authority_of_parse?
    {authority path : String}
    {u : Uri}
    (hAuthority : isAuthority authority.toList = true)
    (hPath :
      ∀ c, path.toList.head? = some c →
        endsAuthority c = true)
    (hParse :
      parse? ("http://" ++ authority ++ path) = some u) :
    u.authority = some authority := by
  have hInside :
      ∀ c ∈ authority.toList, (!endsAuthority c) = true := by
    intro c hc
    have hChar := isAuthorityChar_of_isAuthority hAuthority hc
    rw [(inside_of_isAuthorityChar hChar).not_ends]
    rfl
  have hTake :
      (authority.toList ++ path.toList).takeWhile
          (!endsAuthority ·) =
        authority.toList := by
    rw [List.takeWhile_append_of_pos hInside]
    cases hRest : path.toList with
    | nil => simp
    | cons c rest =>
        have hEnds := hPath c (by rw [hRest]; rfl)
        rw [List.takeWhile_cons_of_neg (by simp [hEnds]),
          List.append_nil]
  have hText :
      ("http://" ++ authority ++ path).toList =
        "http".toList ++
          ':' :: '/' :: '/' ::
            (authority.toList ++ path.toList) := by
    simp [String.toList_append]
  have hAbsolute := absolute?_of_parse? hText hParse
  rw [absolute?, start_http] at hAbsolute
  simp only [hTake] at hAbsolute
  split at hAbsolute
  · cases hAbsolute
  · rcases Option.map_eq_some_iff.mp hAbsolute with
      ⟨parts, -, rfl⟩
    rw [String.ofList_toList]

end Uri

------------------------------------------------------------
-- Hosts of Authorities
------------------------------------------------------------

/-
  How a host is written: as it is, or in brackets, where it
  may have colons.
-/
inductive Written : List Char → List Char → Prop where
| name
    {cs : List Char}
    (some : cs ≠ [])
    (plain : ∀ c ∈ cs, c ∉ [':', '[', ']', '@']) :
    Written cs cs
| bracketed
    {cs : List Char}
    (some : cs ≠ [])
    (plain : ∀ c ∈ cs, c ∉ ['[', ']', '@']) :
    Written ('[' :: (cs ++ [']'])) cs

/- A port after its colon, or none. -/
def IsPort (cs : List Char) : Prop :=
  cs = [] ∨ ∃ digits, cs = ':' :: digits ∧ '@' ∉ digits

/- An authority of a host, with or without a port. -/
structure NamesHost (authority host : String) : Prop where
  accepted : isAuthority authority.toList = true
  parts :
    ∃ text port,
      authority.toList = text ++ port ∧
        Written text host.toList ∧ IsPort port

section Reading

variable {text host port : List Char}

/- There is no user before a host and its port. -/
theorem at_not_mem_authority
    (hText : Written text host)
    (hPort : IsPort port) :
    '@' ∉ text ++ port := by
  intro hMember
  rcases List.mem_append.mp hMember with hIn | hIn
  · cases hText with
    | name hSome hPlain => exact hPlain '@' hIn (by decide)
    | bracketed hSome hPlain =>
        have hInside : '@' ∈ host := by simpa using hIn
        exact hPlain '@' hInside (by decide)
  · rcases hPort with rfl | ⟨digits, rfl, hDigits⟩
    · cases hIn
    · exact hDigits (by simpa using hIn)

/- Such an authority starts with the host. -/
theorem startsWithHost_of_written
    (hText : Written text host)
    (hPort : IsPort port) :
    StartsWithHost (text ++ port) host := by
  cases hText with
  | name hSome hPlain =>
      refine .plain ?_ (fun hIn => hPlain ':' hIn (by decide)) ?_
      · rcases List.exists_cons_of_ne_nil hSome with
          ⟨c, cs, rfl⟩
        intro hHead
        have hOpen : '[' ∈ c :: cs :=
          List.mem_cons.mpr (.inl (Option.some.inj hHead).symm)
        exact hPlain '[' hOpen (by decide)
      · intro c hc
        rcases hPort with rfl | ⟨digits, rfl, -⟩
        · cases hc
        · exact (Option.some.inj hc).symm
  | bracketed hSome hPlain =>
      rw [List.cons_append, List.append_assoc]
      exact
        .bracketed (fun hIn => hPlain ']' hIn (by decide))
          fun c hc => (Option.some.inj hc).symm

/- The host itself has no brackets. -/
theorem bare_of_written
    (hText : Written text host) :
    Bare host host := by
  cases hText with
  | name _ hPlain =>
      exact
        bare_of_not_mem (fun hIn => hPlain '[' hIn (by decide))
          fun hIn => hPlain ']' hIn (by decide)
  | bracketed _ hPlain =>
      exact
        bare_of_not_mem (fun hIn => hPlain '[' hIn (by decide))
          fun hIn => hPlain ']' hIn (by decide)

end Reading

end Http

------------------------------------------------------------
-- Hosts of Requests
------------------------------------------------------------

namespace Exchange

open Http

variable {c : Char}
variable {cs text host port : List Char}

/-
  A request asks for a host: its target is one with an
  authority of the host, or it is a path alone and the first
  host field is such an authority with blanks around it.
-/
inductive Asks (x : Exchange) (host : String) : Prop where
| target
    {authority path : String}
    (names : NamesHost authority host)
    (ends :
      ∀ c, path.toList.head? = some c →
        endsAuthority c = true)
    (read :
      Uri.parse? ("http://" ++ authority ++ path) =
        some x.uri)
| field
    {authority before after : String}
    {value : HeaderValue}
    (names : NamesHost authority host)
    (pathOnly : x.uri.authority = none)
    (blank :
      ∀ c ∈ before.toList ++ after.toList, c = ' ' ∨ c = '\t')
    (first : (x.headers.values "host").head? = some value)
    (read :
      HeaderValue.parse? (before ++ authority ++ after) =
        some value)

/- The host in a target is that of its authority. -/
theorem host?_of_target
    {x : Exchange}
    {authority host : String}
    (hNames : NamesHost authority host)
    (hTarget : x.uri.authority = some authority) :
    x.host? = some host.toLower := by
  obtain ⟨text, port, hParts, hText, hPort⟩ := hNames.parts
  have hUser : FollowsUser authority.toList (text ++ port) :=
    ⟨at_not_mem_authority hText hPort, .inl hParts⟩
  have hHost : x.HasHost _ :=
    .target hTarget hUser (startsWithHost_of_written hText hPort)
      (bare_of_written hText)
  rw [hHost.host?_eq, String.ofList_toList]

section Field

variable {authority before after : String}

/- A text with another one before and after it. -/
theorem toList_around
    (before authority after : String) :
    (before ++ authority ++ after).toList =
      before.toList ++ (authority.toList ++ after.toList) := by
  rw [String.toList_append, String.toList_append,
    List.append_assoc]

/- A blank around an authority is readable white space. -/
theorem readable_and_blank
    (hBlank : c = ' ' ∨ c = '\t') :
    isReadable c = true ∧ isBlank c = true := by
  rcases hBlank with rfl | rfl
  all_goals decide

/- A field with an authority is read as it is written. -/
theorem readable?_of_field
    {value : HeaderValue}
    (hInside : ∀ c ∈ authority.toList, Inside c)
    (hBlank :
      ∀ c ∈ before.toList ++ after.toList, c = ' ' ∨ c = '\t')
    (hRead :
      HeaderValue.parse? (before ++ authority ++ after) =
        some value) :
    value.readable? = some (before ++ authority ++ after) := by
  apply HeaderValue.readable?_of_parse? ?_ hRead
  intro c hc
  rw [toList_around] at hc
  rcases List.mem_append.mp hc with hBefore | hc
  · have hHere := hBlank c (List.mem_append_left _ hBefore)
    exact (readable_and_blank hHere).1
  · rcases List.mem_append.mp hc with hc | hAfter
    · exact (hInside c hc).readable
    · have hHere := hBlank c (List.mem_append_right _ hAfter)
      exact (readable_and_blank hHere).1

/- The blanks around an authority are trimmed. -/
theorem trim_field
    (hInside : ∀ c ∈ authority.toList, Inside c)
    (hBlank :
      ∀ c ∈ before.toList ++ after.toList,
        c = ' ' ∨ c = '\t') :
    trim (before ++ authority ++ after).toList =
      authority.toList := by
  rw [toList_around]
  apply trim_around
  · intro c hc
    have hHere := hBlank c (List.mem_append_left _ hc)
    exact (readable_and_blank hHere).2
  · intro c hc
    have hHere := hBlank c (List.mem_append_right _ hc)
    exact (readable_and_blank hHere).2
  · intro c hc
    exact (hInside c (List.mem_of_head? hc)).not_blank
  · intro c hc
    exact (hInside c (List.mem_of_getLast? hc)).not_blank

/- The host in a host field is that of its authority. -/
theorem host?_of_field
    {x : Exchange}
    {host : String}
    {value : HeaderValue}
    (hNames : NamesHost authority host)
    (hPath : x.uri.authority = none)
    (hBlank :
      ∀ c ∈ before.toList ++ after.toList, c = ' ' ∨ c = '\t')
    (hFirst : (x.headers.values "host").head? = some value)
    (hRead :
      HeaderValue.parse? (before ++ authority ++ after) =
        some value) :
    x.host? = some host.toLower := by
  obtain ⟨text, port, hParts, hText, hPort⟩ := hNames.parts
  have hInside : ∀ c ∈ authority.toList, Inside c :=
    fun c hc =>
      inside_of_isAuthorityChar
        (isAuthorityChar_of_isAuthority hNames.accepted hc)
  have hReadable := readable?_of_field hInside hBlank hRead
  have hTrim := trim_field hInside hBlank
  rw [hParts] at hTrim
  have hStarts := startsWithHost_of_written hText hPort
  rw [← hTrim] at hStarts
  have hSome : host.toList ≠ [] := by
    cases hText with
    | name hSome _ => exact hSome
    | bracketed hSome _ => exact hSome
  have hHost : x.HasHost _ :=
    .field hPath hFirst hReadable hStarts hSome
  rw [hHost.host?_eq, String.ofList_toList]

end Field

theorem host?_of_asks
    {x : Exchange}
    {host : String}
    (hAsks : x.Asks host) :
    x.host? = some host.toLower := by
  cases hAsks with
  | target hNames hEnds hRead =>
      have hAuthority :=
        Uri.authority_of_parse? hNames.accepted hEnds hRead
      exact host?_of_target hNames hAuthority
  | field hNames hPath hBlank hFirst hRead =>
      exact host?_of_field hNames hPath hBlank hFirst hRead

/-
  Requests for one host in any letter case have that host in
  lower case, whether they name it in the target or in the
  host field and with whatever port.  A host field beside an
  authority changes nothing.  So a table of hosts lists the
  same definitions for such requests, and a predicate for
  hosts gives the same answer.
-/
theorem host_either_way
    {x y : Exchange}
    {h k : String}
    (hx : x.Asks h)
    (hy : y.Asks k)
    (hSame : h.toLower = k.toLower) :
    x.host? = some h.toLower ∧
      y.host? = x.host? ∧
      (∀ z : Exchange, z.uri.authority.isSome = true →
        ∀ headers, { z with headers }.host? = z.host?) ∧
      (∀ t : HostTable, t.source.list y = t.source.list x) ∧
      ∀ arguments p,
        hostFactory.make arguments = .ok p →
          p.evaluate y = p.evaluate x := by
  have hHost : y.host? = x.host? := by
    rw [host?_of_asks hx, host?_of_asks hy, hSame]
  refine ⟨host?_of_asks hx, hHost, ?_, ?_, ?_⟩
  · intro z hTarget headers
    obtain ⟨authority, hAuthority⟩ :=
      Option.isSome_iff_exists.mp hTarget
    simp [host?, Uri.host?, hAuthority]
  · intro t
    simp only [HostTable.source, hHost]
  · intro arguments p hMake
    rcases bind_eq_ok_iff.mp hMake with ⟨patterns, -, hHere⟩
    cases hHere
    simp only [Predicate.immediate, hHost]

/- A request whose target names an address and a port. -/
def toAddress : Exchange :=
  { uri :=
      { scheme := some "http"
        authority := some "[2001:DB8::1]:8443"
        path := "/orders"
        query := none } }

/- A request whose host field has some value. -/
def withHost (value : HeaderValue) : Exchange :=
  { headers := [(⟨"host", by decide +kernel⟩, value)] }

/- An address in brackets, in a target and in a field. -/
theorem host_either_way_address :
    ∃ value,
      HeaderValue.parse? " [2001:db8::1]\t" = some value ∧
        toAddress.Asks "2001:DB8::1" ∧
        (withHost value).Asks "2001:db8::1" ∧
        toAddress.host? = some "2001:db8::1" ∧
        (withHost value).host? = some "2001:db8::1" ∧
        ∀ t : HostTable,
          t.source.list (withHost value) =
            t.source.list toAddress := by
  have hParse :
      (HeaderValue.parse? " [2001:db8::1]\t").isSome = true := by
    decide +kernel
  obtain ⟨value, hValue⟩ := Option.isSome_iff_exists.mp hParse
  have hName : "host" = "host".toLower := by decide +kernel
  have hFirst :
      ((withHost value).headers.values "host").head? =
        some value := by
    simp [withHost, Headers.values, ← hName]
  have hWritten :
      ∀ {text} (host : List Char),
        text = '[' :: (host ++ [']']) →
          host ≠ [] →
            (∀ c ∈ host, c ∉ ['[', ']', '@']) →
              Written text host := by
    rintro text host rfl hSome hPlain
    exact .bracketed hSome hPlain
  have hTarget : toAddress.Asks "2001:DB8::1" :=
    @Asks.target _ _ "[2001:DB8::1]:8443" "/orders"
      ⟨by decide,
        "[2001:DB8::1]".toList, ":8443".toList, by decide,
        hWritten _ (by decide) (by decide) (by simp),
        Or.inr ⟨"8443".toList, by decide, by decide⟩⟩
      (by simp [endsAuthority]) (by decide +kernel)
  have hField : (withHost value).Asks "2001:db8::1" :=
    @Asks.field _ _ "[2001:db8::1]" " " "\t" value
      ⟨by decide,
        "[2001:db8::1]".toList, [], by decide,
        hWritten _ (by decide) (by decide) (by simp),
        Or.inl rfl⟩
      rfl (by simp) hFirst hValue
  have hLower : "2001:DB8::1".toLower = "2001:db8::1" := by cbv
  have hKept : "2001:db8::1".toLower = "2001:db8::1" := by cbv
  rcases
      host_either_way hTarget hField
        (hLower.trans hKept.symm) with
    ⟨hHost, hOther, -, hList, -⟩
  rw [hLower] at hHost
  exact
    ⟨value, hValue, hTarget, hField, hHost,
      hOther.trans hHost, hList⟩

end Exchange

end Signpost
