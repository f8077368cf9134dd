import Mathlib
import Signpost.Proofs.Gateway.Address
import Signpost.Proofs.Url.Port

/-
  A request is sent to the port of the instance selected for
  it, unless the text of the host ends before the port.

  Main declarations:
    * `ServiceInstance.endsEarly`
    * `ServiceInstance.port_of_url`
    * `ServiceInstance.effectivePort?_of_endsEarly`
    * `Gateway.route_port`
-/

namespace Signpost

open Text
open Url

------------------------------------------------------------
-- Instances
------------------------------------------------------------

namespace ServiceInstance

variable {i : ServiceInstance}
variable {u : Url}

/- The digits of the port of an instance. -/
def portDigits (i : ServiceInstance) : List Char :=
  Nat.toDigits 10 i.port.toNat

/- The host of an instance as a URL has it. -/
def writtenHost (i : ServiceInstance) : List Char :=
  (i.bracketedHost.toList.filter (!isDropped ·)).dropWhile
    (isSlash true)

/- The host of an instance ends before its port. -/
def endsEarly (i : ServiceInstance) : Bool :=
  i.writtenHost.any endsAuthority

theorem toList_uri
    (i : ServiceInstance) :
    i.uri.toList =
      i.scheme.toList ++
        ':' :: '/' :: '/' ::
          (i.bracketedHost.toList ++ ':' :: i.portDigits) := by
  simp [uri, address, portDigits, String.toList_append]

theorem isDigit_of_mem_portDigits
    {c : Char}
    (hMember : c ∈ i.portDigits) :
    c.isDigit = true :=
  isDigit_of_mem_decimal hMember

/- A digit is a part of the authority wherever it stands. -/
theorem kept_of_isDigit
    {c : Char}
    (hDigit : c.isDigit = true) :
    endsAuthority c = false ∧ isTrimmed c = false ∧
      isDropped c = false := by
  have hPart := isNamePart_of_numeric (.inl hDigit)
  rcases not_endsAuthority_of_allowed hPart.allowed with
    ⟨hInside, hKept⟩
  exact ⟨hInside, Bool.or_eq_false_iff.mp hKept⟩

/- Nothing is trimmed of the uri of an instance. -/
theorem significant_uri
    (i : ServiceInstance) :
    significant i.uri.toList =
      i.uri.toList.filter (!isDropped ·) := by
  have hScheme : ∃ rest, i.scheme.toList = 'h' :: rest := by
    unfold scheme
    cases i.secure with
    | true => exact ⟨"ttps".toList, by decide⟩
    | false => exact ⟨"ttp".toList, by decide⟩
  rcases hScheme with ⟨rest, hScheme⟩
  rcases List.eq_nil_or_concat' i.portDigits with
    hNone | ⟨before, d, hDigits⟩
  · exact absurd hNone Nat.toDigits_ne_nil
  · have hLast : d.isDigit = true := by
      apply isDigit_of_mem_portDigits
      rw [hDigits]
      simp
    have hText :
        i.uri.toList =
          'h' ::
            ((rest ++ ':' :: '/' :: '/' ::
              (i.bracketedHost.toList ++ ':' :: before)) ++
                [d]) := by
      rw [toList_uri, hScheme, hDigits]
      simp
    rw [hText]
    exact
      significant_eq_filter (by decide)
        (kept_of_isDigit hLast).2.1 _

/- What follows the scheme when the uri is read. -/
theorem schemeOf_uri
    (i : ServiceInstance) :
    schemeOf (significant i.uri.toList) =
      some (i.scheme,
        '/' :: '/' ::
          (i.bracketedHost.toList.filter (!isDropped ·) ++
            ':' :: i.portDigits)) := by
  have hSpecial := i.special_scheme.1
  have hScheme :
      i.scheme.toList.filter (!isDropped ·) =
        i.scheme.toList := by
    unfold scheme
    cases i.secure with
    | true => decide
    | false => decide
  have hDigits :
      i.portDigits.filter (!isDropped ·) = i.portDigits := by
    apply List.filter_eq_self.mpr
    intro c hc
    simp [(kept_of_isDigit (isDigit_of_mem_portDigits hc)).2.2]
  have hMarks :
      isDropped ':' = false ∧ isDropped '/' = false := by
    decide
  rw [significant_uri, toList_uri, List.filter_append, hScheme]
  simp [hMarks, hDigits, schemeOf_special hSpecial]

/- The characters that are read as the authority. -/
def readAuthority (i : ServiceInstance) : List Char :=
  if i.endsEarly then
    i.writtenHost.takeWhile (!endsAuthority ·)
  else i.writtenHost ++ ':' :: i.portDigits

theorem authorityText_uri
    (i : ServiceInstance) :
    authorityText
        ('/' :: '/' ::
          (i.bracketedHost.toList.filter (!isDropped ·) ++
            ':' :: i.portDigits)) =
      i.readAuthority := by
  have hPort :
      ∀ c ∈ ':' :: i.portDigits, (!endsAuthority c) = true := by
    intro c hc
    rcases List.mem_cons.mp hc with rfl | hDigit
    · decide
    · have hDigit := isDigit_of_mem_portDigits hDigit
      simp [(kept_of_isDigit hDigit).1]
  have hDrop :
      (i.bracketedHost.toList.filter (!isDropped ·) ++
          ':' :: i.portDigits).dropWhile (isSlash true) =
        i.writtenHost ++ ':' :: i.portDigits := by
    rw [writtenHost, List.dropWhile_append,
      List.dropWhile_cons_of_neg (by decide)]
    split
    · rename_i hNone
      rw [List.isEmpty_iff.mp hNone, List.nil_append]
    · rfl
  rw [authorityText, List.dropWhile_cons_of_pos (by decide),
    List.dropWhile_cons_of_pos (by decide), hDrop,
    readAuthority]
  cases hEarly : i.endsEarly with
  | true =>
      have hShort :
          (i.writtenHost.takeWhile
              (!endsAuthority ·)).length ≠
            i.writtenHost.length := by
        intro hLength
        have hSame :=
          (List.takeWhile_prefix _).eq_of_length hLength
        rcases List.any_eq_true.mp hEarly with ⟨c, hc, hEnds⟩
        have hInside :=
          List.takeWhile_eq_self_iff.mp hSame c hc
        rw [hEnds] at hInside
        cases hInside
      rw [List.takeWhile_append, if_neg hShort, if_pos rfl]
  | false =>
      have hHost :
          ∀ c ∈ i.writtenHost, (!endsAuthority c) = true := by
        simpa [endsEarly] using hEarly
      rw [List.takeWhile_append_of_pos hHost,
        List.takeWhile_eq_self_iff.mpr hPort,
        if_neg Bool.false_ne_true]

/- The authority of the URL of an instance. -/
theorem authority_of_url
    (hUrl : i.url = .ok u) :
    u.scheme = i.scheme ∧
      ∃ a extra,
        u.authority = some a ∧
          authorityOf i.scheme true i.readAuthority =
            .ok (a, extra) := by
  rcases i.special_scheme with ⟨hSpecial, hFile⟩
  have hRead :=
    authorityOf_of_parse i.schemeOf_uri hSpecial hFile
      (url_eq_ok_iff.mp hUrl)
  rwa [i.authorityText_uri] at hRead

/- The port of an instance is used if its host has no end. -/
theorem port_of_url
    (hUrl : i.url = .ok u)
    (hWhole : i.endsEarly = false) :
    u.effectivePort? = some i.port.toNat := by
  rcases authority_of_url hUrl with
    ⟨hScheme, a, extra, hAuthority, hRead⟩
  rw [readAuthority, hWhole, if_neg Bool.false_ne_true] at hRead
  have hInside :
      ∀ c ∈ i.writtenHost, endsAuthority c = false := by
    simpa [endsEarly] using hWhole
  have hLimit : i.port.toNat ≤ 0xFFFF :=
    Nat.le_of_lt_succ i.port.toNat_lt
  have hPort :=
    port_of_authorityOf i.special_scheme.1 hInside hLimit hRead
  rw [effectivePort?, port?, hAuthority, hScheme]
  exact hPort

/- Any other host means the same authority with any port. -/
theorem effectivePort?_of_endsEarly
    {port : UInt16}
    {v : Url}
    (hUrl : i.url = .ok u)
    (hEarly : i.endsEarly = true)
    (hOther :
      ({ i with port } : ServiceInstance).url = .ok v) :
    v.effectivePort? = u.effectivePort? := by
  rcases authority_of_url hUrl with
    ⟨hScheme, a, extra, hAuthority, hRead⟩
  rcases authority_of_url hOther with
    ⟨hOtherScheme, b, more, hOtherAuthority, hOtherRead⟩
  have hSame :
      ({ i with port } : ServiceInstance).readAuthority =
        i.readAuthority := by
    rw [readAuthority, readAuthority, if_pos hEarly]
    exact if_pos hEarly
  have hOtherScheme : v.scheme = i.scheme := hOtherScheme
  have hOtherRead :
      authorityOf i.scheme true i.readAuthority =
        .ok (b, more) :=
    hSame ▸ hOtherRead
  rw [hRead] at hOtherRead
  cases hOtherRead
  rw [effectivePort?, effectivePort?, port?, port?, hAuthority,
    hOtherAuthority, hScheme, hOtherScheme]

/- Without a URL for an instance there is an internal error. -/
theorem code_of_url
    {e : GatewayError}
    (hUrl : i.url = .error e) :
    e.code = .internalError := by
  unfold url at hUrl
  cases hParse : Url.parse i.uri with
  | ok u => simp [hParse, Except.mapError] at hUrl
  | error cause =>
      rw [hParse] at hUrl
      cases hUrl
      rfl

end ServiceInstance

------------------------------------------------------------
-- Requests for a Service
------------------------------------------------------------

namespace Gateway

variable {g : Gateway}
variable {x : Exchange}
variable {cancel : Cancellation}
variable {r : CompiledRoute}
variable {service : String}
variable {i : ServiceInstance}

/- Where a request goes when an instance is selected for it. -/
theorem forward_of_selected
    (hService : r.route.destination.service? = some service)
    (hSelect : (g.selector.select service).2 = .ok i) :
    (g.forward r x).2 =
      i.url.map fun u =>
        ⟨r, some i,
          (u.withPath x.path).withQuery x.query?⟩ := by
  simp only [forward, selectFor, hService, select, hSelect,
    Except.map, Destination.target, Destination.base]
  cases i.url with
  | error e => rfl
  | ok u => rfl

/- Where it goes when a route to the service is found first. -/
theorem route_of_selected
    (hFirst :
      (g.resolver.firstUnless x cancel g.state).2 =
        .ok (some r))
    (hService : r.route.destination.service? = some service)
    (hSelect : (g.selector.select service).2 = .ok i) :
    (g.route x cancel).2.2 =
      i.url.map fun u =>
        some
          ⟨r, some i,
            (u.withPath x.path).withQuery x.query?⟩ := by
  unfold route
  cases hAnswer : g.resolver.firstUnless x cancel g.state with
  | mk n answer =>
      rw [hAnswer] at hFirst
      subst hFirst
      have hForward :=
        @forward_of_selected { g with state := n.state }
          x r service i hService hSelect
      simp only [hForward]
      cases i.url with
      | error e => rfl
      | ok u => rfl

/-
  When an instance is selected for a request, it fails since
  the address of the instance makes no URL, or it is sent to
  a URL with the scheme of the instance.  Its port is that of
  the instance, unless the text of the host ends before it:
  then the port of the instance means nothing.
-/
theorem route_port
    (hFirst :
      (g.resolver.firstUnless x cancel g.state).2 =
        .ok (some r))
    (hService : r.route.destination.service? = some service)
    (hSelect : (g.selector.select service).2 = .ok i) :
    (∃ e,
      (g.route x cancel).2.2 = .error e ∧
        e.code = .internalError) ∨
      ∃ f,
        (g.route x cancel).2.2 = .ok (some f) ∧
          f.chosen = some i ∧
          f.target.scheme =
            (if i.secure then "https" else "http") ∧
          (f.target.effectivePort? = some i.port.toNat ↔
            i.endsEarly = false ∨
              ∀ port u,
                ({ i with port } : ServiceInstance).url =
                    .ok u →
                  u.effectivePort? = some i.port.toNat) := by
  rw [route_of_selected hFirst hService hSelect]
  cases hUrl : i.url with
  | error e =>
      exact .inl ⟨e, rfl, ServiceInstance.code_of_url hUrl⟩
  | ok u =>
      right
      refine
        ⟨_, rfl, rfl,
          (ServiceInstance.authority_of_url hUrl).1, ?_⟩
      change u.effectivePort? = _ ↔ _
      constructor
      · intro hPort
        cases hEarly : i.endsEarly with
        | false => exact .inl rfl
        | true =>
            right
            intro port v hOther
            have hSame :=
              ServiceInstance.effectivePort?_of_endsEarly hUrl
                hEarly hOther
            rw [hSame, hPort]
      · rintro (hWhole | hAny)
        · exact ServiceInstance.port_of_url hUrl hWhole
        · exact hAny i.port u hUrl

/- The route that is found for a request, if there is one. -/
def first?
    (x : Exchange)
    (g : Gateway) : Option CompiledRoute :=
  (g.resolver.firstUnless x .never g.state).2.toOption.join

theorem first_of_first?
    (hFirst : g.first? x = some r) :
    (g.resolver.firstUnless x .never g.state).2 =
      .ok (some r) :=
  eq_ok_of_join hFirst

/- A host that is an address keeps the port. -/
theorem route_port_files :
    let x := requestFor "/public/a.txt" none
    ∃ f i,
      (filesGateway.route x .never).2.2 = .ok (some f) ∧
        f.chosen = some i ∧
        i.endsEarly = false ∧
        f.target.scheme = "http" ∧
        f.target.effectivePort? = some 8080 := by
  intro x
  let i : ServiceInstance :=
    { service := "files"
      id := "f1"
      host := "::1"
      port := 8080 }
  have hFound :
      (filesGateway.first? x).map
          (fun r => r.route.destination.service?) =
        some (some "files") := by
    decide +kernel
  rcases Option.map_eq_some_iff.mp hFound with
    ⟨r, hFirst, hService⟩
  have hSelect :
      (filesGateway.selector.select "files").2 = .ok i := by
    decide +kernel
  have hWhole : i.endsEarly = false := by
    decide +kernel
  have hForwarded :
      (filesGateway.forwarded? x).isSome = true := by
    decide +kernel
  rcases route_port (first_of_first? hFirst) hService hSelect
    with ⟨e, hError, -⟩ | ⟨f, hRoute, hChosen, hScheme, hPort⟩
  · rw [forwarded?, hError] at hForwarded
    cases hForwarded
  · exact
      ⟨f, i, hRoute, hChosen, hWhole, hScheme,
        hPort.mpr (.inl hWhole)⟩

/- An instance with a path in the text of its host. -/
def pathHost : ServiceInstance :=
  { service := "files"
    id := "f1"
    host := "files/v1"
    port := 8080 }

/- A configuration with this instance. -/
def pathHostConfiguration : Configuration :=
  { filesConfiguration with
    services := Dict.empty.insert "files" [pathHost] }

/- The gateway that it starts. -/
def pathHostGateway : Gateway := fresh {} pathHostConfiguration

/- The host ends where the path starts. -/
theorem parseDomain_files :
    Host.parseDomain "files".toList = .ok (.name "files") := by
  have hAll :
      "files".toList.all (fun c =>
        c.toNat < 0x80 && (Unicode.plainForm? c.toNat).isNone &&
          !isDenied c && c ≠ 'x') =
        true := by
    decide +kernel
  have hParts : ∀ c ∈ "files".toList, IsNamePart c := by
    intro c hc
    have hHere := List.all_eq_true.mp hAll c hc
    simp only [Bool.and_eq_true, decide_eq_true_eq,
      Bool.not_eq_true', Option.isNone_iff_eq_none] at hHere
    rcases hHere with ⟨⟨⟨hAscii, hPlain⟩, hAllowed⟩, hMark⟩
    exact ⟨⟨hAscii, hPlain⟩, hAllowed, hMark⟩
  exact
    Host.parseDomain_of_name (by decide)
      (domainToAscii?_of_parts hParts) (by decide)
      (by decide +kernel)

theorem url_pathHost :
    ∃ u,
      pathHost.url = .ok u ∧ u.scheme = "http" ∧
        u.effectivePort? = some 80 := by
  have hAuthority :
      pathHost.readAuthority = "files".toList := by
    decide +kernel
  have hRead :
      authorityOf pathHost.scheme true pathHost.readAuthority =
        .ok ({ host := .name "files" }, []) := by
    rw [hAuthority]
    apply (authorityOf_eq_ok_iff pathHost.special_scheme.1).mpr
    exact
      ⟨by decide +kernel, by decide +kernel, parseDomain_files,
        by decide +kernel⟩
  rw [← pathHost.authorityText_uri] at hRead
  rcases parse_of_authorityOf pathHost.schemeOf_uri
      pathHost.special_scheme.1 pathHost.special_scheme.2 hRead
    with ⟨u, hParse, hScheme, hSome⟩
  refine
    ⟨u, ServiceInstance.url_eq_ok_iff.mpr hParse, hScheme, ?_⟩
  rw [effectivePort?, port?, hSome, hScheme]
  decide +kernel

/- Its requests are sent to another port than the instance's. -/
theorem route_port_path :
    start {} pathHostConfiguration =
        .ok (pathHostGateway, []) ∧
      ∃ x f i,
        (pathHostGateway.route x .never).2.2 = .ok (some f) ∧
          f.route.route.destination.isBalanced = true ∧
          f.chosen = some i ∧
          i.port = 8080 ∧
          f.target.scheme = "http" ∧
          f.target.effectivePort? = some 80 := by
  let x := requestFor "/public/a.txt" none
  have hFound :
      (pathHostGateway.first? x).map
          (fun r => r.route.destination.service?) =
        some (some "files") := by
    decide +kernel
  rcases Option.map_eq_some_iff.mp hFound with
    ⟨r, hFirst, hService⟩
  have hSelect :
      (pathHostGateway.selector.select "files").2 =
        .ok pathHost := by
    decide +kernel
  rcases url_pathHost with ⟨u, hUrl, hScheme, hPort⟩
  have hRoute :=
    route_of_selected (first_of_first? hFirst) hService hSelect
  rw [hUrl] at hRoute
  have hBalanced : r.route.destination.isBalanced = true := by
    rw [Destination.isBalanced, hService]
    rfl
  exact
    ⟨rfl, x, _, pathHost, hRoute, hBalanced, rfl, rfl, hScheme,
      hPort⟩

end Gateway

end Signpost
