import Mathlib
import Signpost.Proofs.Gateway.Dispatch
import Signpost.Proofs.Text.Blank
import Signpost.Proofs.Url.Plain

/-
  The name of a service is just what was written for it,
  whatever letters, digits, dots and dashes it has, and
  instances are selected under this name.

  Main declarations:
    * `ServiceAddress`
    * `ServiceAddress.trimmed_text`
    * `ServiceAddress.exists_url`
    * `ServiceAddress.parse_names_service`
-/

namespace Signpost

open Text
open Url

------------------------------------------------------------
-- Addresses
------------------------------------------------------------

/-
  An address that names a service.  Its scheme is in any
  letter case, a port and a path may be behind the name, and
  white space may be around it all.
-/
structure ServiceAddress where
  before : List Char := []
  scheme : String
  name : String
  port : Option (List Char) := none
  path : Option (List Char) := none
  after : List Char := []
  before_blank : ∀ c ∈ before, isBlank c = true
  scheme_lower : scheme.toLower = Destination.serviceScheme
  name_ne_empty : name ≠ ""
  name_plain : ∀ c ∈ name.toList, isUnreserved c = true
  port_fits : ∀ digits ∈ port, IsPort digits
  path_plain :
    ∀ cs ∈ path, ∀ c ∈ cs, isUnreserved c = true ∨ c = '/'
  after_blank : ∀ c ∈ after, isBlank c = true

namespace ServiceAddress

variable {a : ServiceAddress}
variable {c : Char}

/- A path starts with a slash. -/
def pathPart (a : ServiceAddress) : List Char :=
  match a.path with
  | some cs => '/' :: cs
  | none => []

/- An address without the white space around it. -/
def address (a : ServiceAddress) : List Char :=
  a.scheme.toList ++
    ':' :: '/' :: '/' ::
      (a.name.toList ++ portPart a.port ++ a.pathPart)

/- The text of an address. -/
def text (a : ServiceAddress) : String :=
  String.ofList (a.before ++ (a.address ++ a.after))

theorem map_scheme
    (a : ServiceAddress) :
    a.scheme.toList.map Char.toLower = ['l', 'b'] := by
  have hLower := congrArg String.toList a.scheme_lower
  rwa [String.toLower, String.toList_map] at hLower

/- The scheme has letters only. -/
theorem isAlpha_of_mem_scheme
    (hMember : c ∈ a.scheme.toList) :
    c.isAlpha = true := by
  have hLower : c.toLower ∈ ['l', 'b'] := by
    rw [← a.map_scheme]
    exact List.mem_map_of_mem hMember
  have hLetters : ∀ c ∈ ['l', 'b'], c.isAlpha = true :=
    List.all_eq_true.mp (by decide)
  rw [← Char.isAlpha_toLower_eq_isAlpha]
  exact hLetters _ hLower

theorem scheme_ne_nil
    (a : ServiceAddress) :
    a.scheme.toList ≠ [] := by
  intro hNone
  have hMap := a.map_scheme
  rw [hNone] at hMap
  cases hMap

theorem isServer
    (a : ServiceAddress) :
    IsServer a.name.toList a.port where
  some_char := by simpa using a.name_ne_empty
  name := fun c hc =>
    Host.plainChar_of_isUnreserved (a.name_plain c hc)
  port := a.port_fits

/- Two marks apart all of an address is unreserved. -/
theorem mem_address
    (hMember : c ∈ a.address) :
    isUnreserved c = true ∨ c = ':' ∨ c = '/' := by
  have hPort :
      c ∈ portPart a.port → isUnreserved c = true ∨ c = ':' := by
    intro hMember
    cases hDigits : a.port with
    | none =>
        rw [hDigits] at hMember
        cases hMember
    | some digits =>
        rw [hDigits] at hMember
        rcases List.mem_cons.mp hMember with hColon | hDigit
        · exact .inr hColon
        · have hDigit :=
            (a.port_fits digits hDigits).isDigit c hDigit
          exact .inl (isUnreserved_of_isDigit hDigit)
  have hPath :
      c ∈ a.pathPart → isUnreserved c = true ∨ c = '/' := by
    intro hMember
    unfold pathPart at hMember
    split at hMember
    · rename_i cs hSome
      rcases List.mem_cons.mp hMember with hSlash | hRest
      · exact .inr hSlash
      · exact a.path_plain cs hSome c hRest
    · cases hMember
  simp only [address, List.mem_append, List.mem_cons] at hMember
  rcases hMember with
    hScheme | rfl | rfl | rfl | (hName | hHere) | hHere
  · left
    apply isUnreserved_of_isAlphanum
    simp [Char.isAlphanum, isAlpha_of_mem_scheme hScheme]
  · simp
  · simp
  · simp
  · exact .inl (a.name_plain c hName)
  · rcases hPort hHere with hPlain | hColon
    · exact .inl hPlain
    · exact .inr (.inl hColon)
  · rcases hPath hHere with hPlain | hSlash
    · exact .inl hPlain
    · exact .inr (.inr hSlash)

/- So all of it is visible, and no mark ends its path. -/
theorem visible_of_mem_address
    (hMember : c ∈ a.address) :
    0x20 < c.toNat ∧ c.toNat < 0x7F ∧ c ≠ '#' ∧ c ≠ '?' := by
  rcases mem_address hMember with hPlain | rfl | rfl
  · exact visible_of_isUnreserved hPlain
  · decide
  · decide

/- The white space around an address is left out. -/
theorem trimmed_text
    (a : ServiceAddress) :
    trimmed a.text = String.ofList a.address := by
  have hVisible : ∀ c ∈ a.address, isBlank c = false := by
    intro c hc
    rcases visible_of_mem_address hc with ⟨hAbove, hBelow, -⟩
    exact isBlank_of_visible hAbove hBelow
  rw [trimmed, text, String.toList_ofList,
    trim_around_of_forall a.before_blank a.after_blank hVisible]

/- The host of the URL is the name. -/
theorem exists_url
    (a : ServiceAddress) :
    ∃ u,
      Url.parse (trimmed a.text) = .ok u ∧
        u.scheme = Destination.serviceScheme ∧
        u.host? = some a.name := by
  have hPlain :
      isSpecialScheme (String.ofList a.scheme.toList).toLower =
        false := by
    rw [String.ofList_toList, a.scheme_lower]
    decide
  have hPath : ∀ c, a.pathPart.head? = some c → c = '/' := by
    intro c hc
    unfold pathPart at hc
    split at hc
    · cases hc
      rfl
    · cases hc
  have hMarks :
      ∀ mark ∈ ['#', '?'], mark ∉ a.address := by
    intro mark hMark hMember
    have hVisible := visible_of_mem_address hMember
    simp [hVisible] at hMark
  have hText :
      (trimmed a.text).toList = a.address := by
    rw [a.trimmed_text, String.toList_ofList]
  rcases
      parse_of_server a.scheme_ne_nil
        (fun c => isAlpha_of_mem_scheme) hPlain a.isServer hPath
        hText
        (fun c hc =>
          (visible_of_mem_address (hText ▸ hc)).1)
        (fun mark hMark => hText ▸ hMarks mark hMark) with
    ⟨u, p, hParse, hScheme, hAuthority⟩
  refine ⟨u, hParse, ?_, ?_⟩
  · rw [hScheme, String.ofList_toList, a.scheme_lower]
  · simp [host?, hAuthority, Host.isEmpty, Host.text,
      a.name_ne_empty]

end ServiceAddress

------------------------------------------------------------
-- Services
------------------------------------------------------------

/- Instances that are discovered for a service are available. -/
theorem InstanceSelector.available_update
    (s : InstanceSelector)
    (service : String)
    {is : List ServiceInstance}
    (hSome : is ≠ []) :
    (s.update service is).1.available service ≠ [] ∧
      ∀ i ∈ (s.update service is).1.available service,
        ∃ j ∈ is, i = InstanceList.adopt service j := by
  have hKept : (InstanceList.ofList service is).kept ≠ [] := by
    rcases List.exists_mem_of_ne_nil _ hSome with ⟨j, hj⟩
    intro hNone
    have hName :=
      Distinct.name_mem_kept_ofList ServiceInstance.id
        (List.mem_map_of_mem (f := InstanceList.adopt service) hj)
    rw [← InstanceList.ofList, hNone] at hName
    cases hName
  have hAvailable :
      (s.update service is).1.available service =
        (InstanceList.ofList service is).kept := by
    have hFound :
        (s.update service is).1.discovered.instances service =
          (InstanceList.ofList service is).kept :=
      (s.discovered.instances_update service service is).trans
        (if_pos rfl)
    unfold available
    rw [hFound]
    split
    · rename_i hNone
      exact absurd hNone hKept
    · rfl
  rw [hAvailable]
  refine ⟨hKept, ?_⟩
  intro i hi
  have hMember :=
    (Distinct.sublist_kept_ofList ServiceInstance.id _).mem hi
  rcases List.mem_map.mp hMember with ⟨j, hj, hAdopt⟩
  exact ⟨j, hj, hAdopt.symm⟩

namespace Gateway

variable {g : Gateway}
variable {service : String}

/- One of the available instances is selected for a service. -/
theorem exists_selectFor
    (hSome : g.selector.available service ≠ [])
    (u : Url) :
    ∃ i ∈ g.selector.available service,
      (g.selectFor (.service service u)).2 = .ok (some i) := by
  rcases InstanceSelector.select_of_available_ne_nil hSome with
    ⟨i, hPlace, hSelect⟩
  refine ⟨i, List.mem_of_getElem? hPlace, ?_⟩
  simp [selectFor, Destination.service?, select, hSelect,
    Except.map]

/- Without any of them the service is reported. -/
theorem selectFor_of_unavailable
    (hNone : g.selector.available service = [])
    (u : Url) :
    (g.selectFor (.service service u)).2 =
      .error (.noInstances service) := by
  simp [selectFor, Destination.service?, select,
    InstanceSelector.select_of_available_eq_nil hNone,
    Except.map]

end Gateway

namespace ServiceAddress

/-
  An address is read as the destination of the service with
  just the name that was written, letter case included.  So
  one of the instances that are available under this name,
  or were just discovered under it, is selected, and this
  name is reported if there are none.
-/
theorem parse_names_service
    (a : ServiceAddress) :
    ∃ u,
      Destination.parse a.text = .ok (.service a.name u) ∧
        ∀ g : Gateway,
          (g.selector.available a.name ≠ [] →
            ∃ i ∈ g.selector.available a.name,
              (g.selectFor (.service a.name u)).2 =
                .ok (some i)) ∧
            (∀ is, is ≠ [] →
              ∃ i ∈ is,
                ((g.update a.name is).1.selectFor
                    (.service a.name u)).2 =
                  .ok (some (InstanceList.adopt a.name i))) ∧
            (g.selector.available a.name = [] →
              (g.selectFor (.service a.name u)).2 =
                .error (.noInstances a.name)) := by
  rcases a.exists_url with ⟨u, hParse, hScheme, hHost⟩
  have hText : ¬(trimmed a.text).isEmpty = true := by
    rw [a.trimmed_text]
    simp [address]
  refine ⟨u, ?_, ?_⟩
  · unfold Destination.parse
    simp only [if_neg hText, hParse, hScheme, if_true, hHost]
  · intro g
    refine
      ⟨fun hSome => Gateway.exists_selectFor hSome u, ?_,
        fun hNone => Gateway.selectFor_of_unavailable hNone u⟩
    intro is hSome
    rcases g.selector.available_update a.name hSome with
      ⟨hAvailable, hAdopted⟩
    rcases @Gateway.exists_selectFor (g.update a.name is).1
        a.name hAvailable u with
      ⟨i, hi, hSelect⟩
    rcases hAdopted i hi with ⟨j, hj, rfl⟩
    exact ⟨j, hj, hSelect⟩

/- A name of digits and a dot, with all that may be around. -/
def numbersAddress : ServiceAddress where
  before := ['\u3000']
  scheme := "Lb"
  name := "010.1"
  port := some "080".toList
  path := some "~a".toList
  after := ['\n']
  before_blank := List.forall_mem_singleton.mpr (by decide)
  scheme_lower := by decide +kernel
  name_ne_empty := by decide
  name_plain := List.all_eq_true.mp (by decide)
  port_fits := by
    intro digits hDigits
    cases hDigits
    exact
      { some_digit := by decide
        isDigit := List.all_eq_true.mp (by decide)
        fits := by decide }
  path_plain := by
    intro cs hPath c hc
    cases hPath
    have hPlain : "~a".toList.all isUnreserved = true := by
      decide
    exact .inl (List.all_eq_true.mp hPlain c hc)
  after_blank := List.forall_mem_singleton.mpr (by decide)

/- It is no address of a host, and its zeros stay in it. -/
theorem parse_names_service_numbers :
    ∃ u,
      Destination.parse "\u3000Lb://010.1:080/~a\n" =
          .ok (.service "010.1" u) ∧
        (((Gateway.fresh {} {}).update "010.1"
            [⟨"", "n1", "::1", 80, false⟩]).1.selectFor
              (.service "010.1" u)).2 =
          .ok (some ⟨"010.1", "n1", "::1", 80, false⟩) ∧
        ((Gateway.fresh {} {}).selectFor
            (.service "010.1" u)).2 =
          .error (.noInstances "010.1") := by
  have hText : numbersAddress.text = "\u3000Lb://010.1:080/~a\n" := by
    decide
  rcases numbersAddress.parse_names_service with
    ⟨u, hParse, hSelect⟩
  rcases hSelect (Gateway.fresh {} {}) with
    ⟨-, hUpdated, hUnknown⟩
  refine ⟨u, hText ▸ hParse, ?_, hUnknown rfl⟩
  rcases hUpdated [⟨"", "n1", "::1", 80, false⟩] (by simp) with
    ⟨i, hi, hChosen⟩
  rw [List.mem_singleton.mp hi] at hChosen
  exact hChosen

end ServiceAddress

end Signpost
