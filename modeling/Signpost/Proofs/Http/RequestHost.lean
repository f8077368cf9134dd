import Signpost.Exchange
import Signpost.Proofs.Text.Blank
import Signpost.Proofs.Text.Split

/-
  The host that a request has, by how its target and its host
  field are written.

  The target goes first: its host stands after a user and
  before a port, and brackets at its ends are left out.  Only
  a request without an authority is asked for its first host
  field, which may be missing, unreadable or without a host.

  Main declarations:
    * `Http.StartsWithHost`
    * `Http.FollowsUser`
    * `Http.Bare`
    * `Exchange.HasHost`
    * `Exchange.hasHost_iff`
-/

namespace Signpost

open Text

namespace Http

variable {cs text host : List Char}

------------------------------------------------------------
-- Hosts at the Start of a Text
------------------------------------------------------------

/-
  A text starts with a host: in brackets, up to the closing
  one, or else up to a colon.  Both may be missing.
-/
inductive StartsWithHost : List Char → List Char → Prop where
| bracketed
    {host rest : List Char}
    (inside : ']' ∉ host)
    (ends : ∀ c, rest.head? = some c → c = ']') :
    StartsWithHost ('[' :: (host ++ rest)) host
| plain
    {host rest : List Char}
    (starts : (host ++ rest).head? ≠ some '[')
    (inside : ':' ∉ host)
    (ends : ∀ c, rest.head? = some c → c = ':') :
    StartsWithHost (host ++ rest) host

/- The host that a text starts with. -/
def firstHost : List Char → List Char
| '[' :: cs => cs.takeWhile (· ≠ ']')
| cs => cs.takeWhile (· ≠ ':')

theorem firstHost_of_plain
    (hStarts : cs.head? ≠ some '[') :
    firstHost cs = cs.takeWhile (· ≠ ':') := by
  unfold firstHost
  split
  · exact absurd rfl hStarts
  · rfl

theorem startsWithHost_firstHost
    (text : List Char) :
    StartsWithHost text (firstHost text) := by
  by_cases hOpen : text.head? = some '['
  · rcases List.head?_eq_some_iff.mp hOpen with ⟨cs, rfl⟩
    have hStarts :=
      StartsWithHost.bracketed (not_mem_takeWhile ']' cs)
        (eq_of_head?_dropWhile ']' cs)
    rwa [List.takeWhile_append_dropWhile] at hStarts
  · have hWhole :
        text.takeWhile (· ≠ ':') ++ text.dropWhile (· ≠ ':') =
          text :=
      List.takeWhile_append_dropWhile
    have hStarts :=
      StartsWithHost.plain (hWhole.symm ▸ hOpen)
        (not_mem_takeWhile ':' text)
        (eq_of_head?_dropWhile ':' text)
    rwa [hWhole, ← firstHost_of_plain hOpen] at hStarts

/- Every text starts with exactly one host. -/
theorem startsWithHost_iff :
    StartsWithHost text host ↔ firstHost text = host := by
  constructor
  · intro hStarts
    cases hStarts with
    | bracketed hInside hEnds =>
        exact takeWhile_of_ends hInside hEnds
    | plain hStarts hInside hEnds =>
        rw [firstHost_of_plain hStarts]
        exact takeWhile_of_ends hInside hEnds
  · intro hHost
    rw [← hHost]
    exact startsWithHost_firstHost text

------------------------------------------------------------
-- Authorities
------------------------------------------------------------

/- What follows the user of an authority, if it has one. -/
structure FollowsUser (authority text : List Char) : Prop where
  last : '@' ∉ text
  after :
    authority = text ∨ ∃ user, authority = user ++ '@' :: text

theorem followsUser_iff
    {authority : List Char} :
    FollowsUser authority text ↔
      Uri.afterLastAt authority = text := by
  constructor
  · intro hFollows
    rcases hFollows with ⟨hLast, rfl | ⟨user, rfl⟩⟩
    · exact rtakeWhile_of_not_mem hLast
    · exact rtakeWhile_append user hLast
  · intro hText
    rw [← hText]
    refine ⟨not_mem_rtakeWhile '@' authority, ?_⟩
    exact
      (eq_or_exists_append_rtakeWhile '@' authority).imp_left
        Eq.symm

/- A text without the brackets at its ends. -/
structure Bare (text host : List Char) : Prop where
  around :
    ∃ opening closing, text = opening ++ (host ++ closing) ∧
      (∀ c ∈ opening, c = '[') ∧ ∀ c ∈ closing, c = ']'
  first : host.head? ≠ some '['
  last : host.getLast? ≠ some ']'

theorem bare_iff :
    Bare text host ↔ Exchange.unbracketed text = host := by
  constructor
  · intro hBare
    rcases hBare with
      ⟨⟨opening, closing, rfl, hOpening, hClosing⟩,
        hFirst, hLast⟩
    apply dropEnds_around
    · exact fun c hc => decide_eq_true (hOpening c hc)
    · exact fun c hc => decide_eq_true (hClosing c hc)
    · intro c hHead
      refine decide_eq_false fun hSame => hFirst ?_
      rw [hHead, hSame]
    · intro c hEnd
      refine decide_eq_false fun hSame => hLast ?_
      rw [hEnd, hSame]
  · intro hHost
    rw [← hHost]
    rcases exists_around (· = '[') (· = ']') text with
      ⟨opening, closing, hText, hOpening, hClosing⟩
    refine ⟨⟨opening, closing, hText, ?_, ?_⟩, ?_, ?_⟩
    · exact fun c hc => of_decide_eq_true (hOpening c hc)
    · exact fun c hc => of_decide_eq_true (hClosing c hc)
    · intro hHead
      have hNot := head?_dropEnds _ (· = ']') text '[' hHead
      exact of_decide_eq_false hNot rfl
    · intro hEnd
      have hNot :=
        getLast?_rdropWhile _ (text.dropWhile (· = '[')) ']' hEnd
      exact of_decide_eq_false hNot rfl

theorem bare_of_not_mem
    (hOpen : '[' ∉ host)
    (hClose : ']' ∉ host) :
    Bare host host := by
  refine ⟨⟨[], [], by simp, by simp, by simp⟩, ?_, ?_⟩
  · exact fun hHead => hOpen (List.mem_of_head? hHead)
  · exact fun hLast => hClose (List.mem_of_getLast? hLast)

/- Brackets around a text are left out as well. -/
theorem unbracketed_brackets
    (cs : List Char) :
    Exchange.unbracketed ('[' :: (cs ++ [']'])) =
      Exchange.unbracketed cs := by
  rcases bare_iff.mpr (@rfl _ (Exchange.unbracketed cs)) with
    ⟨⟨opening, closing, hText, hOpening, hClosing⟩,
      hFirst, hLast⟩
  apply bare_iff.mp
  refine
    ⟨⟨'[' :: opening, closing ++ [']'], ?_, ?_, ?_⟩,
      hFirst, hLast⟩
  · conv_lhs => rw [hText]
    simp
  · exact List.forall_mem_cons.mpr ⟨rfl, hOpening⟩
  · exact
      List.forall_mem_append.mpr
        ⟨hClosing, List.forall_mem_singleton.mpr rfl⟩

theorem unbracketed_hostOf
    (authority : List Char) :
    Exchange.unbracketed (Uri.hostOf authority) =
      Exchange.unbracketed
        (firstHost (Uri.afterLastAt authority)) := by
  unfold Uri.hostOf
  split
  · rename_i cs hText
    rw [hText]
    exact unbracketed_brackets _
  · rename_i hPlain
    rw [firstHost_of_plain]
    intro hOpen
    rcases List.head?_eq_some_iff.mp hOpen with ⟨cs, hText⟩
    exact hPlain cs hText

end Http

------------------------------------------------------------
-- Hosts of Requests
------------------------------------------------------------

namespace Exchange

open Http

/-
  The host that a request has, in lower case and without a
  port.  It is the one in the authority of the target, or
  else in the first host field with white space around it
  left out.  There is none if that field is missing, cannot
  be read or has no host.
-/
inductive HasHost (x : Exchange) : Option String → Prop where
| target
    {authority : String}
    {text named host : List Char}
    (given : x.uri.authority = some authority)
    (after : FollowsUser authority.toList text)
    (starts : StartsWithHost text named)
    (bare : Bare named host) :
    HasHost x (some (String.ofList host).toLower)
| field
    {value : HeaderValue}
    {written : String}
    {host : List Char}
    (pathOnly : x.uri.authority = none)
    (first : (x.headers.values "host").head? = some value)
    (read : value.readable? = some written)
    (starts : StartsWithHost (trim written.toList) host)
    (named : host ≠ []) :
    HasHost x (some (String.ofList host).toLower)
| unnamed
    {value : HeaderValue}
    {written : String}
    (pathOnly : x.uri.authority = none)
    (first : (x.headers.values "host").head? = some value)
    (read : value.readable? = some written)
    (starts : StartsWithHost (trim written.toList) []) :
    HasHost x none
| unreadable
    {value : HeaderValue}
    (pathOnly : x.uri.authority = none)
    (first : (x.headers.values "host").head? = some value)
    (unread : value.readable? = none) :
    HasHost x none
| missing
    (pathOnly : x.uri.authority = none)
    (absent : (x.headers.values "host").head? = none) :
    HasHost x none

variable {x : Exchange}
variable {host : Option String}

/- The host of a target is in its authority. -/
theorem host?_of_authority
    {authority : String}
    (hGiven : x.uri.authority = some authority) :
    x.host? =
      some
        (String.ofList
          (unbracketed
            (firstHost
              (Uri.afterLastAt authority.toList)))).toLower := by
  rw [host?, Uri.host?, hGiven, Option.map_some]
  dsimp only
  rw [String.toList_ofList, unbracketed_hostOf]

/- A path alone leaves it to the first host field. -/
theorem host?_of_pathOnly
    (hPath : x.uri.authority = none) :
    x.host? =
      (x.headers.values "host").head?.bind fun value =>
        value.readable?.bind fun written =>
          if (firstHost (trim written.toList)).isEmpty then none
          else
            some
              (String.ofList
                (firstHost (trim written.toList))).toLower := by
  rw [host?, Uri.host?, hPath]
  rfl

theorem HasHost.host?_eq
    (hHost : x.HasHost host) :
    x.host? = host := by
  cases hHost with
  | target hGiven hAfter hStarts hBare =>
      rw [host?_of_authority hGiven, followsUser_iff.mp hAfter,
        startsWithHost_iff.mp hStarts, bare_iff.mp hBare]
  | field hPath hFirst hRead hStarts hNamed =>
      rw [host?_of_pathOnly hPath, hFirst]
      simp [hRead, startsWithHost_iff.mp hStarts, hNamed]
  | unnamed hPath hFirst hRead hStarts =>
      rw [host?_of_pathOnly hPath, hFirst]
      simp [hRead, startsWithHost_iff.mp hStarts]
  | unreadable hPath hFirst hRead =>
      rw [host?_of_pathOnly hPath, hFirst]
      simp [hRead]
  | missing hPath hNone =>
      rw [host?_of_pathOnly hPath, hNone, Option.bind_none]

theorem hasHost_host?
    (x : Exchange) :
    x.HasHost x.host? := by
  cases hGiven : x.uri.authority with
  | some authority =>
      rw [host?_of_authority hGiven]
      exact
        .target hGiven (followsUser_iff.mpr rfl)
          (startsWithHost_firstHost _) (bare_iff.mpr rfl)
  | none =>
      rw [host?_of_pathOnly hGiven]
      cases hFirst : (x.headers.values "host").head? with
      | none => exact .missing hGiven hFirst
      | some value =>
          rw [Option.bind_some]
          cases hRead : value.readable? with
          | none => exact .unreadable hGiven hFirst hRead
          | some written =>
              have hStarts :=
                startsWithHost_firstHost (trim written.toList)
              rw [Option.bind_some]
              split
              · rename_i hEmpty
                rw [List.isEmpty_iff.mp hEmpty] at hStarts
                exact .unnamed hGiven hFirst hRead hStarts
              · rename_i hNamed
                exact
                  .field hGiven hFirst hRead hStarts
                    (by simpa using hNamed)

/- Every request has exactly one host, or none. -/
theorem hasHost_iff :
    x.HasHost host ↔ x.host? = host := by
  constructor
  · exact HasHost.host?_eq
  · intro hHost
    rw [← hHost]
    exact hasHost_host? x

end Exchange

end Signpost
