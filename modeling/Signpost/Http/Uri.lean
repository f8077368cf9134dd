import Signpost.Text.Split

/-
  This file defines request targets.

  A target is a path with a query, an authority alone, a
  scheme with an authority and a path, or an asterisk.  A
  fragment is dropped.  The characters of all parts are kept
  as they are sent.

  Key definitions include:
    * `Uri`
    * `Uri.parse?`
    * `Uri.host?`
    * `Uri.text`
-/

namespace Signpost.Http

open Text

------------------------------------------------------------
-- Characters
------------------------------------------------------------

/- A character has a code point in one of some spans. -/
def inSpans (spans : List (Nat × Nat)) (c : Char) : Bool :=
  spans.any fun (lo, hi) => lo ≤ c.toNat && c.toNat ≤ hi

/- A character that may stand in a path. -/
def isPathChar (c : Char) : Bool :=
  inSpans
    [(0x21, 0x22), (0x24, 0x3B), (0x3D, 0x3D), (0x40, 0x5F),
      (0x61, 0x7E)] c

/- A character that may stand in a query. -/
def isQueryChar (c : Char) : Bool :=
  inSpans
    [(0x21, 0x21), (0x24, 0x3B), (0x3D, 0x3D), (0x3F, 0x7E)]
    c

/- A character that may stand in a scheme. -/
def isSchemeChar (c : Char) : Bool :=
  c.isAlphanum || "+-.~".toList.contains c

/- A character that may stand in an authority. -/
def isAuthorityChar (c : Char) : Bool :=
  c.isAlphanum || "!$&'()*+,-.:;=@[]_~%".toList.contains c

/- A character that ends an authority. -/
def endsAuthority (c : Char) : Bool :=
  c = '/' || c = '?' || c = '#'

------------------------------------------------------------
-- Authorities
------------------------------------------------------------

/-
  What has been seen of an authority since its last `@` or
  closing bracket, and its brackets.
-/
structure AuthorityScan where
  colons : Nat := 0
  percent : Bool := false
  opened : Bool := false
  closed : Bool := false
deriving DecidableEq, Repr

namespace AuthorityScan

/- Take in one more character of an authority. -/
def step
    (s : AuthorityScan)
    (c : Char) : Option AuthorityScan :=
  if c = ':' then
    if 8 ≤ s.colons then none
    else some { s with colons := s.colons + 1 }
  else if c = '[' then
    if s.percent || s.opened then none
    else some { s with opened := true }
  else if c = ']' then
    if !s.opened || s.closed then none
    else some
      { s with closed := true, colons := 0, percent := false }
  else if c = '@' then
    some { s with colons := 0, percent := false }
  else if c = '%' then some { s with percent := true }
  else if isAuthorityChar c then some s
  else none

/- The brackets pair up and at most one colon is left. -/
def isComplete (s : AuthorityScan) : Bool :=
  s.opened == s.closed && s.colons ≤ 1 && !s.percent

end AuthorityScan

/- The characters are an authority or none at all. -/
def isAuthority (cs : List Char) : Bool :=
  match cs.foldlM AuthorityScan.step {} with
  | some s => s.isComplete && cs.getLast? ≠ some '@'
  | none => false

------------------------------------------------------------
-- Targets
------------------------------------------------------------

/-
  A request target.  The path is empty when there is an
  authority alone.
-/
structure Uri where
  scheme : Option String
  authority : Option String
  path : String
  query : Option String
deriving DecidableEq, Repr

namespace Uri

/- The target that is the path of a site's root. -/
def root : Uri := ⟨none, none, "/", none⟩

/-
  Read a path with an optional query, up to a fragment.  An
  empty path is that of the root.
-/
def pathAndQuery?
    (cs : List Char) : Option (String × Option String) :=
  let path := cs.takeWhile fun c => c ≠ '?' && c ≠ '#'
  let rest := cs.dropWhile fun c => c ≠ '?' && c ≠ '#'
  let name :=
    if path.isEmpty then "/" else String.ofList path
  if !path.all isPathChar then none
  else
    match rest with
    | '?' :: rest =>
        let query := rest.takeWhile (· ≠ '#')
        if query.all isQueryChar then
          some (name, some (String.ofList query))
        else none
    | _ => some (name, none)

/- How a target starts. -/
inductive Start where
| scheme (name : String) (rest : List Char)
| noScheme
| refused

/- The scheme before a colon and two slashes. -/
def start (cs : List Char) : Start :=
  let name := cs.takeWhile isSchemeChar
  match cs.drop name.length with
  | ':' :: '/' :: '/' :: rest =>
      let text := String.ofList name
      if text.toLower = "http" ∨ text.toLower = "https" then
        .scheme text.toLower rest
      else if 64 < name.length then .refused
      else .scheme text rest
  | _ => .noScheme

/- Read a target that does not start with a slash. -/
def absolute? (cs : List Char) : Option Uri :=
  match start cs with
  | .refused => none
  | .noScheme =>
      if isAuthority cs then
        some ⟨none, some (String.ofList cs), "", none⟩
      else none
  | .scheme scheme rest =>
      let authority := rest.takeWhile (!endsAuthority ·)
      let rest := rest.dropWhile (!endsAuthority ·)
      if authority.isEmpty || !isAuthority authority then none
      else
        (pathAndQuery? rest).map fun (path, query) =>
          ⟨some scheme, some (String.ofList authority), path,
            query⟩

/- Read a target of at most 65534 octets. -/
def parse? (s : String) : Option Uri :=
  if 65534 < s.utf8ByteSize then none
  else
    match s.toList with
    | [] => none
    | ['*'] => some ⟨none, none, "*", none⟩
    | '/' :: cs =>
        (pathAndQuery? ('/' :: cs)).map fun (path, query) =>
          ⟨none, none, path, query⟩
    | cs => absolute? cs

/- The characters after the last `@`. -/
def afterLastAt (cs : List Char) : List Char :=
  (cs.reverse.takeWhile (· ≠ '@')).reverse

/- The host part of an authority, brackets included. -/
def hostOf (authority : List Char) : List Char :=
  match afterLastAt authority with
  | '[' :: cs => '[' :: cs.takeWhile (· ≠ ']') ++ [']']
  | cs => cs.takeWhile (· ≠ ':')

/- The host of the authority, if there is one. -/
def host? (u : Uri) : Option String :=
  u.authority.map fun a => String.ofList (hostOf a.toList)

/- The text of a target. -/
def text (u : Uri) : String :=
  (match u.scheme with
    | some s => s ++ "://"
    | none => "") ++
    u.authority.getD "" ++ u.path ++
    (match u.query with
      | some q => "?" ++ q
      | none => "")

end Uri

end Signpost.Http
