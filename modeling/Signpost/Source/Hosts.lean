import Signpost.Source.Basic

/-
  This file defines the source that lists definitions by the
  host of the request.

  A host is looked up as it is, then under the wildcards
  that it ends with, the longest first.  A wildcard stands
  for at least one character.  All other hosts, and requests
  without a host, have the fallback definitions.

  Key definitions include:
    * `HostKey`
    * `HostTable`
    * `HostTable.ofList`
    * `HostTable.select`
    * `HostTable.source`
-/

namespace Signpost

open Text

------------------------------------------------------------
-- Hosts and Wildcards
------------------------------------------------------------

/- A host, or the ending that a wildcard asks of one. -/
inductive HostKey where
| exact (host : String)
| ending (suffix : String)
deriving DecidableEq, Repr

/- Read a host or a wildcard in any letter case. -/
def HostKey.parse (text : String) : HostKey :=
  let host := (trimmed text).toLower
  match host.toList with
  | '*' :: '.' :: rest => .ending (String.ofList ('.' :: rest))
  | _ => .exact host

/- A wildcard ending with its definitions. -/
structure WildcardRoutes where
  suffix : String
  routes : List RouteDefinition
deriving DecidableEq, Repr

namespace WildcardRoutes

/- Longer endings go first, and then the order of texts. -/
def precedes (a b : WildcardRoutes) : Bool :=
  if a.suffix.utf8ByteSize = b.suffix.utf8ByteSize then
    decide (a.suffix ≤ b.suffix)
  else decide (b.suffix.utf8ByteSize < a.suffix.utf8ByteSize)

/- A host ends with the suffix and has more before it. -/
def accepts (w : WildcardRoutes) (host : String) : Bool :=
  decide (w.suffix.utf8ByteSize < host.utf8ByteSize) &&
    w.suffix.toList.isSuffixOf host.toList

end WildcardRoutes

------------------------------------------------------------
-- Host Tables
------------------------------------------------------------

/- The definitions of hosts, and those of all other hosts. -/
structure HostTable where
  exact : Dict (List RouteDefinition) := .empty
  wildcards : List WildcardRoutes := []
  fallback : List RouteDefinition := []

namespace HostTable

/- Add the definitions of a host or a wildcard. -/
def add
    (t : HostTable)
    (entry : String × List RouteDefinition) : HostTable :=
  match HostKey.parse entry.1 with
  | .exact host =>
      { t with exact := t.exact.insert host entry.2 }
  | .ending suffix =>
      { t with wildcards := t.wildcards ++ [⟨suffix, entry.2⟩] }

/- The table of some hosts and the definitions of the rest. -/
def ofList
    (hosts : List (String × List RouteDefinition))
    (fallback : List RouteDefinition) : HostTable :=
  let t := hosts.foldl add { fallback }
  { t with
    wildcards := t.wildcards.mergeSort
      WildcardRoutes.precedes }

/- The definitions of a host that a wildcard covers. -/
def wildcard?
    (t : HostTable)
    (host : String) : Option (List RouteDefinition) :=
  (t.wildcards.find? fun w => w.accepts host).map
    WildcardRoutes.routes

/- The definitions of a host. -/
def select
    (t : HostTable) :
    Option String → List RouteDefinition
| none => t.fallback
| some host =>
    match t.exact.get? host with
    | some routes => routes
    | none => (t.wildcard? host).getD t.fallback

/- The source that lists the definitions of the host. -/
def source (t : HostTable) : RouteSource :=
  { list := fun x => .ok ⟨0, t.select x.host?⟩
    listsAll := false }

end HostTable

end Signpost
