import Signpost.Predicate.Basic
import Signpost.Predicate.Glob

/-
  This file defines the predicates that ask where a request
  goes: its path and its host.

  Key definitions include:
    * `PathPatterns`
    * `PathPatterns.accepts`
    * `pathFactory`
    * `hostFactory`
-/

namespace Signpost

open Text

------------------------------------------------------------
-- Paths
------------------------------------------------------------

/-
  Patterns for paths.  A slash at the end of a path may be
  left out of account.
-/
structure PathPatterns where
  patterns : List Glob
  trailingSlash : Bool
deriving DecidableEq, Repr

namespace PathPatterns

/- A path without the slash at its end, if more is left. -/
def withoutSlash? (path : String) : Option String :=
  match path.toList.reverse with
  | '/' :: rest =>
      if rest.isEmpty then none
      else some (String.ofList rest.reverse)
  | _ => none

/- A pattern accepts a path as it is or without its slash. -/
def accepts (p : PathPatterns) (path : String) : Bool :=
  p.patterns.any fun g =>
    g.accepts path ||
      (p.trailingSlash &&
        (withoutSlash? path).any fun short => g.accepts short)

/-
  Take the truth value at the end of some items as the flag,
  unless it is the only item.
-/
def splitFlag
    (items : List String)
    (flag : Bool) : List String × Bool :=
  match items.reverse with
  | last :: before =>
      if before.isEmpty then (items, flag)
      else
        match Arguments.bool? last with
        | some b => (before.reverse, b)
        | none => (items, flag)
  | [] => (items, flag)

/- The patterns that some arguments ask for. -/
def ofArguments
    (a : Arguments) : Except ArgumentError PathPatterns := do
  let items ← a.list "patterns"
  let flag ← a.bool "matchTrailingSlash" true
  let (items, flag) := splitFlag items flag
  return ⟨← items.mapM (Glob.parse '/'), flag⟩

end PathPatterns

/- The predicate that asks for the path of a request. -/
def pathFactory : PredicateFactory :=
  { name := "Path"
    fields := ["patterns", "matchTrailingSlash"]
    shortcut := .gather
    make := fun a => do
      let p ← PathPatterns.ofArguments a
      return .immediate "Path" fun x => p.accepts x.path }

------------------------------------------------------------
-- Hosts
------------------------------------------------------------

/- The host patterns that some arguments ask for. -/
def hostPatterns
    (a : Arguments) : Except ArgumentError (List Glob) := do
  (← a.list "patterns").mapM fun raw =>
    Glob.parse '.' raw.toLower

/- The predicate that asks for the host of a request. -/
def hostFactory : PredicateFactory :=
  { name := "Host"
    fields := ["patterns"]
    shortcut := .gather
    make := fun a => do
      let patterns ← hostPatterns a
      return .immediate "Host" fun x =>
        x.host?.any fun h => patterns.any (·.accepts h) }

end Signpost
