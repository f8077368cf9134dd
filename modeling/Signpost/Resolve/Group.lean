import Signpost.Resolve.Basic

/-
  This file defines groups of resolvers that share a cache.

  The members of a group have sources of their own but
  compile alike.  What one of them compiles the others find
  in the cache, as far as the definitions agree.

  Key definitions include:
    * `ResolverGroup`
    * `ResolverGroup.Member`
    * `ResolverGroup.CacheAction`
    * `ResolverGroup.resolve`
-/

namespace Signpost

------------------------------------------------------------
-- Groups
------------------------------------------------------------

/- A member of a group: its source and what it cleared for. -/
structure ResolverGroup.Member where
  source : RouteSource
  pruned : Option Listing := none

/- Resolvers with one compiler and one cache. -/
structure ResolverGroup where
  compile : RouteDefinition → Except CompilationError Route
  members : List ResolverGroup.Member
  cache : RouteCache := {}

namespace ResolverGroup

/- A group of sources whose cache is empty. -/
def ofSources
    (compile : RouteDefinition → Except CompilationError Route)
    (sources : List RouteSource) : ResolverGroup :=
  { compile, members := sources.map fun source => { source } }

/- The resolver of a member. -/
def resolver (g : ResolverGroup) (m : Member) : Resolver :=
  { source := m.source, compile := g.compile }

/- What a member remembers, with the common cache. -/
def state (g : ResolverGroup) (m : Member) : ResolverState :=
  { cache := g.cache, pruned := m.pruned }

/- Take over what a member remembers after a resolution. -/
def remember
    (g : ResolverGroup)
    (i : Nat)
    (m : Member)
    (s : ResolverState) : ResolverGroup :=
  { g with
    members := g.members.set i { m with pruned := s.pruned }
    cache := s.cache }

------------------------------------------------------------
-- Actions
------------------------------------------------------------

/- What can be done to the cache of a group. -/
inductive CacheAction where
| invalidate (id : String)
| clear
| retain (ids : List String)
deriving DecidableEq, Repr

/- The cache after an action. -/
def CacheAction.apply
    (a : CacheAction)
    (c : RouteCache) : RouteCache :=
  match a with
  | .invalidate id => c.invalidate id
  | .clear => c.clear
  | .retain ids => c.retain ids

/- The group after an action on its cache. -/
def manage (a : CacheAction) (g : ResolverGroup) : ResolverGroup :=
  { g with cache := a.apply g.cache }

/- The group after the source of a member has changed. -/
def setSource
    (i : Nat)
    (source : RouteSource)
    (g : ResolverGroup) : ResolverGroup :=
  { g with
    members := g.members.modify i fun m => { m with source } }

/- Find all routes, or up to a number, with one member. -/
def resolve
    (i : Nat)
    (x : Exchange)
    (wanted : Option Nat)
    (g : ResolverGroup) : ResolverGroup × Option Resolution :=
  match g.members[i]? with
  | none => (g, none)
  | some m =>
      let n := (g.resolver m).resolve x none wanted (g.state m)
      (g.remember i m n.state, some n)

/- Find the first route unless the request is cancelled. -/
def firstUnless
    (i : Nat)
    (x : Exchange)
    (c : Cancellation)
    (g : ResolverGroup) :
    ResolverGroup ×
      Option
        (Resolution ×
          Except GatewayError (Option CompiledRoute)) :=
  match g.members[i]? with
  | none => (g, none)
  | some m =>
      let n := (g.resolver m).firstUnless x c (g.state m)
      (g.remember i m n.1.state, some n)

end ResolverGroup

end Signpost
