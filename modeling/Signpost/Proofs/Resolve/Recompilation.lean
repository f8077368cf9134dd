import Signpost.Proofs.Resolve.Pruning

/-
  A definition that was compiled once is not compiled again
  as long as its sources go on to list it, and its route is
  the same one in all answers.

  Main declarations:
    * `Listing.Keeps`
    * `Reuses`
    * `reuses_walk` and `held_of_compiled_walk`
    * `ResolverSession.reuses_history`
-/

namespace Signpost

open RouteCache (Carries)
open Text

variable {compile :
  RouteDefinition → Except CompilationError Route}
variable {c : RouteCache}
variable {d d' : RouteDefinition}
variable {r : CompiledRoute}
variable {x : Exchange}

------------------------------------------------------------
-- Definitions That Are Kept
------------------------------------------------------------

/-
  A definition is the first one of its name when a listing is
  put in ascending order with ties in place.
-/
def Listing.Keeps (l : Listing) (d : RouteDefinition) : Prop :=
  ∃ ordered,
    StablySorted l.routes ordered ∧
      d ∈ Distinct.firsts RouteDefinition.id ordered

/- These definitions are the candidates. -/
theorem Listing.keeps_iff
    {l : Listing} :
    l.Keeps d ↔ d ∈ (Candidates.ofList l.routes).kept := by
  have hSorted := Candidates.stablySorted_sorted l.routes
  rw [Candidates.ofList, Distinct.kept_ofList]
  constructor
  · rintro ⟨ordered, hOrdered, hFirst⟩
    rw [hSorted.unique hOrdered]
    exact hFirst
  · intro hFirst
    exact ⟨Candidates.sorted l.routes, hSorted, hFirst⟩

/- No other candidate has its name. -/
theorem Listing.Keeps.eq_of_id_eq
    {l : Listing}
    (hKeeps : l.Keeps d)
    (hKept : d' ∈ (Candidates.ofList l.routes).kept)
    (hName : d'.id = d.id) :
    d' = d :=
  List.inj_on_of_nodup_map
    (Candidates.nodup_ids_kept l.routes) hKept
    (Listing.keeps_iff.mp hKeeps) hName

theorem Listing.Keeps.id_mem
    {l : Listing}
    (hKeeps : l.Keeps d) :
    d.id ∈ l.ids :=
  List.mem_map_of_mem
    (Candidates.mem_of_mem_kept (Listing.keeps_iff.mp hKeeps))

------------------------------------------------------------
-- Visits
------------------------------------------------------------

/- A visit compiles its own definition, unless there is a hit. -/
theorem compiled_visit
    {now t : Nat}
    {id : String}
    (hMem : (t, .compiled id) ∈ (visit compile x now c d).trace) :
    id = d.id ∧ c.hit? d = none := by
  have hEffect :
      Effect.compiled id ∈ effectsOf compile c x d := by
    rw [← effects_visit now]
    exact List.mem_map_of_mem hMem
  unfold effectsOf at hEffect
  rcases List.mem_append.mp hEffect with hEarly | hLine
  · rcases List.mem_append.mp hEarly with hHere | hStart
    · split at hHere
      · cases hHere
      · rename_i hMiss
        rw [Bool.not_eq_true, Option.isSome_eq_false_iff,
          Option.isNone_iff_eq_none] at hMiss
        cases List.mem_singleton.mp hHere
        exact ⟨rfl, hMiss⟩
    · rcases List.mem_map.mp hStart with ⟨p, -, hEq⟩
      cases hEq
  · rcases List.mem_map.mp hLine with ⟨line, -, hEq⟩
    cases hEq

/- A visit finds no other route than it fetches. -/
theorem fetch_of_found_visit
    {now : Nat}
    (hFound : (visit compile x now c d).found = some r) :
    (c.fetch compile d).2 = .ok r := by
  unfold visit at hFound
  cases hFetch : c.fetch compile d with
  | mk after result =>
      rw [hFetch] at hFound
      cases result with
      | error e => cases hFound
      | ok r' =>
          simp only [Visit.matched] at hFound
          split at hFound
          · cases hFound
            rfl
          · cases hFound

/- What is fetched for a definition was made from it. -/
theorem RouteCache.definition_of_fetch
    (hCarries : Carries compile)
    (hFetch : (c.fetch compile d).2 = .ok r) :
    r.definition = d := by
  cases hHit : c.hit? d with
  | some r' =>
      rw [fetch_of_hit hHit] at hFetch
      cases hFetch
      exact (hit?_eq_some_iff.mp hHit).2
  | none =>
      cases hCompile : compile d with
      | error e =>
          rw [fetch_of_error hHit hCompile] at hFetch
          cases hFetch
      | ok route =>
          rw [fetch_of_ok hHit hCompile] at hFetch
          cases hFetch
          exact hCarries d route hCompile

/- A visit to another definition does not concern this one. -/
theorem visit_of_ne
    (hCarries : Carries compile)
    (hName : d'.id ≠ d.id)
    (now : Nat) :
    let v := visit compile x now c d'
    (∀ time, (time, .compiled d.id) ∉ v.trace) ∧
      ∀ r ∈ v.found.toList, r.definition ≠ d := by
  constructor
  · intro time hMem
    exact hName (compiled_visit hMem).1.symm
  · intro r hMem hDefinition
    have hFetch :=
      fetch_of_found_visit (Option.mem_toList.mp hMem)
    have hSame :=
      RouteCache.definition_of_fetch hCarries hFetch
    rw [← hSame, hDefinition] at hName
    exact hName rfl

/- The route that is held for a definition stays held. -/
theorem RouteCache.hit?_fetch_of_hit
    (hHit : c.hit? d = some r)
    (hOnly : d'.id = d.id → d' = d) :
    (c.fetch compile d').1.hit? d = some r := by
  by_cases hName : d'.id = d.id
  · rw [hOnly hName, fetch_of_hit hHit]
    exact hHit
  · rw [hit?_fetch_of_ne (Ne.symm hName)]
    exact hHit

------------------------------------------------------------
-- Routes That Are Used Again
------------------------------------------------------------

/-
  Effects and routes that were found use a route again: its
  definition is not compiled, and no other route that was
  made from it is found.
-/
structure Reuses
    (d : RouteDefinition)
    (r : CompiledRoute)
    (t : Trace)
    (found : List CompiledRoute) : Prop where
  uncompiled : ∀ time, (time, .compiled d.id) ∉ t
  same : ∀ r' ∈ found, r'.definition = d → r' = r

namespace Reuses

variable {s t : Trace}
variable {found found' : List CompiledRoute}

theorem none :
    Reuses d r [] [] where
  uncompiled _ := List.not_mem_nil
  same := List.forall_mem_nil _

theorem append
    (hFirst : Reuses d r s found)
    (hSecond : Reuses d r t found') :
    Reuses d r (s ++ t) (found ++ found') where
  uncompiled time hMem := by
    rcases List.mem_append.mp hMem with hMem | hMem
    · exact hFirst.uncompiled time hMem
    · exact hSecond.uncompiled time hMem
  same r' hMem := by
    rcases List.mem_append.mp hMem with hMem | hMem
    · exact hFirst.same r' hMem
    · exact hSecond.same r' hMem

/- Effects that are cut off do no harm. -/
theorem upTo
    (hReuses : Reuses d r t found)
    (limit : Nat) :
    Reuses d r (t.upTo limit) [] where
  uncompiled time hMem :=
    hReuses.uncompiled time (List.mem_filter.mp hMem).1
  same := List.forall_mem_nil _

end Reuses

/- A visit uses the route that is held. -/
theorem reuses_visit
    (hCarries : Carries compile)
    (hHit : c.hit? d = some r)
    (hOnly : d'.id = d.id → d' = d)
    (now : Nat) :
    let v := visit compile x now c d'
    Reuses d r v.trace v.found.toList where
  uncompiled time hMem := by
    rcases compiled_visit hMem with ⟨hName, hMiss⟩
    rw [hOnly hName.symm, hHit] at hMiss
    cases hMiss
  same r' hMem hDefinition := by
    have hFetch :=
      fetch_of_found_visit (Option.mem_toList.mp hMem)
    have hSame :=
      RouteCache.definition_of_fetch hCarries hFetch
    rw [← hSame, hDefinition, RouteCache.fetch_of_hit hHit]
      at hFetch
    cases hFetch
    rfl

/- So does a walk, and the route stays held. -/
theorem reuses_walk
    (hCarries : Carries compile)
    (deadline : Option Nat)
    {ds : List RouteDefinition}
    (hOnly : ∀ d' ∈ ds, d'.id = d.id → d' = d)
    (wanted now : Nat)
    (hHit : c.hit? d = some r) :
    let w := walk compile x deadline ds wanted now c
    w.cache.hit? d = some r ∧ Reuses d r w.trace w.found := by
  induction ds generalizing wanted now c with
  | nil => exact ⟨hHit, .none⟩
  | cons d' ds ih =>
      cases wanted with
      | zero => exact ⟨hHit, .none⟩
      | succ wanted =>
          rcases List.forall_mem_cons.mp hOnly with ⟨hHere, hTail⟩
          have hVisit :=
            reuses_visit (x := x) hCarries hHit hHere now
          have hAfter :
              (visit compile x now c d').cache.hit? d =
                some r := by
            rw [cache_visit]
            exact RouteCache.hit?_fetch_of_hit hHit hHere
          simp only [walk]
          split
          · exact ⟨hAfter, hVisit.upTo _⟩
          · exact
              ⟨(ih hTail _ _ hAfter).1,
                hVisit.append (ih hTail _ _ hAfter).2⟩

/- A visit that compiles a definition holds its new route. -/
theorem held_of_compiled_visit
    (hCarries : Carries compile)
    {route : Route}
    (hRoute : compile d = .ok route)
    (hMiss : c.hit? d = none)
    (now : Nat) :
    (visit compile x now c d).cache.hit? d =
        some ⟨c.compilations, route⟩ ∧
      ∀ r, (visit compile x now c d).found = some r →
        r = ⟨c.compilations, route⟩ := by
  have hFetch := RouteCache.fetch_of_ok hMiss hRoute
  constructor
  · rw [cache_visit, hFetch, RouteCache.hit?_eq_some_iff]
    exact ⟨Dict.get?_insert_self _ _ _, hCarries d route hRoute⟩
  · intro r hFound
    have hFetched := fetch_of_found_visit hFound
    rw [hFetch] at hFetched
    cases hFetched
    rfl

/- A walk that starts with such a visit goes on to use it. -/
theorem held_of_missed_cons
    (hCarries : Carries compile)
    {route : Route}
    (hRoute : compile d = .ok route)
    (hMiss : c.hit? d = none)
    (deadline : Option Nat)
    {ds : List RouteDefinition}
    (hOnly : ∀ d' ∈ ds, d'.id = d.id → d' = d)
    (wanted now : Nat) :
    let w := walk compile x deadline (d :: ds) (wanted + 1) now c
    let r : CompiledRoute := ⟨c.compilations, route⟩
    w.cache.hit? d = some r ∧
      ∀ r' ∈ w.found, r'.definition = d → r' = r := by
  intro w r
  rcases
      held_of_compiled_visit (x := x) hCarries hRoute hMiss
        now with
    ⟨hHeld, hFound⟩
  simp only [w, walk]
  split
  · exact ⟨hHeld, List.forall_mem_nil _⟩
  · have hRest (wanted now : Nat) :=
      reuses_walk (x := x) hCarries deadline hOnly wanted now
        hHeld
    refine ⟨(hRest _ _).1, ?_⟩
    intro r' hMem hDefinition
    rcases List.mem_append.mp hMem with hMem | hMem
    · exact hFound r' (Option.mem_toList.mp hMem)
    · exact (hRest _ _).2.same r' hMem hDefinition

/-
  A walk that compiles a definition holds its new route from
  then on, and finds no other one.  Up to the visit to the
  definition nothing else is found for it, since the other
  candidates have other names.
-/
theorem held_of_compiled_walk
    (hCarries : Carries compile)
    {route : Route}
    (hRoute : compile d = .ok route)
    (deadline : Option Nat)
    {ds : List RouteDefinition}
    (hOnly : ∀ d' ∈ ds, d'.id = d.id → d' = d)
    (wanted now : Nat)
    {time : Nat}
    (hCompiled :
      (time, .compiled d.id) ∈
        (walk compile x deadline ds wanted now c).trace) :
    let w := walk compile x deadline ds wanted now c
    ∃ r : CompiledRoute, r.route = route ∧
      w.cache.hit? d = some r ∧
      ∀ r' ∈ w.found, r'.definition = d → r' = r := by
  induction ds generalizing wanted now c with
  | nil => cases hCompiled
  | cons d' ds ih =>
      cases wanted with
      | zero => cases hCompiled
      | succ wanted =>
          rcases List.forall_mem_cons.mp hOnly with ⟨hHere, hTail⟩
          by_cases hName : d'.id = d.id
          · have hSame := hHere hName
            subst hSame
            cases hHit : c.hit? d' with
            | some r =>
                have hReuses :=
                  (reuses_walk (x := x) hCarries deadline hOnly
                    (wanted + 1) now hHit).2
                exact absurd hCompiled (hReuses.uncompiled time)
            | none =>
                exact
                  ⟨⟨c.compilations, route⟩, rfl,
                    held_of_missed_cons hCarries hRoute hHit
                      deadline hTail wanted now⟩
          · rcases
                visit_of_ne (c := c) (x := x) hCarries hName now with
              ⟨hOther, hFound⟩
            simp only [walk] at hCompiled ⊢
            split at hCompiled
            · exact
                absurd (List.mem_filter.mp hCompiled).1
                  (hOther time)
            · rcases List.mem_append.mp hCompiled with
                hMem | hMem
              · exact absurd hMem (hOther time)
              · rcases ih hTail _ _ hMem with
                  ⟨r, hr, hHeld, hSame⟩
                refine ⟨r, hr, hHeld, ?_⟩
                intro r' hMem hDefinition
                rcases List.mem_append.mp hMem with hMem | hMem
                · exact absurd hDefinition (hFound r' hMem)
                · exact hSame r' hMem hDefinition

------------------------------------------------------------
-- Requests
------------------------------------------------------------

/- Pruning for a listing leaves the routes of its names. -/
theorem ResolverState.hit?_pruneFor
    {s : ResolverState}
    {l : Listing}
    (source : RouteSource)
    (hListed : d.id ∈ l.ids)
    (hHit : s.cache.hit? d = some r) :
    (s.pruneFor source l).cache.hit? d = some r := by
  rcases cache_pruneFor source l s with hCache | hCache
  · rw [hCache]
    exact hHit
  · rw [hCache]
    rw [RouteCache.hit?_eq_some_iff] at hHit ⊢
    rw [RouteCache.retain, Dict.get?_keep,
      if_pos (List.contains_iff_mem.mpr hListed)]
    exact hHit

/- No definition is compiled before candidates are tried. -/
theorem Resolver.compiled_opening
    {l : Listing}
    {time : Nat}
    {id : String} :
    (time, .compiled id) ∉ opening l := by
  intro hMem
  rcases List.mem_cons.mp hMem with hEq | hMem
  · cases hEq
  · rcases List.mem_map.mp hMem with ⟨line, -, hEq⟩
    cases hEq

namespace ResolverSession

variable {rs : Resolver}
variable {q : Request}

/- A request uses a route that is held and still listed. -/
theorem Request.Outcome.reuses
    (hOutcome : q.Outcome rs)
    (hCarries : Carries rs.compile)
    (hKeeps : ∀ l, q.listed = some (.ok l) → l.Keeps d)
    (hHit : q.before.cache.hit? d = some r) :
    q.resolution.state.cache.hit? d = some r ∧
      Reuses d r q.resolution.trace q.resolution.found := by
  cases hOutcome with
  | idle hListed hState hTrace hFound =>
      rw [hState, hTrace, hFound]
      exact ⟨hHit, .none⟩
  | @failed x e hListed hResolution =>
      rw [hResolution]
      refine ⟨hHit, ?_, List.forall_mem_nil _⟩
      intro time hMem
      simp [Resolver.unlisted] at hMem
  | @tried x deadline wanted l hListed hResolution =>
      have hKept := hKeeps l hListed
      have hPruned :=
        ResolverState.hit?_pruneFor rs.source hKept.id_mem hHit
      rcases
          reuses_walk (x := x) hCarries deadline
            (fun _ => hKept.eq_of_id_eq) wanted 0 hPruned with
        ⟨hHeld, hReuses⟩
      rw [hResolution]
      refine ⟨hHeld, ?_, hReuses.same⟩
      intro time hMem
      rcases List.mem_append.mp hMem with hMem | hMem
      · exact Resolver.compiled_opening hMem
      · exact hReuses.uncompiled time hMem

/- A request that compiles a definition holds its route. -/
theorem Request.Outcome.held_of_compiled
    (hOutcome : q.Outcome rs)
    (hCarries : Carries rs.compile)
    {l : Listing}
    (hListed : q.listed = some (.ok l))
    (hKeeps : l.Keeps d)
    {route : Route}
    (hRoute : rs.compile d = .ok route)
    {time : Nat}
    (hCompiled : (time, .compiled d.id) ∈ q.resolution.trace) :
    ∃ r : CompiledRoute, r.route = route ∧
      q.resolution.state.cache.hit? d = some r ∧
      ∀ r' ∈ q.resolution.found,
        r'.definition = d → r' = r := by
  cases hOutcome with
  | idle hNone =>
      rw [hListed] at hNone
      cases hNone
  | failed hError =>
      rw [hListed] at hError
      cases hError
  | @tried x deadline wanted l' hListed' hResolution =>
      rw [hListed] at hListed'
      cases hListed'
      rw [hResolution] at hCompiled ⊢
      rcases List.mem_append.mp hCompiled with hMem | hMem
      · exact absurd hMem Resolver.compiled_opening
      · exact
          held_of_compiled_walk hCarries hRoute deadline
            (fun _ => hKeeps.eq_of_id_eq) wanted 0 hMem

/- What holds of requests that follow holds of later ones. -/
theorem Follows.drop
    {P : Resolver → Prop}
    {s : ResolverState}
    {earlier later : List Request}
    (hFollows : Follows P s (earlier ++ later)) :
    ∃ s', Follows P s' later := by
  induction earlier generalizing s with
  | nil => exact ⟨s, hFollows⟩
  | cons q earlier ih => exact ih hFollows.2.2

/- All requests use a route again while they list it. -/
theorem Follows.reuses
    {s : ResolverState}
    {qs : List Request}
    (hCarries : Carries compile)
    (hFollows : Follows (fun rs => rs.compile = compile) s qs)
    (hKeeps :
      ∀ q ∈ qs, ∀ l, q.listed = some (.ok l) → l.Keeps d)
    (hHit : s.cache.hit? d = some r) :
    ∀ q ∈ qs,
      Reuses d r q.resolution.trace q.resolution.found := by
  induction qs generalizing s with
  | nil => exact List.forall_mem_nil _
  | cons q qs ih =>
      rcases hFollows with ⟨rfl, ⟨rs, rfl, hOutcome⟩, hRest⟩
      rcases List.forall_mem_cons.mp hKeeps with ⟨hHere, hLater⟩
      rcases hOutcome.reuses hCarries hHere hHit with
        ⟨hHeld, hReuses⟩
      exact
        List.forall_mem_cons.mpr
          ⟨hReuses, ih hRest hLater hHeld⟩

/-
  Let a request compile a definition that can be compiled,
  and let every listing after it keep this definition for
  its name.  Then no later request compiles it, and all of
  them, like this one, find no other route for it than the
  one that was made here, whatever else is listed and
  whatever is asked for in between.
-/
theorem reuses_history
    {source : RouteSource}
    {es : List Event}
    {earlier later : List Request}
    {l : Listing}
    {route : Route}
    {time : Nat}
    (hCarries : Carries compile)
    (hHistory :
      history { resolver := ⟨source, compile⟩ } es =
        earlier ++ q :: later)
    (hListed : q.listed = some (.ok l))
    (hKeeps : l.Keeps d)
    (hRoute : compile d = .ok route)
    (hCompiled : (time, .compiled d.id) ∈ q.resolution.trace)
    (hLater :
      ∀ q' ∈ later, ∀ l', q'.listed = some (.ok l') →
        l'.Keeps d) :
    ∃ r : CompiledRoute, r.route = route ∧
      (∀ r' ∈ q.resolution.found,
        r'.definition = d → r' = r) ∧
      ∀ q' ∈ later,
        (∀ time, (time, .compiled d.id) ∉ q'.resolution.trace) ∧
          ∀ r' ∈ q'.resolution.found,
            r'.definition = d → r' = r := by
  have hFollows :
      Follows (fun rs => rs.compile = compile) {}
        (history { resolver := ⟨source, compile⟩ } es) :=
    follows_history (s := { resolver := ⟨source, compile⟩ })
      rfl fun _ _ rs hrs => hrs
  rw [hHistory] at hFollows
  rcases hFollows.drop with
    ⟨s', -, ⟨rs, rfl, hOutcome⟩, hRest⟩
  rcases hOutcome.held_of_compiled hCarries hListed hKeeps
      hRoute hCompiled with
    ⟨r, hr, hHeld, hSame⟩
  refine ⟨r, hr, hSame, ?_⟩
  intro q' hq'
  have hReuses := hRest.reuses hCarries hLater hHeld q' hq'
  exact ⟨hReuses.uncompiled, hReuses.same⟩

/- A route is published once more with nothing changed. -/
def reload (d : RouteDefinition) : List Event :=
  [.resolve {} none,
    .update ((PublishedRoutes.ofList [d]).publish [d]).source,
    .firstUnless {} (.after 5)]

/- The route is not compiled again after it was reloaded. -/
theorem reuses_history_reload :
    let d : RouteDefinition := { id := "a", uri := "lb://blue" }
    let source := (PublishedRoutes.ofList [d]).source
    let compile := ResolverGroup.standardCompiler.compile
    ∃ q q' r,
      history { resolver := ⟨source, compile⟩ } (reload d) =
          [q, q'] ∧
        q.listed = some (.ok ⟨0, [d]⟩) ∧
        q'.listed = some (.ok ⟨1, [d]⟩) ∧
        q.resolution.found = [r] ∧
        q'.resolution.found = [r] ∧
        ∀ time, (time, .compiled "a") ∉ q'.resolution.trace := by
  intro d source compile
  let n := Resolver.all ⟨source, compile⟩ {} {}
  let renewed := ((PublishedRoutes.ofList [d]).publish [d]).source
  let n' :=
    (Resolver.firstUnless ⟨renewed, compile⟩ {} (.after 5)
      n.state).1
  have hHistory :
      history { resolver := ⟨source, compile⟩ } (reload d) =
        [] ++ ⟨{}, some (.ok ⟨0, [d]⟩), n⟩ ::
          [⟨n.state, some (.ok ⟨1, [d]⟩), n'⟩] := rfl
  have hKeeps (version : Nat) :
      (⟨version, [d]⟩ : Listing).Keeps d :=
    ⟨[d], ⟨.refl _, List.pairwise_singleton _ _, fun _ => rfl⟩,
      by decide⟩
  have hOk : (compile d).toOption.isSome = true := by
    decide +kernel
  have hCompiled : (0, .compiled d.id) ∈ n.trace := by
    decide +kernel
  have hFound : n.found.map CompiledRoute.definition = [d] := by
    decide +kernel
  have hFound' :
      n'.found.map CompiledRoute.definition = [d] := by
    decide +kernel
  rcases List.map_eq_singleton_iff.mp hFound with
    ⟨r, hr, hDefinition⟩
  rcases List.map_eq_singleton_iff.mp hFound' with
    ⟨r', hr', hDefinition'⟩
  cases hRoute : compile d with
  | error e =>
      rw [hRoute] at hOk
      cases hOk
  | ok route =>
      rcases reuses_history
          ResolverGroup.standardCompiler.carries_compile
          hHistory rfl (hKeeps 0) hRoute hCompiled
          (by
            intro q hq l hListed
            rw [List.mem_singleton.mp hq] at hListed
            cases hListed
            exact hKeeps 1) with
        ⟨held, -, hSame, hLater⟩
      rcases hLater _ List.mem_cons_self with
        ⟨hUncompiled, hSame'⟩
      simp only [hr, List.mem_singleton, forall_eq] at hSame
      simp only [hr', List.mem_singleton, forall_eq] at hSame'
      refine
        ⟨_, _, held, hHistory, rfl, rfl, ?_, ?_, hUncompiled⟩
      · rw [← hSame hDefinition]
        exact hr
      · rw [← hSame' hDefinition']
        exact hr'

end ResolverSession

end Signpost
