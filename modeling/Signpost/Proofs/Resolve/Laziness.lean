import Mathlib.Data.List.Basic
import Signpost.Proofs.Resolve.Resolution

/-
  How far a resolution goes that asks for some routes only,
  told from one that asks for all of them.

  Main declarations:
    * `RouteCache.known`
    * `effectsOf`
    * `TriedUntil`
    * `walk_of_length_le`
    * `found_walk_take` and `trace_walk_append`
    * `triedUntil_walk`
    * `Resolver.found_take`
    * `Resolver.take_of_all`
-/

namespace Signpost

open Text

variable {compile :
  RouteDefinition → Except CompilationError Route}
variable {c : RouteCache}
variable {d : RouteDefinition}
variable {x : Exchange}

------------------------------------------------------------
-- What a Cache Knows
------------------------------------------------------------

namespace RouteCache

/-
  The route that is held for a definition, or else what
  compiling it gives.
-/
def known
    (compile :
      RouteDefinition → Except CompilationError Route)
    (c : RouteCache)
    (d : RouteDefinition) : Except CompilationError Route :=
  match c.hit? d with
  | some r => .ok r.route
  | none => compile d

/- Any cache hands out what it knows, honest or not. -/
theorem fetch_eq_known
    (compile :
      RouteDefinition → Except CompilationError Route)
    (c : RouteCache)
    (d : RouteDefinition) :
    (c.fetch compile d).2.map CompiledRoute.route =
      c.known compile d := by
  unfold known
  cases hHit : c.hit? d with
  | some r =>
      rw [fetch_of_hit hHit]
      rfl
  | none =>
      cases hCompile : compile d with
      | error e =>
          rw [fetch_of_error hHit hCompile]
          rfl
      | ok route =>
          rw [fetch_of_ok hHit hCompile]
          rfl

/- Fetching hides no hit for other names, and makes none. -/
theorem hit?_fetch_of_ne
    {d' : RouteDefinition}
    (hName : d'.id ≠ d.id) :
    (c.fetch compile d).1.hit? d' = c.hit? d' := by
  rw [hit?, hit?, get?_fetch_of_ne hName]

end RouteCache

------------------------------------------------------------
-- The Effects of One Candidate
------------------------------------------------------------

/- The predicates of a definition that a request starts. -/
def startedBy
    (compile :
      RouteDefinition → Except CompilationError Route)
    (x : Exchange)
    (d : RouteDefinition) : List String :=
  match compile d with
  | .error _ => []
  | .ok route => (route.predicate.test x).started.map Prod.snd

/-
  The effects of trying a candidate, whenever this is done:
  the compiler is asked unless there is a hit, predicates
  are started, and a line is left if something is wrong.
-/
def effectsOf
    (compile :
      RouteDefinition → Except CompilationError Route)
    (c : RouteCache)
    (x : Exchange)
    (d : RouteDefinition) : List Effect :=
  (if (c.hit? d).isSome then [] else [.compiled d.id]) ++
    (startedBy (c.known compile) x d).map Effect.started ++
    (warning? (c.known compile) x d).toList.map Effect.logged

/- A visit has the effects of its candidate. -/
theorem effects_visit
    (now : Nat) :
    (visit compile x now c d).trace.map Prod.snd =
      effectsOf compile c x d := by
  have hFirst :
      (Visit.compilation c now d).map Prod.snd =
        if (c.hit? d).isSome then [] else [.compiled d.id] := by
    unfold Visit.compilation
    split <;> rfl
  have hKnown := RouteCache.fetch_eq_known compile c d
  unfold visit effectsOf startedBy warning?
  rw [← hKnown]
  cases hFetch : c.fetch compile d with
  | mk after result =>
      cases result with
      | error e =>
          simp [Except.map, hFirst]
      | ok r =>
          simp only [Except.map, List.map_append, hFirst,
            List.append_assoc, Visit.testing]
          congr 1
          cases hVerdict :
              (r.route.predicate.test x).verdict with
          | ok b => simp [Function.comp_def]
          | error e =>
              simp [Function.comp_def, CompiledRoute.id]

/- A visit finds the route that is known, if it accepts. -/
theorem route_found_visit
    (now : Nat) :
    (visit compile x now c d).found.map CompiledRoute.route =
      accepted? (c.known compile) x d := by
  have hKnown := RouteCache.fetch_eq_known compile c d
  unfold visit accepted?
  rw [← hKnown]
  cases hFetch : c.fetch compile d with
  | mk after result =>
      cases result with
      | error e => rfl
      | ok r =>
          simp only [Except.map, Visit.matched]
          cases (r.route.predicate.test x).verdict with
          | error e => rfl
          | ok b => cases b <;> rfl

------------------------------------------------------------
-- Walks Without a Deadline
------------------------------------------------------------

/- Without a deadline a walk goes on after each visit. -/
theorem walk_cons
    (ds : List RouteDefinition)
    (wanted now : Nat) :
    walk compile x none (d :: ds) (wanted + 1) now c =
      (walk compile x none ds
        (if (visit compile x now c d).found.isSome then wanted
          else wanted + 1)
        (visit compile x now c d).finish
        (visit compile x now c d).cache).after
        (visit compile x now c d) := rfl

theorem finish_walk
    (ds : List RouteDefinition)
    (wanted now : Nat) :
    (walk compile x none ds wanted now c).finish.isSome =
      true := by
  induction ds generalizing wanted now c with
  | nil => rfl
  | cons d ds ih =>
      cases wanted with
      | zero => rfl
      | succ wanted =>
          rw [walk_cons]
          exact ih _ _

/-
  To want more routes than there are candidates is to want
  all of them.
-/
theorem walk_of_length_le
    {ds : List RouteDefinition}
    {few many : Nat}
    (hFew : ds.length ≤ few)
    (hMany : ds.length ≤ many)
    (now : Nat) :
    walk compile x none ds few now c =
      walk compile x none ds many now c := by
  induction ds generalizing few many now c with
  | nil => rfl
  | cons d ds ih =>
      obtain ⟨few, rfl⟩ :=
        Nat.exists_eq_add_one_of_ne_zero
          (Nat.ne_zero_of_lt hFew)
      obtain ⟨many, rfl⟩ :=
        Nat.exists_eq_add_one_of_ne_zero
          (Nat.ne_zero_of_lt hMany)
      simp only [List.length_cons] at hFew hMany
      rw [walk_cons, walk_cons]
      congr 1
      apply ih <;> split <;> omega

/- Wanting fewer routes gives the first of those found. -/
theorem found_walk_take
    (compile :
      RouteDefinition → Except CompilationError Route)
    (x : Exchange)
    (c : RouteCache)
    (ds : List RouteDefinition)
    {few many : Nat}
    (hFew : few ≤ many)
    (now : Nat) :
    (walk compile x none ds few now c).found =
      (walk compile x none ds many now c).found.take few := by
  induction ds generalizing few many now c with
  | nil => simp [walk, Walk.ended]
  | cons d ds ih =>
      cases few with
      | zero => rfl
      | succ few =>
          obtain ⟨many, rfl⟩ :=
            Nat.exists_eq_add_one_of_ne_zero
              (Nat.ne_zero_of_lt hFew)
          simp only [walk_cons, Walk.after]
          cases (visit compile x now c d).found with
          | none => simpa using ih _ hFew _
          | some r =>
              simpa using ih _ (Nat.le_of_succ_le_succ hFew) _

/- Wanting more routes adds to the effects at their end. -/
theorem trace_walk_append
    (compile :
      RouteDefinition → Except CompilationError Route)
    (x : Exchange)
    (c : RouteCache)
    (ds : List RouteDefinition)
    {few many : Nat}
    (hFew : few ≤ many)
    (now : Nat) :
    ∃ later,
      (walk compile x none ds many now c).trace =
        (walk compile x none ds few now c).trace ++ later := by
  induction ds generalizing few many now c with
  | nil => exact ⟨[], rfl⟩
  | cons d ds ih =>
      cases few with
      | zero => exact ⟨_, rfl⟩
      | succ few =>
          obtain ⟨many, rfl⟩ :=
            Nat.exists_eq_add_one_of_ne_zero
              (Nat.ne_zero_of_lt hFew)
          have hRest :
              (if (visit compile x now c d).found.isSome
                then few else few + 1) ≤
              if (visit compile x now c d).found.isSome
                then many else many + 1 := by
            split <;> omega
          obtain ⟨later, hLater⟩ :=
            ih (visit compile x now c d).cache hRest
              (visit compile x now c d).finish
          refine ⟨later, ?_⟩
          simp only [walk_cons, Walk.after, hLater,
            List.append_assoc]

------------------------------------------------------------
-- The Candidates That Are Tried
------------------------------------------------------------

/-
  Candidates are tried from the first one on as long as
  fewer than some number of them were accepted, and the rest
  is left out.
-/
structure TriedUntil
    (accepts : RouteDefinition → Bool)
    (n : Nat)
    (candidates tried rest : List RouteDefinition) :
    Prop where
  split : candidates = tried ++ rest
  wanting :
    ∀ before d after, tried = before ++ d :: after →
      before.countP accepts < n
  enough : rest ≠ [] → tried.countP accepts = n

namespace TriedUntil

variable {accepts : RouteDefinition → Bool}
variable {candidates tried rest : List RouteDefinition}

theorem nil
    (n : Nat) :
    TriedUntil accepts n [] [] [] where
  split := rfl
  wanting before d after hSplit := by simp at hSplit
  enough hRest := absurd rfl hRest

/- If nothing is wanted, nothing is tried. -/
theorem zero
    (candidates : List RouteDefinition) :
    TriedUntil accepts 0 candidates [] candidates where
  split := rfl
  wanting before d after hSplit := by simp at hSplit
  enough _ := rfl

/- One more candidate is tried before those. -/
theorem cons
    {n : Nat}
    (d : RouteDefinition)
    (hTried :
      TriedUntil accepts (if accepts d then n else n + 1)
        candidates tried rest) :
    TriedUntil accepts (n + 1) (d :: candidates) (d :: tried)
      rest where
  split := by rw [hTried.split, List.cons_append]
  wanting before d' after hSplit := by
    cases before with
    | nil => exact Nat.succ_pos n
    | cons b before =>
        obtain ⟨hHead, hTail⟩ := List.cons.inj hSplit
        have hBefore := hTried.wanting before d' after hTail
        subst hHead
        rw [List.countP_cons]
        split at hBefore <;> simp_all
  enough hRest := by
    have hEnough := hTried.enough hRest
    rw [List.countP_cons, hEnough]
    split <;> rfl

/- Nothing is left out if as many are wanted as there are. -/
theorem rest_eq_nil
    {n : Nat}
    (hTried : TriedUntil accepts n candidates tried rest)
    (hMany : candidates.length ≤ n) :
    rest = [] := by
  by_contra hRest
  have hCount := hTried.enough hRest
  have hTriedLength : tried.countP accepts ≤ tried.length :=
    List.countP_le_length
  have hRestLength := List.length_pos_iff.mpr hRest
  rw [hTried.split, List.length_append] at hMany
  omega

end TriedUntil

/-
  A walk through candidates of different names tries them
  until enough of them are accepted.  It has the effects of
  those that are tried, finds what they accept, and leaves
  what is held under other names.  All this is told from an
  earlier cache with the same hits for the candidates, which
  carries the induction: a visit changes no other hits.
-/
theorem triedUntil_walk
    (compile :
      RouteDefinition → Except CompilationError Route)
    (x : Exchange)
    {c c' : RouteCache}
    {ds : List RouteDefinition}
    (hNames : (ds.map RouteDefinition.id).Nodup)
    (hHits : ∀ d ∈ ds, c'.hit? d = c.hit? d)
    (wanted now : Nat) :
    let w := walk compile x none ds wanted now c'
    let known := c.known compile
    ∃ tried rest,
      TriedUntil (fun d => (accepted? known x d).isSome)
          wanted ds tried rest ∧
        w.trace.map Prod.snd =
          tried.flatMap (effectsOf compile c x) ∧
        w.found.map CompiledRoute.route =
          tried.filterMap (accepted? known x) ∧
        ∀ k, k ∉ tried.map RouteDefinition.id →
          w.cache.entries.get? k = c'.entries.get? k := by
  induction ds generalizing wanted now c' with
  | nil =>
      exact
        ⟨[], [], .nil wanted, rfl, rfl, fun _ _ => rfl⟩
  | cons d ds ih =>
      cases wanted with
      | zero =>
          exact
            ⟨[], d :: ds, .zero (d :: ds), rfl, rfl,
              fun _ _ => rfl⟩
      | succ wanted =>
          obtain ⟨hName, hNames⟩ := List.nodup_cons.mp hNames
          have hHit : c'.hit? d = c.hit? d :=
            hHits d List.mem_cons_self
          have hKnown :
              c'.known compile d = c.known compile d := by
            rw [RouteCache.known, RouteCache.known, hHit]
          have hEffects :
              effectsOf compile c' x d =
                effectsOf compile c x d := by
            simp only [effectsOf, startedBy, warning?, hHit,
              hKnown]
          have hAccepted :
              accepted? (c'.known compile) x d =
                accepted? (c.known compile) x d := by
            simp only [accepted?, hKnown]
          have hTail :
              ∀ d' ∈ ds,
                (visit compile x now c' d).cache.hit? d' =
                  c.hit? d' := by
            intro d' hMember
            have hOther : d'.id ≠ d.id := by
              intro hEq
              exact hName (hEq ▸ List.mem_map_of_mem hMember)
            rw [cache_visit,
              RouteCache.hit?_fetch_of_ne hOther]
            exact hHits d' (List.mem_cons_of_mem d hMember)
          have hFound :
              (visit compile x now c' d).found.map
                  CompiledRoute.route =
                accepted? (c.known compile) x d := by
            rw [route_found_visit, hAccepted]
          have hIsSome :
              (visit compile x now c' d).found.isSome =
                (accepted? (c.known compile) x d).isSome := by
            rw [← hFound, Option.isSome_map]
          obtain
              ⟨tried, rest, hTried, hTrace, hRoutes, hKept⟩ :=
            ih hNames hTail
              (if (visit compile x now c' d).found.isSome then
                wanted else wanted + 1)
              (visit compile x now c' d).finish
          refine ⟨d :: tried, rest, ?_, ?_, ?_, ?_⟩
          · rw [hIsSome] at hTried
            exact hTried.cons d
          · rw [walk_cons, Walk.after, List.map_append,
              effects_visit, hEffects, hTrace,
              List.flatMap_cons]
          · rw [walk_cons, Walk.after, List.map_append,
              hRoutes, ← Option.toList_map, hFound,
              List.filterMap_cons]
            cases accepted? (c.known compile) x d <;> rfl
          · intro k hk
            rw [List.map_cons, List.mem_cons, not_or] at hk
            rw [walk_cons, Walk.after, hKept k hk.2,
              cache_visit,
              RouteCache.get?_fetch_of_ne hk.1]

------------------------------------------------------------
-- Some Routes and All Routes
------------------------------------------------------------

namespace Resolver

variable {r : Resolver}
variable {s : ResolverState}
variable {l : Listing}

theorem resolve_of_error
    {e : GatewayError}
    {wanted : Option Nat}
    (hWanted : wanted ≠ some 0)
    (hList : r.source.list x = .error e)
    (deadline : Option Nat) :
    r.resolve x deadline wanted s = unlisted x e s := by
  simp [resolve, hWanted, hList]

theorem resolve_of_ok
    {wanted : Option Nat}
    (hWanted : wanted ≠ some 0)
    (hList : r.source.list x = .ok l)
    (deadline : Option Nat) :
    r.resolve x deadline wanted s =
      r.resolveListing x deadline
        (wanted.getD l.routes.length) l s := by
  simp [resolve, hWanted, hList]

/- All routes are found by wanting a number that is not too small. -/
theorem all_of_ok
    {many : Nat}
    (hList : r.source.list x = .ok l)
    (hMany : l.routes.length ≤ many) :
    r.all x s = r.resolveListing x none many l s := by
  have hLength := Candidates.length_kept_le l.routes
  rw [all,
    resolve_of_ok (Option.some_ne_none 0).symm hList,
    Option.getD_none]
  simp only [resolveListing,
    walk_of_length_le hLength (Nat.le_trans hLength hMany)]

/-
  The effects before any candidate is tried: the source is
  listed, and a line is left for each duplicate.
-/
def opening (l : Listing) : Trace :=
  (0, .listed) ::
    (Candidates.ofList l.routes).lines.map fun line =>
      (0, .logged line)

/- The opening, told from the definitions in their order. -/
theorem opening_eq
    (l : Listing) :
    opening l =
      (0, .listed) ::
        (Distinct.repeats RouteDefinition.id
          (Candidates.sorted l.routes)).map fun d =>
            (0, .logged (Candidates.duplicateLine d)) := by
  rw [opening, Candidates.lines, Candidates.ofList,
    Distinct.dropped_ofList, List.map_map]
  rfl

/- Candidates are tried after the opening, as in a walk. -/
theorem triedUntil_resolveListing
    (r : Resolver)
    (x : Exchange)
    (wanted : Nat)
    (l : Listing)
    (s : ResolverState) :
    let n := r.resolveListing x none wanted l s
    let c := (s.pruneFor r.source l).cache
    let known := c.known r.compile
    ∃ tried rest during,
      TriedUntil (fun d => (accepted? known x d).isSome) wanted
          (Candidates.ofList l.routes).kept tried rest ∧
        n.found.map CompiledRoute.route =
          tried.filterMap (accepted? known x) ∧
        n.trace = opening l ++ during ∧
        during.map Prod.snd =
          tried.flatMap (effectsOf r.compile c x) ∧
        ∀ k, k ∉ tried.map RouteDefinition.id →
          n.state.cache.entries.get? k = c.entries.get? k := by
  intro n c known
  obtain ⟨tried, rest, hTried, hTrace, hFound, hKept⟩ :=
    triedUntil_walk r.compile x (c := c)
      (Candidates.nodup_ids_kept l.routes)
      (fun _ _ => rfl) wanted 0
  exact
    ⟨tried, rest, _, hTried, hFound, rfl, hTrace, hKept⟩

/- Wanting more routes adds to the effects at their end. -/
theorem trace_resolveListing_append
    (r : Resolver)
    (x : Exchange)
    {few many : Nat}
    (hFew : few ≤ many)
    (l : Listing)
    (s : ResolverState) :
    ∃ later,
      (r.resolveListing x none many l s).trace =
        (r.resolveListing x none few l s).trace ++ later := by
  obtain ⟨later, hLater⟩ :=
    trace_walk_append r.compile x
      (s.pruneFor r.source l).cache
      (Candidates.ofList l.routes).kept hFew 0
  refine ⟨later, ?_⟩
  simp only [resolveListing, hLater, List.append_assoc]

/- The first routes that are found are the first of all. -/
theorem found_take
    (r : Resolver)
    (x : Exchange)
    (n : Nat)
    (s : ResolverState) :
    (r.take x n s).found = (r.all x s).found.take n := by
  by_cases hZero : n = 0
  · subst hZero
    rfl
  · have hWanted : some n ≠ some 0 := by simpa using hZero
    cases hList : r.source.list x with
    | error e =>
        rw [take, all, resolve_of_error hWanted hList,
          resolve_of_error (Option.some_ne_none 0).symm hList]
        simp [unlisted]
    | ok l =>
        rw [take, resolve_of_ok hWanted hList,
          all_of_ok hList (Nat.le_max_right n l.routes.length)]
        exact
          found_walk_take r.compile x _ _
            (Nat.le_max_left n l.routes.length) 0

/- Without a deadline a resolution comes to its end. -/
theorem finish_resolve
    (r : Resolver)
    (x : Exchange)
    (wanted : Option Nat)
    (s : ResolverState) :
    (r.resolve x none wanted s).finish.isSome = true := by
  unfold resolve
  split
  · rfl
  · split
    · rfl
    · exact finish_walk _ _ 0

/-
  To find some routes gives the first of all routes that
  would be found.  If none are wanted not even the source is
  listed.  Otherwise the listed definitions are put in
  ascending order with ties in place, and a line is left for
  each whose name one before it has, right after the listing.
  Then the others are tried until enough of them are
  accepted, and there are no other effects.  To find all
  routes has these effects first, and then those of the
  candidates that were left out.
-/
theorem take_of_all
    (r : Resolver)
    (x : Exchange)
    (n : Nat)
    (s : ResolverState) :
    let few := r.take x n s
    let every := r.all x s
    few.found = every.found.take n ∧
      (r.first x s).found.head? = every.found.head? ∧
      few.finish.isSome = true ∧
      every.finish.isSome = true ∧
      if n = 0 then few.trace = [] ∧ few.state = s
      else
        match r.source.list x with
        | .error e =>
            few.trace =
                [(0, .listed), (0, .logged (listingLine x e))] ∧
              few.state = s ∧
              every.trace = few.trace
        | .ok l =>
            let c := (s.pruneFor r.source l).cache
            let known := c.known r.compile
            ∃ ordered tried rest during later,
              StablySorted l.routes ordered ∧
                (∀ other,
                  StablySorted l.routes other →
                    other = ordered) ∧
                TriedUntil
                  (fun d => (accepted? known x d).isSome) n
                  (Distinct.firsts RouteDefinition.id ordered)
                  tried rest ∧
                few.found.map CompiledRoute.route =
                  tried.filterMap (accepted? known x) ∧
                few.trace =
                  (0, .listed) ::
                    (Distinct.repeats RouteDefinition.id
                      ordered).map (fun d =>
                        (0,
                          .logged
                            (Candidates.duplicateLine d))) ++
                    during ∧
                during.map Prod.snd =
                  tried.flatMap (effectsOf r.compile c x) ∧
                every.trace = few.trace ++ later ∧
                later.map Prod.snd =
                  rest.flatMap (effectsOf r.compile c x) ∧
                ∀ k, k ∉ tried.map RouteDefinition.id →
                  few.state.cache.entries.get? k =
                    c.entries.get? k := by
  intro few every
  refine
    ⟨found_take r x n s, ?_, finish_resolve r x (some n) s,
      finish_resolve r x none s, ?_⟩
  · rw [first, found_take, List.head?_take]
    rfl
  · split
    · rename_i hZero
      subst hZero
      exact ⟨rfl, rfl⟩
    · rename_i hZero
      have hWanted : some n ≠ some 0 := by simpa using hZero
      split
      · rename_i e hList
        have hFew : few = unlisted x e s :=
          resolve_of_error hWanted hList none
        have hEvery : every = unlisted x e s :=
          resolve_of_error (Option.some_ne_none 0).symm hList none
        rw [hFew, hEvery]
        exact ⟨rfl, rfl, rfl⟩
      · rename_i l hList
        intro c known
        have hMany := Nat.le_max_right n l.routes.length
        have hFew : few = r.resolveListing x none n l s :=
          resolve_of_ok hWanted hList none
        have hEvery :
            every =
              r.resolveListing x none (max n l.routes.length)
                l s :=
          all_of_ok hList hMany
        obtain
            ⟨tried, rest, during, hTried, hFound, hTrace,
              hDuring, hKept⟩ :=
          r.triedUntil_resolveListing x n l s
        obtain ⟨later, hLater⟩ :=
          r.trace_resolveListing_append x
            (Nat.le_max_left n l.routes.length) l s
        -- To find all routes every candidate is tried.
        obtain
            ⟨all, others, throughout, hAll, -, hAllTrace,
              hThroughout, -⟩ :=
          r.triedUntil_resolveListing x
            (max n l.routes.length) l s
        have hOthers : others = [] :=
          hAll.rest_eq_nil
            (Nat.le_trans
              (Candidates.length_kept_le l.routes) hMany)
        have hSplit : all = tried ++ rest := by
          rw [← hTried.split, hAll.split, hOthers,
            List.append_nil]
        have hLaterEffects :
            later.map Prod.snd =
              rest.flatMap (effectsOf r.compile c x) := by
          rw [hLater, hTrace, List.append_assoc,
            List.append_cancel_left_eq] at hAllTrace
          rw [← hAllTrace, hSplit, List.map_append,
            List.flatMap_append, hDuring,
            List.append_cancel_left_eq] at hThroughout
          exact hThroughout
        have hSorted := Candidates.stablySorted_sorted l.routes
        rw [Candidates.ofList, Distinct.kept_ofList] at hTried
        rw [opening_eq] at hTrace
        rw [hFew, hEvery]
        exact
          ⟨Candidates.sorted l.routes, tried, rest, during,
            later, hSorted,
            fun other hOther => hOther.unique hSorted,
            hTried, hFound, hTrace, hDuring, hLater,
            hLaterEffects, hKept⟩

end Resolver

end Signpost
