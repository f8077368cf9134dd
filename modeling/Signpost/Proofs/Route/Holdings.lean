import Mathlib
import Signpost.Proofs.Route.Cache

/-
  The cache of compiled routes is a map from names to
  definitions with the objects made from them, whatever is
  asked of it in whatever order.

  Main declarations:
    * `RouteCache.Holdings` and `RouteCache.holdings`
    * `RouteCache.Holdings.Step` and `RouteCache.Holdings.Run`
    * `RouteCache.Numbered`
    * `RouteCache.Performed` and `RouteCache.performed`
    * `RouteCache.run_holdings`
-/

namespace Signpost

open Text

namespace RouteCache

------------------------------------------------------------
-- Calls
------------------------------------------------------------

/- What is asked of a cache. -/
inductive Call where
| fetch (definition : RouteDefinition)
| retain (ids : List String)
| invalidate (id : String)
| clear

/- What a cache answers. -/
inductive Answer where
| route (outcome : Except CompilationError CompiledRoute)
| removed (count : Nat)
| done

section Calls

variable
  (compile : RouteDefinition → Except CompilationError Route)

/- The cache after a call, and its answer. -/
def perform (c : RouteCache) : Call → RouteCache × Answer
| .fetch d =>
    let n := c.fetch compile d
    (n.1, .route n.2)
| .retain ids => (c.retain ids, .removed (c.evicted ids))
| .invalidate id => (c.invalidate id, .done)
| .clear => (c.clear, .done)

/- A new cache after some calls, and its answers in order. -/
def after (calls : List Call) : RouteCache × List Answer :=
  calls.foldl
    (fun s call =>
      let n := s.1.perform compile call
      (n.1, s.2 ++ [n.2]))
    ({}, [])

end Calls

------------------------------------------------------------
-- Maps of Names
------------------------------------------------------------

/-
  Under each name, if anything, a definition and the object
  that was made from it.
-/
abbrev Holdings :=
  String → Option (RouteDefinition × CompiledRoute)

/- What a cache holds. -/
def holdings (c : RouteCache) : Holdings :=
  fun id => (c.entries.get? id).map fun r => (r.definition, r)

namespace Holdings

/-
  What a call may do to a map, with its answer and how often
  the compiler is asked, once some answers were given.

  A definition that is held gets its object.  Any other is
  compiled once: what comes of it is a new object, and takes
  the place under the name of the definition, unless there is
  an error, which leaves the map as it is.
-/
inductive Step
    (compile :
      RouteDefinition → Except CompilationError Route)
    (given : List Answer)
    (h : Holdings) :
    Call → Answer → Nat → Holdings → Prop where
| found
    {d : RouteDefinition}
    {r : CompiledRoute}
    (held : h d.id = some (d, r)) :
    Step compile given h (.fetch d) (.route (.ok r)) 0 h
| made
    {d : RouteDefinition}
    {r : CompiledRoute}
    (missed : ∀ r, h d.id ≠ some (d, r))
    (compiled : compile d = .ok r.route)
    (fresh :
      ∀ old, .route (.ok old) ∈ given →
        old.serial ≠ r.serial) :
    Step compile given h (.fetch d) (.route (.ok r)) 1
      (Function.update h d.id (some (d, r)))
| failed
    {d : RouteDefinition}
    {e : CompilationError}
    (missed : ∀ r, h d.id ≠ some (d, r))
    (refused : compile d = .error e) :
    Step compile given h (.fetch d) (.route (.error e)) 1 h
| retained
    {ids gone : List String}
    (nodup : gone.Nodup)
    (mem_gone_iff :
      ∀ id, id ∈ gone ↔ id ∉ ids ∧ h id ≠ none) :
    Step compile given h (.retain ids) (.removed gone.length) 0
      fun id => if id ∈ ids then h id else none
| invalidated
    {id : String} :
    Step compile given h (.invalidate id) .done 0
      (Function.update h id none)
| cleared :
    Step compile given h .clear .done 0 fun _ => none

/-
  What some calls may make of a map that was empty, with
  their answers and how often the compiler was asked.
-/
inductive Run
    (compile :
      RouteDefinition → Except CompilationError Route) :
    List Call → List Answer → Nat → Holdings → Prop where
| start : Run compile [] [] 0 fun _ => none
| next
    {calls : List Call}
    {answers : List Answer}
    {count more : Nat}
    {h h' : Holdings}
    {call : Call}
    {answer : Answer}
    (before : Run compile calls answers count h)
    (step : Step compile answers h call answer more h') :
    Run compile (calls ++ [call]) (answers ++ [answer])
      (count + more) h'

end Holdings

------------------------------------------------------------
-- Holdings of Caches
------------------------------------------------------------

variable {compile :
  RouteDefinition → Except CompilationError Route}
variable {c : RouteCache}
variable {d : RouteDefinition}

/- A definition is held exactly if it is hit. -/
theorem holdings_eq_some_iff
    {r : CompiledRoute} :
    c.holdings d.id = some (d, r) ↔ c.hit? d = some r := by
  rw [hit?_eq_some_iff, holdings, Option.map_eq_some_iff]
  constructor
  · rintro ⟨r', hGet, hPair⟩
    rcases Prod.mk.inj hPair with ⟨hDefinition, rfl⟩
    exact ⟨hGet, hDefinition⟩
  · rintro ⟨hGet, hDefinition⟩
    exact ⟨r, hGet, by rw [hDefinition]⟩

/- What is not held is compiled, once. -/
theorem compilations_fetch_of_miss
    (compile :
      RouteDefinition → Except CompilationError Route)
    (hMiss : c.hit? d = none) :
    (c.fetch compile d).1.compilations =
      c.compilations + 1 := by
  cases hCompile : compile d with
  | error e => rw [fetch_of_error hMiss hCompile]
  | ok route => rw [fetch_of_ok hMiss hCompile]

theorem holdings_insert
    (entries : Dict CompiledRoute)
    (n m : Nat)
    (id : String)
    (r : CompiledRoute) :
    holdings ⟨entries.insert id r, n⟩ =
      Function.update (holdings ⟨entries, m⟩) id
        (some (r.definition, r)) := by
  funext k
  by_cases hName : k = id
  · subst hName
    simp [holdings]
  · simp [holdings, hName,
      Dict.get?_insert_of_ne _ hName]

theorem holdings_retain
    (ids : List String) :
    (c.retain ids).holdings =
      fun id => if id ∈ ids then c.holdings id else none := by
  funext id
  by_cases hLive : id ∈ ids
  · simp [holdings, retain, Dict.get?_keep, hLive]
  · simp [holdings, retain, Dict.get?_keep, hLive]

theorem holdings_invalidate
    (id : String) :
    (c.invalidate id).holdings =
      Function.update c.holdings id none := by
  funext k
  by_cases hName : k = id
  · simp [holdings, invalidate, Dict.get?_erase, hName]
  · simp [holdings, invalidate, Dict.get?_erase, hName]

/- The number of names that are not retained. -/
theorem exists_evicted
    (c : RouteCache)
    (ids : List String) :
    ∃ gone : List String,
      gone.Nodup ∧
        (∀ id, id ∈ gone ↔ id ∉ ids ∧ c.holdings id ≠ none) ∧
        c.evicted ids = gone.length := by
  refine
    ⟨c.entries.keys.filter (· ∉ ids),
      c.entries.nodup_keys.filter _, ?_, ?_⟩
  · intro id
    rw [List.mem_filter, Dict.mem_keys_iff, holdings]
    simp [Option.isSome_iff_ne_none, and_comm]
  · have hKept :
        (c.retain ids).entries.keys =
          c.entries.keys.filter (· ∈ ids) := by
      simp [retain, Dict.keep, Dict.keys, List.filter_map,
        Function.comp_def]
    have hParts :
        c.entries.keys.length =
          (c.entries.keys.filter (· ∈ ids)).length +
            (c.entries.keys.filter (· ∉ ids)).length := by
      simpa only [decide_not] using
        List.length_eq_length_filter_add
          (l := c.entries.keys) (· ∈ ids)
    rw [evicted, size, size, ← Dict.length_keys,
      ← Dict.length_keys, hKept, hParts]
    omega

------------------------------------------------------------
-- Runs of Calls
------------------------------------------------------------

variable {answers : List Answer}

/-
  The objects that were given have the numbers of earlier
  compilations, and what is held was given.
-/
structure Numbered
    (c : RouteCache)
    (given : List Answer) : Prop where
  of_given :
    ∀ r, .route (.ok r) ∈ given → r.serial < c.compilations
  of_held :
    ∀ id r, c.entries.get? id = some r →
      .route (.ok r) ∈ given

theorem numbered_new : Numbered {} [] :=
  ⟨fun _ hGiven => (List.not_mem_nil hGiven).elim,
    fun _ _ hGet => by cases hGet⟩

/- An answer with an object that was given before. -/
theorem Numbered.given_again
    {r : CompiledRoute}
    (hNumbered : Numbered c answers)
    (hGiven : .route (.ok r) ∈ answers) :
    Numbered c (answers ++ [.route (.ok r)]) := by
  refine ⟨?_, ?_⟩
  · intro r' hAnswer
    rcases List.mem_append.mp hAnswer with hOld | hLast
    · exact hNumbered.of_given r' hOld
    · cases List.mem_singleton.mp hLast
      exact hNumbered.of_given r hGiven
  · intro id r' hGet
    exact List.mem_append_left _ (hNumbered.of_held id r' hGet)

/- An answer without an object, after which no more is held. -/
theorem Numbered.kept
    {c' : RouteCache}
    {answer : Answer}
    (hNumbered : Numbered c answers)
    (hAnswer : ∀ r, answer ≠ .route (.ok r))
    (hCount : c.compilations ≤ c'.compilations)
    (hHeld :
      ∀ id r, c'.entries.get? id = some r →
        c.entries.get? id = some r) :
    Numbered c' (answers ++ [answer]) := by
  refine ⟨?_, ?_⟩
  · intro r hGiven
    rcases List.mem_append.mp hGiven with hOld | hLast
    · exact
        Nat.lt_of_lt_of_le (hNumbered.of_given r hOld) hCount
    · exact
        absurd (List.mem_singleton.mp hLast).symm (hAnswer r)
  · intro id r hGet
    exact
      List.mem_append_left _
        (hNumbered.of_held id r (hHeld id r hGet))

/- An answer with the object of one more compilation. -/
theorem Numbered.given_new
    {route : Route}
    (hNumbered : Numbered c answers)
    (id : String) :
    Numbered
      ⟨c.entries.insert id ⟨c.compilations, route⟩,
        c.compilations + 1⟩
      (answers ++ [.route (.ok ⟨c.compilations, route⟩)]) := by
  refine ⟨?_, ?_⟩
  · intro r hGiven
    rcases List.mem_append.mp hGiven with hOld | hLast
    · exact Nat.lt_succ_of_lt (hNumbered.of_given r hOld)
    · cases List.mem_singleton.mp hLast
      exact Nat.lt_succ_self _
  · intro k r hGet
    by_cases hName : k = id
    · subst hName
      rw [Dict.get?_insert_self] at hGet
      cases hGet
      exact List.mem_append_right _ (List.mem_singleton_self _)
    · rw [Dict.get?_insert_of_ne _ hName] at hGet
      exact List.mem_append_left _ (hNumbered.of_held k r hGet)

/- The outcome of a call: a step of the map, and its count. -/
structure Performed
    (compile :
      RouteDefinition → Except CompilationError Route)
    (c : RouteCache)
    (given : List Answer)
    (call : Call) : Prop where
  numbered :
    Numbered (c.perform compile call).1
      (given ++ [(c.perform compile call).2])
  step :
    ∃ more,
      (c.perform compile call).1.compilations =
          c.compilations + more ∧
        Holdings.Step compile given c.holdings call
          (c.perform compile call).2 more
          (c.perform compile call).1.holdings

theorem performed_fetch
    (hCarries : Carries compile)
    (hNumbered : Numbered c answers)
    (d : RouteDefinition) :
    Performed compile c answers (.fetch d) := by
  cases hHit : c.hit? d with
  | some r =>
      have hPerform :
          c.perform compile (.fetch d) =
            (c, .route (.ok r)) := by
        rw [perform, fetch_of_hit hHit]
      have hGet := (hit?_eq_some_iff.mp hHit).1
      constructor
      · rw [hPerform]
        exact
          hNumbered.given_again (hNumbered.of_held d.id r hGet)
      · rw [hPerform]
        exact
          ⟨0, rfl, .found (holdings_eq_some_iff.mpr hHit)⟩
  | none =>
      have hMissed :
          ∀ r, c.holdings d.id ≠ some (d, r) := by
        intro r hHeld
        rw [holdings_eq_some_iff, hHit] at hHeld
        cases hHeld
      cases hCompile : compile d with
      | error e =>
          have hPerform :
              c.perform compile (.fetch d) =
                (⟨c.entries, c.compilations + 1⟩,
                  .route (.error e)) := by
            rw [perform, fetch_of_error hHit hCompile]
          constructor
          · rw [hPerform]
            apply hNumbered.kept
            · rintro r ⟨⟩
            · exact Nat.le_succ _
            · exact fun _ _ hGet => hGet
          · rw [hPerform]
            exact ⟨1, rfl, .failed hMissed hCompile⟩
      | ok route =>
          have hPerform :
              c.perform compile (.fetch d) =
                (⟨c.entries.insert d.id
                      ⟨c.compilations, route⟩,
                    c.compilations + 1⟩,
                  .route (.ok ⟨c.compilations, route⟩)) := by
            rw [perform, fetch_of_ok hHit hCompile]
          have hDefinition :
              CompiledRoute.definition
                  ⟨c.compilations, route⟩ =
                d :=
            hCarries d route hCompile
          constructor
          · rw [hPerform]
            exact hNumbered.given_new d.id
          · rw [hPerform]
            refine ⟨1, rfl, ?_⟩
            rw [holdings_insert _ _ c.compilations,
              hDefinition]
            apply Holdings.Step.made hMissed hCompile
            intro old hGiven
            exact Nat.ne_of_lt (hNumbered.of_given old hGiven)

/- Every call is a step of the map. -/
theorem performed
    (hCarries : Carries compile)
    (hNumbered : Numbered c answers)
    (call : Call) :
    Performed compile c answers call := by
  cases call with
  | fetch d => exact performed_fetch hCarries hNumbered d
  | retain ids =>
      constructor
      · apply hNumbered.kept
        · rintro r ⟨⟩
        · exact Nat.le_refl _
        · intro id r hGet
          rw [perform, retain, Dict.get?_keep] at hGet
          split at hGet
          · exact hGet
          · cases hGet
      · rcases c.exists_evicted ids with
          ⟨gone, hNodup, hGone, hCount⟩
        refine ⟨0, rfl, ?_⟩
        rw [perform, holdings_retain, hCount]
        exact .retained hNodup hGone
  | invalidate id =>
      constructor
      · apply hNumbered.kept
        · rintro r ⟨⟩
        · exact Nat.le_refl _
        · intro k r hGet
          rw [perform, invalidate, Dict.get?_erase] at hGet
          split at hGet
          · cases hGet
          · exact hGet
      · refine ⟨0, rfl, ?_⟩
        rw [perform, holdings_invalidate]
        exact .invalidated
  | clear =>
      constructor
      · apply hNumbered.kept
        · rintro r ⟨⟩
        · exact Nat.le_refl _
        · intro k r hGet
          cases hGet
      · exact ⟨0, rfl, .cleared⟩

/- So is every call after some others. -/
theorem run_after
    (hCarries : Carries compile)
    (calls : List Call) :
    Numbered (after compile calls).1 (after compile calls).2 ∧
      Holdings.Run compile calls (after compile calls).2
        (after compile calls).1.compilations
        (after compile calls).1.holdings := by
  induction calls using List.reverseRecOn with
  | nil => exact ⟨numbered_new, .start⟩
  | append_singleton calls call ih =>
      rcases ih with ⟨hNumbered, hRun⟩
      have hPerformed := performed hCarries hNumbered call
      have hAfter :
          after compile (calls ++ [call]) =
            (((after compile calls).1.perform compile call).1,
              (after compile calls).2 ++
                [((after compile calls).1.perform compile
                    call).2]) := by
        rw [after, List.foldl_concat]
        rfl
      rw [hAfter]
      refine ⟨hPerformed.numbered, ?_⟩
      rcases hPerformed.step with ⟨more, hCount, hStep⟩
      rw [hCount]
      exact .next hRun hStep

/-
  A new cache is a map from names to definitions with their
  objects, whatever calls it gets.  It hands out an object
  without asking any compiler exactly if it is held for the
  definition.
-/
theorem run_holdings
    (hCarries : Carries compile)
    (calls : List Call) :
    let s := after compile calls
    Holdings.Run compile calls s.2 s.1.compilations
        s.1.holdings ∧
      ∀ d r,
        (∀ other, s.1.fetch other d = (s.1, .ok r)) ↔
          s.1.holdings d.id = some (d, r) := by
  intro s
  refine ⟨(run_after hCarries calls).2, ?_⟩
  intro d r
  rw [holdings_eq_some_iff]
  constructor
  · intro hFetch
    cases hHit : s.1.hit? d with
    | some held =>
        have hSame := hFetch compile
        rw [fetch_of_hit hHit] at hSame
        rw [Except.ok.inj (Prod.mk.inj hSame).2]
    | none =>
        have hCount := compilations_fetch_of_miss compile hHit
        rw [hFetch compile] at hCount
        exact absurd hCount (Nat.succ_ne_self _).symm
  · intro hHit other
    exact fetch_of_hit hHit

/- The number in an answer: of an object, or of names. -/
def Answer.number? : Answer → Option Nat
| .route (.ok r) => some r.serial
| .route (.error _) => none
| .removed count => some count
| .done => none

/- A compiler that knows no predicates and no filters. -/
def bareCompiler : RouteCompiler :=
  { predicates := .empty, filters := .empty }

/- Calls for a route that is replaced, broken and forgotten. -/
def replacing : List Call :=
  let blue : RouteDefinition := { id := "a", uri := "lb://blue" }
  let green : RouteDefinition :=
    { id := "a", uri := "lb://green" }
  let broken : RouteDefinition := { id := "a", uri := "" }
  [.fetch blue, .fetch green, .fetch broken, .fetch green,
    .retain ["b"], .fetch green]

/- The replacement outlives what cannot be compiled. -/
theorem run_holdings_replacing :
    Carries bareCompiler.compile ∧
      (after bareCompiler.compile replacing).2.map
          Answer.number? =
        [some 0, some 1, none, some 1, some 1, some 3] ∧
      Holdings.Run bareCompiler.compile replacing
        (after bareCompiler.compile replacing).2 4
        (after bareCompiler.compile replacing).1.holdings := by
  have hCarries := bareCompiler.carries_compile
  have hNumbers :
      (after bareCompiler.compile replacing).2.map
          Answer.number? =
        [some 0, some 1, none, some 1, some 1, some 3] := by
    decide +kernel
  have hCount :
      (after bareCompiler.compile replacing).1.compilations =
        4 := by
    decide +kernel
  rcases run_holdings hCarries replacing with ⟨hRun, -⟩
  rw [hCount] at hRun
  exact ⟨hCarries, hNumbers, hRun⟩

end RouteCache

end Signpost
