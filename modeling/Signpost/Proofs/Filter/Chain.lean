import Signpost.Proofs.Route.Compilation
import Signpost.Proofs.Sorting

/-
  The filters of a route are run in ascending order, those of
  all routes before its own, up to the first one that fails.
  What was changed until then remains.

  Main declarations:
    * `FilterChain.passed` and `FilterChain.NoneFails`
    * `FilterChain.calls`
    * `FilterChain.runAll_append`
    * `FilterChain.failing_or_none`
    * `FilterChain.run_in_order`
-/

namespace Signpost

namespace FilterChain

variable {f : Filter}
variable {fs before after : List Filter}
variable {x : Exchange}
variable {e : GatewayError}

------------------------------------------------------------
-- What Filters Do to a Request
------------------------------------------------------------

/- A request as some filters leave it, one after the other. -/
def passed (fs : List Filter) (x : Exchange) : Exchange :=
  fs.foldl (fun y f => (f.apply y).1) x

/- No filter fails on what those before it leave. -/
def NoneFails (fs : List Filter) (x : Exchange) : Prop :=
  ∀ before f after,
    fs = before ++ f :: after →
      (f.apply (passed before x)).2 = .ok ()

/-
  The filters that are run on a request, each with the
  request that it is given.
-/
def calls :
    List Filter → Exchange → List (Filter × Exchange)
| [], _ => []
| f :: fs, x =>
    (f, x) ::
      match f.apply x with
      | (y, .ok ()) => calls fs y
      | (_, .error _) => []

@[simp] theorem passed_nil (x : Exchange) :
    passed [] x = x := rfl

@[simp] theorem passed_cons
    (f : Filter)
    (fs : List Filter)
    (x : Exchange) :
    passed (f :: fs) x = passed fs (f.apply x).1 := rfl

theorem noneFails_nil (x : Exchange) : NoneFails [] x := by
  intro before f after hNil
  simp at hNil

/- None fails if the first does not and none of the others. -/
theorem noneFails_cons_iff :
    NoneFails (f :: fs) x ↔
      (f.apply x).2 = .ok () ∧ NoneFails fs (f.apply x).1 := by
  constructor
  · intro hNone
    refine ⟨hNone [] f fs rfl, ?_⟩
    intro before g after hSplit
    exact hNone (f :: before) g after (by rw [hSplit]; rfl)
  · intro hNone before g after hSplit
    rcases hNone with ⟨hFirst, hRest⟩
    cases before with
    | nil =>
        cases hSplit
        exact hFirst
    | cons b before =>
        cases hSplit
        exact hRest before g after rfl

------------------------------------------------------------
-- One Filter
------------------------------------------------------------

/- After a filter that does not fail the others are run. -/
theorem runAll_cons_of_ok
    (hOk : (f.apply x).2 = .ok ())
    (fs : List Filter) :
    runAll (f :: fs) x = runAll fs (f.apply x).1 ∧
      calls (f :: fs) x =
        (f, x) :: calls fs (f.apply x).1 := by
  cases hApply : f.apply x with
  | mk y answer =>
      rw [hApply] at hOk
      cases hOk
      simp [runAll, calls, hApply]

/- A filter that fails is the last one. -/
theorem runAll_cons_of_error
    (hError : (f.apply x).2 = .error e)
    (fs : List Filter) :
    runAll (f :: fs) x = ((f.apply x).1, .error e) ∧
      calls (f :: fs) x = [(f, x)] := by
  cases hApply : f.apply x with
  | mk y answer =>
      rw [hApply] at hError
      cases hError
      simp [runAll, calls, hApply]

------------------------------------------------------------
-- Several Filters
------------------------------------------------------------

/-
  Filters of which none fails are run one by one, and those
  that follow are run on what they leave.
-/
theorem runAll_append
    (hNone : NoneFails before x)
    (after : List Filter) :
    runAll (before ++ after) x =
        runAll after (passed before x) ∧
      (calls (before ++ after) x).map Prod.fst =
        before ++
          (calls after (passed before x)).map Prod.fst := by
  induction before generalizing x with
  | nil => exact ⟨rfl, rfl⟩
  | cons f before ih =>
      rcases noneFails_cons_iff.mp hNone with ⟨hOk, hNone⟩
      rcases runAll_cons_of_ok hOk (before ++ after) with
        ⟨hRun, hCalls⟩
      rcases ih hNone with ⟨hRunRest, hCallsRest⟩
      rw [List.cons_append, hRun, hCalls, List.map_cons,
        hRunRest, hCallsRest]
      exact ⟨rfl, rfl⟩

/- Either none fails, or there is a first one that does. -/
theorem failing_or_none
    (fs : List Filter)
    (x : Exchange) :
    NoneFails fs x ∨
      ∃ before f after e,
        fs = before ++ f :: after ∧ NoneFails before x ∧
          (f.apply (passed before x)).2 = .error e := by
  induction fs generalizing x with
  | nil => exact Or.inl (noneFails_nil x)
  | cons f fs ih =>
      cases hAnswer : (f.apply x).2 with
      | error e =>
          exact
            Or.inr ⟨[], f, fs, e, rfl, noneFails_nil x, hAnswer⟩
      | ok u =>
          rcases ih (f.apply x).1 with hNone | hFailing
          · exact
              Or.inl (noneFails_cons_iff.mpr ⟨hAnswer, hNone⟩)
          · rcases hFailing with
              ⟨before, g, after, e, rfl, hNone, hError⟩
            exact
              Or.inr
                ⟨f :: before, g, after, e, rfl,
                  noneFails_cons_iff.mpr ⟨hAnswer, hNone⟩,
                  hError⟩

/- Each filter is given what those before it leave. -/
theorem getElem?_calls
    {i : Nat}
    {call : Filter × Exchange}
    (hCall : (calls fs x)[i]? = some call) :
    call.2 = passed (fs.take i) x := by
  induction fs generalizing i x with
  | nil => simp [calls] at hCall
  | cons f fs ih =>
      cases hAnswer : (f.apply x).2 with
      | error e =>
          rw [(runAll_cons_of_error hAnswer fs).2] at hCall
          cases i with
          | zero =>
              cases hCall
              rfl
          | succ i => simp at hCall
      | ok u =>
          rw [(runAll_cons_of_ok hAnswer fs).2] at hCall
          cases i with
          | zero =>
              cases hCall
              rfl
          | succ i => exact ih hCall

/- No filter is run twice or out of its place. -/
theorem calls_isPrefix
    (fs : List Filter)
    (x : Exchange) :
    (calls fs x).map Prod.fst <+: fs := by
  rcases failing_or_none fs x with hNone | hFailing
  · have hCalls := (runAll_append hNone []).2
    simp only [List.append_nil, calls, List.map_nil] at hCalls
    exact ⟨[], by rw [hCalls, List.append_nil]⟩
  · rcases hFailing with
      ⟨before, f, after, e, rfl, hNone, hError⟩
    rw [(runAll_append hNone (f :: after)).2,
      (runAll_cons_of_error hError after).2]
    exact ⟨after, by simp⟩

------------------------------------------------------------
-- The Chain of a Route
------------------------------------------------------------

/-
  A chain has some filters and others in ascending order.
  Those of one order are in the place they had, and the
  first come before the others.
-/
structure InTurn
    (first others chain : List Filter) : Prop where
  perm : chain.Perm (first ++ others)
  ascending : chain.Pairwise fun f g => f.order ≤ g.order
  ties :
    ∀ n : Int32,
      chain.filter (fun f => f.order = n) =
        first.filter (fun f => f.order = n) ++
          others.filter (fun f => f.order = n)

/-
  What running a chain on a request comes to.  The filters
  are run in their order, none of them twice, and each is
  given what those before it leave.  If none fails, all are
  run, and the request ends as they leave it.  Otherwise the
  first that fails is the last that is run, its error is the
  answer, and the request ends as this filter leaves it.
-/
structure RunsInTurn
    (chain : List Filter)
    (x : Exchange)
    (result : Exchange × Except GatewayError Unit) :
    Prop where
  once : (calls chain x).map Prod.fst <+: chain
  given :
    ∀ i call,
      (calls chain x)[i]? = some call →
        call.2 = passed (chain.take i) x
  all :
    NoneFails chain x →
      (calls chain x).map Prod.fst = chain ∧
        result = (passed chain x, .ok ())
  upTo :
    ∀ before f after e,
      chain = before ++ f :: after →
        NoneFails before x →
          (f.apply (passed before x)).2 = .error e →
            (calls chain x).map Prod.fst = before ++ [f] ∧
              result =
                ((f.apply (passed before x)).1, .error e)

theorem inTurn_ofList
    (first others : List Filter) :
    InTurn first others (ofList (first ++ others)).filters := by
  refine
    ⟨List.mergeSort_perm _ _,
      pairwise_mergeSort_key Filter.order _, ?_⟩
  intro n
  rw [← List.filter_append]
  exact filter_mergeSort_key Filter.order (first ++ others) n

theorem runsInTurn_runAll
    (fs : List Filter)
    (x : Exchange) :
    RunsInTurn fs x (runAll fs x) := by
  refine
    ⟨calls_isPrefix fs x, fun _ _ => getElem?_calls, ?_, ?_⟩
  · intro hNone
    rcases runAll_append hNone [] with ⟨hRun, hCalls⟩
    simp only [List.append_nil, calls, List.map_nil]
      at hRun hCalls
    exact ⟨hCalls, hRun⟩
  · intro before f after e hSplit hNone hError
    rcases runAll_append hNone (f :: after) with
      ⟨hRun, hCalls⟩
    rcases runAll_cons_of_error hError after with
      ⟨hStop, hLast⟩
    rw [hSplit, hRun, hCalls, hStop, hLast]
    exact ⟨rfl, rfl⟩

/-
  The chain of a compiled route has the filters of all routes
  and those of the route in ascending order, those of all
  routes first among equal orders.  It runs them on every
  request one after the other, up to the first that fails.
-/
theorem run_in_order
    {c : RouteCompiler}
    {d : RouteDefinition}
    {r : Route}
    (hCompile : c.compile d = .ok r) :
    ∃ shared own,
      List.Forall₂ (Provides c.filters) c.defaultFilters
          shared ∧
        List.Forall₂ (Provides c.filters) d.filters own ∧
        InTurn shared own r.filters.filters ∧
        ∀ x, RunsInTurn r.filters.filters x (r.filters.run x) := by
  rcases (RouteCompiler.compile_eq_ok_iff c d).mp hCompile with
    ⟨-, -, -, -, filters, hFilters, hChain⟩
  have hShared :=
    List.forall₂_take c.defaultFilters.length hFilters
  have hOwn :=
    List.forall₂_drop c.defaultFilters.length hFilters
  rw [List.take_left] at hShared
  rw [List.drop_left] at hOwn
  refine ⟨_, _, hShared, hOwn, ?_, ?_⟩
  · have hInTurn :=
      inTurn_ofList
        (filters.take c.defaultFilters.length)
        (filters.drop c.defaultFilters.length)
    rwa [List.take_append_drop, ← hChain] at hInTurn
  · intro x
    exact runsInTurn_runAll r.filters.filters x

/- A filter that leaves its name, and fails if it is `stop`. -/
def marking (name : String) (order : Int32) : Filter :=
  { name
    order
    apply := fun x =>
      let trail := (x.attributes.get? "trail").getD ""
      ({ x with
          attributes :=
            x.attributes.insert "trail" (trail ++ name ++ ";") },
        if name = "stop" then .error (.invalidArgument name)
        else .ok ()) }

/- The factory of such filters. -/
def markingFactory : FilterFactory :=
  { name := "Mark"
    fields := ["name", "order"]
    make := fun a => do
      let name ← a.required "name"
      match Text.readInt32 (← a.required "order") with
      | .ok n => return marking name n
      | .error e => .error (.refused e.message) }

/- A specification of such a filter. -/
def marked (name order : String) : ComponentSpec :=
  ⟨"Mark",
    Text.Dict.empty.insert "name" name |>.insert "order" order⟩

/- All routes have a last filter and an early one. -/
def markingCompiler : RouteCompiler :=
  { predicates := .empty
    filters := .ofList [markingFactory.entry]
    defaultFilters := [marked "last" "7", marked "early" "0"] }

/- A route with filters before, between and after these. -/
def markedDefinition : RouteDefinition :=
  { id := "web"
    uri := "lb://web"
    filters :=
      [marked "own" "0", marked "stop" "5",
        marked "first" "-1"] }

/- The route that is compiled from it. -/
def markedRoute : Route :=
  { definition := markedDefinition
    predicate := {}
    filters :=
      .ofList
        [marking "last" 7, marking "early" 0, marking "own" 0,
          marking "stop" 5, marking "first" (-1)]
    destination :=
      .service "web"
        { scheme := "lb"
          authority := some { host := .name "web" }
          path := .segments [] } }

theorem provides_marked
    {name order : String}
    {n : Int32}
    (hBind :
      (marked name order).args.bind ["name", "order"] .each =
        .ok (marked name order).args)
    (hMake :
      markingFactory.make (marked name order).args =
        .ok (marking name n)) :
    Provides markingCompiler.filters (marked name order)
      (marking name n) :=
  ⟨markingFactory, _, rfl, hBind, hMake⟩

theorem compile_marked :
    markingCompiler.compile markedDefinition =
      .ok markedRoute := by
  apply (RouteCompiler.compile_eq_ok_iff _ _).mpr
  refine ⟨rfl, ?_, rfl, .nil, _, ?_, rfl⟩
  · decide +kernel
  · refine
      .cons ?_ (.cons ?_ (.cons ?_ (.cons ?_ (.cons ?_ .nil))))
    all_goals
      refine provides_marked ?_ rfl
      decide +kernel

/- The filters up to the one that fails leave their names. -/
theorem run_in_order_marked :
    markingCompiler.compile markedDefinition =
        .ok markedRoute ∧
      (calls markedRoute.filters.filters {}).map
          (fun call => call.1.name) =
        ["first", "early", "own", "stop"] ∧
      (markedRoute.filters.run {}).1.attributes.get? "trail" =
        some "first;early;own;stop;" ∧
      (markedRoute.filters.run {}).2 =
        .error (.invalidArgument "stop") := by
  refine ⟨compile_marked, ?_⟩
  rcases run_in_order compile_marked with
    ⟨-, -, -, -, -, hRuns⟩
  have hChain :
      markedRoute.filters.filters =
        [marking "first" (-1), marking "early" 0,
            marking "own" 0] ++
          marking "stop" 5 :: [marking "last" 7] := by
    simp [markedRoute, ofList, List.mergeSort, marking]
  have hNone :
      NoneFails
        [marking "first" (-1), marking "early" 0,
          marking "own" 0] {} := by
    simp [noneFails_cons_iff, noneFails_nil, marking]
  rcases (hRuns {}).upTo _ _ _ _ hChain hNone rfl with
    ⟨hCalls, hRun⟩
  have hNames := congrArg (List.map Filter.name) hCalls
  rw [List.map_map] at hNames
  refine ⟨hNames, ?_, congrArg Prod.snd hRun⟩
  simp only [hRun]
  decide +kernel

end FilterChain

end Signpost
