import Signpost.Proofs.Failure
import Signpost.Route.Basic

/-
  Compiling a definition goes through its parts one by one.
  The first part that is wrong is reported, and if none is
  wrong there is a route of exactly these parts.

  Main declarations:
    * `ComponentFault` and `Provides`
    * `DestinationFault` and `Destination.parse_eq_error_iff`
    * `CompilationStep`
    * `RouteCompiler.steps`
    * `RouteCompiler.reportsFirst_compile`
    * `RouteCompiler.compile_stepwise`
-/

namespace Signpost

open Text

------------------------------------------------------------
-- Components
------------------------------------------------------------

section Components

variable {α : Type}
variable {kind : ComponentKind}
variable {registry : Registry (Factory α)}
variable {route : String}
variable {spec : ComponentSpec}

/-
  What is wrong with a component: there is no factory of its
  name, or its arguments cannot be bound to the fields of the
  factory, or the factory refuses them as they are bound.
-/
inductive ComponentFault
    (kind : ComponentKind)
    (registry : Registry (Factory α))
    (spec : ComponentSpec) : CompilationCause → Prop
| name
    (hName : registry.resolve? spec.name = none) :
    ComponentFault kind registry spec (.unknown kind)
| binding
    {factory : Factory α}
    {e : ArgumentError}
    (hName : registry.resolve? spec.name = some factory)
    (hBind :
      spec.args.bind factory.fields factory.shortcut =
        .error e) :
    ComponentFault kind registry spec (.arguments kind e)
| refusal
    {factory : Factory α}
    {bound : Arguments}
    {e : ArgumentError}
    (hName : registry.resolve? spec.name = some factory)
    (hBind :
      spec.args.bind factory.fields factory.shortcut =
        .ok bound)
    (hMake : factory.make bound = .error e) :
    ComponentFault kind registry spec (.arguments kind e)

/-
  The factory of a name makes a component from the arguments
  as they are bound to its fields.
-/
def Provides
    (registry : Registry (Factory α))
    (spec : ComponentSpec)
    (a : α) : Prop :=
  ∃ factory bound,
    registry.resolve? spec.name = some factory ∧
      spec.args.bind factory.fields factory.shortcut =
        .ok bound ∧
      factory.make bound = .ok a

/- A factory makes of arguments what it makes of them bound. -/
theorem Factory.build_eq_ok_iff
    {f : Factory α}
    {raw : Arguments}
    {a : α} :
    f.build raw = .ok a ↔
      ∃ bound,
        raw.bind f.fields f.shortcut = .ok bound ∧
          f.make bound = .ok a :=
  bind_eq_ok_iff

/- It does not if they cannot be bound or it refuses them. -/
theorem Factory.build_eq_error_iff
    {f : Factory α}
    {raw : Arguments}
    {e : ArgumentError} :
    f.build raw = .error e ↔
      raw.bind f.fields f.shortcut = .error e ∨
        ∃ bound,
          raw.bind f.fields f.shortcut = .ok bound ∧
            f.make bound = .error e :=
  bind_eq_error_iff

/- A component is not made exactly if something is wrong. -/
theorem component_eq_error_iff
    {e : CompilationError} :
    component kind registry route spec = .error e ↔
      e.route = route ∧ e.name = spec.name ∧
        ComponentFault kind registry spec e.cause := by
  obtain ⟨r, n, cause⟩ := e
  constructor
  · intro hError
    unfold component at hError
    split at hError
    · rename_i hName
      cases hError
      exact ⟨rfl, rfl, .name hName⟩
    · rename_i factory hName
      split at hError
      · cases hError
      · rename_i e hBuild
        cases hError
        refine ⟨rfl, rfl, ?_⟩
        rcases Factory.build_eq_error_iff.mp hBuild with
          hBind | ⟨bound, hBind, hMake⟩
        · exact .binding hName hBind
        · exact .refusal hName hBind hMake
  · intro hFault
    rcases hFault with ⟨rfl, rfl, hFault⟩
    cases hFault with
    | name hName => simp [component, hName]
    | binding hName hBind =>
        have hBuild :=
          Factory.build_eq_error_iff.mpr (Or.inl hBind)
        simp only [component, hName, hBuild]
    | refusal hName hBind hMake =>
        have hBuild :=
          Factory.build_eq_error_iff.mpr
            (Or.inr ⟨_, hBind, hMake⟩)
        simp only [component, hName, hBuild]

/- It is made exactly if its factory makes it. -/
theorem component_eq_ok_iff
    {a : α} :
    component kind registry route spec = .ok a ↔
      Provides registry spec a := by
  constructor
  · intro hOk
    unfold component at hOk
    split at hOk
    · cases hOk
    · rename_i factory hName
      split at hOk
      · rename_i a' hBuild
        cases hOk
        rcases Factory.build_eq_ok_iff.mp hBuild with
          ⟨bound, hBind, hMake⟩
        exact ⟨factory, bound, hName, hBind, hMake⟩
      · cases hOk
  · intro hProvides
    rcases hProvides with
      ⟨factory, bound, hName, hBind, hMake⟩
    have hBuild :=
      Factory.build_eq_ok_iff.mpr ⟨bound, hBind, hMake⟩
    simp only [component, hName, hBuild]

/- Components are made one for each specification. -/
theorem components_eq_ok_iff
    {specs : List ComponentSpec}
    {as : List α} :
    components kind registry route specs = .ok as ↔
      List.Forall₂ (Provides registry) specs as := by
  rw [components, mapM_eq_ok_iff]
  simp only [component_eq_ok_iff]

end Components

------------------------------------------------------------
-- Destinations
------------------------------------------------------------

/-
  What is wrong with a text that is no destination: there is
  nothing in it, or it is no URL, or it is one of a service
  without a name.
-/
inductive DestinationFault
    (text : String) : DestinationError → Prop
| empty
    (hEmpty : trimmed text = "") :
    DestinationFault text .empty
| malformed
    {e : UrlError}
    (hSome : trimmed text ≠ "")
    (hParse : Url.parse (trimmed text) = .error e) :
    DestinationFault text (.malformed e)
| noService
    {u : Url}
    (hSome : trimmed text ≠ "")
    (hParse : Url.parse (trimmed text) = .ok u)
    (hScheme : u.scheme = "lb")
    (hHost : u.host? = none) :
    DestinationFault text (.noService (trimmed text))

/- A text is no destination exactly if something is wrong. -/
theorem Destination.parse_eq_error_iff
    {text : String}
    {e : DestinationError} :
    parse text = .error e ↔ DestinationFault text e := by
  constructor
  · intro hError
    unfold parse at hError
    dsimp only at hError
    split at hError
    · rename_i hEmpty
      cases hError
      exact .empty (String.isEmpty_iff.mp hEmpty)
    · rename_i hEmpty
      have hSome : trimmed text ≠ "" :=
        fun hNone => hEmpty (String.isEmpty_iff.mpr hNone)
      split at hError
      · rename_i hParse
        cases hError
        exact .malformed hSome hParse
      · rename_i u hParse
        split at hError
        · rename_i hScheme
          split at hError
          · cases hError
          · rename_i hHost
            cases hError
            exact .noService hSome hParse hScheme hHost
        · cases hError
  · intro hFault
    cases hFault with
    | empty hEmpty => simp [parse, hEmpty]
    | malformed hSome hParse => simp [parse, hSome, hParse]
    | noService hSome hParse hScheme hHost =>
        simp [parse, hSome, hParse, hScheme, hHost,
          serviceScheme]

------------------------------------------------------------
-- Steps
------------------------------------------------------------

/-
  A part of a definition, or of what all definitions share,
  that compiling has to get right.
-/
inductive CompilationStep where
| destination
| predicate (spec : ComponentSpec)
| filter (spec : ComponentSpec)

namespace CompilationStep

/- What a step is called in an error. -/
def name (d : RouteDefinition) : CompilationStep → String
| .destination => d.uri
| .predicate spec => spec.name
| .filter spec => spec.name

/- What is wrong at a step. -/
inductive IsWrong
    (c : RouteCompiler)
    (d : RouteDefinition) :
    CompilationStep → CompilationCause → Prop
| destination
    {e : DestinationError}
    (hFault : DestinationFault d.uri e) :
    IsWrong c d .destination (.destination e)
| predicate
    {spec : ComponentSpec}
    {cause : CompilationCause}
    (hFault :
      ComponentFault .predicate c.predicates spec cause) :
    IsWrong c d (.predicate spec) cause
| filter
    {spec : ComponentSpec}
    {cause : CompilationCause}
    (hFault : ComponentFault .filter c.filters spec cause) :
    IsWrong c d (.filter spec) cause

/-
  A step fails with the error that names the route and the
  step and gives a cause of the kind of the step.
-/
structure Fails
    (c : RouteCompiler)
    (d : RouteDefinition)
    (step : CompilationStep)
    (e : CompilationError) : Prop where
  route : e.route = d.id
  name : e.name = step.name d
  cause : step.IsWrong c d e.cause

end CompilationStep

namespace RouteCompiler

variable (c : RouteCompiler)
variable (d : RouteDefinition)

/- The steps of compiling a definition in order. -/
def steps : List CompilationStep :=
  .destination ::
    d.predicates.map .predicate ++
    c.defaultFilters.map .filter ++
    d.filters.map .filter

/- A text that is no destination fails the first step. -/
theorem destination_eq_error_iff
    {e : CompilationError} :
    destination d = .error e ↔
      CompilationStep.destination.Fails c d e := by
  constructor
  · intro hError
    unfold destination at hError
    split at hError
    · cases hError
    · rename_i e hParse
      cases hError
      exact
        ⟨rfl, rfl,
          .destination (Destination.parse_eq_error_iff.mp hParse)⟩
  · intro hFails
    obtain ⟨r, n, cause⟩ := e
    obtain ⟨rfl, rfl, hWrong⟩ := hFails
    cases hWrong with
    | destination hFault =>
        have hParse := Destination.parse_eq_error_iff.mpr hFault
        simp [destination, hParse, CompilationStep.name]

theorem destination_eq_ok_iff
    {t : Destination} :
    destination d = .ok t ↔ Destination.parse d.uri = .ok t := by
  unfold destination
  cases Destination.parse d.uri <;> simp

/- A predicate that cannot be made fails its step. -/
theorem fails_predicate_iff
    {spec : ComponentSpec}
    {e : CompilationError} :
    (CompilationStep.predicate spec).Fails c d e ↔
      component .predicate c.predicates d.id spec =
        .error e := by
  rw [component_eq_error_iff]
  constructor
  · intro hFails
    obtain ⟨hRoute, hName, hWrong⟩ := hFails
    cases hWrong with
    | predicate hFault => exact ⟨hRoute, hName, hFault⟩
  · intro hFails
    rcases hFails with ⟨hRoute, hName, hFault⟩
    exact ⟨hRoute, hName, .predicate hFault⟩

/- A filter that cannot be made fails its step. -/
theorem fails_filter_iff
    {spec : ComponentSpec}
    {e : CompilationError} :
    (CompilationStep.filter spec).Fails c d e ↔
      component .filter c.filters d.id spec = .error e := by
  rw [component_eq_error_iff]
  constructor
  · intro hFails
    obtain ⟨hRoute, hName, hWrong⟩ := hFails
    cases hWrong with
    | filter hFault => exact ⟨hRoute, hName, hFault⟩
  · intro hFails
    rcases hFails with ⟨hRoute, hName, hFault⟩
    exact ⟨hRoute, hName, .filter hFault⟩

/- Components of one kind are made from left to right. -/
theorem reportsFirst_components
    {α : Type}
    {kind : ComponentKind}
    {registry : Registry (Factory α)}
    {step : ComponentSpec → CompilationStep}
    (hStep :
      ∀ spec e, (step spec).Fails c d e ↔
        component kind registry d.id spec = .error e)
    (specs : List ComponentSpec) :
    ReportsFirst (CompilationStep.Fails c d)
      (specs.map step)
      (components kind registry d.id specs) := by
  intro e
  have hSame :
      (fun spec => CompilationStep.Fails c d (step spec)) =
        fun spec e =>
          component kind registry d.id spec = .error e := by
    funext spec e
    exact propext (hStep spec e)
  rw [failsFirst_map_iff, hSame]
  exact reportsFirst_mapM _ specs e

/- Compiling reports the first step that fails. -/
theorem reportsFirst_compile :
    ReportsFirst (CompilationStep.Fails c d) (c.steps d)
      (c.compile d) := by
  have hDestination :
      ReportsFirst (CompilationStep.Fails c d) [.destination]
        (destination d) := by
    intro e
    rw [destination_eq_error_iff c d, failsFirst_cons_iff]
    simp [not_failsFirst_nil]
  have hPredicates :
      ReportsFirst (CompilationStep.Fails c d)
        (d.predicates.map .predicate)
        (Conjunction.compile c.predicates c.timeout d.id
          d.predicates) :=
    ReportsFirst.map
      (reportsFirst_components c d
        (fun _ _ => fails_predicate_iff c d) d.predicates) _
  have hFilters :
      ReportsFirst (CompilationStep.Fails c d)
        ((c.defaultFilters ++ d.filters).map .filter)
        (components .filter c.filters d.id
          (c.defaultFilters ++ d.filters)) :=
    reportsFirst_components c d
      (fun _ _ => fails_filter_iff c d) _
  have hSteps :
      c.steps d =
        [.destination] ++
          (d.predicates.map .predicate ++
            ((c.defaultFilters ++ d.filters).map .filter ++
              [])) := by
    simp [steps]
  rw [hSteps]
  exact
    hDestination.bind fun _ =>
      hPredicates.bind fun _ =>
        hFilters.bind fun _ => reportsFirst_pure _

/- A route is made of just what its definition asks for. -/
theorem compile_eq_ok_iff
    {r : Route} :
    c.compile d = .ok r ↔
      r.definition = d ∧
        Destination.parse d.uri = .ok r.destination ∧
        r.predicate.timeout = c.timeout ∧
        List.Forall₂ (Provides c.predicates) d.predicates
          r.predicate.predicates ∧
        ∃ filters,
          List.Forall₂ (Provides c.filters)
            (c.defaultFilters ++ d.filters) filters ∧
          r.filters = .ofList filters := by
  obtain ⟨definition, ⟨predicates, timeout⟩, chain, t⟩ := r
  constructor
  · intro hOk
    rw [compile, bind_eq_ok_iff] at hOk
    rcases hOk with ⟨t', hDestination, hOk⟩
    rw [bind_eq_ok_iff] at hOk
    rcases hOk with ⟨p, hPredicates, hOk⟩
    rw [bind_eq_ok_iff] at hOk
    rcases hOk with ⟨filters, hFilters, hOk⟩
    rw [Conjunction.compile, map_eq_ok_iff] at hPredicates
    rcases hPredicates with ⟨ps, hPredicates, rfl⟩
    cases hOk
    exact
      ⟨rfl, (destination_eq_ok_iff d).mp hDestination, rfl,
        components_eq_ok_iff.mp hPredicates, filters,
        components_eq_ok_iff.mp hFilters, rfl⟩
  · intro hMade
    rcases hMade with
      ⟨rfl, hParse, rfl, hPredicates, filters, hFilters, rfl⟩
    rw [compile, (destination_eq_ok_iff _).mpr hParse,
      Conjunction.compile, components_eq_ok_iff.mpr hPredicates,
      components_eq_ok_iff.mpr hFilters]
    rfl

/-
  The destination is read first, then the predicates are
  made, then the filters of all routes and then those of the
  route, each kind from left to right.  The first of these
  steps that fails is what compiling fails with, and if none
  fails there is a route: it has the definition as it is, one
  predicate for each that is specified, in order, and all of
  the filters.
-/
theorem compile_stepwise :
    (∀ e,
      c.compile d = .error e ↔
        FailsFirst (CompilationStep.Fails c d) (c.steps d) e) ∧
      ((∃ e, c.compile d = .error e) ↔
        ∃ step ∈ c.steps d, ∃ e, step.Fails c d e) ∧
      ((∀ step ∈ c.steps d, ∀ e, ¬ step.Fails c d e) →
        ∃ r,
          c.compile d = .ok r ∧ r.definition = d ∧
            Destination.parse d.uri = .ok r.destination ∧
            List.Forall₂ (Provides c.predicates) d.predicates
              r.predicate.predicates ∧
            (∃ filters,
              List.Forall₂ (Provides c.filters)
                (c.defaultFilters ++ d.filters) filters ∧
              r.filters.filters.Perm filters) ∧
            r.filters.size =
              c.defaultFilters.length + d.filters.length) := by
  have hReports := reportsFirst_compile c d
  have hFails :
      (∃ e, c.compile d = .error e) ↔
        ∃ step ∈ c.steps d, ∃ e, step.Fails c d e := by
    simp only [hReports _, exists_failsFirst_iff]
  refine ⟨hReports, hFails, ?_⟩
  intro hNone
  cases hCompile : c.compile d with
  | error e =>
      rcases hFails.mp ⟨e, hCompile⟩ with
        ⟨step, hStep, e', hFailed⟩
      exact absurd hFailed (hNone step hStep e')
  | ok r =>
      rcases (compile_eq_ok_iff c d).mp hCompile with
        ⟨hDefinition, hParse, -, hPredicates, filters,
          hFilters, hChain⟩
      have hPerm : r.filters.filters.Perm filters := by
        rw [hChain]
        exact List.mergeSort_perm filters _
      refine
        ⟨r, rfl, hDefinition, hParse, hPredicates,
          ⟨filters, hFilters, hPerm⟩, ?_⟩
      rw [FilterChain.size, hPerm.length_eq,
        ← hFilters.length_eq, List.length_append]

end RouteCompiler

end Signpost
