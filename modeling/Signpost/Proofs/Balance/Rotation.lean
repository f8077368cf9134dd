import Signpost.Proofs.Balance.Selector

/-
  A selector that takes turns goes around the instances of
  each service on its own, whatever happens to its tables
  and to other services in between.

  Main declarations:
    * `InstanceSelector.turns`
    * `InstanceSelector.InTurn`
    * `InstanceSelector.inTurn_after`
    * `InstanceSelector.getElem?_turns`
    * `InstanceSelector.count_turns`
    * `InstanceSelector.select_in_turn`
-/

namespace Signpost

open Text

namespace InstanceSelector

variable {s : InstanceSelector}
variable {service : String}

------------------------------------------------------------
-- Turns
------------------------------------------------------------

/- A choice that was made, and what it was made from. -/
structure Turn where
  offered : List ServiceInstance
  chosen : ServiceInstance
deriving DecidableEq, Repr

/-
  The turn of a service that an action is after some others:
  none unless the action selects an instance of the service
  and gets one.
-/
def turn?
    (configured : Dict (List ServiceInstance))
    (service : String)
    (before : List Action)
    (a : Action) : Option Turn :=
  if a.selects service then
    match ((after configured before).select service).2 with
    | .ok chosen =>
        some
          { offered := inForce configured before service
            chosen }
    | .error _ => none
  else none

/- The turns of a service in actions that follow others. -/
def turnsFrom
    (configured : Dict (List ServiceInstance))
    (service : String)
    (before : List Action) : List Action → List Turn
| [] => []
| a :: as =>
    (turn? configured service before a).toList ++
      turnsFrom configured service (before ++ [a]) as

/- The turns of a service in a run, first to last. -/
def turns
    (configured : Dict (List ServiceInstance))
    (service : String)
    (as : List Action) : List Turn :=
  turnsFrom configured service [] as

theorem turnsFrom_concat
    (configured : Dict (List ServiceInstance))
    (service : String)
    (before as : List Action)
    (a : Action) :
    turnsFrom configured service before (as ++ [a]) =
      turnsFrom configured service before as ++
        (turn? configured service (before ++ as) a).toList := by
  induction as generalizing before with
  | nil => simp [turnsFrom]
  | cons b as ih => simp [turnsFrom, ih]

/- One more action adds its turn after all others. -/
theorem turns_concat
    (configured : Dict (List ServiceInstance))
    (service : String)
    (as : List Action)
    (a : Action) :
    turns configured service (as ++ [a]) =
      turns configured service as ++
        (turn? configured service as a).toList :=
  turnsFrom_concat configured service [] as a

/- Only a selection can be a turn. -/
theorem length_turn?_le
    (configured : Dict (List ServiceInstance))
    (service : String)
    (before : List Action)
    (a : Action) :
    (turn? configured service before a).toList.length ≤
      [a].countP (Action.selects service) := by
  unfold turn?
  by_cases hSelects : a.selects service
  · simp [hSelects, Option.length_toList_le]
  · simp [hSelects]

/- A run has no more turns than selections. -/
theorem length_turns_le
    (configured : Dict (List ServiceInstance))
    (service : String)
    (as : List Action) :
    (turns configured service as).length ≤
      as.countP (Action.selects service) := by
  induction as using List.reverseRecOn with
  | nil => simp [turns, turnsFrom]
  | append_singleton before a ih =>
      have hLast :=
        length_turn?_le configured service before a
      rw [turns_concat, List.length_append,
        List.countP_append]
      omega

/- An instance is chosen only from what was in force. -/
theorem nodup_offered
    {configured : Dict (List ServiceInstance)}
    {service : String}
    {as : List Action}
    {t : Turn}
    (hTurn : t ∈ turns configured service as) :
    t.offered.Nodup := by
  induction as using List.reverseRecOn with
  | nil => simp [turns, turnsFrom] at hTurn
  | append_singleton before a ih =>
      rw [turns_concat, List.mem_append,
        Option.mem_toList] at hTurn
      rcases hTurn with hBefore | hLast
      · exact ih hBefore
      · unfold turn? at hLast
        split at hLast
        · split at hLast
          · cases hLast
            exact nodup_inForce configured before service
          · cases hLast
        · cases hLast

------------------------------------------------------------
-- The Invariant
------------------------------------------------------------

/- A balancer has counted the turns of every service. -/
def Counted
    (configured : Dict (List ServiceInstance))
    (as : List Action)
    (b : Balancer) : Prop :=
  ∃ counts, b = .turns counts ∧
    ∀ service,
      Balancer.count counts service =
        UInt64.ofNat (turns configured service as).length

/-
  After a run the tables hold what was discovered and what
  is configured, and the balancer has counted the turns.
-/
structure InTurn
    (configured : Dict (List ServiceInstance))
    (as : List Action)
    (s : InstanceSelector) : Prop where
  discovered_eq :
    ∀ service,
      s.discovered.instances service =
        discoveredAfter service as
  configured_eq :
    s.configured = (InstanceTable.ofDict configured).1
  counted : Counted configured as s.balancer

theorem inTurn_fresh
    (configured : Dict (List ServiceInstance)) :
    InTurn configured [] (fresh configured) where
  discovered_eq _ := rfl
  configured_eq := rfl
  counted := ⟨.empty, rfl, fun _ => rfl⟩

section Step

variable {configured : Dict (List ServiceInstance)}
variable {as : List Action}

/- What is in force is what can be selected. -/
theorem InTurn.available_eq
    (hTurn : InTurn configured as s)
    (service : String) :
    s.available service = inForce configured as service := by
  have hDiscovered := hTurn.discovered_eq service
  have hConfigured :
      s.configured.instances service =
        InstanceTable.listed configured service := by
    rw [hTurn.configured_eq]
    exact InstanceTable.instances_ofDict configured service
  cases hFound : discoveredAfter service as with
  | nil =>
      simp [available, inForce, hDiscovered, hConfigured,
        hFound]
  | cons i is =>
      simp [available, inForce, hDiscovered, hFound]

/- The next place of a service is its number of turns. -/
theorem InTurn.place_eq
    (hTurn : InTurn configured as s)
    (service : String)
    (hFew :
      (turns configured service as).length < 2 ^ 64) :
    s.balancer.place service =
      (turns configured service as).length := by
  obtain ⟨counts, hBalancer, hCounts⟩ := hTurn.counted
  rw [hBalancer, Balancer.place, hCounts]
  exact UInt64.toNat_ofNat_of_lt' hFew

/- Nothing but a selection of the service is a turn. -/
theorem turns_concat_of_not_selects
    {a : Action}
    (hOther : a.selects service = false) :
    turns configured service (as ++ [a]) =
      turns configured service as := by
  simp [turns_concat, turn?, hOther]

/- Neither is a selection without instances. -/
theorem select_of_inForce_eq_nil
    (hTurn : InTurn configured as (after configured as))
    (hNone : inForce configured as service = []) :
    (after configured as).select service =
        (after configured as,
          .error (.noInstances service)) ∧
      turn? configured service as (.select service) =
        none := by
  rw [← hTurn.available_eq] at hNone
  have hSelect := select_of_available_eq_nil hNone
  exact ⟨hSelect, by simp [turn?, Action.selects, hSelect]⟩

/- But one with instances is. -/
theorem select_of_inForce_ne_nil
    (hTurn : InTurn configured as (after configured as))
    (hSome : inForce configured as service ≠ []) :
    ∃ i,
      (inForce configured as service)[
          (after configured as).balancer.place service %
            (inForce configured as service).length]? =
          some i ∧
        (after configured as).select service =
          ({ after configured as with
              balancer :=
                (after configured as).balancer.taken
                  service },
            .ok i) ∧
        turn? configured service as (.select service) =
          some ⟨inForce configured as service, i⟩ := by
  rw [← hTurn.available_eq] at hSome
  obtain ⟨i, hPlace, hSelect⟩ :=
    select_of_available_ne_nil hSome
  rw [hTurn.available_eq] at hPlace
  exact
    ⟨i, hPlace, hSelect,
      by simp [turn?, Action.selects, hSelect]⟩

/- Without instances there are no turns at all. -/
theorem turns_concat_of_inForce_eq_nil
    (hTurn : InTurn configured as (after configured as))
    (hNone : inForce configured as service = [])
    (a : Action) :
    turns configured service (as ++ [a]) =
      turns configured service as := by
  cases hSelects : a.selects service with
  | false => exact turns_concat_of_not_selects hSelects
  | true =>
      have hNoTurn :=
        (select_of_inForce_eq_nil hTurn hNone).2
      rw [Action.eq_of_selects hSelects, turns_concat,
        hNoTurn]
      simp

/- A selection counts the turn that it is, if it is one. -/
theorem InTurn.counted_select
    (hTurn : InTurn configured as (after configured as))
    (other : String) :
    Counted configured (as ++ [.select other])
      ((after configured as).select other).1.balancer := by
  obtain ⟨counts, hBalancer, hCounts⟩ := hTurn.counted
  have hOthers :
      ∀ service, service ≠ other →
        turns configured service (as ++ [.select other]) =
          turns configured service as := by
    intro service hNe
    apply turns_concat_of_not_selects
    simp [Action.selects, hNe.symm]
  by_cases hNone : inForce configured as other = []
  · have hSelect :=
      (select_of_inForce_eq_nil hTurn hNone).1
    refine ⟨counts, by rw [hSelect, hBalancer], ?_⟩
    intro service
    by_cases hSame : service = other
    · subst hSame
      rw [turns_concat_of_inForce_eq_nil hTurn hNone, hCounts]
    · rw [hOthers service hSame, hCounts]
  · obtain ⟨i, -, hSelect, hLast⟩ :=
      select_of_inForce_ne_nil hTurn hNone
    refine
      ⟨_, by rw [hSelect, hBalancer, Balancer.taken], ?_⟩
    intro service
    rw [Balancer.count_taken]
    by_cases hSame : service = other
    · subst hSame
      simp [turns_concat, hLast, hCounts, UInt64.ofNat_add]
    · rw [if_neg hSame, hOthers service hSame, hCounts]

/- Other actions leave the balancer alone. -/
theorem InTurn.counted_of_not_selects
    (hTurn : InTurn configured as (after configured as))
    {a : Action}
    (hKeeps :
      ((after configured as).perform a).balancer =
        (after configured as).balancer)
    (hNever : ∀ service, a.selects service = false) :
    Counted configured (as ++ [a])
      ((after configured as).perform a).balancer := by
  obtain ⟨counts, hBalancer, hCounts⟩ := hTurn.counted
  refine ⟨counts, hKeeps.trans hBalancer, ?_⟩
  intro service
  rw [turns_concat_of_not_selects (hNever service), hCounts]

/- Every action keeps a selector in turn. -/
theorem InTurn.perform
    (hTurn : InTurn configured as (after configured as))
    (a : Action) :
    InTurn configured (as ++ [a])
      ((after configured as).perform a) where
  discovered_eq service := by
    rw [discovered_perform, hTurn.discovered_eq,
      discoveredAfter, discoveredAfter, List.foldl_concat]
  configured_eq := by
    cases a <;> exact hTurn.configured_eq
  counted := by
    cases a with
    | replace services =>
        exact hTurn.counted_of_not_selects rfl fun _ => rfl
    | update other is =>
        exact hTurn.counted_of_not_selects rfl fun _ => rfl
    | remove other =>
        exact hTurn.counted_of_not_selects rfl fun _ => rfl
    | select other => exact hTurn.counted_select other

end Step

/- So does every run. -/
theorem inTurn_after
    (configured : Dict (List ServiceInstance))
    (as : List Action) :
    InTurn configured as (after configured as) := by
  induction as using List.reverseRecOn with
  | nil => exact inTurn_fresh configured
  | append_singleton before a ih =>
      rw [after_concat]
      exact ih.perform a

------------------------------------------------------------
-- Rotation
------------------------------------------------------------

section Rotation

variable {configured : Dict (List ServiceInstance)}
variable {as : List Action}

/- A turn chooses by the number of turns before it. -/
theorem getElem?_turn?
    (hFew : (turns configured service as).length < 2 ^ 64)
    {a : Action}
    {t : Turn}
    (hLast : turn? configured service as a = some t) :
    t.offered[
        (turns configured service as).length %
          t.offered.length]? =
      some t.chosen := by
  have hTurn := inTurn_after configured as
  have hSelects : a.selects service = true := by
    by_contra hOther
    simp [turn?, hOther] at hLast
  rw [Action.eq_of_selects hSelects] at hLast
  by_cases hNone : inForce configured as service = []
  · have hNoTurn :=
      (select_of_inForce_eq_nil hTurn hNone).2
    simp [hNoTurn] at hLast
  · obtain ⟨i, hPlace, -, hSome⟩ :=
      select_of_inForce_ne_nil hTurn hNone
    rw [hSome] at hLast
    cases hLast
    rw [hTurn.place_eq service hFew] at hPlace
    exact hPlace

/-
  So each turn of a run chooses the instance whose place is
  the number of the turn, going around what was offered.
-/
theorem getElem?_turns
    (hFew : (turns configured service as).length < 2 ^ 64)
    {k : Nat}
    {t : Turn}
    (hTurn : (turns configured service as)[k]? = some t) :
    t.offered[k % t.offered.length]? = some t.chosen := by
  induction as using List.reverseRecOn with
  | nil => simp [turns, turnsFrom] at hTurn
  | append_singleton before a ih =>
      rw [turns_concat, List.length_append] at hFew
      have hBefore :
          (turns configured service before).length <
            2 ^ 64 := by
        omega
      rw [turns_concat] at hTurn
      by_cases hEarlier :
          k < (turns configured service before).length
      · rw [List.getElem?_append_left hEarlier] at hTurn
        exact ih hBefore hTurn
      · rw [List.getElem?_append_right (by omega)] at hTurn
        have hLast :
            turn? configured service before a = some t :=
          Option.mem_toList.mp (List.mem_of_getElem? hTurn)
        have hEnd :
            k = (turns configured service before).length := by
          have hOne := (List.getElem?_eq_some_iff.mp hTurn).1
          simp [hLast] at hOne
          omega
        rw [hEnd]
        exact getElem?_turn? hBefore hLast

/-
  In a row of turns that were offered the same instances each
  of these is chosen equally often, up to one.
-/
theorem count_turns
    (hFew : (turns configured service as).length < 2 ^ 64)
    {before row rest : List Turn}
    (hRow :
      turns configured service as = before ++ row ++ rest)
    {is : List ServiceInstance}
    (hSame : ∀ t ∈ row, t.offered = is)
    {i : ServiceInstance}
    (hMember : i ∈ is) :
    (row.map Turn.chosen).count i = row.length / is.length ∨
      (row.map Turn.chosen).count i =
        (row.length + is.length - 1) / is.length := by
  cases row with
  | nil => simp
  | cons t row =>
      have hFirst : t ∈ turns configured service as := by
        rw [hRow]
        simp
      have hNodup : is.Nodup := by
        rw [← hSame t List.mem_cons_self]
        exact nodup_offered hFirst
      have hChosen :
          ∀ k i, ((t :: row).map Turn.chosen)[k]? = some i →
            is[(before.length + k) % is.length]? =
              some i := by
        intro k i hPlace
        rw [List.getElem?_map, Option.map_eq_some_iff]
          at hPlace
        obtain ⟨u, hPlace, rfl⟩ := hPlace
        have hTurn :
            (turns configured service as)[
                before.length + k]? =
              some u := by
          have hBound :=
            (List.getElem?_eq_some_iff.mp hPlace).1
          rw [hRow, List.append_assoc,
            List.getElem?_append_right (by omega),
            Nat.add_sub_cancel_left,
            List.getElem?_append_left hBound, hPlace]
        have hAround := getElem?_turns hFew hTurn
        rw [hSame u (List.mem_of_getElem? hPlace)] at hAround
        exact hAround
      simpa using
        Balancer.count_around hNodup before.length hChosen
          hMember

end Rotation

/-
  After any run of a new selector in which a service was not
  selected 2 ^ 64 times, a selection for the service fails
  if there are no instances in force for it, and else gives
  the one whose place is the number of turns that the
  service had, going around.  So did each of those turns.
  Nothing but such a turn moves the place.  In a row of
  turns that were offered the same instances each of these
  is chosen equally often, up to one.
-/
theorem select_in_turn
    (configured : Dict (List ServiceInstance))
    (as : List Action)
    (service : String)
    (hFew :
      as.countP (Action.selects service) < 2 ^ 64) :
    let s := after configured as
    let is := inForce configured as service
    let past := turns configured service as
    (is = [] →
        ∃ e, (s.select service).2 = .error e ∧
          e.code = .noInstancesAvailable ∧
          e.service = some service) ∧
      (is ≠ [] →
        ∃ i, (s.select service).2 = .ok i ∧
          is[past.length % is.length]? = some i) ∧
      (∀ (k : Nat) (t : Turn), past[k]? = some t →
        t.offered[k % t.offered.length]? = some t.chosen) ∧
      s.balancer.place service = past.length ∧
      (∀ a, a.selects service = false ∨ is = [] →
        (s.perform a).balancer.place service =
          s.balancer.place service) ∧
      ∀ before row rest, past = before ++ row ++ rest →
        ∀ offered, (∀ t ∈ row, t.offered = offered) →
          ∀ i ∈ offered,
            (row.map Turn.chosen).count i =
                row.length / offered.length ∨
              (row.map Turn.chosen).count i =
                (row.length + offered.length - 1) /
                  offered.length := by
  intro s is past
  have hTurn : InTurn configured as s :=
    inTurn_after configured as
  have hPast : past.length < 2 ^ 64 :=
    (length_turns_le configured service as).trans_lt hFew
  have hPlace : s.balancer.place service = past.length :=
    hTurn.place_eq service hPast
  refine ⟨?_, ?_, ?_, hPlace, ?_, ?_⟩
  · intro hNone
    have hSelect := (select_of_inForce_eq_nil hTurn hNone).1
    exact
      ⟨.noInstances service, by rw [hSelect], rfl, rfl⟩
  · intro hSome
    obtain ⟨i, hAround, hSelect, -⟩ :=
      select_of_inForce_ne_nil hTurn hSome
    rw [hPlace] at hAround
    exact ⟨i, by rw [hSelect], hAround⟩
  · intro k t
    exact getElem?_turns hPast
  · intro a hAside
    have hSame :
        turns configured service (as ++ [a]) = past := by
      rcases hAside with hOther | hNone
      · exact turns_concat_of_not_selects hOther
      · exact turns_concat_of_inForce_eq_nil hTurn hNone a
    have hNext := (hTurn.perform a).place_eq service
    rw [hSame] at hNext
    rw [hPlace]
    exact hNext hPast
  · intro before row rest hRow offered hSame i hMember
    exact count_turns hPast hRow hSame hMember

/- An instance of the service "web". -/
def webInstance (id : String) : ServiceInstance :=
  { service := "web", id, host := "10.0.0.1", port := 8080 }

/-
  The only configured instance is selected before two others
  are discovered, and a service without instances is asked
  for in between.
-/
def webActions : List Action :=
  [.select "web",
    .update "web" [webInstance "a", webInstance "b"],
    .select "web", .select "mail"]

/- The third turn goes around two instances to the first. -/
theorem select_in_turn_web :
    let configured : Dict (List ServiceInstance) :=
      Dict.empty.insert "web" [webInstance "c"]
    webActions.countP (Action.selects "web") < 2 ^ 64 ∧
      ((after configured webActions).select "web").2 =
        .ok (webInstance "a") := by
  intro configured
  have hFew :
      webActions.countP (Action.selects "web") < 2 ^ 64 := by
    decide
  obtain ⟨-, hServed, -⟩ :=
    select_in_turn configured webActions "web" hFew
  obtain ⟨i, hAnswer, hPlace⟩ :=
    hServed (by decide +kernel)
  refine ⟨hFew, ?_⟩
  have hFirst : some i = some (webInstance "a") :=
    hPlace.symm.trans (by decide +kernel)
  rw [hAnswer, Option.some.inj hFirst]

end InstanceSelector

end Signpost
