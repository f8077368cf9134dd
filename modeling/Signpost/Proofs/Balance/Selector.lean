import Signpost.Balance.Selector
import Signpost.Proofs.Balance.Balancer
import Signpost.Proofs.Instance.Table

/-
  What a selector can choose from after any run, told from
  what happened to its tables.

  Main declarations:
    * `InstanceSelector.Action` and `InstanceSelector.run`
    * `InstanceSelector.inForce`
    * `InstanceSelector.discovered_perform`
    * `InstanceSelector.nodup_inForce`
-/

namespace Signpost

open Text

namespace InstanceSelector

------------------------------------------------------------
-- One Selection
------------------------------------------------------------

variable {s : InstanceSelector}
variable {service : String}

/- Without instances a selection fails and does nothing. -/
theorem select_of_available_eq_nil
    (hNone : s.available service = []) :
    s.select service = (s, .error (.noInstances service)) := by
  simp [select, hNone, Balancer.choose_nil]

/- With instances it gives the one whose turn it is. -/
theorem select_of_available_ne_nil
    (hSome : s.available service ≠ []) :
    ∃ i,
      (s.available service)[
          s.balancer.place service %
            (s.available service).length]? = some i ∧
        s.select service =
          ({ s with balancer := s.balancer.taken service },
            .ok i) := by
  obtain ⟨i, hPlace, hChoose⟩ :=
    Balancer.choose_of_ne_nil hSome s.balancer service
  exact ⟨i, hPlace, by simp [select, hChoose]⟩

------------------------------------------------------------
-- Runs of a Selector
------------------------------------------------------------

/-
  What can happen to a selector: the instances of all
  services or of one are discovered, a service is forgotten,
  or an instance is selected.
-/
inductive Action where
| replace (services : Dict (List ServiceInstance))
| update (service : String) (is : List ServiceInstance)
| remove (service : String)
| select (service : String)

/- An action selects an instance of a certain service. -/
def Action.selects (service : String) : Action → Bool
| .select other => other = service
| _ => false

theorem Action.eq_of_selects
    {a : Action}
    (hSelects : a.selects service = true) :
    a = .select service := by
  cases a with
  | select other =>
      rw [of_decide_eq_true hSelects]
  | _ => cases hSelects

/- The selector after an action. -/
def perform (s : InstanceSelector) : Action → InstanceSelector
| .replace services => (s.replace services).1
| .update service is => (s.update service is).1
| .remove service => s.remove service
| .select service => (s.select service).1

/- The selector after some actions. -/
def run
    (s : InstanceSelector)
    (as : List Action) : InstanceSelector :=
  as.foldl perform s

/- A selector of which nothing was asked yet. -/
def fresh
    (configured : Dict (List ServiceInstance)) :
    InstanceSelector :=
  { configured := (InstanceTable.ofDict configured).1
    balancer := .turns .empty }

/- What becomes of a new selector. -/
def after
    (configured : Dict (List ServiceInstance))
    (as : List Action) : InstanceSelector :=
  (fresh configured).run as

theorem after_concat
    (configured : Dict (List ServiceInstance))
    (as : List Action)
    (a : Action) :
    after configured (as ++ [a]) =
      (after configured as).perform a :=
  List.foldl_concat perform (fresh configured) a as

------------------------------------------------------------
-- Instances in Force
------------------------------------------------------------

/- The discovered instances of a service after an action. -/
def Action.discovered
    (service : String)
    (is : List ServiceInstance) : Action → List ServiceInstance
| .replace services => InstanceTable.listed services service
| .update other found =>
    if service = other then
      (InstanceList.ofList other found).kept
    else is
| .remove other => if service = other then [] else is
| .select _ => is

/- The discovered instances of a service after a run. -/
def discoveredAfter
    (service : String)
    (as : List Action) : List ServiceInstance :=
  as.foldl (Action.discovered service) []

/-
  The instances that a service has after a run: those that
  were discovered, or else those that are configured.
-/
def inForce
    (configured : Dict (List ServiceInstance))
    (as : List Action)
    (service : String) : List ServiceInstance :=
  match discoveredAfter service as with
  | [] => InstanceTable.listed configured service
  | is => is

/- An action changes the tables as it is meant to. -/
theorem discovered_perform
    (s : InstanceSelector)
    (a : Action)
    (service : String) :
    (s.perform a).discovered.instances service =
      a.discovered service
        (s.discovered.instances service) := by
  cases a with
  | replace services =>
      exact InstanceTable.instances_ofDict services service
  | update other is =>
      exact
        InstanceTable.instances_update s.discovered other
          service is
  | remove other =>
      exact
        InstanceTable.instances_remove s.discovered other
          service
  | select other => rfl

/- No action lists an instance twice. -/
theorem Action.nodup_discovered
    {is : List ServiceInstance}
    (hNodup : is.Nodup)
    (service : String)
    (a : Action) :
    (a.discovered service is).Nodup := by
  cases a with
  | replace services =>
      exact InstanceList.nodup_kept service _
  | update other found =>
      by_cases hSame : service = other
      · simpa [Action.discovered, hSame] using
          InstanceList.nodup_kept other found
      · simpa [Action.discovered, hSame] using hNodup
  | remove other =>
      by_cases hSame : service = other
      · simp [Action.discovered, hSame]
      · simpa [Action.discovered, hSame] using hNodup
  | select other => exact hNodup

/- So no run does. -/
theorem nodup_discoveredAfter
    (service : String)
    (as : List Action) :
    (discoveredAfter service as).Nodup := by
  induction as using List.reverseRecOn with
  | nil => exact List.nodup_nil
  | append_singleton before a ih =>
      rw [discoveredAfter, List.foldl_concat]
      exact Action.nodup_discovered ih service a

/- What is in force has no instance twice either. -/
theorem nodup_inForce
    (configured : Dict (List ServiceInstance))
    (as : List Action)
    (service : String) :
    (inForce configured as service).Nodup := by
  unfold inForce
  split
  · exact InstanceList.nodup_kept service _
  · exact nodup_discoveredAfter service as

end InstanceSelector

end Signpost
