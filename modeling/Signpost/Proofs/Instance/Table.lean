import Signpost.Instance.Table
import Signpost.Proofs.Text.Distinct

/-
  The instances of a service after each change of a table.

  Main declarations:
    * `InstanceList.nodup_kept`
    * `InstanceTable.listed`
    * `InstanceTable.instances_update`
    * `InstanceTable.instances_remove`
    * `InstanceTable.instances_ofDict`
-/

namespace Signpost

open Text

/- No instance is held twice for a service. -/
theorem InstanceList.nodup_kept
    (service : String)
    (is : List ServiceInstance) :
    (InstanceList.ofList service is).kept.Nodup :=
  List.Nodup.of_map ServiceInstance.id
    (Distinct.nodup_kept_ofList ServiceInstance.id _)

namespace InstanceTable

/- The instances of a service that a dictionary lists. -/
def listed
    (services : Dict (List ServiceInstance))
    (service : String) : List ServiceInstance :=
  (InstanceList.ofList service
    ((services.get? service).getD [])).kept

/- Setting the instances of a service leaves the others. -/
theorem instances_update
    (t : InstanceTable)
    (service other : String)
    (is : List ServiceInstance) :
    (t.update service is).1.instances other =
      if other = service then
        (InstanceList.ofList service is).kept
      else t.instances other := by
  unfold update instances
  by_cases hSame : other = service
  · subst hSame
    simp
  · simp [hSame, Dict.get?_insert_of_ne]

/- Forgetting a service leaves the others. -/
theorem instances_remove
    (t : InstanceTable)
    (service other : String) :
    (t.remove service).instances other =
      if other = service then [] else t.instances other := by
  unfold remove instances
  rw [Dict.get?_erase]
  split <;> rfl

/- A new table has what its dictionary lists. -/
theorem instances_ofDict
    (services : Dict (List ServiceInstance))
    (service : String) :
    (ofDict services).1.instances service =
      listed services service := by
  unfold ofDict instances listed
  rw [Dict.get?_mapValues]
  cases services.get? service with
  | none => rfl
  | some is => rfl

end InstanceTable

end Signpost
