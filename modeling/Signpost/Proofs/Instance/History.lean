import Mathlib.Data.List.Induction
import Signpost.Proofs.Instance.Table

/-
  A table of instances is a finite map from services to what
  was written for them last, whatever was called before, and
  snapshots of it stay as they were taken.

  Main declarations:
    * `InstanceList.Holds` and `InstanceList.holds_ofList`
    * `InstanceRegistry.Call` and `InstanceRegistry.after`
    * `InstanceRegistry.lastWritten`
    * `InstanceRegistry.get?_after`
    * `InstanceRegistry.after_last_writes`
-/

namespace Signpost

open Text

------------------------------------------------------------
-- Held Instances
------------------------------------------------------------

namespace InstanceList

/-
  An instance is held as it was written, with the service it
  is held under in place of an empty one.
-/
structure HeldAs
    (service : String)
    (written held : ServiceInstance) : Prop where
  service_eq :
    held.service =
      if written.service = "" then service
      else written.service
  id_eq : held.id = written.id
  host_eq : held.host = written.host
  port_eq : held.port = written.port
  secure_eq : held.secure = written.secure

/-
  Of the instances that were written for a service those are
  held, in order, that are the first with their id.
-/
structure Holds
    (service : String)
    (written held : List ServiceInstance) : Prop where
  nodup_ids : (held.map ServiceInstance.id).Nodup
  held_firsts :
    List.Forall₂ (HeldAs service)
      (Distinct.firsts ServiceInstance.id written) held
  sublist :
    (Distinct.firsts ServiceInstance.id written).Sublist written
  id_mem : ∀ i ∈ written, i.id ∈ held.map ServiceInstance.id

theorem heldAs_adopt
    (service : String)
    (i : ServiceInstance) :
    HeldAs service i (adopt service i) := by
  unfold adopt
  by_cases hNone : i.service = ""
  · simp only [String.isEmpty_iff, if_pos hNone]
    exact ⟨by simp [hNone], rfl, rfl, rfl, rfl⟩
  · simp only [String.isEmpty_iff, if_neg hNone]
    exact ⟨by simp [hNone], rfl, rfl, rfl, rfl⟩

@[simp] theorem id_adopt
    (service : String)
    (i : ServiceInstance) :
    (adopt service i).id = i.id :=
  (heldAs_adopt service i).id_eq

/- What is held are the first instances of each id. -/
theorem kept_eq
    (service : String)
    (is : List ServiceInstance) :
    (ofList service is).kept =
      (Distinct.firsts ServiceInstance.id is).map
        (adopt service) := by
  rw [← Distinct.kept_ofList]
  exact (Distinct.divide_map (id_adopt service) [] is).1

/- There is one line for each later instance of an id. -/
theorem lines_eq
    (service : String)
    (is : List ServiceInstance) :
    (ofList service is).lines service =
      (Distinct.repeats ServiceInstance.id is).map
        (duplicateLine service) := by
  have hDropped :
      (ofList service is).dropped =
        (Distinct.repeats ServiceInstance.id is).map
          (adopt service) := by
    rw [← Distinct.dropped_ofList]
    exact (Distinct.divide_map (id_adopt service) [] is).2
  simp [lines, hDropped, duplicateLine]

theorem holds_ofList
    (service : String)
    (is : List ServiceInstance) :
    Holds service is (ofList service is).kept where
  nodup_ids := Distinct.nodup_kept_ofList ServiceInstance.id _
  held_firsts := by
    rw [kept_eq, List.forall₂_map_right_iff, List.forall₂_same]
    intro i _
    exact heldAs_adopt service i
  sublist := by
    rw [← Distinct.kept_ofList]
    exact Distinct.sublist_kept_ofList ServiceInstance.id is
  id_mem := by
    intro i hi
    have hKept :=
      Distinct.name_mem_kept_ofList ServiceInstance.id
        (List.mem_map_of_mem (f := adopt service) hi)
    rwa [id_adopt] at hKept

end InstanceList

------------------------------------------------------------
-- Calls
------------------------------------------------------------

/-
  A table of instances in use, with the snapshots that were
  taken of it and the lines that were logged, first to last.
-/
structure InstanceRegistry where
  table : InstanceTable := .empty
  taken : List (List ServiceInstance) := []
  lines : List LogLine := []

namespace InstanceRegistry

/-
  What can be asked of a table: to replace the instances of
  all services or of one, to forget a service, or to give a
  snapshot of the instances of one.
-/
inductive Call where
| replace (services : Dict (List ServiceInstance))
| update (service : String) (is : List ServiceInstance)
| remove (service : String)
| snapshot (service : String)

/- Answer a call. -/
def perform (r : InstanceRegistry) : Call → InstanceRegistry
| .replace services =>
    let (table, lines) := InstanceTable.ofDict services
    { r with table, lines := r.lines ++ lines }
| .update service is =>
    let (table, lines) := r.table.update service is
    { r with table, lines := r.lines ++ lines }
| .remove service =>
    { r with table := r.table.remove service }
| .snapshot service =>
    { r with
      taken := r.taken ++ [r.table.instances service] }

/- Answer calls from the start. -/
def after (cs : List Call) : InstanceRegistry :=
  cs.foldl perform {}

theorem after_concat
    (cs : List Call)
    (c : Call) :
    after (cs ++ [c]) = (after cs).perform c :=
  List.foldl_concat perform {} c cs

------------------------------------------------------------
-- The Last Write
------------------------------------------------------------

/-
  What a call writes for a service, if it concerns it: some
  instances, or none at all for a service that is forgotten
  or left out when all are replaced.
-/
def Call.written?
    (service : String) :
    Call → Option (Option (List ServiceInstance))
| .replace services => some (services.get? service)
| .update other is =>
    if service = other then some (some is) else none
| .remove other =>
    if service = other then some none else none
| .snapshot _ => none

/-
  What the last of some calls that concerns a service has
  written for it.
-/
def lastWritten
    (cs : List Call)
    (service : String) : Option (List ServiceInstance) :=
  (cs.reverse.findSome? (Call.written? service)).join

theorem lastWritten_concat
    (cs : List Call)
    (c : Call)
    (service : String) :
    lastWritten (cs ++ [c]) service =
      match c.written? service with
      | some written => written
      | none => lastWritten cs service := by
  rw [lastWritten, List.reverse_append, List.reverse_singleton,
    List.singleton_append, List.findSome?_cons]
  cases c.written? service <;> rfl

/- A call leaves what it does not write. -/
theorem get?_perform
    (r : InstanceRegistry)
    (c : Call)
    (service : String) :
    (r.perform c).table.get? service =
      match c.written? service with
      | some written =>
          written.map fun is =>
            (InstanceList.ofList service is).kept
      | none => r.table.get? service := by
  cases c with
  | replace services =>
      exact Dict.get?_mapValues _ services service
  | update other is =>
      by_cases hSame : service = other
      · subst hSame
        simp [perform, InstanceTable.update, Call.written?]
      · simp [perform, InstanceTable.update, Call.written?, hSame,
          Dict.get?_insert_of_ne]
  | remove other =>
      by_cases hSame : service = other <;>
        simp [perform, InstanceTable.remove, Call.written?,
          Dict.get?_erase, hSame]
  | snapshot other => rfl

/- A table holds what was written last for each service. -/
theorem get?_after
    (cs : List Call)
    (service : String) :
    (after cs).table.get? service =
      (lastWritten cs service).map fun is =>
        (InstanceList.ofList service is).kept := by
  induction cs using List.reverseRecOn with
  | nil => rfl
  | append_singleton cs c ih =>
      rw [after_concat, get?_perform, lastWritten_concat]
      cases c.written? service with
      | none => exact ih
      | some written => rfl

/- The instances that are seen are held as written. -/
theorem holds_after
    (cs : List Call)
    (service : String) :
    InstanceList.Holds service
      ((lastWritten cs service).getD [])
      ((after cs).table.instances service) := by
  have hNone := InstanceList.holds_ofList service []
  rw [InstanceTable.instances, get?_after]
  cases lastWritten cs service with
  | none => exact hNone
  | some is => exact InstanceList.holds_ofList service is

------------------------------------------------------------
-- Lines and Snapshots
------------------------------------------------------------

/- The lists that a call writes, by their services. -/
def Call.lists : Call → List (String × List ServiceInstance)
| .replace services => services.toList
| .update service is => [(service, is)]
| .remove _ => []
| .snapshot _ => []

/- A line for each instance with the id of an earlier one. -/
def Call.warnings (c : Call) : List LogLine :=
  c.lists.flatMap fun e =>
    (Distinct.repeats ServiceInstance.id e.2).map
      (InstanceList.duplicateLine e.1)

theorem lines_perform
    (r : InstanceRegistry)
    (c : Call) :
    (r.perform c).lines = r.lines ++ c.warnings := by
  cases c with
  | replace services =>
      simp only [perform, InstanceTable.ofDict, Call.warnings,
        Call.lists, InstanceList.lines_eq]
  | update service is =>
      simp [perform, InstanceTable.update, Call.warnings,
        Call.lists, InstanceList.lines_eq]
  | remove service => simp [perform, Call.warnings, Call.lists]
  | snapshot service => simp [perform, Call.warnings, Call.lists]

theorem lines_after
    (cs : List Call) :
    (after cs).lines = cs.flatMap Call.warnings := by
  induction cs using List.reverseRecOn with
  | nil => rfl
  | append_singleton cs c ih =>
      rw [after_concat, lines_perform, ih, List.flatMap_append,
        List.flatMap_singleton]

/- Later calls take snapshots after those that are there. -/
theorem taken_prefix
    (cs later : List Call) :
    (after cs).taken <+: (after (cs ++ later)).taken := by
  induction later using List.reverseRecOn with
  | nil => simp only [List.append_nil, List.prefix_rfl]
  | append_singleton later c ih =>
      rw [← List.append_assoc, after_concat]
      refine ih.trans ?_
      cases c with
      | snapshot service => exact List.prefix_append _ _
      | _ => exact List.prefix_rfl

/-
  After any calls a table shows for each service what was
  written last for it, it names the services in order that
  something is written for, there is one line for each
  duplicate that was dropped, and a snapshot that is taken
  stays what it is whatever is called later.
-/
theorem after_last_writes
    (cs : List Call) :
    (∀ service,
        InstanceList.Holds service
          ((lastWritten cs service).getD [])
          ((after cs).table.instances service)) ∧
      ((after cs).table.keys.Pairwise (· < ·) ∧
        ∀ service, service ∈ (after cs).table.keys ↔
          (lastWritten cs service).isSome = true) ∧
      (after cs).lines = cs.flatMap Call.warnings ∧
      ∀ service later,
        (after cs).taken ++ [(after cs).table.instances service] <+:
          (after (cs ++ .snapshot service :: later)).taken := by
  refine ⟨holds_after cs, ⟨?_, ?_⟩, lines_after cs, ?_⟩
  · exact List.pairwise_map.mpr (after cs).table.ascending
  · intro service
    rw [Dict.mem_keys_iff, get?_after, Option.isSome_map]
  · intro service later
    have hTaken :
        (after (cs ++ [.snapshot service])).taken =
          (after cs).taken ++
            [(after cs).table.instances service] := by
      rw [after_concat]
      rfl
    rw [← hTaken]
    have hPrefix :=
      taken_prefix (cs ++ [.snapshot service]) later
    rwa [List.append_assoc, List.singleton_append] at hPrefix

end InstanceRegistry

end Signpost
