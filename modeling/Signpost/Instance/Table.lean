import Signpost.Instance.Basic
import Signpost.Log
import Signpost.Text.Dict
import Signpost.Text.Distinct

/-
  This file defines tables of the instances of services.

  Of the instances of a service with one name only the first
  is held.  An instance that names no service belongs to the
  one it is held under.

  Key definitions include:
    * `InstanceList`
    * `InstanceList.ofList`
    * `InstanceTable`
    * `InstanceTable.instances`
    * `InstanceTable.update`
-/

namespace Signpost

open Text

------------------------------------------------------------
-- Lists
------------------------------------------------------------

/- Instances to hold, and later ones with a name in use. -/
abbrev InstanceList := Distinct ServiceInstance

namespace InstanceList

/- Let an instance belong to a service if it names none. -/
def adopt
    (service : String)
    (i : ServiceInstance) : ServiceInstance :=
  if i.service.isEmpty then { i with service } else i

/- The instances of a service. -/
def ofList
    (service : String)
    (is : List ServiceInstance) : InstanceList :=
  Distinct.ofList ServiceInstance.id (is.map (adopt service))

/- The line about a name that is already in use. -/
def duplicateLine
    (service : String)
    (i : ServiceInstance) : LogLine :=
  .discoveryWarn
    ("service " ++ service ++ " duplicate instance " ++ i.id ++
      " ignored")

/- A line for each instance that is dropped. -/
def lines (service : String) (l : InstanceList) : List LogLine :=
  l.dropped.map (duplicateLine service)

end InstanceList

------------------------------------------------------------
-- Tables
------------------------------------------------------------

/- The instances of services by the names of the services. -/
abbrev InstanceTable := Dict (List ServiceInstance)

namespace InstanceTable

/- The instances of a service, none if it is unknown. -/
def instances
    (t : InstanceTable)
    (service : String) : List ServiceInstance :=
  (t.get? service).getD []

/- Set the instances of a service. -/
def update
    (service : String)
    (is : List ServiceInstance)
    (t : InstanceTable) : InstanceTable × List LogLine :=
  let l := InstanceList.ofList service is
  (t.insert service l.kept, l.lines service)

/- Forget a service. -/
def remove (service : String) (t : InstanceTable) : InstanceTable :=
  t.erase service

/- The table of the instances of some services. -/
def ofDict
    (services : Dict (List ServiceInstance)) :
    InstanceTable × List LogLine :=
  (services.mapValues
      fun name is => (InstanceList.ofList name is).kept,
    services.toList.flatMap fun (name, is) =>
      (InstanceList.ofList name is).lines name)

end InstanceTable

end Signpost
