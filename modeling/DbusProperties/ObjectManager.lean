import DbusProperties.Server

/-! # `on_get_managed_objects`: the object manager snapshot

Three nested loops: over `objects` in registration order, over each object's interface table in
key order, over each interface's property table in key order. An interface is listed under the
name it reports (`get_interface_name()`), not under its key in the table. The reply is sent and
the object-manager filter re-armed; `ec` is not read.
-/

namespace DbusProperties
set_option autoImplicit false

namespace Server
variable {V : Type}

/-- The `dict` `on_get_managed_objects` builds. -/
def managedObjects (s : Server V) : List (String × List (String × List (String × V))) :=
  s.objects.map fun o =>
    ((s.object o).objectName, (s.object o).interfaces.entries.map fun e =>
      ((s.iface e.2).interfaceName, (s.iface e.2).propertiesMap.entries))

/-- `on_get_managed_objects(ec, m)`: reply with the snapshot, then re-arm the filter. -/
def onGetManagedObjects (s : Server V) (m : Message V) : Server V :=
  { s.send ((Message.newReturn m).pack [.objects s.managedObjects]) with objectManagerArmed := true }

end Server

end DbusProperties
