import DbusProperties.Invariant

/-! # `GetManagedObjects` against `Get`

`on_get_managed_objects` answers with `managedObjects`: one entry per element of `objects`, in
order, pairing the object's path with one entry per binding of its interface table, in key order,
named by the interface's `get_interface_name()` and carrying its property table in key order. On
a reachable state an interface is filed under its own name (`Inv.bound_name`), so the snapshot
lists the bindings under their keys (`managedObjects_eq`). When paths are distinct, the snapshot
and `Get` then agree on every object, interface and property (`getManagedObjects_snapshot`).
-/

namespace DbusProperties
set_option autoImplicit false

namespace Server
variable {V : Type}

theorem sent_onGetManagedObjects (s : Server V) (m : Message V) :
    (s.onGetManagedObjects m).sent =
      s.sent ++ [(Message.newReturn m).pack [.objects s.managedObjects]] := rfl

/-- The interfaces listed for an object: its bindings, under their keys. -/
def listedInterfaces (s : Server V) (o : Nat) : List (String × List (String × V)) :=
  (s.object o).interfaces.entries.map fun e => (e.1, (s.iface e.2).propertiesMap.entries)

theorem mem_listedInterfaces {s : Server V} {o : Nat} {I : String} {props : List (String × V)} :
    (I, props) ∈ s.listedInterfaces o ↔
      ∃ r, (s.object o).interfaces.lookup I = some r ∧ props = (s.iface r).propertiesMap.entries := by
  simp only [listedInterfaces, List.mem_map, Prod.mk.injEq, Prod.exists, FlatMap.mem_entries_iff]
  constructor
  · rintro ⟨k, r, hr, rfl, rfl⟩; exact ⟨r, hr, rfl⟩
  · rintro ⟨r, hr, rfl⟩; exact ⟨I, r, hr, rfl, rfl⟩

/-- With every interface filed under its name, the snapshot lists each object's bindings under
their keys. -/
theorem managedObjects_eq {s : Server V} (hi : Inv s) :
    s.managedObjects = s.objects.map fun o => ((s.object o).objectName, s.listedInterfaces o) := by
  refine List.map_congr_left fun o _ => congrArg _ (List.map_congr_left fun ⟨k, r⟩ he => ?_)
  rw [hi.bound_name o k r (FlatMap.mem_entries_iff.1 he)]

variable [DecidableEq V] (sigOf : V → String)

/-- On every reachable state, `GetManagedObjects` replies with one entry per registered object,
in registration order, each listing the object's interface table in key order, under the
interfaces' names, with each interface's live property table in key order. When paths are
distinct, `(O, I, p, v)` is in the reply exactly when `Get(I, p)` on the object at `O` returns
`v`. -/
theorem getManagedObjects_snapshot {s : Server V} (hs : Reachable sigOf s) (m : Message V) :
    (({ s with objectManagerArmed := false } : Server V).onGetManagedObjects m).sent =
        s.sent ++ [(Message.newReturn m).pack [.objects s.managedObjects]] ∧
      s.managedObjects = s.objects.map (fun o => ((s.object o).objectName,
        (s.object o).interfaces.entries.map fun e => (e.1, (s.iface e.2).propertiesMap.entries))) ∧
      ((s.objects.map fun o => (s.object o).objectName).Nodup →
        ∀ o ∈ s.objects, ∀ I p v,
          (∃ ifaces props, ((s.object o).objectName, ifaces) ∈ s.managedObjects ∧
            (I, props) ∈ ifaces ∧ (p, v) ∈ props) ↔ s.propertiesGet o I p = .ok v) := by
  have hi := hs.inv sigOf
  refine ⟨rfl, managedObjects_eq hi, fun hd o ho I p v => ?_⟩
  rw [managedObjects_eq hi, propertiesGet_eq_ok]
  constructor
  · rintro ⟨ifaces, props, hmem, hI, hp⟩
    obtain ⟨o', ho', hname, rfl⟩ : ∃ o' ∈ s.objects, (s.object o').objectName =
        (s.object o).objectName ∧ s.listedInterfaces o' = ifaces := by
      simpa using hmem
    obtain rfl := List.inj_on_of_nodup_map hd ho' ho hname
    obtain ⟨r, hr, rfl⟩ := mem_listedInterfaces.1 hI
    exact ⟨r, hr, FlatMap.mem_entries_iff.1 hp⟩
  · rintro ⟨r, hr, hp⟩
    exact ⟨_, _, List.mem_map_of_mem _ ho, mem_listedInterfaces.2 ⟨r, hr, rfl⟩,
      FlatMap.mem_entries_iff.2 hp⟩

/-- `/a` with `x = 5` on an interface `I`, and `/b`: distinct paths. -/
theorem getManagedObjects_snapshot_two_objects :
    let s : Server Nat := ((((init.addObject "/a").1.addInterface 0 "I").1.setProperty 1 "x" 5
      .valueChangeOnly).addObject "/b").1
    let m : Message Nat :=
      { type := "method_call", path := "/", interface := "org.freedesktop.DBus.ObjectManager",
        member := "GetManagedObjects", serial := 1, replySerial := 0, body := [] }
    Reachable (fun _ => "i") s ∧ (s.objects.map fun o => (s.object o).objectName).Nodup ∧
      ((({ s with objectManagerArmed := false } : Server Nat).onGetManagedObjects m).sent =
          s.sent ++ [(Message.newReturn m).pack [.objects s.managedObjects]] ∧
        s.managedObjects = s.objects.map (fun o => ((s.object o).objectName,
          (s.object o).interfaces.entries.map fun e =>
            (e.1, (s.iface e.2).propertiesMap.entries))) ∧
        ((s.objects.map fun o => (s.object o).objectName).Nodup →
          ∀ o ∈ s.objects, ∀ I p v,
            (∃ ifaces props, ((s.object o).objectName, ifaces) ∈ s.managedObjects ∧
              (I, props) ∈ ifaces ∧ (p, v) ∈ props) ↔ s.propertiesGet o I p = .ok v)) :=
  have hs : Reachable (fun _ : Nat => "i") ((((init.addObject "/a").1.addInterface 0
      "I").1.setProperty 1 "x" 5 .valueChangeOnly).addObject "/b").1 :=
    ⟨[.addObject "/a", .addInterface 0 "I", .setProperties 1 [("x", 5)] .valueChangeOnly,
      .addObject "/b"],
      .cons trivial ⟨trivial, rfl⟩ <| .cons trivial ⟨by decide, rfl⟩ <|
      .cons trivial ⟨by decide, rfl⟩ <| .cons trivial ⟨trivial, rfl⟩ <| .nil _⟩
  ⟨hs, by decide, getManagedObjects_snapshot _ hs _⟩

end Server

end DbusProperties
