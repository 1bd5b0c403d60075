import DbusProperties.Introspect
import DbusProperties.ObjectManager

/-! # Runs of the process

The service drives the object model through the C++ API, and the bus delivers messages to the
three filters of the `DbusObjectServer`. `Op` lists both kinds of step and `exec` runs one:

* a filter delivers only when armed and when its predicate (the lambdas of the
  `DbusObjectServer` constructor) accepts the message; delivery disarms it, and the handler
  re-arms it on its way out;
* a method call that throws ends the step with the fault: nothing catches it, so the process
  has no next state, no reply goes out and the method filter stays disarmed
  (`onMethodCall_get_unknown_interface`).

`Step` adds that the pointers an operation is given are to objects and interfaces already made,
as `shared_ptr`s are. `Run P` is a sequence of steps each of which satisfies `P`, and `Reachable`
the states runs from `init` reach.

`Inv` is what every reachable state keeps: each pointer in an object's interface table is into
the heap, at an interface whose name is the key. `TablesOnly` is the common shape of most steps
(only method and property tables change, and only by adding or rewriting entries), and `Keeps o`
what a step that does not rebind a name of object `o` preserves of it.
-/

namespace DbusProperties
set_option autoImplicit false

/-- A step of the process. -/
inductive Op (V : Type) where
  /-- `std::make_shared<DbusObject>(conn, name)` -/
  | newObject (name : String)
  | addObject (name : String)
  | registerObject (obj : Nat)
  /-- `std::make_shared<DbusInterface>(name, conn)` -/
  | newInterface (name : String)
  | addInterface (obj : Nat) (name : String)
  | registerInterface (obj iface : Nat)
  /-- `register_method(name, handler)` -/
  | registerMethod (iface : Nat) (name : String) (inputs outputs : List String)
      (run : List (DbusValue V) → Except Fault (List (DbusValue V)))
  /-- `register_method(std::make_shared<DbusMethod>(name, conn))` -/
  | registerDbusMethod (iface : Nat) (name : String)
  | setProperties (iface : Nat) (v : List (String × V)) (mode : UpdateType)
  /-- the bus delivers `m` to the introspection filter -/
  | introspect (m : Message V)
  /-- the bus delivers `m` to the object-manager filter -/
  | getManagedObjects (m : Message V)
  /-- the bus delivers `m`, with error code `ec`, to the method filter -/
  | methodCall (ec : Nat) (m : Message V)

section Filters
variable {V : Type}

/-- The predicate of `introspect_filter`. -/
def introspectFilter (m : Message V) : Prop :=
  m.type = "method_call" ∧ m.interface = "org.freedesktop.DBus.Introspectable" ∧
    m.member = "Introspect"

/-- The predicate of `object_manager_filter`. -/
def objectManagerFilter (m : Message V) : Prop :=
  m.type = "method_call" ∧ m.interface = "org.freedesktop.DBus.ObjectManager" ∧
    m.member = "GetManagedObjects"

/-- The predicate of `method_filter`: every method call. -/
def methodFilter (m : Message V) : Prop := m.type = "method_call"

instance (m : Message V) : Decidable (introspectFilter m) :=
  inferInstanceAs (Decidable (_ ∧ _))
instance (m : Message V) : Decidable (objectManagerFilter m) :=
  inferInstanceAs (Decidable (_ ∧ _))
instance (m : Message V) : Decidable (methodFilter m) := inferInstanceAs (Decidable (_ = _))

end Filters

namespace Server
variable {V : Type} [DecidableEq V] (sigOf : V → String)

/-- One step from `s`. -/
def exec (s : Server V) : Op V → Except Fault (Server V)
  | .newObject name => .ok (s.newObject name).1
  | .addObject name => .ok (s.addObject name).1
  | .registerObject o => .ok (s.registerObject o)
  | .newInterface name => .ok (s.newInterface name).1
  | .addInterface o name => .ok (s.addInterface o name).1
  | .registerInterface o r => .ok (s.registerInterface o r)
  | .registerMethod r name inputs outputs run =>
    .ok (s.registerMethod r ⟨name, .lambda inputs outputs (.user run)⟩)
  | .registerDbusMethod r name => .ok (s.registerMethod r ⟨name, .base⟩)
  | .setProperties r v mode => .ok (s.setProperties r v mode)
  | .introspect m =>
    .ok (if s.introspectArmed ∧ introspectFilter m then
      ({ s with introspectArmed := false } : Server V).onIntrospect sigOf m else s)
  | .getManagedObjects m =>
    .ok (if s.objectManagerArmed ∧ objectManagerFilter m then
      ({ s with objectManagerArmed := false } : Server V).onGetManagedObjects m else s)
  | .methodCall ec m =>
    if s.methodArmed ∧ methodFilter m then
      ({ s with methodArmed := false } : Server V).onMethodCall ec m
    else .ok s

end Server

/-- The pointers `op` is given are to objects and interfaces already made. -/
def Op.Valid {V : Type} (s : Server V) : Op V → Prop
  | .registerObject o => o < s.objectHeap.length
  | .addInterface o _ => o < s.objectHeap.length
  | .registerInterface o r => o < s.objectHeap.length ∧ r < s.ifaceHeap.length
  | .registerMethod r .. => r < s.ifaceHeap.length
  | .registerDbusMethod r _ => r < s.ifaceHeap.length
  | .setProperties r .. => r < s.ifaceHeap.length
  | _ => True

instance {V : Type} (s : Server V) : (op : Op V) → Decidable (op.Valid s)
  | .registerObject o => inferInstanceAs (Decidable (o < _))
  | .addInterface o _ => inferInstanceAs (Decidable (o < _))
  | .registerInterface o r => inferInstanceAs (Decidable (o < _ ∧ r < _))
  | .registerMethod r .. => inferInstanceAs (Decidable (r < _))
  | .registerDbusMethod r _ => inferInstanceAs (Decidable (r < _))
  | .setProperties r .. => inferInstanceAs (Decidable (r < _))
  | .newObject _ | .addObject _ | .newInterface _ | .introspect _ | .getManagedObjects _
  | .methodCall _ _ => isTrue trivial

namespace Server
variable {V : Type} [DecidableEq V] (sigOf : V → String)

/-- `s'` follows `s` by `op`. -/
def Step (s : Server V) (op : Op V) (s' : Server V) : Prop :=
  op.Valid s ∧ s.exec sigOf op = .ok s'

/-- A run whose every step satisfies `P` in the state it starts from. -/
inductive Run (P : Server V → Op V → Prop) : Server V → List (Op V) → Server V → Prop
  | nil (s : Server V) : Run P s [] s
  | cons {s s' s'' : Server V} {op : Op V} {ops : List (Op V)} :
      P s op → Step sigOf s op s' → Run P s' ops s'' → Run P s (op :: ops) s''

/-- The states some run from `init` reaches. -/
def Reachable (s : Server V) : Prop := ∃ ops, Run sigOf (fun _ _ => True) init ops s

/-- `Get("I", "x")` delivered to `/a`, which has no interface `I`: the `std::runtime_error` of
the handler leaves `on_method_call`, so the delivery has no next state. No reply goes to the
caller, and the method filter, disarmed by the delivery, is never re-armed. -/
theorem onMethodCall_get_unknown_interface :
    let s : Server Nat := (init.addObject "/a").1
    let m : Message Nat :=
      { type := "method_call", path := "/a", interface := propertiesInterface, member := "Get",
        serial := 1, replySerial := 0, body := [.string "I", .string "x"] }
    Reachable (fun _ => "i") s ∧ s.methodArmed = true ∧ methodFilter m ∧
      ({ s with methodArmed := false } : Server Nat).onMethodCall 0 m =
        .error (.runtimeError "interface not found") ∧
      ∀ t, ¬ Step (fun _ => "i") s (.methodCall 0 m) t := by
  intro s m
  have herr : ({ s with methodArmed := false } : Server Nat).onMethodCall 0 m =
      .error (.runtimeError "interface not found") :=
    (onMethodCall_outcome _ _).1 (getMethod Nat 0) _ rfl rfl
  exact ⟨⟨[.addObject "/a"], .cons trivial ⟨trivial, rfl⟩ (.nil _)⟩, rfl, rfl, herr,
    fun _ ⟨_, h⟩ => by rw [exec, if_pos ⟨rfl, rfl⟩, herr] at h; cases h⟩

end Server

end DbusProperties
