import DbusProperties.Interface

/-! # The process state: objects, interfaces, two statics and the connection

`DbusObject`s and `DbusInterface`s are held by `std::shared_ptr`, so one interface can sit in the
tables of several objects, and an object keeps a second pointer, `properties_iface`, to the
`Properties` interface its constructor made. The model keeps every object and interface ever made
in a heap (`objectHeap`, `ifaceHeap`), and a pointer is a position in it. `objects` is the vector
of the `DbusObjectServer`.

Two function-local statics are process-wide state: the endpoint `set_properties` builds on its
first call, and the one `register_interface` builds on its first call. Each takes the
`object_name` of the first caller and keeps it (`propertiesChangedPath`, `interfacesAddedPath`).

The connection is the list of messages sent, `send` and `async_send` alike. The three filters of
the `DbusObjectServer` are armed by its constructor and re-armed by their handlers.

This module holds the operations that build and update the tables: `newInterface`,
`registerInterface`, `addInterface`, `newObject` (the `DbusObject` constructor), `addObject`,
`registerObject`, `registerMethod` and `setProperties`. Calls are in `Dispatch`.
-/

namespace DbusProperties
set_option autoImplicit false

/-- A `DbusObject`: its path, its `properties_iface` pointer, and its interface table. -/
structure DbusObject where
  objectName : String
  propertiesIface : Nat
  interfaces : FlatMap Nat

instance : Inhabited DbusObject := ⟨⟨"", 0, .empty⟩⟩

@[simp] theorem DbusObject.default_interfaces : (default : DbusObject).interfaces = .empty := rfl

/-- The state of the process around one `DbusObjectServer`. -/
structure Server (V : Type) where
  ifaceHeap : List (DbusInterface V)
  objectHeap : List DbusObject
  objects : List Nat
  propertiesChangedPath : Option String
  interfacesAddedPath : Option String
  sent : List (Message V)
  introspectArmed : Bool
  objectManagerArmed : Bool
  methodArmed : Bool

/-- `"org.freedesktop.DBus.Properties"`, the interface every object gets. -/
def propertiesInterface : String := "org.freedesktop.DBus.Properties"

/-- The `Get` method the `DbusObject` constructor registers for object `o`. -/
def getMethod (V : Type) (o : Nat) : DbusMethod V := ⟨"Get", .lambda ["s", "s"] ["v"] (.propertiesGet o)⟩

/-- The `GetAll` method the `DbusObject` constructor registers for object `o`. -/
def getAllMethod (V : Type) (o : Nat) : DbusMethod V :=
  ⟨"GetAll", .lambda ["s"] ["a\x7bsv\x7d"] (.propertiesGetAll o)⟩

/-- The `Set` method the `DbusObject` constructor registers for object `o`. -/
def setMethod (V : Type) (o : Nat) : DbusMethod V :=
  ⟨"Set", .lambda ["s", "s", "v"] [] (.propertiesSet o)⟩

/-- The `InterfacesAdded` signal `register_interface` sends: from the path of its static endpoint,
carrying the object's path and the interface's name and properties. -/
def interfacesAddedSignal {V : Type} (path objectName : String)
    (entry : String × List (String × V)) : Message V :=
  (Message.newSignal ⟨"", path, "org.freedesktop.DBus.ObjectManager"⟩ "InterfacesAdded").pack
    [.string objectName, .interfaces [entry]]

/-- The `PropertiesChanged` signal `set_properties` sends: from the path of its static endpoint,
carrying the interface name, the change-set and an empty invalidated list. -/
def propertiesChangedSignal {V : Type} (path interfaceName : String)
    (updates : List (String × V)) : Message V :=
  (Message.newSignal ⟨"org.freedesktop.DBus", path, propertiesInterface⟩ "PropertiesChanged").pack
    [.string interfaceName, .properties updates, .strings []]

namespace Server
variable {V : Type}

/-- The state after `DbusObjectServer(conn)`: nothing registered, the three filters armed. -/
def init : Server V :=
  { ifaceHeap := [], objectHeap := [], objects := [], propertiesChangedPath := none,
    interfacesAddedPath := none, sent := [], introspectArmed := true, objectManagerArmed := true,
    methodArmed := true }

/-- The interface a pointer points to. -/
def iface (s : Server V) (r : Nat) : DbusInterface V := s.ifaceHeap.getD r default

/-- The object a pointer points to. -/
def object (s : Server V) (o : Nat) : DbusObject := s.objectHeap.getD o default

def setIface (s : Server V) (r : Nat) (i : DbusInterface V) : Server V :=
  { s with ifaceHeap := s.ifaceHeap.set r i }

def setObject (s : Server V) (o : Nat) (x : DbusObject) : Server V :=
  { s with objectHeap := s.objectHeap.set o x }

/-- `conn->send(m)` and `conn->async_send(m, ..)`. -/
def send (s : Server V) (m : Message V) : Server V := { s with sent := s.sent ++ [m] }

theorem iface_setIface (s : Server V) (r : Nat) (i : DbusInterface V) (r' : Nat) :
    (s.setIface r i).iface r' = if r' = r ∧ r < s.ifaceHeap.length then i else s.iface r' := by
  simp only [iface, setIface, List.getD_eq_getElem?_getD, List.getElem?_set]
  by_cases h : r = r'
  · subst h
    by_cases hr : r < s.ifaceHeap.length
    · simp [hr]
    · simp [hr, List.getElem?_eq_none (Nat.le_of_not_lt hr)]
  · simp [h, Ne.symm h]

theorem iface_setIface_self (s : Server V) {r : Nat} (i : DbusInterface V)
    (h : r < s.ifaceHeap.length) : (s.setIface r i).iface r = i := by
  simp [iface, setIface, h]

@[simp] theorem iface_setIface_ne (s : Server V) {r r' : Nat} (i : DbusInterface V) (h : r' ≠ r) :
    (s.setIface r i).iface r' = s.iface r' := by
  simp [iface, setIface, Ne.symm h]

@[simp] theorem object_setObject_ne (s : Server V) {o o' : Nat} (x : DbusObject) (h : o' ≠ o) :
    (s.setObject o x).object o' = s.object o' := by
  simp [object, setObject, Ne.symm h]

theorem object_setObject (s : Server V) (o : Nat) (x : DbusObject) (o' : Nat) :
    (s.setObject o x).object o' = if o' = o ∧ o < s.objectHeap.length then x else s.object o' := by
  simp only [object, setObject, List.getD_eq_getElem?_getD, List.getElem?_set]
  by_cases h : o = o'
  · subst h
    by_cases ho : o < s.objectHeap.length
    · simp [ho]
    · simp [ho, List.getElem?_eq_none (Nat.le_of_not_lt ho)]
  · simp [h, Ne.symm h]

theorem object_setObject_self (s : Server V) {o : Nat} (x : DbusObject)
    (h : o < s.objectHeap.length) : (s.setObject o x).object o = x := by
  simp [object, setObject, h]

@[simp] theorem object_setIface (s : Server V) (r : Nat) (i : DbusInterface V) (o : Nat) :
    (s.setIface r i).object o = s.object o := rfl

@[simp] theorem iface_setObject (s : Server V) (o : Nat) (x : DbusObject) (r : Nat) :
    (s.setObject o x).iface r = s.iface r := rfl

@[simp] theorem iface_send (s : Server V) (m : Message V) (r : Nat) :
    (s.send m).iface r = s.iface r := rfl

@[simp] theorem object_send (s : Server V) (m : Message V) (o : Nat) :
    (s.send m).object o = s.object o := rfl

@[simp] theorem ifaceHeap_length_setIface (s : Server V) (r : Nat) (i : DbusInterface V) :
    (s.setIface r i).ifaceHeap.length = s.ifaceHeap.length := by simp [setIface]

@[simp] theorem objectHeap_length_setObject (s : Server V) (o : Nat) (x : DbusObject) :
    (s.setObject o x).objectHeap.length = s.objectHeap.length := by simp [setObject]

/-! ## Registration -/

/-- `std::make_shared<DbusInterface>(name, conn)`: the state with the new interface, and its
pointer. -/
def newInterface (s : Server V) (name : String) : Server V × Nat :=
  ({ s with ifaceHeap := s.ifaceHeap ++ [DbusInterface.new name] }, s.ifaceHeap.length)

/-- `DbusObject::register_interface(interface)`, for object `o` and interface `r`. -/
def registerInterface (s : Server V) (o r : Nat) : Server V :=
  let obj := s.object o
  let name := (s.iface r).interfaceName
  -- `interfaces[interface->get_interface_name()] = interface`
  let s := s.setObject o { obj with interfaces := obj.interfaces.assign name r }
  -- `interface->object_name = object_name`
  let s := s.setIface r { s.iface r with objectName := obj.objectName }
  -- `const static dbus::endpoint endpoint("", object_name, ...)`
  let path := s.interfacesAddedPath.getD obj.objectName
  ({ s with interfacesAddedPath := some path }).send
    (interfacesAddedSignal path obj.objectName (name, (s.iface r).propertiesMap.entries))

/-- `DbusObject::add_interface(name)`: a new interface, registered on `o`; and its pointer. -/
def addInterface (s : Server V) (o : Nat) (name : String) : Server V × Nat :=
  let (s, r) := s.newInterface name
  (s.registerInterface o r, r)

/-- `register_method` on interface `r`. -/
def registerMethod (s : Server V) (r : Nat) (method : DbusMethod V) : Server V :=
  s.setIface r ((s.iface r).registerMethod method)

/-- `std::make_shared<DbusObject>(conn, name)`: the constructor sets `properties_iface` to a new
`Properties` interface (its pointer is the next position of the heap) and registers `Get`,
`GetAll` and `Set` on it. The state, and the object's pointer. -/
def newObject (s : Server V) (name : String) : Server V × Nat :=
  let o := s.objectHeap.length
  let obj : DbusObject := ⟨name, s.ifaceHeap.length, .empty⟩
  let s := { s with objectHeap := s.objectHeap ++ [obj] }
  let (s, r) := s.addInterface o propertiesInterface
  let s := s.registerMethod r (getMethod V o)
  let s := s.registerMethod r (getAllMethod V o)
  (s.registerMethod r (setMethod V o), o)

/-! ### What each operation changes -/

theorem iface_newInterface (s : Server V) (name : String) (r : Nat) :
    (s.newInterface name).1.iface r =
      if r = s.ifaceHeap.length then DbusInterface.new name else s.iface r := by
  simp only [newInterface, iface, List.getD_eq_getElem?_getD]
  rcases Nat.lt_trichotomy r s.ifaceHeap.length with h | rfl | h
  · rw [List.getElem?_append_left h, if_neg (Nat.ne_of_lt h)]
  · simp
  · rw [if_neg (Nat.ne_of_gt h), List.getElem?_eq_none (by simp; omega),
      List.getElem?_eq_none (by omega)]

@[simp] theorem object_newInterface (s : Server V) (name : String) (o : Nat) :
    (s.newInterface name).1.object o = s.object o := rfl

@[simp] theorem objectHeap_newInterface (s : Server V) (name : String) :
    (s.newInterface name).1.objectHeap = s.objectHeap := rfl

@[simp] theorem ifaceHeap_length_newInterface (s : Server V) (name : String) :
    (s.newInterface name).1.ifaceHeap.length = s.ifaceHeap.length + 1 := by simp [newInterface]

theorem object_registerInterface (s : Server V) (o r o' : Nat) :
    (s.registerInterface o r).object o' =
      if o' = o ∧ o < s.objectHeap.length then
        { s.object o with interfaces := (s.object o).interfaces.assign (s.iface r).interfaceName r }
      else s.object o' :=
  object_setObject _ _ _ _

theorem lookup_registerInterface {s : Server V} {o r o' r' : Nat} {k : String}
    (h : ((s.registerInterface o r).object o').interfaces.lookup k = some r') :
    (k = (s.iface r).interfaceName ∧ r' = r) ∨ (s.object o').interfaces.lookup k = some r' := by
  rw [object_registerInterface] at h
  split_ifs at h with ho
  · obtain ⟨rfl, -⟩ := ho
    simp only [FlatMap.lookup_assign] at h
    split_ifs at h with hk
    · exact .inl ⟨hk, (Option.some.inj h).symm⟩
    · exact .inr h
  · exact .inr h

theorem object_registerInterface_self (s : Server V) {o : Nat} (r : Nat)
    (h : o < s.objectHeap.length) :
    (s.registerInterface o r).object o =
      { s.object o with interfaces := (s.object o).interfaces.assign (s.iface r).interfaceName r } :=
  object_setObject_self s _ h

theorem object_registerInterface_ne (s : Server V) {o o' : Nat} (r : Nat) (h : o' ≠ o) :
    (s.registerInterface o r).object o' = s.object o' :=
  object_setObject_ne s _ h

theorem iface_registerInterface_self (s : Server V) (o : Nat) {r : Nat}
    (h : r < s.ifaceHeap.length) :
    (s.registerInterface o r).iface r = { s.iface r with objectName := (s.object o).objectName } :=
  iface_setIface_self _ _ (by simpa [setObject] using h)

theorem iface_registerInterface_ne (s : Server V) (o : Nat) {r r' : Nat} (h : r' ≠ r) :
    (s.registerInterface o r).iface r' = s.iface r' :=
  iface_setIface_ne _ _ h

@[simp] theorem ifaceHeap_length_registerInterface (s : Server V) (o r : Nat) :
    (s.registerInterface o r).ifaceHeap.length = s.ifaceHeap.length := by
  simp [registerInterface, send, setIface, setObject]

@[simp] theorem objectHeap_length_registerInterface (s : Server V) (o r : Nat) :
    (s.registerInterface o r).objectHeap.length = s.objectHeap.length := by
  simp [registerInterface, send, setIface, setObject]

theorem iface_registerInterface (s : Server V) (o r r' : Nat) :
    (s.registerInterface o r).iface r' =
      if r' = r ∧ r < s.ifaceHeap.length then { s.iface r with objectName := (s.object o).objectName }
      else s.iface r' :=
  iface_setIface (s.setObject o _) r _ r'

theorem sent_registerInterface (s : Server V) (o r : Nat) :
    (s.registerInterface o r).sent = s.sent ++
      [interfacesAddedSignal (s.interfacesAddedPath.getD (s.object o).objectName)
        (s.object o).objectName ((s.iface r).interfaceName, (s.iface r).propertiesMap.entries)] := by
  simp only [registerInterface, send, iface_setIface, iface_setObject]
  split_ifs <;> rfl

theorem interfacesAddedPath_registerInterface (s : Server V) (o r : Nat) :
    (s.registerInterface o r).interfacesAddedPath =
      some (s.interfacesAddedPath.getD (s.object o).objectName) := rfl

@[simp] theorem propertiesChangedPath_registerInterface (s : Server V) (o r : Nat) :
    (s.registerInterface o r).propertiesChangedPath = s.propertiesChangedPath := rfl

@[simp] theorem interfaceName_registerInterface (s : Server V) (o r r' : Nat) :
    ((s.registerInterface o r).iface r').interfaceName = (s.iface r').interfaceName := by
  rw [iface_registerInterface]
  split_ifs with h
  · rw [h.1]
  · rfl

@[simp] theorem object_registerMethod (s : Server V) (r : Nat) (method : DbusMethod V) (o : Nat) :
    (s.registerMethod r method).object o = s.object o := rfl

@[simp] theorem ifaceHeap_length_registerMethod (s : Server V) (r : Nat) (method : DbusMethod V) :
    (s.registerMethod r method).ifaceHeap.length = s.ifaceHeap.length := by simp [registerMethod]

theorem iface_registerMethod (s : Server V) (r : Nat) (method : DbusMethod V) (r' : Nat) :
    (s.registerMethod r method).iface r' =
      if r' = r ∧ r < s.ifaceHeap.length then (s.iface r).registerMethod method else s.iface r' :=
  iface_setIface _ _ _ _

theorem object_appendObject (s : Server V) (x : DbusObject) (o : Nat) :
    ({ s with objectHeap := s.objectHeap ++ [x] } : Server V).object o =
      if o = s.objectHeap.length then x else s.object o := by
  simp only [object, List.getD_eq_getElem?_getD]
  rcases Nat.lt_trichotomy o s.objectHeap.length with h | rfl | h
  · rw [List.getElem?_append_left h, if_neg (Nat.ne_of_lt h)]
  · simp
  · rw [if_neg (Nat.ne_of_gt h), List.getElem?_eq_none (by simp; omega),
      List.getElem?_eq_none (by omega)]

theorem newObject_eq (s : Server V) (name : String) :
    s.newObject name =
      let o := s.objectHeap.length
      let s₁ : Server V :=
        { s with objectHeap := s.objectHeap ++ [⟨name, s.ifaceHeap.length, .empty⟩] }
      let s₂ := (s₁.newInterface propertiesInterface).1.registerInterface o s.ifaceHeap.length
      (((s₂.registerMethod s.ifaceHeap.length (getMethod V o)).registerMethod s.ifaceHeap.length
        (getAllMethod V o)).registerMethod s.ifaceHeap.length (setMethod V o), o) := rfl

/-- `DbusObjectServer::register_object(object)`. -/
def registerObject (s : Server V) (o : Nat) : Server V := { s with objects := s.objects ++ [o] }

/-- `DbusObjectServer::add_object(name)`. -/
def addObject (s : Server V) (name : String) : Server V × Nat :=
  let (s, o) := s.newObject name
  (s.registerObject o, o)

/-! ## `set_properties` -/

/-- `DbusInterface::set_properties(v, update_mode)` on interface `r`: the table update, then the
`PropertiesChanged` signal, from the path of the static endpoint. -/
def setProperties [DecidableEq V] (s : Server V) (r : Nat) (v : List (String × V))
    (mode : UpdateType) : Server V :=
  let iface := s.iface r
  let (iface', updates) := iface.setProperties v mode
  let s := s.setIface r iface'
  -- `const static dbus::endpoint endpoint("org.freedesktop.DBus", object_name, ...)`
  let path := s.propertiesChangedPath.getD iface.objectName
  ({ s with propertiesChangedPath := some path }).send
    (propertiesChangedSignal path iface.interfaceName updates)

section SetProperties
variable [DecidableEq V]

@[simp] theorem object_setProperties (s : Server V) (r : Nat) (v : List (String × V))
    (mode : UpdateType) (o : Nat) : (s.setProperties r v mode).object o = s.object o := rfl

@[simp] theorem ifaceHeap_length_setProperties (s : Server V) (r : Nat) (v : List (String × V))
    (mode : UpdateType) : (s.setProperties r v mode).ifaceHeap.length = s.ifaceHeap.length := by
  simp [setProperties, send, setIface]

theorem iface_setProperties (s : Server V) (r : Nat) (v : List (String × V)) (mode : UpdateType)
    (r' : Nat) : (s.setProperties r v mode).iface r' =
      if r' = r ∧ r < s.ifaceHeap.length then ((s.iface r).setProperties v mode).1
      else s.iface r' :=
  iface_setIface _ _ _ _

theorem sent_setProperties (s : Server V) (r : Nat) (v : List (String × V)) (mode : UpdateType) :
    (s.setProperties r v mode).sent = s.sent ++
      [propertiesChangedSignal (s.propertiesChangedPath.getD (s.iface r).objectName)
        (s.iface r).interfaceName ((s.iface r).setProperties v mode).2] := rfl

theorem propertiesChangedPath_setProperties (s : Server V) (r : Nat) (v : List (String × V))
    (mode : UpdateType) : (s.setProperties r v mode).propertiesChangedPath =
      some (s.propertiesChangedPath.getD (s.iface r).objectName) := rfl

end SetProperties

/-- `DbusInterface::set_property(name, value, update_mode)`: a change vector of length one. -/
def setProperty [DecidableEq V] (s : Server V) (r : Nat) (name : String) (value : V)
    (mode : UpdateType) : Server V :=
  s.setProperties r [(name, value)] mode

end Server

end DbusProperties
