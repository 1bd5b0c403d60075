import DbusProperties.Run

/-! # What every reachable state keeps

`Inv`: each pointer in an object's interface table is into the heap, at an interface whose name
is its key (`register_interface` files an interface under its own name, and nothing renames an
interface). Two keys of one object therefore never share an interface, which is what makes a
`Set` on one interface invisible through the others.

Most steps only touch method and property tables, adding or rewriting entries: `TablesOnly`
(`Step.tablesOnly`). The rest (`Op.Registers`) allocate, or register an interface on an object.
No step loses a method entry or a property name of an interface made so far (`Grows`), so over
every run no interface loses an entry (`entries_never_removed`): what registering a second
interface under a bound name loses is the object's binding, not the first interface's tables.
-/

namespace DbusProperties
set_option autoImplicit false

/-- The operations that allocate an object or an interface, or register an interface on an
object. Every other step only touches method and property tables (`Step.tablesOnly`). -/
def Op.Registers {V : Type} : Op V → Bool
  | .newObject _ | .addObject _ | .newInterface _ | .addInterface _ _ | .registerInterface _ _ => true
  | _ => false

namespace Server
variable {V : Type}

/-- The invariant of reachable states. -/
structure Inv (s : Server V) : Prop where
  /-- every pointer in an interface table is into the heap -/
  bound_lt : ∀ o k r, (s.object o).interfaces.lookup k = some r → r < s.ifaceHeap.length
  /-- at an interface whose name is the key -/
  bound_name : ∀ o k r, (s.object o).interfaces.lookup k = some r → (s.iface r).interfaceName = k

/-- `s'` differs from `s` only in method and property tables, which keep every entry they had
(a property's value may change), and outside the heaps. -/
structure TablesOnly (s s' : Server V) : Prop where
  object_eq : ∀ o, s'.object o = s.object o
  length_eq : s'.ifaceHeap.length = s.ifaceHeap.length
  name_eq : ∀ r, (s'.iface r).interfaceName = (s.iface r).interfaceName
  methods_mono : ∀ r k method, (s.iface r).dbusMethods.lookup k = some method →
    (s'.iface r).dbusMethods.lookup k = some method
  properties_mono : ∀ r k, ((s.iface r).propertiesMap.lookup k).isSome →
    ((s'.iface r).propertiesMap.lookup k).isSome

namespace TablesOnly
variable {s₁ s₂ s₃ : Server V}

theorem refl (s : Server V) : TablesOnly s s :=
  ⟨fun _ => rfl, rfl, fun _ => rfl, fun _ _ _ h => h, fun _ _ h => h⟩

theorem trans (h₁ : TablesOnly s₁ s₂) (h₂ : TablesOnly s₂ s₃) : TablesOnly s₁ s₃ where
  object_eq o := (h₂.object_eq o).trans (h₁.object_eq o)
  length_eq := h₂.length_eq.trans h₁.length_eq
  name_eq r := (h₂.name_eq r).trans (h₁.name_eq r)
  methods_mono r k method h := h₂.methods_mono r k method (h₁.methods_mono r k method h)
  properties_mono r k h := h₂.properties_mono r k (h₁.properties_mono r k h)

theorem inv (h : TablesOnly s₁ s₂) (hi : Inv s₁) : Inv s₂ where
  bound_lt o k r hr := by
    rw [h.length_eq]; exact hi.bound_lt o k r (by rwa [← h.object_eq o])
  bound_name o k r hr := by
    rw [h.name_eq]; exact hi.bound_name o k r (by rwa [← h.object_eq o])

theorem of_heaps (h₁ : s₂.objectHeap = s₁.objectHeap) (h₂ : s₂.ifaceHeap = s₁.ifaceHeap) :
    TablesOnly s₁ s₂ := by
  have ho : ∀ o, s₂.object o = s₁.object o := fun o => by simp [object, h₁]
  have hr : ∀ r, s₂.iface r = s₁.iface r := fun r => by simp [iface, h₂]
  exact ⟨ho, by rw [h₂], fun r => by rw [hr], fun r _ _ h => by rwa [hr],
    fun r _ h => by rwa [hr]⟩

theorem setIface {s : Server V} {r : Nat} {i : DbusInterface V}
    (hname : i.interfaceName = (s.iface r).interfaceName)
    (hm : ∀ k method, (s.iface r).dbusMethods.lookup k = some method →
      i.dbusMethods.lookup k = some method)
    (hp : ∀ k, ((s.iface r).propertiesMap.lookup k).isSome → (i.propertiesMap.lookup k).isSome) :
    TablesOnly s (s.setIface r i) := by
  refine ⟨fun _ => rfl, by simp, fun r' => ?_, fun r' k method h => ?_, fun r' k h => ?_⟩ <;>
    rw [iface_setIface] <;> split_ifs with hr
  all_goals first | rfl | exact h | (obtain ⟨rfl, -⟩ := hr)
  · exact hname
  · exact hm k method h
  · exact hp k h

end TablesOnly

/-- What no step loses: a method entry, or a property name, of an interface made so far. -/
structure Grows (s s' : Server V) : Prop where
  length_le : s.ifaceHeap.length ≤ s'.ifaceHeap.length
  methods : ∀ r < s.ifaceHeap.length, ∀ k method,
    (s.iface r).dbusMethods.lookup k = some method → (s'.iface r).dbusMethods.lookup k = some method
  properties : ∀ r < s.ifaceHeap.length, ∀ k,
    ((s.iface r).propertiesMap.lookup k).isSome → ((s'.iface r).propertiesMap.lookup k).isSome

namespace Grows
variable {s₁ s₂ s₃ : Server V}

theorem refl (s : Server V) : Grows s s := ⟨le_rfl, fun _ _ _ _ h => h, fun _ _ _ h => h⟩

theorem trans (h₁ : Grows s₁ s₂) (h₂ : Grows s₂ s₃) : Grows s₁ s₃ where
  length_le := h₁.length_le.trans h₂.length_le
  methods r hr k m h := h₂.methods r (hr.trans_le h₁.length_le) k m (h₁.methods r hr k m h)
  properties r hr k h := h₂.properties r (hr.trans_le h₁.length_le) k (h₁.properties r hr k h)

theorem of_tablesOnly (h : TablesOnly s₁ s₂) : Grows s₁ s₂ :=
  ⟨h.length_eq.ge, fun r _ k m hm => h.methods_mono r k m hm,
    fun r _ k hk => h.properties_mono r k hk⟩

theorem appendObject (s : Server V) (x : DbusObject) :
    Grows s { s with objectHeap := s.objectHeap ++ [x] } :=
  ⟨le_rfl, fun _ _ _ _ h => h, fun _ _ _ h => h⟩

theorem newInterface (s : Server V) (name : String) : Grows s (s.newInterface name).1 where
  length_le := by simp
  methods r hr k m h := by rwa [iface_newInterface, if_neg (Nat.ne_of_lt hr)]
  properties r hr k h := by rwa [iface_newInterface, if_neg (Nat.ne_of_lt hr)]

theorem registerInterface (s : Server V) (o r : Nat) : Grows s (s.registerInterface o r) where
  length_le := by simp
  methods r' _ k m hm := by
    rw [iface_registerInterface]; split_ifs with hr
    · obtain ⟨rfl, -⟩ := hr; exact hm
    · exact hm
  properties r' _ k hk := by
    rw [iface_registerInterface]; split_ifs with hr
    · obtain ⟨rfl, -⟩ := hr; exact hk
    · exact hk

end Grows

/-! ## `Inv` -/

namespace Inv
variable {s : Server V}

theorem init : Inv (init : Server V) where
  bound_lt _ _ _ h := by simp [object, Server.init] at h
  bound_name _ _ _ h := by simp [object, Server.init] at h

theorem of_heaps {t : Server V} (hi : Inv s) (h₁ : t.objectHeap = s.objectHeap)
    (h₂ : t.ifaceHeap = s.ifaceHeap) : Inv t :=
  (TablesOnly.of_heaps h₁ h₂).inv hi

theorem newInterface (hi : Inv s) (name : String) : Inv (s.newInterface name).1 where
  bound_lt o k r h := by
    rw [object_newInterface] at h
    simpa using Nat.lt_succ_of_lt (hi.bound_lt o k r h)
  bound_name o k r h := by
    rw [object_newInterface] at h
    rw [iface_newInterface, if_neg (Nat.ne_of_lt (hi.bound_lt o k r h))]
    exact hi.bound_name o k r h

theorem registerInterface (hi : Inv s) (o : Nat) {r : Nat} (hr : r < s.ifaceHeap.length) :
    Inv (s.registerInterface o r) where
  bound_lt o' k r' h := by
    rw [ifaceHeap_length_registerInterface]
    rcases lookup_registerInterface h with ⟨-, rfl⟩ | h
    · exact hr
    · exact hi.bound_lt o' k r' h
  bound_name o' k r' h := by
    rw [interfaceName_registerInterface]
    rcases lookup_registerInterface h with ⟨rfl, rfl⟩ | h
    · rfl
    · exact hi.bound_name o' k r' h

theorem appendObject (hi : Inv s) (x : DbusObject) (hx : x.interfaces = .empty) :
    Inv { s with objectHeap := s.objectHeap ++ [x] } where
  bound_lt o k r h := by
    rw [object_appendObject] at h
    split_ifs at h
    · simp [hx] at h
    · exact hi.bound_lt o k r h
  bound_name o k r h := by
    rw [object_appendObject] at h
    split_ifs at h
    · simp [hx] at h
    · exact hi.bound_name o k r h

end Inv

theorem tablesOnly_registerMethod (s : Server V) (r : Nat) (method : DbusMethod V) :
    TablesOnly s (s.registerMethod r method) :=
  TablesOnly.setIface rfl
    (fun k m h => by
      simp only [DbusInterface.registerMethod, FlatMap.lookup_emplace]
      split_ifs with hk
      · subst hk; rw [h]; rfl
      · exact h)
    fun _ h => h

theorem Inv.addInterface {s : Server V} (hi : Inv s) (o : Nat) (name : String) :
    Inv (s.addInterface o name).1 :=
  (hi.newInterface name).registerInterface o (by simp)

theorem Inv.newObject {s : Server V} (hi : Inv s) (name : String) : Inv (s.newObject name).1 := by
  rw [newObject_eq]
  refine (tablesOnly_registerMethod _ _ _).inv ((tablesOnly_registerMethod _ _ _).inv
    ((tablesOnly_registerMethod _ _ _).inv ?_))
  exact ((hi.appendObject _ rfl).newInterface _).registerInterface _ (by simp)

theorem Inv.addObject {s : Server V} (hi : Inv s) (name : String) : Inv (s.addObject name).1 :=
  (hi.newObject name).of_heaps rfl rfl

theorem Grows.newObject (s : Server V) (name : String) : Grows s (s.newObject name).1 := by
  rw [newObject_eq]
  exact ((((Grows.appendObject s _).trans (.newInterface _ _)).trans
    (.registerInterface _ _ _)).trans (.of_tablesOnly (tablesOnly_registerMethod _ _ _))).trans
    ((Grows.of_tablesOnly (tablesOnly_registerMethod _ _ _)).trans
      (.of_tablesOnly (tablesOnly_registerMethod _ _ _)))

section Decidable
variable [DecidableEq V]

theorem tablesOnly_setProperties (s : Server V) (r : Nat) (v : List (String × V))
    (mode : UpdateType) : TablesOnly s (s.setProperties r v mode) :=
  (TablesOnly.setIface (by simp) (by simp) fun _ h =>
    DbusInterface.isSome_lookup_setProperties _ v mode h).trans (TablesOnly.of_heaps rfl rfl)

theorem tablesOnly_onMethodCall {s t : Server V} {ec : Nat} {m : Message V}
    (h : s.onMethodCall ec m = .ok t) : TablesOnly s t := by
  rcases onMethodCall_ok h with rfl | ⟨s', r, hs', rfl⟩
  · exact .of_heaps rfl rfl
  · refine (?_ : TablesOnly s s').trans (.of_heaps rfl rfl)
    rcases hs' with rfl | ⟨_, _, r', v, -, rfl⟩
    · exact .refl _
    · exact tablesOnly_setProperties _ _ _ _

variable (sigOf : V → String)

theorem Step.tablesOnly {s s' : Server V} {op : Op V} (h : Step sigOf s op s')
    (hop : op.Registers = false) : TablesOnly s s' := by
  obtain ⟨-, he⟩ := h
  cases op with
  | registerObject o => cases he; exact .of_heaps rfl rfl
  | registerMethod r name inputs outputs run => cases he; exact tablesOnly_registerMethod _ _ _
  | registerDbusMethod r name => cases he; exact tablesOnly_registerMethod _ _ _
  | setProperties r v mode => cases he; exact tablesOnly_setProperties _ _ _ _
  | introspect m => cases he; split_ifs <;> exact .of_heaps rfl rfl
  | getManagedObjects m => cases he; split_ifs <;> exact .of_heaps rfl rfl
  | methodCall ec m =>
    simp only [exec] at he
    split_ifs at he
    · have disarm : TablesOnly s { s with methodArmed := false } := .of_heaps rfl rfl
      exact disarm.trans (tablesOnly_onMethodCall he)
    · cases he; exact .refl s
  | newObject _ | addObject _ | newInterface _ | addInterface _ _ | registerInterface _ _ =>
    cases hop

theorem Inv.step {s s' : Server V} {op : Op V} (hi : Inv s) (h : Step sigOf s op s') : Inv s' := by
  cases hop : op.Registers
  · exact (h.tablesOnly sigOf hop).inv hi
  obtain ⟨hv, he⟩ := h
  cases op with
  | newObject name => cases he; exact hi.newObject name
  | addObject name => cases he; exact hi.addObject name
  | newInterface name => cases he; exact hi.newInterface name
  | addInterface o name => cases he; exact hi.addInterface o name
  | registerInterface o r => cases he; exact hi.registerInterface o hv.2
  | registerObject _ | registerMethod _ _ _ _ _ | registerDbusMethod _ _ | setProperties _ _ _
  | introspect _ | getManagedObjects _ | methodCall _ _ => cases hop

theorem Grows.step {s s' : Server V} {op : Op V} (h : Step sigOf s op s') : Grows s s' := by
  cases hop : op.Registers
  · exact .of_tablesOnly (h.tablesOnly sigOf hop)
  obtain ⟨-, he⟩ := h
  cases op with
  | newObject name => cases he; exact .newObject s name
  | addObject name =>
    cases he; exact (Grows.newObject s name).trans (.of_tablesOnly (.of_heaps rfl rfl))
  | newInterface name => cases he; exact .newInterface s name
  | addInterface o name =>
    cases he; exact (Grows.newInterface s name).trans (.registerInterface _ _ _)
  | registerInterface o r => cases he; exact .registerInterface s o r
  | registerObject _ | registerMethod _ _ _ _ _ | registerDbusMethod _ _ | setProperties _ _ _
  | introspect _ | getManagedObjects _ | methodCall _ _ => cases hop

theorem Run.inv {P : Server V → Op V → Prop} {s s' : Server V} {ops : List (Op V)}
    (hrun : Run sigOf P s ops s') (hi : Inv s) : Inv s' := by
  induction hrun with
  | nil => exact hi
  | cons _ hstep _ ih => exact ih (hi.step sigOf hstep)

theorem Run.grows {P : Server V → Op V → Prop} {s s' : Server V} {ops : List (Op V)}
    (hrun : Run sigOf P s ops s') : Grows s s' := by
  induction hrun with
  | nil s => exact .refl s
  | cons _ hstep _ ih => exact (Grows.step sigOf hstep).trans ih

/-- Over every run, no interface made before it loses a method or a property: `register_method`
keeps a name already taken, and `set_properties` only adds entries or gives them new values. -/
theorem entries_never_removed {P : Server V → Op V → Prop} {s s' : Server V} {ops : List (Op V)}
    (hrun : Run sigOf P s ops s') {r : Nat} (hr : r < s.ifaceHeap.length) :
    (∀ k method, (s.iface r).dbusMethods.lookup k = some method →
      (s'.iface r).dbusMethods.lookup k = some method) ∧
    ∀ k, ((s.iface r).propertiesMap.lookup k).isSome →
      ((s'.iface r).propertiesMap.lookup k).isSome :=
  ⟨(hrun.grows sigOf).methods r hr, (hrun.grows sigOf).properties r hr⟩

/-- Adding a second `I` to `/a` leaves the first `I`, and its `x`, on the heap. -/
theorem entries_never_removed_reregistered :
    let s : Server Nat :=
      ((init.addObject "/a").1.addInterface 0 "I").1.setProperty 1 "x" 5 .valueChangeOnly
    let s' := (s.addInterface 0 "I").1
    Run (fun _ => "i") (fun _ _ => True) s [.addInterface 0 "I"] s' ∧ 1 < s.ifaceHeap.length ∧
      ((∀ k method, (s.iface 1).dbusMethods.lookup k = some method →
        (s'.iface 1).dbusMethods.lookup k = some method) ∧
      ∀ k, ((s.iface 1).propertiesMap.lookup k).isSome →
        ((s'.iface 1).propertiesMap.lookup k).isSome) :=
  have hrun : Run (fun _ : Nat => "i") (fun _ _ => True)
      (((init.addObject "/a").1.addInterface 0 "I").1.setProperty 1 "x" 5 .valueChangeOnly)
      [.addInterface 0 "I"]
      ((((init.addObject "/a").1.addInterface 0 "I").1.setProperty 1 "x" 5
        .valueChangeOnly).addInterface 0 "I").1 :=
    .cons trivial ⟨by decide, rfl⟩ (.nil _)
  ⟨hrun, by decide, entries_never_removed _ hrun (by decide)⟩

theorem Reachable.inv {s : Server V} (h : Reachable sigOf s) : Inv s :=
  let ⟨_, hrun⟩ := h
  hrun.inv sigOf Inv.init

end Decidable

end Server

end DbusProperties
