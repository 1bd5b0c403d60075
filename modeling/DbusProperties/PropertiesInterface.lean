import DbusProperties.Invariant

/-! # `org.freedesktop.DBus.Properties` over runs

* `propertiesSet_get`: on a reachable state, `Set(I, p, x)` is read back by `Get(I, p)` and
  changes what no other pair reads; on an unknown interface it throws. Delivered over the bus
  (`onMethodCall_propertiesSet`), the same call returns, re-arms the method filter and sends one
  empty method return.
* `PropertiesRouted o`: `Get`, `GetAll` and `Set` of `org.freedesktop.DBus.Properties` on object
  `o` reach the handlers its constructor registered.
* `register_interface` files an interface under its name with `interfaces[name] = interface`, so
  registering another interface under a name the object already binds replaces the first, its
  properties and its methods, the built-in `Properties` interface included
  (`reregistering_replaces_interface`). `Op.Rebinds` names those steps; every other step keeps
  what the object can read (`Keeps`), and over runs without them neither the pairs `Get` answers
  nor the routing of the `Properties` calls is lost (`propertiesGet_persists`).
-/

namespace DbusProperties
set_option autoImplicit false

namespace Server
variable {V : Type}

/-- `Get`, `GetAll` and `Set` of the `Properties` interface of object `o` reach the three
handlers its constructor registered. -/
def PropertiesRouted (s : Server V) (o : Nat) : Prop :=
  ∃ r, (s.object o).interfaces.lookup propertiesInterface = some r ∧
    (s.iface r).dbusMethods.lookup "Get" = some (getMethod V o) ∧
    (s.iface r).dbusMethods.lookup "GetAll" = some (getAllMethod V o) ∧
    (s.iface r).dbusMethods.lookup "Set" = some (setMethod V o)

/-- What a step that rebinds no name of object `o` keeps: what every step keeps, and every
binding of `o`'s table. -/
structure Keeps (o : Nat) (s s' : Server V) extends Grows s s' : Prop where
  bindings : ∀ k r, (s.object o).interfaces.lookup k = some r →
    (s'.object o).interfaces.lookup k = some r

namespace Keeps
variable {o : Nat} {s₁ s₂ s₃ : Server V}

theorem refl (s : Server V) : Keeps o s s := ⟨.refl s, fun _ _ h => h⟩

theorem trans (h₁ : Keeps o s₁ s₂) (h₂ : Keeps o s₂ s₃) : Keeps o s₁ s₃ :=
  ⟨h₁.toGrows.trans h₂.toGrows, fun k r h => h₂.bindings k r (h₁.bindings k r h)⟩

theorem of_tablesOnly (h : TablesOnly s₁ s₂) : Keeps o s₁ s₂ :=
  ⟨.of_tablesOnly h, fun k r hr => by rwa [h.object_eq]⟩

theorem newInterface (s : Server V) (name : String) : Keeps o s (s.newInterface name).1 :=
  ⟨.newInterface s name, fun _ _ h => h⟩

theorem registerInterface (s : Server V) (o' r : Nat)
    (h : o' = o → ∀ r', (s.object o).interfaces.lookup (s.iface r).interfaceName = some r' →
      r' = r) :
    Keeps o s (s.registerInterface o' r) := by
  refine ⟨.registerInterface s o' r, fun k r' hk => ?_⟩
  rw [object_registerInterface]
  split_ifs with ho
  · obtain ⟨rfl, -⟩ := ho
    simp only [FlatMap.lookup_assign]
    split_ifs with hkn
    · subst hkn; rw [h rfl r' hk]
    · exact hk
  · exact hk

theorem appendObject (s : Server V) (x : DbusObject) :
    Keeps o s { s with objectHeap := s.objectHeap ++ [x] } := by
  refine ⟨.appendObject s x, fun k r h => ?_⟩
  rw [object_appendObject]
  split_ifs with ho
  · subst ho; simp [object] at h
  · exact h

end Keeps

end Server

/-- `op` registers on object `o`, under a name `o` already binds, another interface. -/
def Op.Rebinds {V : Type} (s : Server V) (o : Nat) : Op V → Prop
  | .addInterface o' name => o' = o ∧ ((s.object o).interfaces.lookup name).isSome
  | .registerInterface o' r =>
    o' = o ∧ ∃ r', (s.object o).interfaces.lookup (s.iface r).interfaceName = some r' ∧ r' ≠ r
  | _ => False

namespace Server
variable {V : Type}

theorem Keeps.newObject (s : Server V) (o : Nat) (name : String) : Keeps o s (s.newObject name).1 := by
  rw [newObject_eq]
  refine ((((Keeps.appendObject s _).trans (.newInterface _ _)).trans
    (.registerInterface _ _ _ ?_)).trans (.of_tablesOnly (tablesOnly_registerMethod _ _ _))).trans
    ((Keeps.of_tablesOnly (tablesOnly_registerMethod _ _ _)).trans
      (.of_tablesOnly (tablesOnly_registerMethod _ _ _)))
  rintro rfl r' h
  simp [object_appendObject] at h

theorem Keeps.addInterface (s : Server V) {o o' : Nat} (name : String)
    (h : o' = o → (s.object o).interfaces.lookup name = none) : Keeps o s (s.addInterface o' name).1 :=
  (Keeps.newInterface s name).trans <| .registerInterface _ _ _ fun ho r' hr' => by
    rw [object_newInterface, iface_newInterface, if_pos rfl, DbusInterface.new_interfaceName,
      h ho] at hr'
    cases hr'

theorem Keeps.propertiesGet {s s' : Server V} {o : Nat} (hk : Keeps o s s') (hi : Inv s)
    {I p : String} {v : V} (h : s.propertiesGet o I p = .ok v) :
    ∃ v', s'.propertiesGet o I p = .ok v' := by
  obtain ⟨r, hr, hp⟩ := propertiesGet_eq_ok.1 h
  obtain ⟨v', hv'⟩ := Option.isSome_iff_exists.1
    (hk.properties r (hi.bound_lt o I r hr) p (by simp [hp]))
  exact ⟨v', propertiesGet_eq_ok.2 ⟨r, hk.bindings I r hr, hv'⟩⟩

theorem Keeps.propertiesRouted {s s' : Server V} {o : Nat} (hk : Keeps o s s') (hi : Inv s)
    (h : s.PropertiesRouted o) : s'.PropertiesRouted o := by
  obtain ⟨r, hr, hg, ha, hs⟩ := h
  have hlt := hi.bound_lt o _ r hr
  exact ⟨r, hk.bindings _ r hr, hk.methods r hlt _ _ hg, hk.methods r hlt _ _ ha,
    hk.methods r hlt _ _ hs⟩

section Decidable
variable [DecidableEq V] (sigOf : V → String)

theorem Keeps.step {s s' : Server V} {op : Op V} {o : Nat} (h : Step sigOf s op s')
    (hr : ¬ op.Rebinds s o) : Keeps o s s' := by
  cases hop : op.Registers
  · exact .of_tablesOnly (h.tablesOnly sigOf hop)
  obtain ⟨-, he⟩ := h
  cases op with
  | newObject name => cases he; exact .newObject s o name
  | addObject name =>
    cases he; exact (Keeps.newObject s o name).trans (.of_tablesOnly (.of_heaps rfl rfl))
  | newInterface name => cases he; exact .newInterface s name
  | addInterface o' name =>
    cases he
    exact .addInterface s name fun ho => by simpa [Op.Rebinds, ho] using hr
  | registerInterface o' r =>
    cases he
    refine .registerInterface s o' r fun ho r' hr' => ?_
    by_contra hne
    exact hr ⟨ho, r', hr', hne⟩
  | registerObject _ | registerMethod _ _ _ _ _ | registerDbusMethod _ _ | setProperties _ _ _
  | introspect _ | getManagedObjects _ | methodCall _ _ => cases hop

theorem Run.keeps {s s' : Server V} {ops : List (Op V)} {o : Nat}
    (hrun : Run sigOf (fun t op => ¬ op.Rebinds t o) s ops s') : Keeps o s s' := by
  induction hrun with
  | nil s => exact .refl s
  | cons hp hstep _ ih => exact (Keeps.step sigOf hstep hp).trans ih

/-- Over a run from a reachable state that never rebinds a name of object `o`, every pair `Get`
answers on `o` is still answered, and the `Properties` calls on `o` stay routed to the handlers
they reached. -/
theorem propertiesGet_persists {s s' : Server V} {ops : List (Op V)} {o : Nat}
    (hs : Reachable sigOf s) (hrun : Run sigOf (fun t op => ¬ op.Rebinds t o) s ops s') :
    (∀ I p, (∃ v, s.propertiesGet o I p = .ok v) → ∃ v, s'.propertiesGet o I p = .ok v) ∧
    (s.PropertiesRouted o → s'.PropertiesRouted o) :=
  have hi := hs.inv sigOf
  have hk := Run.keeps sigOf hrun
  ⟨fun _ _ ⟨_, h⟩ => hk.propertiesGet hi h, hk.propertiesRouted hi⟩

/-- `/a` with `x = 5` in an interface `I`: adding an interface `J` and setting `x` to 6 rebinds
nothing of object 0, and `Get("I", "x")`, which answers 5 before, still answers. -/
theorem propertiesGet_persists_addInterface :
    let s : Server Nat :=
      ((init.addObject "/a").1.addInterface 0 "I").1.setProperty 1 "x" 5 .valueChangeOnly
    let s' := (s.addInterface 0 "J").1.setProperties 1 [("x", 6)] .valueChangeOnly
    Reachable (fun _ => "i") s ∧ s.propertiesGet 0 "I" "x" = .ok 5 ∧
      Run (fun _ => "i") (fun t op => ¬ op.Rebinds t 0) s
        [.addInterface 0 "J", .setProperties 1 [("x", 6)] .valueChangeOnly] s' ∧
      ((∀ I p, (∃ v, s.propertiesGet 0 I p = .ok v) → ∃ v, s'.propertiesGet 0 I p = .ok v) ∧
        (s.PropertiesRouted 0 → s'.PropertiesRouted 0)) := by
  refine ⟨?reach, rfl, ?run, propertiesGet_persists (fun _ => "i") ?reach ?run⟩
  case reach =>
    exact ⟨[.addObject "/a", .addInterface 0 "I", .setProperties 1 [("x", 5)] .valueChangeOnly],
      .cons trivial ⟨trivial, rfl⟩ <| .cons trivial ⟨by decide, rfl⟩ <|
        .cons trivial ⟨by decide, rfl⟩ <| .nil _⟩
  case run =>
    exact .cons (fun h => absurd h.2 (by decide)) ⟨by decide, rfl⟩ <|
      .cons (fun h => h) ⟨by decide, rfl⟩ <| .nil _

theorem propertiesSet_of_lookup {s : Server V} {o r : Nat} {I : String}
    (hr : (s.object o).interfaces.lookup I = some r) (p : String) (x : V) :
    s.propertiesSet o I p x = .ok (s.setProperties r [(p, x)] .valueChangeOnly) := by
  simp [propertiesSet, hr]

theorem propertiesGet_setProperties_self {s : Server V} {o r : Nat} {I : String}
    (hr : (s.object o).interfaces.lookup I = some r) (hlt : r < s.ifaceHeap.length) (p : String)
    (x : V) : (s.setProperties r [(p, x)] .valueChangeOnly).propertiesGet o I p = .ok x := by
  simp [propertiesGet, hr, iface_setProperties, hlt, DbusInterface.setProperties_propertiesMap,
    lookup_assignAll]

/-- `Set(I, p, x)` on a reachable state: when `o` binds `I`, `Get(I, p)` then returns `x` and
every other pair reads as before; when it does not, `Set` throws. -/
theorem propertiesSet_get {s : Server V} (hs : Reachable sigOf s) (o : Nat) (I p : String) (x : V) :
    (∀ r, (s.object o).interfaces.lookup I = some r →
      ∃ s', s.propertiesSet o I p x = .ok s' ∧ s'.propertiesGet o I p = .ok x ∧
        ∀ I' p', (I', p') ≠ (I, p) → s'.propertiesGet o I' p' = s.propertiesGet o I' p') ∧
    ((s.object o).interfaces.lookup I = none →
      s.propertiesSet o I p x = .error (.runtimeError "interface not found")) := by
  have hi := hs.inv sigOf
  refine ⟨fun r hr => ?_, fun hr => by simp [propertiesSet, hr]⟩
  have hlt := hi.bound_lt o I r hr
  refine ⟨_, propertiesSet_of_lookup hr p x, propertiesGet_setProperties_self hr hlt p x,
    fun I' p' hne => ?_⟩
  cases hr' : (s.object o).interfaces.lookup I' with
  | none => simp only [propertiesGet, object_setProperties, hr']
  | some r' =>
    simp only [propertiesGet, object_setProperties, hr', iface_setProperties, hlt, and_true]
    split_ifs with hrr
    · subst hrr
      obtain rfl : I' = I := (hi.bound_name o I' r' hr').symm.trans (hi.bound_name o I r' hr)
      have hp : p' ≠ p := fun h => hne (by rw [h])
      simp [DbusInterface.setProperties_propertiesMap, lookup_assignAll, lookup_cons_ne hp]
    · rfl

/-- On object `/a` with an interface `I`, `Set("I", "x", 5)`. -/
theorem propertiesSet_get_fresh :
    let s : Server Nat := ((init.addObject "/a").1.addInterface 0 "I").1
    Reachable (fun _ => "i") s ∧
      ((∀ r, (s.object 0).interfaces.lookup "I" = some r →
        ∃ s', s.propertiesSet 0 "I" "x" 5 = .ok s' ∧ s'.propertiesGet 0 "I" "x" = .ok 5 ∧
          ∀ I' p', (I', p') ≠ ("I", "x") → s'.propertiesGet 0 I' p' = s.propertiesGet 0 I' p') ∧
      ((s.object 0).interfaces.lookup "I" = none →
        s.propertiesSet 0 "I" "x" 5 = .error (.runtimeError "interface not found"))) :=
  have hs : Reachable (fun _ : Nat => "i") ((init.addObject "/a").1.addInterface 0 "I").1 :=
    ⟨[.addObject "/a", .addInterface 0 "I"],
      .cons trivial ⟨trivial, rfl⟩ (.cons trivial ⟨by decide, rfl⟩ (.nil _))⟩
  ⟨hs, propertiesSet_get (fun _ => "i") hs 0 "I" "x" 5⟩

/-- `Set(I, p, x)` delivered to the first object at the message's path, whose `Properties`
interface routes to its constructor's handlers, when the object binds `I`: the call returns,
re-arms the method filter, sends one empty method return, and `Get(I, p)` then reads `x`. -/
theorem onMethodCall_propertiesSet {s : Server V} (hs : Reachable sigOf s) {o r : Nat}
    {m : Message V} {I p : String} {x : V}
    (hfirst : s.objects.find? (fun o' => (s.object o').objectName = m.path) = some o)
    (hrouted : s.PropertiesRouted o) (hinterface : m.interface = propertiesInterface)
    (hmember : m.member = "Set") (hbody : m.body = [.string I, .string p, .variant x])
    (hI : (s.object o).interfaces.lookup I = some r) :
    ∃ t, s.onMethodCall 0 m = .ok t ∧ t.methodArmed = true ∧
      repliesTo m t.sent = repliesTo m s.sent ++ [(Message.newReturn m).pack []] ∧
      t.propertiesGet o I p = .ok x := by
  obtain ⟨r₀, hr₀, -, -, hset⟩ := hrouted
  have hroute : s.routedMethod m = some (setMethod V o) := by
    simp [routedMethod, routeIn, hfirst, hinterface, hr₀, hmember, hset]
  have hunpack : m.unpackIntoTuple ["s", "s", "v"] = .ok [.string I, .string p, .variant x] :=
    Message.unpack_eq_ok.2 ⟨by simp [hbody, DbusValue.signature], hbody.symm⟩
  have hcall : s.callMethod (setMethod V o) m =
      .ok ((s.setProperties r [(p, x)] .valueChangeOnly).send ((Message.newReturn m).pack [])) := by
    simp only [callMethod, setMethod, hunpack]
    change (s.propertiesSet o I p x).map (fun s' => (s', [])) >>= _ = _
    rw [propertiesSet_of_lookup hI]
    rfl
  refine ⟨rearmMethodFilter ((s.setProperties r [(p, x)] .valueChangeOnly).send
      ((Message.newReturn m).pack [])), by simp only [onMethodCall_zero, hroute, hcall]; rfl, rfl, ?_,
    propertiesGet_setProperties_self hI ((hs.inv sigOf).bound_lt o I r hI) p x⟩
  exact (repliesTo_send_reply _ m []).trans (by rw [repliesTo_setProperties])

/-- `Set("I", "x", 5)` sent to `/a`, which has an interface `I`. -/
theorem onMethodCall_propertiesSet_fresh :
    let s : Server Nat := ((init.addObject "/a").1.addInterface 0 "I").1
    let m : Message Nat :=
      { type := "method_call", path := "/a", interface := propertiesInterface, member := "Set",
        serial := 1, replySerial := 0, body := [.string "I", .string "x", .variant 5] }
    Reachable (fun _ => "i") s ∧
      s.objects.find? (fun o' => (s.object o').objectName = m.path) = some 0 ∧
      s.PropertiesRouted 0 ∧ m.interface = propertiesInterface ∧ m.member = "Set" ∧
      m.body = [.string "I", .string "x", .variant 5] ∧
      (s.object 0).interfaces.lookup "I" = some 1 ∧
      ∃ t, s.onMethodCall 0 m = .ok t ∧ t.methodArmed = true ∧
        repliesTo m t.sent = repliesTo m s.sent ++ [(Message.newReturn m).pack []] ∧
        t.propertiesGet 0 "I" "x" = .ok 5 :=
  have hs : Reachable (fun _ : Nat => "i") ((init.addObject "/a").1.addInterface 0 "I").1 :=
    ⟨[.addObject "/a", .addInterface 0 "I"],
      .cons trivial ⟨trivial, rfl⟩ (.cons trivial ⟨by decide, rfl⟩ (.nil _))⟩
  have hrouted : (((init.addObject "/a").1.addInterface 0 "I").1 : Server Nat).PropertiesRouted 0 :=
    ⟨0, rfl, rfl, rfl, rfl⟩
  ⟨hs, rfl, hrouted, rfl, rfl, rfl, rfl,
    onMethodCall_propertiesSet (fun _ => "i") hs rfl hrouted rfl rfl rfl rfl⟩

end Decidable

/-- Registering a second interface under a name the object binds replaces the first: on `/a`,
adding another `I` loses `Get("I", "x")`, and adding another `Properties` interface unroutes
`Get`, `GetAll` and `Set`. -/
theorem reregistering_replaces_interface :
    let s₀ : Server Nat :=
      ((init.addObject "/a").1.addInterface 0 "I").1.setProperty 1 "x" 5 .valueChangeOnly
    let s₁ := (s₀.addInterface 0 "I").1
    let s₂ := (s₁.addInterface 0 propertiesInterface).1
    s₀.propertiesGet 0 "I" "x" = .ok 5 ∧
      s₁.propertiesGet 0 "I" "x" = .error (.runtimeError "property not found") ∧
      s₁.PropertiesRouted 0 ∧ ¬ s₂.PropertiesRouted 0 := by
  refine ⟨rfl, rfl, ⟨0, rfl, rfl, rfl, rfl⟩, ?_⟩
  rintro ⟨r, hr, hg, -⟩
  cases hr
  cases hg

end Server

end DbusProperties
