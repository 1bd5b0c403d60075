import DbusProperties.Run

/-! # What `InterfacesAdded` tells a client

`register_interface` announces the binding it makes: its `InterfacesAdded` signal carries the
object's path as its first argument, and the interface's name, whatever path the signal itself
comes from (`StaticEndpoints`). `announcement?` reads that pair off a message; `announced` lists
the pairs of the signals sent so far.

No other step binds a name in an object's table, and no step unbinds one or renames an object.
So over every run the pairs announced are exactly the bindings of the objects made
(`interfacesAdded_announces_bindings`). An object made but never registered with the server
counts too, since its constructor registers `Properties` on it.
-/

namespace DbusProperties
set_option autoImplicit false

variable {V : Type}

/-- The object path and interface name an `InterfacesAdded` signal announces. -/
def announcement? (msg : Message V) : Option (String × String) :=
  match msg.body with
  | [.string n, .interfaces [(I, _)]] => if msg.member = "InterfacesAdded" then some (n, I) else none
  | _ => none

theorem announcement?_reply (m : Message V) (r : List (DbusValue V)) :
    announcement? ((Message.newReturn m).pack r) = none := by
  unfold announcement?
  split <;> simp_all [Message.newReturn, Message.pack]

theorem announcement?_interfacesAdded (path n I : String) (props : List (String × V)) :
    announcement? (interfacesAddedSignal path n (I, props)) = some (n, I) := by
  simp [announcement?, interfacesAddedSignal, Message.newSignal, Message.pack]

theorem announcement?_propertiesChanged (path I : String) (updates : List (String × V)) :
    announcement? (propertiesChangedSignal path I updates) = none := by
  simp [announcement?, propertiesChangedSignal, Message.newSignal, Message.pack]

namespace Server

/-- The pairs the `InterfacesAdded` signals sent so far announce, in order. -/
def announced (s : Server V) : List (String × String) := s.sent.filterMap announcement?

/-- An object made so far, with path `n`, binds the interface name `I`. -/
def Binds (s : Server V) (n I : String) : Prop :=
  ∃ o < s.objectHeap.length, (s.object o).objectName = n ∧
    ((s.object o).interfaces.lookup I).isSome

theorem announced_registerInterface (s : Server V) (o r : Nat) :
    (s.registerInterface o r).announced =
      s.announced ++ [((s.object o).objectName, (s.iface r).interfaceName)] := by
  simp only [announced, sent_registerInterface, List.filterMap_append, List.filterMap_cons,
    announcement?_interfacesAdded, List.filterMap_nil]

theorem objectName_registerInterface (s : Server V) (o r o' : Nat) :
    ((s.registerInterface o r).object o').objectName = (s.object o').objectName := by
  rw [object_registerInterface]
  split_ifs with h
  · rw [h.1]
  · rfl

theorem isSome_lookup_registerInterface (s : Server V) {o : Nat} (r : Nat)
    (ho : o < s.objectHeap.length) (o' : Nat) (I : String) :
    (((s.registerInterface o r).object o').interfaces.lookup I).isSome ↔
      (o' = o ∧ I = (s.iface r).interfaceName) ∨ ((s.object o').interfaces.lookup I).isSome := by
  rw [object_registerInterface]
  by_cases h : o' = o
  · subst h
    by_cases hI : I = (s.iface r).interfaceName <;> simp [ho, hI]
  · simp [h]

theorem binds_registerInterface (s : Server V) {o : Nat} (r : Nat) (ho : o < s.objectHeap.length)
    (n I : String) :
    (s.registerInterface o r).Binds n I ↔
      s.Binds n I ∨ (n = (s.object o).objectName ∧ I = (s.iface r).interfaceName) := by
  simp only [Binds, objectHeap_length_registerInterface, objectName_registerInterface,
    isSome_lookup_registerInterface s r ho]
  constructor
  · rintro ⟨o', ho', rfl, ⟨rfl, rfl⟩ | hI⟩
    · exact .inr ⟨rfl, rfl⟩
    · exact .inl ⟨o', ho', rfl, hI⟩
  · rintro (⟨o', ho', rfl, hI⟩ | ⟨rfl, rfl⟩)
    · exact ⟨o', ho', rfl, .inr hI⟩
    · exact ⟨o, ho, rfl, .inl ⟨rfl, rfl⟩⟩

theorem binds_appendObject (s : Server V) {x : DbusObject} (hx : x.interfaces = .empty)
    (n I : String) : ({ s with objectHeap := s.objectHeap ++ [x] } : Server V).Binds n I ↔
      s.Binds n I := by
  simp only [Binds, List.length_append, List.length_singleton, object_appendObject]
  constructor
  · rintro ⟨o, ho, hn, hI⟩
    split_ifs at hn hI with h
    · simp [hx] at hI
    · exact ⟨o, by omega, hn, hI⟩
  · rintro ⟨o, ho, hn, hI⟩
    exact ⟨o, by omega, by rwa [if_neg (Nat.ne_of_lt ho)], by rwa [if_neg (Nat.ne_of_lt ho)]⟩

/-- The `InterfacesAdded` signals sent announce exactly the bindings of the objects made. -/
def AnnouncesBindings (s : Server V) : Prop := ∀ n I, (n, I) ∈ s.announced ↔ s.Binds n I

namespace AnnouncesBindings
variable {s t : Server V}

theorem init : AnnouncesBindings (init : Server V) := fun _ _ =>
  ⟨fun h => absurd h (List.not_mem_nil _), fun ⟨_, h, _⟩ => absurd h (Nat.not_lt_zero _)⟩

theorem of_frame (h : AnnouncesBindings s) (hheap : t.objectHeap = s.objectHeap)
    (hsent : t.announced = s.announced) : AnnouncesBindings t := fun n I => by
  have hobj : ∀ o, t.object o = s.object o := fun o => by simp only [object, hheap]
  rw [hsent, h n I]
  simp only [Binds, hheap, hobj]

theorem send_reply (h : AnnouncesBindings s) (m : Message V) (r : List (DbusValue V)) :
    AnnouncesBindings (s.send ((Message.newReturn m).pack r)) :=
  h.of_frame rfl (by
    simp only [announced, send, List.filterMap_append, List.filterMap_cons, announcement?_reply,
      List.filterMap_nil, List.append_nil])

theorem appendObject (h : AnnouncesBindings s) {x : DbusObject} (hx : x.interfaces = .empty) :
    AnnouncesBindings { s with objectHeap := s.objectHeap ++ [x] } := fun n I =>
  (h n I).trans (binds_appendObject s hx n I).symm

theorem newInterface (h : AnnouncesBindings s) (name : String) :
    AnnouncesBindings (s.newInterface name).1 :=
  h.of_frame rfl rfl

theorem registerInterface (h : AnnouncesBindings s) {o : Nat} (r : Nat)
    (ho : o < s.objectHeap.length) : AnnouncesBindings (s.registerInterface o r) := fun n I => by
  rw [announced_registerInterface, List.mem_append, List.mem_singleton, Prod.mk.injEq, h n I,
    binds_registerInterface s r ho]

theorem registerMethod (h : AnnouncesBindings s) (r : Nat) (method : DbusMethod V) :
    AnnouncesBindings (s.registerMethod r method) :=
  h.of_frame rfl rfl

theorem newObject (h : AnnouncesBindings s) (name : String) :
    AnnouncesBindings (s.newObject name).1 := by
  rw [newObject_eq]
  refine ((registerMethod ?_ _ _).registerMethod _ _).registerMethod _ _
  exact ((h.appendObject rfl).newInterface _).registerInterface _ (by simp)

variable [DecidableEq V]

theorem setProperties (h : AnnouncesBindings s) (r : Nat) (v : List (String × V))
    (mode : UpdateType) : AnnouncesBindings (s.setProperties r v mode) :=
  h.of_frame rfl (by
    simp only [announced, sent_setProperties, List.filterMap_append, List.filterMap_cons,
      announcement?_propertiesChanged, List.filterMap_nil, List.append_nil])

theorem onMethodCall {ec : Nat} {m : Message V} (h : AnnouncesBindings s)
    (hc : s.onMethodCall ec m = .ok t) : AnnouncesBindings t := by
  rcases onMethodCall_ok hc with rfl | ⟨s', r, hs', rfl⟩
  · exact h.of_frame rfl rfl
  · refine (send_reply (s := s') ?_ m r).of_frame rfl rfl
    rcases hs' with rfl | ⟨_, _, r', v, -, rfl⟩
    · exact h
    · exact h.setProperties r' v .valueChangeOnly

variable (sigOf : V → String)

theorem step {op : Op V} (h : AnnouncesBindings s) (hs : Step sigOf s op t) :
    AnnouncesBindings t := by
  obtain ⟨hv, he⟩ := hs
  cases op with
  | newObject name => cases he; exact h.newObject name
  | addObject name => cases he; exact (h.newObject name).of_frame rfl rfl
  | registerObject o => cases he; exact h.of_frame rfl rfl
  | newInterface name => cases he; exact h.newInterface name
  | addInterface o name => cases he; exact (h.newInterface name).registerInterface _ hv
  | registerInterface o r => cases he; exact h.registerInterface r hv.1
  | registerMethod r _ _ _ _ | registerDbusMethod r _ => cases he; exact h.registerMethod r _
  | setProperties r v mode => cases he; exact h.setProperties r v mode
  | introspect m | getManagedObjects m =>
    cases he; split_ifs
    · exact (h.send_reply m _).of_frame rfl rfl
    · exact h
  | methodCall ec m =>
    simp only [exec] at he
    split_ifs at he
    · exact AnnouncesBindings.onMethodCall (s := { s with methodArmed := false })
        (h.of_frame rfl rfl) he
    · cases he; exact h

theorem run {P : Server V → Op V → Prop} {ops : List (Op V)} (hrun : Run sigOf P s ops t)
    (h : AnnouncesBindings s) : AnnouncesBindings t := by
  induction hrun with
  | nil => exact h
  | cons _ hstep _ ih => exact ih (h.step sigOf hstep)

end AnnouncesBindings

variable [DecidableEq V] (sigOf : V → String)

/-- Over every run, a client that reads the object path and interface name off each
`InterfacesAdded` signal learns exactly which interface names the tables of the objects made bind,
by object path: each pair it reads is such a binding, and each binding has been announced. -/
theorem interfacesAdded_announces_bindings {P : Server V → Op V → Prop} {s : Server V}
    {ops : List (Op V)} (hrun : Run sigOf P init ops s) (n I : String) :
    (n, I) ∈ s.sent.filterMap announcement? ↔
      ∃ o < s.objectHeap.length, (s.object o).objectName = n ∧
        ((s.object o).interfaces.lookup I).isSome :=
  AnnouncesBindings.run sigOf hrun AnnouncesBindings.init n I

/-- `/a` with an interface `I`, and `/b`, on which the same interface is registered. -/
theorem interfacesAdded_announces_bindings_shared :
    let s : Server Nat :=
      (((init.addObject "/a").1.addInterface 0 "I").1.addObject "/b").1.registerInterface 1 1
    Run (fun _ => "i") (fun _ _ => True) init
        [.addObject "/a", .addInterface 0 "I", .addObject "/b", .registerInterface 1 1] s ∧
      ∀ n I, (n, I) ∈ s.sent.filterMap announcement? ↔
        ∃ o < s.objectHeap.length, (s.object o).objectName = n ∧
          ((s.object o).interfaces.lookup I).isSome :=
  have hrun : Run (fun _ : Nat => "i") (fun _ _ => True) init
      [.addObject "/a", .addInterface 0 "I", .addObject "/b", .registerInterface 1 1]
      ((((init.addObject "/a").1.addInterface 0 "I").1.addObject "/b").1.registerInterface 1 1) :=
    .cons trivial ⟨trivial, rfl⟩ <| .cons trivial ⟨by decide, rfl⟩ <|
      .cons trivial ⟨trivial, rfl⟩ <| .cons trivial ⟨by decide, rfl⟩ <| .nil _
  ⟨hrun, interfacesAdded_announces_bindings _ hrun⟩

end Server

end DbusProperties
